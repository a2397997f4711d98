import CalcScript.Proofs.Text.Lines
import CalcScript.Proofs.Token.Strays

/-!
# The caret below a stray character

An excerpt writes the text around a position as it is, line feeds included, and counts the caret's
column from the start of the excerpt. The line above the caret is what stands behind the last line
feed of the excerpt, so the caret is below the stray character exactly where the excerpt has no line
feed. To tell equal characters apart, the shown characters carry their positions in the source.
-/
namespace CalcScript
open Text Scan

/-! ### Cutting into lines -/

section Lines
variable {α β : Type} {p : α → Bool} {l : List α}

theorem map_splitOnP_comp (f : α → β) (p : β → Bool) (l : List α) :
    (l.splitOnP (p ∘ f)).map (List.map f) = (l.map f).splitOnP p := by
  induction l with
  | nil => rfl
  | cons a l ih =>
    rw [List.map_cons, List.splitOnP_cons_eq_if_modifyHead, List.splitOnP_cons_eq_if_modifyHead,
      ← ih]
    by_cases ha : p (f a) = true
    · simp [ha]
    · cases hcut : l.splitOnP (p ∘ f) <;> simp [ha]

theorem exists_eq_append_last (h : ∃ a ∈ l, p a = true) :
    ∃ before a last, l = before ++ a :: last ∧ p a = true ∧ ∀ b ∈ last, p b = false := by
  induction l with
  | nil => simp at h
  | cons a l ih =>
    by_cases hl : ∃ b ∈ l, p b = true
    · obtain ⟨before, b, last, rfl, hb, hlast⟩ := ih hl
      exact ⟨a :: before, b, last, rfl, hb, hlast⟩
    · have hlast : ∀ b ∈ l, p b = false := by simpa using hl
      obtain ⟨b, hb, hpb⟩ := h
      rcases List.mem_cons.mp hb with rfl | hb
      · exact ⟨[], b, l, rfl, hpb, hlast⟩
      · exact absurd ⟨b, hb, hpb⟩ hl

theorem getElem?_append_eq_some_iff {l m : List α} {k : Nat} {a : α} :
    (l ++ m)[k]? = some a ↔ l[k]? = some a ∨ l.length ≤ k ∧ m[k - l.length]? = some a := by
  by_cases hk : k < l.length
  · simp [List.getElem?_append_left hk, hk]
  · rw [Nat.not_lt] at hk
    simp [List.getElem?_append_right hk, hk]

theorem getLast?_splitOnP {before last : List α} {a : α} (ha : p a = true)
    (hlast : ∀ b ∈ last, p b = false) :
    ((before ++ a :: last).splitOnP p).getLast? = some last := by
  rw [List.splitOnP_append_cons before last ha, List.splitOnP_eq_singleton hlast]
  simp

end Lines

namespace Excerpt

/-- The dots on one side of an excerpt, which show no position of the source. -/
def dots (left : Bool) : List (Char × Option Nat) :=
  if left then [('.', none), ('.', none), ('.', none)] else []

/-- The characters of an excerpt, each with the position of the source that it shows. -/
def shown (source : List Char) (position : Nat) : List (Char × Option Nat) :=
  dots (10 < position) ++
    (((source.zipIdx.take (position + 10)).drop (position - 10)).map fun p => (p.1, some p.2)) ++
    dots (position + 10 < source.length)

def columnOf (position : Nat) : Nat :=
  (if 10 < position then 3 else 0) + (position - (position - 10))

def shownLines (source : List Char) (position : Nat) : List (List (Char × Option Nat)) :=
  (shown source position).splitOnP ((· == '\n') ∘ Prod.fst)

variable (reason code : String) (position : Nat)

theorem start_eq : start ⟨reason, code, position⟩ = (position - 10 : Nat) := by
  unfold start reach
  dsimp only
  omega

theorem stop_eq : stop ⟨reason, code, position⟩ = (min code.length (position + 10) : Nat) := by
  unfold stop reach
  dsimp only
  omega

theorem toNat_column : (column ⟨reason, code, position⟩).toNat = columnOf position := by
  rw [column, start_eq, columnOf]
  dsimp only
  split_ifs <;> omega

theorem slice_eq (cs : List Char) :
    slice cs (position - 10 : Nat) (min cs.length (position + 10) : Nat) =
      (cs.take (position + 10)).drop (position - 10) := by
  have hstart : place cs.length (position - 10 : Nat) = position - 10 := by
    unfold place
    split <;> omega
  have hstop : place cs.length (min cs.length (position + 10) : Nat) =
      min (position + 10) cs.length := by
    unfold place
    split <;> omega
  rw [slice, hstart, hstop, ← List.take_eq_take_min]

theorem map_fst_middle (source : List Char) (start stop : Nat) :
    (((source.zipIdx.take stop).drop start).map fun p => (p.1, some p.2)).map Prod.fst =
      (source.take stop).drop start := by
  rw [List.map_map, List.map_drop, List.map_take]
  exact congrArg (fun l => (l.take stop).drop start) (List.zipIdx_map_fst 0 source)

theorem map_fst_shown :
    (shown code.toList position).map Prod.fst = (window ⟨reason, code, position⟩).toList := by
  have hslice := slice_eq position code.toList
  rw [String.length_toList] at hslice
  have hbefore : (0 : Int) < (position - 10 : Nat) ↔ 10 < position := by omega
  have hafter : ((min code.length (position + 10) : Nat) : Int) < code.length ↔
      position + 10 < code.length := by omega
  have hdots (left : Prop) [Decidable left] :
      (dots (decide left)).map Prod.fst = (if left then "..." else "").toList := by
    by_cases h : left <;> simp [dots, h]
  rw [window, start_eq, stop_eq, hslice]
  simp only [hbefore, hafter, shown, List.map_append, map_fst_middle, hdots, String.toList_append,
    String.toList_ofList, String.length_toList]

/-! ### Where a position is shown -/

variable {position} {source : List Char} {c : Char}

theorem getElem?_middle (start stop k : Nat) :
    (((source.zipIdx.take stop).drop start).map fun p => (p.1, some p.2))[k]? =
      if start + k < stop then source[start + k]?.map fun c => (c, some (start + k)) else none := by
  rw [List.getElem?_map, List.getElem?_drop, List.getElem?_take]
  split
  · rw [List.getElem?_zipIdx, Option.map_map, Nat.zero_add]
    rfl
  · rfl

theorem getElem?_dots_ne (left : Bool) (k : Nat) : (dots left)[k]? ≠ some (c, some position) := by
  intro h
  have hmem := List.mem_of_getElem? h
  cases left <;> simp [dots] at hmem

/-- An excerpt shows its position in the caret's column and nowhere else. -/
theorem getElem?_shown_iff {k : Nat} :
    (shown source position)[k]? = some (c, some position) ↔
      k = columnOf position ∧ source[position]? = some c := by
  have hlength : (dots (10 < position)).length = if 10 < position then 3 else 0 := by
    by_cases h : 10 < position <;> simp [dots, h]
  rw [shown, columnOf, List.append_assoc, getElem?_append_eq_some_iff,
    getElem?_append_eq_some_iff, getElem?_middle, hlength]
  simp only [getElem?_dots_ne, false_or, and_false, or_false]
  generalize (if 10 < position then 3 else 0) = left
  constructor
  · rintro ⟨hle, h⟩
    split at h
    · obtain ⟨d, hd, heq⟩ := Option.map_eq_some_iff.mp h
      obtain ⟨rfl, hposition⟩ := Prod.mk.inj heq
      rw [Option.some.injEq] at hposition
      rw [hposition] at hd
      exact ⟨by omega, hd⟩
    · cases h
  · rintro ⟨rfl, h⟩
    have hposition : position - 10 + (left + (position - (position - 10)) - left) = position := by
      omega
    refine ⟨Nat.le_add_right _ _, ?_⟩
    rw [hposition, if_pos (by omega), h]
    rfl

/-! ### The line above the caret -/

/-- The last line of the excerpt shows the position in the given column. -/
def PointsAt (source : List Char) (position column : Nat) : Prop :=
  ∃ last ∈ (shownLines source position).getLast?, ∃ c ∈ source[position]?,
    last[column]? = some (c, some position)

theorem exists_newline_shown_iff :
    (∃ p ∈ shown source position, (p.1 == '\n') = true) ↔
      '\n' ∈ (source.take (position + 10)).drop (position - 10) := by
  have hdots (left : Bool) : '\n' ∉ (dots left).map Prod.fst := by
    cases left <;> decide
  have hmap : (∃ p ∈ shown source position, (p.1 == '\n') = true) ↔
      '\n' ∈ (shown source position).map Prod.fst := by
    simp only [List.mem_map, beq_iff_eq]
  rw [hmap, shown]
  simp only [List.map_append, map_fst_middle, List.mem_append, hdots, false_or, or_false]

/-- The caret is below the position exactly where the text around it is on one line. -/
theorem pointsAt_iff (h : source[position]? = some c) :
    PointsAt source position (columnOf position) ↔
      '\n' ∉ (source.take (position + 10)).drop (position - 10) := by
  rw [← exists_newline_shown_iff]
  constructor
  · rintro ⟨line, hline, d, hd, hcolumn⟩ hnewline
    obtain ⟨before, newline, last, hshown, hbreak, hlast⟩ := exists_eq_append_last hnewline
    have hcut : ((before ++ newline :: last).splitOnP ((· == '\n') ∘ Prod.fst)).getLast? =
        some last := getLast?_splitOnP hbreak hlast
    rw [shownLines, hshown, hcut, Option.mem_some_iff] at hline
    subst hline
    -- Behind a line feed the position would be shown a second time, further on.
    have hagain : (shown source position)[before.length + 1 + columnOf position]? =
        some (d, some position) := by
      rw [hshown, List.append_cons, List.getElem?_append_right (by simp)]
      simpa using hcolumn
    have hplace := (getElem?_shown_iff.mp hagain).1
    omega
  · intro hnone
    have hone : shownLines source position = [shown source position] := by
      apply List.splitOnP_eq_singleton
      intro p hp
      rw [Function.comp_apply, Bool.eq_false_iff]
      exact fun hnewline => hnone ⟨p, hp, hnewline⟩
    refine ⟨shown source position, by rw [hone]; rfl, c, h, ?_⟩
    exact getElem?_shown_iff.mpr ⟨rfl, h⟩

theorem splitOn_window (reason code : String) (position : Nat) :
    (window ⟨reason, code, position⟩).toList.splitOn '\n' =
      (shownLines code.toList position).map (List.map Prod.fst) := by
  rw [← map_fst_shown, List.splitOn_eq_splitOnP, shownLines, map_splitOnP_comp]

theorem splitOn_text {reason : String} (h : AllPrintable reason.toList) (code : String)
    (position : Nat) :
    (text ⟨reason, code, position⟩).toList.splitOn '\n' =
      ("[Tokenizer error] " ++ reason).toList ::
        ((shownLines code.toList position).map (List.map Prod.fst) ++
          [List.replicate (columnOf position) ' ' ++ ['^']]) := by
  have hfirst : AllPrintable ("[Tokenizer error] " ++ reason).toList :=
    .append (by decide +kernel) h
  have hcaret : (caretLine (column ⟨reason, code, position⟩)).toList =
      List.replicate (columnOf position) ' ' ++ ['^'] := by
    rw [caretLine, String.toList_ofList, toNat_column]
  calc (text ⟨reason, code, position⟩).toList.splitOn '\n'
      = ("[Tokenizer error] " ++ reason).toList ::
          ((window ⟨reason, code, position⟩).toList.splitOn '\n' ++
            [(caretLine (column ⟨reason, code, position⟩)).toList]) :=
        splitOn_between_lines hfirst (allPrintable_caret _) _
    _ = _ := by rw [splitOn_window, hcaret]

end Excerpt

theorem Scan.Error.allPrintable_reason (e : Scan.Error) : AllPrintable e.reason.toList :=
  .append (by decide +kernel) (allPrintable_quoted _)

/-- The message of a refused scan ends with spaces and a caret. The line above shows the stray
character in the caret's column, at its position in the source, exactly where there is no line feed
among the ten characters before it and the nine after it. -/
theorem message_caret_below_stray_iff {code : String} {e : Scan.Error}
    (h : Token.scanStrict code = .error e) :
    ∃ column : Nat,
      e.message.toList.splitOn '\n' = ("[Tokenizer error] " ++ e.reason).toList ::
        ((Excerpt.shownLines code.toList e.stray.position).map (List.map Prod.fst) ++
          [List.replicate column ' ' ++ ['^']]) ∧
      code.toList[e.stray.position]? = some e.stray.char ∧
      (Excerpt.PointsAt code.toList e.stray.position column ↔
        '\n' ∉ (code.toList.take (e.stray.position + 10)).drop (e.stray.position - 10)) := by
  obtain ⟨hhead, rfl⟩ := Token.scanStrict_eq_error_iff.mp h
  have hchar := getElem?_of_mem_strays (List.mem_of_head? hhead)
  exact ⟨_, Excerpt.splitOn_text e.allPrintable_reason e.code e.stray.position, hchar,
    Excerpt.pointsAt_iff hchar⟩

/-- A line feed further away does no harm. -/
theorem message_caret_below_stray_far :
    let code := "y = 1;\nx = 12 + 34 + 56 # 7"
    ∃ e, Token.scanStrict code = .error e ∧ e.stray = ⟨'#', 24⟩ ∧ ∃ column : Nat,
      e.message.toList.splitOn '\n' = ("[Tokenizer error] " ++ e.reason).toList ::
        ((Excerpt.shownLines code.toList 24).map (List.map Prod.fst) ++
          [List.replicate column ' ' ++ ['^']]) ∧
      Excerpt.PointsAt code.toList 24 column := by
  intro code
  have h : Token.scanStrict code = .error ⟨code, ⟨'#', 24⟩⟩ := by decide +kernel
  obtain ⟨column, hlines, -, hiff⟩ := message_caret_below_stray_iff h
  exact ⟨_, h, rfl, column, hlines, hiff.mpr (by decide +kernel)⟩

/-- In the line after a line feed the caret misses the stray character: its column counts the
characters before the line feed, too. -/
theorem caret_misses_stray_after_newline :
    ∃ e, Token.scanStrict "x = 1\n$" = .error e ∧
      ¬ ∃ (before : List (List Char)) (above : List Char) (column : Nat),
        e.message.toList.splitOn '\n' = before ++ [above, List.replicate column ' ' ++ ['^']] ∧
          above[column]? = some e.stray.char := by
  refine ⟨⟨"x = 1\n$", ⟨'$', 6⟩⟩, by decide +kernel, ?_⟩
  rintro ⟨before, above, column, hcut, hchar⟩
  have hlines : (Scan.Error.mk "x = 1\n$" ⟨'$', 6⟩).message.toList.splitOn '\n' =
      ["[Tokenizer error] Unexpected character: '$'".toList, "x = 1".toList] ++
        ["$".toList, "      ^".toList] := by
    decide +kernel
  rw [hlines] at hcut
  obtain ⟨-, hlast⟩ := List.append_inj' hcut rfl
  obtain ⟨habove, hcaret⟩ := List.cons.inj hlast
  have hcolumn : column = 6 := by
    simpa using congrArg List.length (List.cons.inj hcaret).1
  rw [← habove, hcolumn] at hchar
  cases hchar

end CalcScript
