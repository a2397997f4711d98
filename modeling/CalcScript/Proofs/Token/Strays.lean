import CalcScript.Journal
import CalcScript.Proofs.Token.Spelling
import CalcScript.Proofs.Token.Visible

/-!
# Stray characters

A lenient scan skips the stray characters and records each of them; a strict scan refuses the first
one. Stray characters stand in gaps only, and a space keeps the lexemes around it apart as well as
they do. With spaces written over its stray characters a text has none left and keeps its tokens, so
a strict scan of it succeeds with what the lenient scan found.
-/
namespace CalcScript
open Text Scan

namespace Scan

/-- The positions of the stray characters, in order. -/
def skipped (code : String) : List Nat :=
  (strays code).map Stray.position

/-- The text with a space in the place of each stray character. -/
def cleared (code : String) : String :=
  String.ofList (code.toList.mapIdx fun i c => if i ∈ skipped code then ' ' else c)

end Scan

def Segment.cleared : Segment → Segment
  | .stray _ => .blank ' '
  | s => s

/-! ### Positions -/

namespace Scan

theorem le_position_of_mem_straysFrom {position : Nat} {segments : List Segment} {s : Stray}
    (h : s ∈ straysFrom position segments) : position ≤ s.position := by
  induction segments generalizing position with
  | nil => cases h
  | cons segment rest ih =>
    cases segment with
    | token t => exact (Nat.le_add_right _ _).trans (ih h)
    | blank c => exact (Nat.le_add_right _ _).trans (ih h)
    | stray c =>
      rcases List.mem_cons.mp h with rfl | h
      · exact Nat.le_refl position
      · exact (Nat.le_add_right _ _).trans (ih h)

theorem exists_getElem?_of_mem_straysFrom {position : Nat} {segments : List Segment} {s : Stray}
    (h : s ∈ straysFrom position segments) :
    ∃ i, s.position = position + i ∧ (segments.flatMap Segment.chars)[i]? = some s.char := by
  induction segments generalizing position with
  | nil => cases h
  | cons segment rest ih =>
    have hrest (h : s ∈ straysFrom (position + segment.chars.length) rest) : ∃ i,
        s.position = position + i ∧
          ((segment :: rest).flatMap Segment.chars)[i]? = some s.char := by
      obtain ⟨i, hi, hget⟩ := ih h
      refine ⟨segment.chars.length + i, by omega, ?_⟩
      rw [List.flatMap_cons, List.getElem?_append_right (Nat.le_add_right _ _),
        Nat.add_sub_cancel_left, hget]
    cases segment with
    | token t => exact hrest h
    | blank c => exact hrest h
    | stray c =>
      rcases List.mem_cons.mp h with rfl | h
      · exact ⟨0, rfl, rfl⟩
      · exact hrest h

theorem getElem?_of_mem_strays {code : String} {s : Stray} (h : s ∈ strays code) :
    code.toList[s.position]? = some s.char := by
  obtain ⟨i, hi, hget⟩ := exists_getElem?_of_mem_straysFrom h
  rw [segments, flatMap_chars_segmentsFrom] at hget
  rwa [hi, Nat.zero_add]

theorem pairwise_position_straysFrom (position : Nat) (segments : List Segment) :
    (straysFrom position segments).Pairwise fun s t => s.position < t.position := by
  induction segments generalizing position with
  | nil => exact .nil
  | cons segment rest ih =>
    cases segment with
    | token t => exact ih _
    | blank c => exact ih _
    | stray c => exact .cons (fun t ht => le_position_of_mem_straysFrom ht) (ih _)

theorem mapIdx_eq_self_of_le {position : Nat} {positions : List Nat} {l : List Char}
    (h : ∀ p ∈ positions, position + l.length ≤ p) :
    (l.mapIdx fun i c => if position + i ∈ positions then ' ' else c) = l := by
  apply List.ext_getElem (by simp)
  intro i hi hl
  have hnot : position + i ∉ positions := by
    intro hmem
    have hle := h _ hmem
    omega
  simp [hnot]

/-- Writing spaces over the characters at the positions of strays clears the segments. -/
theorem mapIdx_flatMap_chars (position : Nat) (segments : List Segment) :
    ((segments.flatMap Segment.chars).mapIdx fun i c =>
        if position + i ∈ (straysFrom position segments).map Stray.position then ' ' else c) =
      (segments.map Segment.cleared).flatMap Segment.chars := by
  induction segments generalizing position with
  | nil => rfl
  | cons segment rest ih =>
    have hrest := ih (position + segment.chars.length)
    have hle : ∀ p ∈ (straysFrom (position + segment.chars.length) rest).map Stray.position,
        position + segment.chars.length ≤ p := by
      intro p hp
      obtain ⟨s, hs, rfl⟩ := List.mem_map.mp hp
      exact le_position_of_mem_straysFrom hs
    simp only [Nat.add_assoc] at hrest
    simp only [List.flatMap_cons, List.map_cons, List.mapIdx_append,
      Nat.add_comm _ segment.chars.length]
    cases segment with
    | token t => exact congrArg₂ _ (mapIdx_eq_self_of_le hle) hrest
    | blank c => exact congrArg₂ _ (mapIdx_eq_self_of_le hle) hrest
    | stray c =>
      rw [← hrest]
      simp [Segment.chars, Segment.cleared, straysFrom]

/-! ### Clearing a decomposition -/

def clearedChar (c : Char) : Char :=
  if isBlank c then c else ' '

theorem isBlank_clearedChar (c : Char) : isBlank (clearedChar c) = true := by
  unfold clearedChar
  split
  · next h => exact h
  · decide

theorem gapSegment_clearedChar (c : Char) :
    gapSegment (clearedChar c) = (gapSegment c).cleared := by
  rw [gapSegment, if_pos (isBlank_clearedChar c), clearedChar, gapSegment]
  split <;> rfl

theorem isGap_map_clearedChar (gap : List Char) : IsGap (gap.map clearedChar) := by
  intro c hc
  obtain ⟨d, -, rfl⟩ := List.mem_map.mp hc
  have hblank := isBlank_clearedChar d
  refine ⟨(separates_of_isBlank hblank).1, fun kind hkind => ?_⟩
  have hnot := TokenKind.isBlank_of_ofSymbol? (mem_symbols_iff.mp hkind)
  exact Bool.false_ne_true (hnot.symm.trans hblank)

end Scan

theorem kindAt_congr {before other : Option Char}
    (h : before.any isWordChar = other.any isWordChar) (l : List Char) :
    kindAt before l = kindAt other l := by
  unfold kindAt
  rw [h]

theorem glued_append_congr {seen other : List Char} (h : glued seen = glued other)
    (l : List Char) : glued (seen ++ l) = glued (other ++ l) := by
  unfold glued at h ⊢
  rw [List.getLast?_append, List.getLast?_append]
  cases l.getLast? with
  | none => exact h
  | some c => rfl

namespace Decomposition

/-- The decomposition with spaces for the stray characters in its gaps. -/
def cleared : Decomposition → Decomposition
  | .last gap => .last (gap.map clearedChar)
  | .piece gap lexeme rest => .piece (gap.map clearedChar) lexeme rest.cleared

/-- A cleared text begins with a blank, or as the text itself does and not with a point. -/
theorem Valid.text_cleared_cases {d : Decomposition} (h : d.Valid) :
    d.cleared.text = [] ∨ ∃ c rest, d.cleared.text = c :: rest ∧ c ≠ '.' ∧
      (isBlank c = true ∨ c ∈ d.text.head?) := by
  have hgap {c : Char} : clearedChar c ≠ '.' :=
    (separates_of_isBlank (isBlank_clearedChar c)).2
  cases d with
  | last gap =>
    cases gap with
    | nil => exact .inl rfl
    | cons c gap => exact .inr ⟨_, _, rfl, hgap, .inl (isBlank_clearedChar c)⟩
  | piece gap lexeme rest =>
    cases gap with
    | nil =>
      obtain ⟨c, tail, rfl, hc⟩ := h.2.1.exists_eq_cons
      exact .inr ⟨c, _, rfl, hc, .inr rfl⟩
    | cons c gap => exact .inr ⟨_, _, rfl, hgap, .inl (isBlank_clearedChar c)⟩

theorem Valid.avoids_text_cleared {d : Decomposition} (h : d.Valid) {p : Char → Bool}
    (hblank : ∀ c, isBlank c = true → p c = false) (htext : Avoids p d.text) :
    Avoids p d.cleared.text := by
  rcases h.text_cleared_cases with hnil | ⟨c, rest, hcons, -, hc⟩
  · rw [hnil]
    exact avoids_nil p
  · rw [hcons, avoids_cons_iff]
    exact hc.elim (hblank c) (htext c)

theorem Valid.lexeme_cleared {d : Decomposition} (h : d.Valid) {l : List Char}
    (hl : Lexeme l d.text) : Lexeme l d.cleared.text := by
  have hword : ∀ c, isBlank c = true → isWordChar c = false :=
    fun c hc => (separates_of_isBlank hc).1
  have hdigit : ∀ c, isBlank c = true → isDigit c = false :=
    fun c hc => (separates_of_isBlank hc).isDigit_eq_false
  generalize htext : d.text = after at hl
  cases hl with
  | word hl hafter => exact .word hl (h.avoids_text_cleared hword (htext ▸ hafter))
  | whole hl hafter hpoint =>
    refine .whole hl (h.avoids_text_cleared hdigit (htext ▸ hafter)) fun rest hrest => ?_
    rcases h.text_cleared_cases with hnil | ⟨c, tail, hcons, hc, -⟩
    · rw [hnil] at hrest
      cases hrest
    · rw [hcons] at hrest
      exact absurd (List.cons.inj hrest).1 hc
  | decimal hl hplaces hafter =>
    exact .decimal hl hplaces (h.avoids_text_cleared hdigit (htext ▸ hafter))
  | symbol hc => exact .symbol hc

theorem Valid.cleared {d : Decomposition} (h : d.Valid) : d.cleared.Valid := by
  induction d with
  | last gap => exact isGap_map_clearedChar gap
  | piece gap lexeme rest ih =>
    obtain ⟨-, hlexeme, hrest⟩ := h
    exact ⟨isGap_map_clearedChar gap, hrest.lexeme_cleared hlexeme, ih hrest⟩

theorem map_gapSegment_clearedChar (gap : List Char) :
    (gap.map clearedChar).map gapSegment = (gap.map gapSegment).map Segment.cleared := by
  rw [List.map_map, List.map_map]
  exact List.map_congr_left fun c _ => gapSegment_clearedChar c

theorem glued_append_clearedChar {seen other gap : List Char} (h : glued seen = glued other)
    (hgap : IsGap gap) : glued (seen ++ gap.map clearedChar) = glued (other ++ gap) := by
  by_cases hempty : gap = []
  · subst hempty
    exact glued_append_congr h []
  · rw [glued_append_gap hempty hgap,
      glued_append_gap (by simpa using hempty) (isGap_map_clearedChar gap)]

/-- Clearing a decomposition clears its segments and keeps its tokens. -/
theorem Valid.segmentsAfter_cleared {d : Decomposition} (h : d.Valid) {seen other : List Char}
    (hglued : glued seen = glued other) :
    d.cleared.segmentsAfter seen = (d.segmentsAfter other).map Segment.cleared := by
  induction d generalizing seen other with
  | last gap => exact map_gapSegment_clearedChar gap
  | piece gap lexeme rest ih =>
    obtain ⟨hgap, -, hrest⟩ := h
    have hbefore := glued_append_clearedChar hglued hgap
    have hkind := kindAt_congr hbefore lexeme
    have hafter := glued_append_congr hbefore lexeme
    rw [Decomposition.cleared, segmentsAfter, segmentsAfter, List.map_append, List.map_cons,
      map_gapSegment_clearedChar, hkind, ih hrest hafter]
    rfl

end Decomposition

/-! ### Scanning a cleared text -/

namespace Scan

theorem segments_cleared (code : String) :
    segments (cleared code) = (segments code).map Segment.cleared := by
  obtain ⟨d, hd⟩ := Decomposition.exists_decomposes code.toList
  have hscan : segmentsFrom false d.cleared.text = (segments code).map Segment.cleared := by
    rw [hd.segments_eq, ← hd.2.segmentsAfter_cleared rfl]
    exact Decomposition.segmentsFrom_text hd.2.cleared []
  have hchars : (cleared code).toList = d.cleared.text := by
    calc (cleared code).toList
        = ((segments code).flatMap Segment.chars).mapIdx
            fun i c => if i ∈ skipped code then ' ' else c := by
          rw [cleared, String.toList_ofList, segments, flatMap_chars_segmentsFrom]
      _ = ((segments code).map Segment.cleared).flatMap Segment.chars := by
          simpa [skipped, strays] using mapIdx_flatMap_chars 0 (segments code)
      _ = d.cleared.text := by rw [← hscan, flatMap_chars_segmentsFrom]
  rw [segments, hchars, hscan]

theorem strays_cleared (code : String) : strays (cleared code) = [] := by
  rw [strays, segments_cleared, straysFrom_eq_nil_iff]
  intro s hs c
  obtain ⟨segment, -, rfl⟩ := List.mem_map.mp hs
  cases segment <;> simp [Segment.cleared]

theorem scan_cleared (code : String) : Token.scan (cleared code) = Token.scan code := by
  have htoken : Segment.token? ∘ Segment.cleared = Segment.token? := by
    funext s
    cases s <;> rfl
  rw [Token.scan_eq_segments, Token.scan_eq_segments, segments_cleared, List.filterMap_map, htoken]

end Scan

/-! ### The journal -/

namespace Journal

def skipping (c : Char) (position : Nat) : JournalRecord :=
  ⟨.scanner, "Skipping unrecognized character " ++ quoted (String.singleton c) ++ " at index " ++
    toString position⟩

/-- A lenient scan records each stray character, a strict one nothing. -/
theorem scan_eq (strict : Bool) (code : String) :
    scan strict code =
      if strict then [] else (strays code).map fun s => skipping s.char s.position := by
  cases strict with
  | true => rw [scan, outcome, loop_eq_outcomeFrom, (outcomeFrom_strict 0 _).1]; rfl
  | false => rw [scan, outcome, loop_eq_outcomeFrom, outcomeFrom_lenient]; rfl

theorem eq_of_append_toString_eq {m n : Nat} {x y : List Char}
    (h : x ++ ' ' :: (toString m).toList = y ++ ' ' :: (toString n).toList) : m = n := by
  have hdigits (x : List Char) (n : Nat) :
      (x ++ ' ' :: (toString n).toList).reverse.takeWhile isDigit =
        (Nat.toDigits 10 n).reverse := by
    have hspace : Avoids isDigit (' ' :: x.reverse) := avoids_cons_iff.mpr (by decide)
    have hall : ∀ c ∈ (Nat.toDigits 10 n).reverse, isDigit c = true := fun c hc =>
      Nat.isDigit_of_mem_toDigits (by decide) (by decide) (List.mem_reverse.mp hc)
    rw [Nat.toString_eq_repr, Nat.toList_repr]
    simpa using hspace.takeWhile_append hall
  have hsame : Nat.toDigits 10 m = Nat.toDigits 10 n := by
    rw [← List.reverse_inj, ← hdigits x m, ← hdigits y n, h]
  have hread := congrArg (fun digits => Nat.ofDigitChars 10 digits 0) hsame
  simpa only [Nat.ofDigitChars_ten_toDigits] using hread

theorem position_eq_of_skipping_eq {c d : Char} {m n : Nat} (h : skipping c m = skipping d n) :
    m = n := by
  have hmessage := congrArg String.toList (JournalRecord.mk.inj h).2
  refine eq_of_append_toString_eq
    (x := ("Skipping unrecognized character " ++ quoted (String.singleton c) ++ " at index").toList)
    (y := ("Skipping unrecognized character " ++ quoted (String.singleton d) ++ " at index").toList)
    ?_
  simpa using hmessage

/-- The records of a lenient scan name the skipped positions. -/
theorem mem_skipped_iff {code : String} {position : Nat} :
    position ∈ skipped code ↔ ∃ c, skipping c position ∈ scan false code := by
  rw [scan_eq]
  constructor
  · intro h
    obtain ⟨s, hs, rfl⟩ := List.mem_map.mp h
    exact ⟨s.char, List.mem_map_of_mem hs⟩
  · rintro ⟨c, hc⟩
    obtain ⟨s, hs, heq⟩ := List.mem_map.mp hc
    rw [← position_eq_of_skipping_eq heq]
    exact List.mem_map_of_mem hs

end Journal

/-! ### Strict and lenient scans -/

namespace Token
variable {code : String} {e : Scan.Error}

theorem scanStrict_eq_error_iff :
    scanStrict code = .error e ↔ (strays code).head? = some e.stray ∧ code = e.code := by
  rw [scanStrict_eq]
  cases strays code with
  | nil => simp
  | cons s rest =>
    constructor
    · rintro ⟨⟩
      exact ⟨rfl, rfl⟩
    · rintro ⟨⟨⟩, rfl⟩
      rfl

theorem exists_scanStrict_eq_error_iff :
    (∃ e, scanStrict code = .error e) ↔ strays code ≠ [] := by
  constructor
  · rintro ⟨e, he⟩ hnil
    rw [scanStrict_eq_ok_iff_strays.mpr ⟨hnil, rfl⟩] at he
    cases he
  · intro hne
    obtain ⟨s, rest, hcons⟩ := List.exists_cons_of_ne_nil hne
    exact ⟨⟨code, s⟩, scanStrict_eq_error_iff.mpr ⟨by rw [hcons]; rfl, rfl⟩⟩

theorem le_position_of_scanStrict (h : scanStrict code = .error e) {s : Stray}
    (hs : s ∈ strays code) : e.stray.position ≤ s.position := by
  obtain ⟨rest, hcons⟩ := List.head?_eq_some_iff.mp (scanStrict_eq_error_iff.mp h).1
  have hsorted := pairwise_position_straysFrom 0 (segments code)
  rw [← strays, hcons] at hsorted
  rw [hcons] at hs
  rcases List.mem_cons.mp hs with rfl | hs
  · exact Nat.le_refl _
  · exact (List.rel_of_pairwise_cons hsorted hs).le

end Token

/-- Strict and lenient scans agree. A strict scan is refused exactly where the records of the
lenient scan name skipped positions, and at the least of these; otherwise both find the same tokens.
With spaces in the place of the skipped characters a strict scan finds what the lenient one finds in
the text as it is. -/
theorem scanStrict_agrees_with_scan (code : String) :
    (∀ position, position ∈ skipped code ↔
      ∃ c, Journal.skipping c position ∈ Journal.scan false code) ∧
    ((∃ e, Token.scanStrict code = .error e) ↔ skipped code ≠ []) ∧
    (∀ e, Token.scanStrict code = .error e → e.stray.position ∈ skipped code ∧
      ∀ position ∈ skipped code, e.stray.position ≤ position) ∧
    (skipped code = [] → Token.scanStrict code = .ok (Token.scan code)) ∧
    Token.scanStrict (cleared code) = .ok (Token.scan code) := by
  have hskipped : skipped code = [] ↔ strays code = [] := List.map_eq_nil_iff
  refine ⟨fun position => Journal.mem_skipped_iff, ?_, ?_, ?_, ?_⟩
  · rw [Ne, hskipped]
    exact Token.exists_scanStrict_eq_error_iff
  · intro e he
    have hhead := (Token.scanStrict_eq_error_iff.mp he).1
    refine ⟨List.mem_map_of_mem (List.mem_of_head? hhead), fun position hposition => ?_⟩
    obtain ⟨s, hs, rfl⟩ := List.mem_map.mp hposition
    exact Token.le_position_of_scanStrict he hs
  · intro hnil
    exact Token.scanStrict_eq_ok_iff_strays.mpr ⟨hskipped.mp hnil, rfl⟩
  · exact Token.scanStrict_eq_ok_iff_strays.mpr ⟨strays_cleared code, scan_cleared code⟩

/-- A dot with no digit behind it, a second dot and a character that is no symbol are skipped; a
strict scan is refused at the first of them. -/
theorem scanStrict_agrees_with_scan_dots :
    let code := "5.x 1.2.3$"
    skipped code = [1, 7, 9] ∧
      (∃ e, Token.scanStrict code = .error e ∧ e.stray.position = 1) ∧
      Token.scanStrict "5 x 1.2 3 " = .ok (Token.scan code) := by
  intro code
  have hskipped : skipped code = [1, 7, 9] := by decide +kernel
  have hcleared : cleared code = "5 x 1.2 3 " := by decide +kernel
  obtain ⟨-, hrefused, hleast, -, hagree⟩ := scanStrict_agrees_with_scan code
  rw [hskipped] at hrefused hleast
  rw [hcleared] at hagree
  obtain ⟨e, he⟩ := hrefused.mpr (List.cons_ne_nil _ _)
  obtain ⟨hmem, hle⟩ := hleast e he
  have hfirst := hle 1 List.mem_cons_self
  simp only [List.mem_cons, List.not_mem_nil, or_false] at hmem
  exact ⟨hskipped, ⟨e, he, by omega⟩, hagree⟩

end CalcScript
