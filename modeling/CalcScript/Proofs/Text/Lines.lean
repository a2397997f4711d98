import CalcScript.Text.Quoted
import Mathlib.Tactic.SplitIfs

/-!
# Printable text stays on one line

Messages are lines joined by line feeds, and a line feed is not printable: a printable part of a
message does not break its line. Whatever a text holds, its quoted form is printable, for all other
characters are escaped and escapes are spelled in ASCII.
-/
namespace CalcScript.Text

def AllPrintable (cs : List Char) : Prop :=
  ∀ c ∈ cs, isPrintable c = true

-- The members of the text are tried, not the whole finite type of characters.
instance (cs : List Char) : Decidable (AllPrintable cs) :=
  List.decidableBAll (fun c => isPrintable c = true) cs

theorem isPrintable_of_toNat {c : Char} (h : 32 ≤ c.toNat ∧ c.toNat ≤ 126) :
    isPrintable c = true := by
  -- The first range of the table is the printable part of ASCII.
  refine List.any_eq_true.mpr ⟨(32, 126), List.mem_cons_self, ?_⟩
  simp [h]

@[simp] theorem allPrintable_nil : AllPrintable [] := by
  intro c hc
  cases hc

@[simp] theorem allPrintable_cons_iff {c : Char} {cs : List Char} :
    AllPrintable (c :: cs) ↔ isPrintable c = true ∧ AllPrintable cs :=
  List.forall_mem_cons

@[simp] theorem allPrintable_append_iff {cs ds : List Char} :
    AllPrintable (cs ++ ds) ↔ AllPrintable cs ∧ AllPrintable ds :=
  List.forall_mem_append

theorem AllPrintable.append {s t : String} (hs : AllPrintable s.toList)
    (ht : AllPrintable t.toList) : AllPrintable (s ++ t).toList := by
  rw [String.toList_append]
  exact allPrintable_append_iff.mpr ⟨hs, ht⟩

/-! ### Lines -/

theorem splitOn_append_newline (s t : String) :
    (s ++ "\n" ++ t).toList.splitOn '\n' = s.toList.splitOn '\n' ++ t.toList.splitOn '\n' := by
  rw [String.toList_append, String.toList_append, List.append_assoc]
  exact List.splitOn_append_cons_self _ _

theorem AllPrintable.splitOn_newline {cs : List Char} (h : AllPrintable cs) :
    cs.splitOn '\n' = [cs] := by
  apply List.splitOn_eq_singleton
  intro hmem
  have hnewline : isPrintable '\n' = false := by decide +kernel
  exact Bool.false_ne_true (hnewline.symm.trans (h _ hmem))

/-- Only the middle of a message can break into more lines where its first and last line are
printable. -/
theorem splitOn_between_lines {s u : String} (hs : AllPrintable s.toList)
    (hu : AllPrintable u.toList) (t : String) :
    (s ++ "\n" ++ t ++ "\n" ++ u).toList.splitOn '\n' =
      s.toList :: (t.toList.splitOn '\n' ++ [u.toList]) := by
  rw [splitOn_append_newline, splitOn_append_newline, hs.splitOn_newline, hu.splitOn_newline]
  rfl

theorem allPrintable_caret (column : Nat) :
    AllPrintable (String.ofList (List.replicate column ' ' ++ ['^'])).toList := by
  rw [String.toList_ofList]
  refine allPrintable_append_iff.mpr ⟨fun c hc => ?_, by decide +kernel⟩
  rw [List.eq_of_mem_replicate hc]
  exact isPrintable_of_toNat (by decide)

/-! ### Escapes -/

theorem isPrintable_digitChar {n : Nat} (h : n < 16) : isPrintable n.digitChar = true := by
  have hall : ∀ m < 16, 32 ≤ m.digitChar.toNat ∧ m.digitChar.toNat ≤ 126 := by decide
  exact isPrintable_of_toNat (hall n h)

theorem allPrintable_toDigits (n : Nat) : AllPrintable (Nat.toDigits 16 n) := by
  induction n using Nat.strongRecOn with
  | ind n ih =>
    rw [Nat.toDigits_eq_if (by decide)]
    split
    · next hless => simp [isPrintable_digitChar hless]
    · have hless : n / 16 < n := by omega
      simp [isPrintable_digitChar (Nat.mod_lt n (by decide)), ih _ hless]

theorem allPrintable_hexDigits (width n : Nat) : AllPrintable (hexDigits width n) := by
  refine allPrintable_append_iff.mpr ⟨fun c hc => ?_, allPrintable_toDigits n⟩
  rw [List.eq_of_mem_replicate hc]
  exact isPrintable_of_toNat (by decide)

theorem allPrintable_escape {mark : Char} (hmark : isPrintable mark = true) (c : Char) :
    AllPrintable (escape mark c) := by
  have hbackslash : isPrintable '\\' = true := isPrintable_of_toNat (by decide)
  have hletters : AllPrintable ['t', 'n', 'r', 'x', 'u', 'U'] := by decide +kernel
  have hletter {d : Char} (hd : d ∈ ['t', 'n', 'r', 'x', 'u', 'U']) : isPrintable d = true :=
    hletters d hd
  unfold escape
  split_ifs with hself htab hline hreturn hc
  · rw [Bool.or_eq_true, beq_iff_eq, beq_iff_eq] at hself
    rcases hself with rfl | rfl
    · simp [hbackslash, hmark]
    · simp [hbackslash]
  · simp [hbackslash, hletter]
  · simp [hbackslash, hletter]
  · simp [hbackslash, hletter]
  · simp [hc]
  · simp [hbackslash, hletter, allPrintable_hexDigits]
  · simp [hbackslash, hletter, allPrintable_hexDigits]
  · simp [hbackslash, hletter, allPrintable_hexDigits]

theorem allPrintable_quoted (s : String) : AllPrintable (quoted s).toList := by
  have hmark : isPrintable (quoteMark s.toList) = true := by
    unfold quoteMark
    split
    · exact isPrintable_of_toNat (by decide)
    · exact isPrintable_of_toNat (by decide)
  have hescaped : AllPrintable (s.toList.flatMap (escape (quoteMark s.toList))) := by
    intro c hc
    obtain ⟨d, -, hd⟩ := List.mem_flatMap.mp hc
    exact allPrintable_escape hmark d c hd
  rw [quoted, String.toList_ofList]
  simp [hmark, hescaped]

end CalcScript.Text
