import CalcScript.Text.CharClass
import CalcScript.Text.Lowercase
import CalcScript.Proofs.Span
import Mathlib.Data.List.DropRight

/-!
# Blanks at the ends of a text

Stripping gives a text that neither begins nor ends with a blank, and leaves such a text as it is.
Lower-casing turns blanks into blanks and other characters into others, so a text in lower case has
blanks at its ends exactly where the text has them. Hence a stripped text is never the same, in
lower case, as a text with a blank at one of its ends.
-/
namespace CalcScript.Text

def Unpadded (cs : List Char) : Prop :=
  (∀ c ∈ cs.head?, isBlank c = false) ∧ ∀ c ∈ cs.getLast?, isBlank c = false

theorem unpadded_iff {cs : List Char} :
    Unpadded cs ↔ cs.head?.map isBlank ≠ some true ∧ cs.getLast?.map isBlank ≠ some true := by
  cases hhead : cs.head? <;> cases hlast : cs.getLast? <;> simp [Unpadded, hhead, hlast]

/-! ### Stripping -/

theorem strip_eq_rdropWhile (cs : List Char) :
    strip cs = (cs.dropWhile isBlank).rdropWhile isBlank := rfl

theorem unpadded_strip (cs : List Char) : Unpadded (strip cs) := by
  rw [strip_eq_rdropWhile]
  constructor
  · intro c hc
    apply avoids_dropWhile isBlank cs
    obtain ⟨rest, hrest⟩ := List.rdropWhile_prefix isBlank (cs.dropWhile isBlank)
    rw [← hrest, List.head?_append, Option.mem_def.mp hc]
    rfl
  · intro c hc
    rw [List.rdropWhile, List.getLast?_reverse] at hc
    exact avoids_dropWhile isBlank _ c hc

theorem strip_eq_self_iff {cs : List Char} : strip cs = cs ↔ Unpadded cs := by
  constructor
  · intro h
    rw [← h]
    exact unpadded_strip cs
  · rintro ⟨hhead, hlast⟩
    have hdrop {l : List Char} (h : Avoids isBlank l) : l.dropWhile isBlank = l := by
      simpa using h.dropWhile_append (l := []) (by simp)
    rw [← List.head?_reverse] at hlast
    rw [strip, hdrop hhead, hdrop hlast, List.reverse_reverse]

/-! ### Lower case -/

def blankRanges : List (Nat × Nat) :=
  [(9, 13), (28, 32), (0x85, 0x85), (0xA0, 0xA0), (0x1680, 0x1680), (0x2000, 0x200A),
    (0x2028, 0x2029), (0x202F, 0x202F), (0x205F, 0x205F), (0x3000, 0x3000)]

theorem isBlank_eq_true_iff {c : Char} :
    isBlank c = true ↔ ∃ range ∈ blankRanges, range.1 ≤ c.toNat ∧ c.toNat ≤ range.2 := by
  simp only [isBlank, blankRanges, Bool.or_eq_true, Bool.and_eq_true, decide_eq_true_eq,
    beq_iff_eq, List.mem_cons, List.not_mem_nil, or_false, exists_eq_or_imp, exists_eq_left]
  omega

/-- No capital letter is a blank, and none becomes one. -/
theorem capitalRuns_apart_blankRanges :
    ∀ run ∈ capitalRuns, ∀ range ∈ blankRanges,
      (run.last < range.1 ∨ range.2 < run.first) ∧
        (run.last + run.shift < range.1 ∨ range.2 < run.first + run.shift) := by
  decide +kernel

theorem toNat_ofNat_cases (n : Nat) : (Char.ofNat n).toNat = n ∨ (Char.ofNat n).toNat = 0 := by
  by_cases h : n.isValidChar
  · left
    rw [Char.ofNat, dif_pos h]
    rfl
  · right
    rw [Char.ofNat, dif_neg h]
    rfl

theorem isBlank_of_covers {run : CaseRun} (hrun : run ∈ capitalRuns) {c : Char}
    (hc : run.covers c.toNat = true) :
    isBlank c = false ∧ isBlank (Char.ofNat (c.toNat + run.shift).toNat) = false := by
  simp only [CaseRun.covers, Bool.and_eq_true, decide_eq_true_eq] at hc
  have hpositive : ∀ range ∈ blankRanges, 0 < range.1 := by decide
  constructor
  · rw [Bool.eq_false_iff, Ne, isBlank_eq_true_iff]
    rintro ⟨range, hrange, hblank⟩
    have hapart := (capitalRuns_apart_blankRanges run hrun range hrange).1
    omega
  · rw [Bool.eq_false_iff, Ne, isBlank_eq_true_iff]
    rintro ⟨range, hrange, hblank⟩
    have hapart := (capitalRuns_apart_blankRanges run hrun range hrange).2
    have hstart := hpositive range hrange
    have hvalue := toNat_ofNat_cases (c.toNat + run.shift).toNat
    omega

/-- A character keeps in lower case what it is of the two, a blank or not. -/
theorem isBlank_of_mem_lowerChar {c d : Char} (h : d ∈ lowerChar c) : isBlank d = isBlank c := by
  unfold lowerChar at h
  by_cases hdotted : c.toNat = 0x130
  · have hc : isBlank c = false := by simp [isBlank, hdotted]
    rw [if_pos (by simpa using hdotted)] at h
    rw [hc]
    simp only [List.mem_cons, List.not_mem_nil, or_false] at h
    rcases h with rfl | rfl <;> decide
  · rw [if_neg (by simpa using hdotted)] at h
    cases hrun : capitalRuns.find? (·.covers c.toNat) with
    | none =>
      rw [hrun] at h
      rw [List.mem_singleton.mp h]
    | some run =>
      rw [hrun] at h
      have hcovers : run.covers c.toNat = true := by simpa using List.find?_some hrun
      have hblank := isBlank_of_covers (List.mem_of_find?_eq_some hrun) hcovers
      rw [List.mem_singleton.mp h, hblank.1, hblank.2]

theorem lowerChar_ne_nil (c : Char) : lowerChar c ≠ [] := by
  unfold lowerChar
  split
  · simp
  · split <;> simp

theorem lowerAfter_cons_cases (before : List Char) (c : Char) (rest : List Char) :
    ∃ form, form ≠ [] ∧ (∀ d ∈ form, isBlank d = isBlank c) ∧
      lowerAfter before (c :: rest) = form ++ lowerAfter (c :: before) rest := by
  rw [lowerAfter]
  by_cases hsigma : c = 'Σ'
  · subst hsigma
    have hfinal : isBlank 'ς' = isBlank 'Σ' := by decide
    have hinner : isBlank 'σ' = isBlank 'Σ' := by decide
    by_cases hword : (meetsCased before && !meetsCased rest) = true
    · exact ⟨['ς'], by simp, by simpa using hfinal, by simp [hword]⟩
    · exact ⟨['σ'], by simp, by simpa using hinner, by simp [hword]⟩
  · refine ⟨lowerChar c, lowerChar_ne_nil c, fun d hd => isBlank_of_mem_lowerChar hd, ?_⟩
    simp [hsigma]

theorem map_isBlank_head?_lowercase (cs : List Char) :
    (lowercase cs).head?.map isBlank = cs.head?.map isBlank := by
  cases cs with
  | nil => rfl
  | cons c rest =>
    obtain ⟨form, hne, hblank, hform⟩ := lowerAfter_cons_cases [] c rest
    obtain ⟨d, tail, rfl⟩ := List.exists_cons_of_ne_nil hne
    rw [lowercase, hform]
    exact congrArg some (hblank d List.mem_cons_self)

theorem map_isBlank_getLast?_lowerAfter (before cs : List Char) :
    (lowerAfter before cs).getLast?.map isBlank = cs.getLast?.map isBlank := by
  induction cs generalizing before with
  | nil => rfl
  | cons c rest ih =>
    obtain ⟨form, hne, hblank, hform⟩ := lowerAfter_cons_cases before c rest
    have hrest := ih (c :: before)
    rw [hform, List.getLast?_append, List.getLast?_cons]
    cases hlast : rest.getLast? with
    | none =>
      have hlower : (lowerAfter (c :: before) rest).getLast? = none := by
        simpa [hlast] using hrest
      rw [hlower, List.getLast?_eq_some_getLast hne]
      exact congrArg some (hblank _ (List.getLast_mem hne))
    | some d =>
      rw [hlast] at hrest
      cases hlower : (lowerAfter (c :: before) rest).getLast? with
      | none => simp [hlower] at hrest
      | some e => simpa [hlower] using hrest

theorem unpadded_lowercase_iff {cs : List Char} : Unpadded (lowercase cs) ↔ Unpadded cs := by
  rw [unpadded_iff, unpadded_iff, map_isBlank_head?_lowercase, lowercase,
    map_isBlank_getLast?_lowerAfter]

/-- A text that is the same in lower case as a stripped one has no blanks at its ends. -/
theorem strip_eq_self_of_lowercase_eq {cs ds : List Char}
    (h : lowercase (strip cs) = lowercase ds) : strip ds = ds := by
  rw [strip_eq_self_iff, ← unpadded_lowercase_iff, ← h, unpadded_lowercase_iff]
  exact unpadded_strip cs

end CalcScript.Text
