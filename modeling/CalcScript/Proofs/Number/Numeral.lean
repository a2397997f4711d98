import CalcScript.Number.Numeral
import CalcScript.Proofs.Token.Spelling

/-!
# Numerals of the script language

The numerals that a program can hold are digits, perhaps with a point and more digits. They are
plain ASCII without padding, underscores, sign or exponent, so each stage of reading leaves them as
they are and the last one finds their value.
-/
namespace CalcScript.Number
open Text

theorem isDigit_or_eq_point {l : List Char} (h : IsNumeral l) :
    ∀ c ∈ l, isDigit c = true ∨ c = '.' := by
  cases h with
  | whole hl => exact fun c hc => .inl (hl.2 c hc)
  | decimal hl hplaces =>
    intro c hc
    rcases List.mem_append.mp hc with hc | hc
    · exact .inl (hl.2 c hc)
    · rcases List.mem_cons.mp hc with rfl | hc
      · exact .inr rfl
      · exact .inl (hplaces.2 c hc)

theorem toNat_of_mem_numeral {l : List Char} (h : IsNumeral l) {c : Char} (hc : c ∈ l) :
    46 ≤ c.toNat ∧ c.toNat ≤ 57 := by
  rcases isDigit_or_eq_point h c hc with hdigit | rfl
  · have hbounds := toNat_of_isDigit hdigit
    omega
  · decide

/-! ### Stages of reading -/

theorem mapM_asciiChar? {l : List Char} (h : ∀ c ∈ l, c.toNat < 128) :
    l.mapM asciiChar? = some l := by
  induction l with
  | nil => rfl
  | cons c rest ih =>
    obtain ⟨hc, hrest⟩ := List.forall_mem_cons.mp h
    rw [List.mapM_cons, ih hrest, asciiChar?, if_pos hc]
    rfl

theorem unpad_eq_self {l : List Char} (h : ∀ c ∈ l, isPadding c = false) : unpad l = l := by
  have hdrop {l : List Char} (h : ∀ c ∈ l, isPadding c = false) : l.dropWhile isPadding = l := by
    cases l with
    | nil => rfl
    | cons c rest => rw [List.dropWhile_cons, if_neg (by simp [h c List.mem_cons_self])]
  rw [unpad, hdrop h, hdrop (by simpa using h), List.reverse_reverse]

theorem ungroup?_eq_some_self {l : List Char} (h : ∀ c ∈ l, c ≠ '_') (afterDigit : Bool) :
    ungroup? afterDigit l = some l := by
  induction l generalizing afterDigit with
  | nil => rfl
  | cons c rest ih =>
    obtain ⟨hc, hrest⟩ := List.forall_mem_cons.mp h
    rw [ungroup?, if_neg (by simpa using hc), ih hrest]
    rfl

theorem takeSign_eq_self {l : List Char} (h : ∀ c ∈ l, c ≠ '-' ∧ c ≠ '+') :
    takeSign l = (false, l) := by
  unfold takeSign
  split
  · exact absurd rfl (h '-' List.mem_cons_self).1
  · exact absurd rfl (h '+' List.mem_cons_self).2
  · rfl

theorem decimal?_whole {l : List Char} (hl : IsDigits l) :
    decimal? false l = some (ofDecimal false (digitsValue l) 0) := by
  have htake : l.takeWhile isDigit = l := List.takeWhile_eq_self_iff.mpr hl.2
  have hdrop : l.dropWhile isDigit = [] := List.dropWhile_eq_nil_iff.mpr hl.2
  simp [decimal?, htake, hdrop, hl.1, exponent?]

theorem decimal?_point {l places : List Char} (hl : IsDigits l) (hplaces : IsDigits places) :
    decimal? false (l ++ '.' :: places) =
      some (ofDecimal false (digitsValue (l ++ places)) (-places.length)) := by
  have hpoint : Avoids isDigit ('.' :: places) := avoids_cons_iff.mpr rfl
  have htake : places.takeWhile isDigit = places := List.takeWhile_eq_self_iff.mpr hplaces.2
  have hdrop : places.dropWhile isDigit = [] := List.dropWhile_eq_nil_iff.mpr hplaces.2
  unfold decimal?
  rw [hpoint.takeWhile_append hl.2, hpoint.dropWhile_append hl.2]
  simp [htake, hdrop, hl.1, exponent?]

theorem toLower_eq_self {c : Char} (h : c.toNat ≤ 57) : c.toLower = c := by
  unfold Char.toLower
  rw [dif_neg]
  simp only [ge_iff_le, UInt32.le_iff_toNat_le, not_and, not_le]
  intro hle
  exact absurd (le_trans hle h) (by decide)

theorem unsigned?_eq_decimal? {l : List Char} (h : IsNumeral l) :
    unsigned? false l = decimal? false l := by
  have hlower : l.map Char.toLower = l := by
    conv_rhs => rw [← List.map_id l]
    exact List.map_congr_left fun c hc => toLower_eq_self (toNat_of_mem_numeral h hc).2
  have hname {name : String} {c : Char} (hc : c ∈ name.toList) (hcode : 57 < c.toNat) :
      (String.ofList l == name) = false := by
    rw [beq_eq_false_iff_ne]
    rintro rfl
    rw [String.toList_ofList] at hc
    have hle := (toNat_of_mem_numeral h hc).2
    omega
  have hinf : (String.ofList l == "inf") = false := @hname "inf" 'i' (by decide) (by decide)
  have hinfinity : (String.ofList l == "infinity") = false :=
    @hname "infinity" 'i' (by decide) (by decide)
  have hnan : (String.ofList l == "nan") = false := @hname "nan" 'n' (by decide) (by decide)
  simp [unsigned?, hlower, hinf, hinfinity, hnan]

/-- Of a numeral only its digits and its point are read. -/
theorem read?_eq_decimal? {s : String} (h : IsNumeral s.toList) :
    read? s = decimal? false s.toList := by
  have hcode {c : Char} (hc : c ∈ s.toList) : 46 ≤ c.toNat ∧ c.toNat ≤ 57 :=
    toNat_of_mem_numeral h hc
  have hascii : s.toList.mapM asciiChar? = some s.toList :=
    mapM_asciiChar? fun c hc => lt_of_le_of_lt (hcode hc).2 (by decide)
  have hpad : unpad s.toList = s.toList := by
    refine unpad_eq_self fun c hc => ?_
    have hbounds := hcode hc
    simp only [isPadding, Bool.or_eq_false_iff, Bool.and_eq_false_iff, beq_eq_false_iff_ne,
      decide_eq_false_iff_not]
    refine ⟨?_, by omega⟩
    rintro rfl
    exact absurd hbounds (by decide)
  have hgroup : ungroup? false s.toList = some s.toList := by
    refine ungroup?_eq_some_self (fun c hc => ?_) false
    rintro rfl
    exact absurd (hcode hc) (by decide)
  have hsign : takeSign s.toList = (false, s.toList) := by
    refine takeSign_eq_self fun c hc => ⟨?_, ?_⟩
    · rintro rfl
      exact absurd (hcode hc) (by decide)
    · rintro rfl
      exact absurd (hcode hc) (by decide)
  simp [read?, hascii, hpad, hgroup, hsign, unsigned?_eq_decimal? h]

/-- Every numeral of a program is read as a number. -/
theorem exists_read?_eq_some {s : String} (h : IsNumeral s.toList) : ∃ x, read? s = some x := by
  rw [read?_eq_decimal? h]
  generalize s.toList = l at h ⊢
  cases h with
  | whole hl => exact ⟨_, decimal?_whole hl⟩
  | decimal hl hplaces => exact ⟨_, decimal?_point hl hplaces⟩

end CalcScript.Number
