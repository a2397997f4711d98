/-!
# Character classes of the script language

Words and digits are ASCII classes; blanks are the Unicode space characters. A word character either
begins a word or is a digit, and never both, and no blank is a word character.
-/
namespace CalcScript.Text

/-- A word begins with an ASCII letter or an underscore. -/
def isWordStart (c : Char) : Bool :=
  c.isAlpha || c == '_'

/-- A word goes on with ASCII letters, ASCII digits and underscores. -/
def isWordChar (c : Char) : Bool :=
  c.isAlphanum || c == '_'

def isDigit (c : Char) : Bool :=
  c.isDigit

/-- The space characters: tab to carriage return, the four information separators, the space, and
the separators of the Latin-1, Ogham, punctuation and ideographic blocks. -/
def isBlank (c : Char) : Bool :=
  let n := c.toNat
  (9 ≤ n && n ≤ 13) || (28 ≤ n && n ≤ 32) || n == 0x85 || n == 0xA0 || n == 0x1680 ||
    (0x2000 ≤ n && n ≤ 0x200A) || n == 0x2028 || n == 0x2029 || n == 0x202F || n == 0x205F ||
    n == 0x3000

def strip (cs : List Char) : List Char :=
  ((cs.dropWhile isBlank).reverse.dropWhile isBlank).reverse

theorem isWordChar_of_isWordStart {c : Char} (h : isWordStart c = true) : isWordChar c = true := by
  simp only [isWordStart, isWordChar, Char.isAlphanum, Bool.or_eq_true] at h ⊢
  exact h.imp_left Or.inl

theorem isWordChar_of_isDigit {c : Char} (h : isDigit c = true) : isWordChar c = true := by
  simp only [isDigit] at h
  simp [isWordChar, Char.isAlphanum, h]

theorem isWordChar_iff (c : Char) : isWordChar c = (isWordStart c || isDigit c) := by
  simp only [isWordChar, isWordStart, isDigit, Char.isAlphanum]
  cases c.isAlpha <;> cases c.isDigit <;> simp

theorem toNat_of_isAlpha {c : Char} (h : c.isAlpha = true) :
    (65 ≤ c.toNat ∧ c.toNat ≤ 90) ∨ (97 ≤ c.toNat ∧ c.toNat ≤ 122) := by
  change (decide (65 ≤ c.val ∧ c.val ≤ 90) ||
    (decide (97 ≤ c.val) && decide (c.val ≤ 122))) = true at h
  simp only [Bool.or_eq_true, Bool.and_eq_true, decide_eq_true_eq, UInt32.le_iff_toNat_le] at h
  exact h

theorem toNat_of_isDigit {c : Char} (h : isDigit c = true) : 48 ≤ c.toNat ∧ c.toNat ≤ 57 := by
  simp only [isDigit, Char.isDigit, Bool.and_eq_true, decide_eq_true_eq, UInt32.le_iff_toNat_le,
    ge_iff_le] at h
  exact h

theorem toNat_of_isWordStart {c : Char} (h : isWordStart c = true) :
    (65 ≤ c.toNat ∧ c.toNat ≤ 90) ∨ c.toNat = 95 ∨ (97 ≤ c.toNat ∧ c.toNat ≤ 122) := by
  simp only [isWordStart, Bool.or_eq_true, beq_iff_eq] at h
  rcases h with h | rfl
  · have hn := toNat_of_isAlpha h
    omega
  · decide

theorem toNat_of_isWordChar {c : Char} (h : isWordChar c = true) :
    (48 ≤ c.toNat ∧ c.toNat ≤ 57) ∨ (65 ≤ c.toNat ∧ c.toNat ≤ 90) ∨ c.toNat = 95 ∨
      (97 ≤ c.toNat ∧ c.toNat ≤ 122) := by
  rw [isWordChar_iff, Bool.or_eq_true] at h
  rcases h with h | h
  · exact Or.inr (toNat_of_isWordStart h)
  · exact Or.inl (toNat_of_isDigit h)

theorem isBlank_of_isWordChar {c : Char} (h : isWordChar c = true) : isBlank c = false := by
  have hn := toNat_of_isWordChar h
  simp only [isBlank, Bool.or_eq_false_iff, Bool.and_eq_false_iff, decide_eq_false_iff_not,
    beq_eq_false_iff_ne]
  omega

theorem isDigit_of_isWordStart {c : Char} (h : isWordStart c = true) : isDigit c = false := by
  rw [Bool.eq_false_iff]
  intro hd
  have hn := toNat_of_isDigit hd
  have hs := toNat_of_isWordStart h
  omega

end CalcScript.Text
