import CalcScript.Number.Binary64
import Mathlib

/-!
# Doubles equal to zero

The two zeros are the doubles whose bits are zero, the sign apart. The pattern of a ratio that is no
smaller than the least normal double has an exponent field, so rounding turns only a zero into a
zero there. This covers every decimal number with at most two hundred places.
-/
namespace CalcScript.Number
open Float.Model Float.Model.UnpackedFloat

theorem ofBits_beq_zero {bits : Nat} (h : bits % 2 ^ 63 ≠ 0) :
    (Float.ofBits (UInt64.ofNat bits) == 0) = false := by
  rw [Bool.eq_false_iff]
  intro hzero
  have hpack : (Float.ofBits (UInt64.ofNat bits)).toBits.toBitVec = _ :=
    @pack_unpack Format.binary64 (UInt64.ofNat bits).toBitVec (by decide)
  have hbits : (Float.ofBits (UInt64.ofNat bits)).toBits.toNat % 2 ^ 63 = 0 := by
    rcases (Float.beq_iff_ne_nan_and_eq.mp hzero).2.2 with hx | ⟨hx, -⟩ | ⟨hx, -⟩ <;> rw [hx]
    · rfl
    · rfl
    · rfl
  rw [← UInt64.toNat_toBitVec, hpack] at hbits
  by_cases hnan : @isNaNBits Format.binary64 (UInt64.ofNat bits).toBitVec = true
  · rw [if_pos hnan] at hbits
    exact absurd hbits (by decide)
  · rw [if_neg hnan] at hbits
    rw [UInt64.toNat_toBitVec, UInt64.toNat_ofNat'] at hbits
    omega

/-- A comparison of two numbers scaled by powers of two depends on the difference of the powers. -/
theorem two_pow_mul_le {a b p q p' q' c : Nat} (h : a * 2 ^ p ≤ b * 2 ^ q)
    (hpowers : c + p' + q = p + q') : 2 ^ c * (a * 2 ^ p') ≤ b * 2 ^ q' := by
  apply Nat.le_of_mul_le_mul_right _ (Nat.two_pow_pos q)
  calc 2 ^ c * (a * 2 ^ p') * 2 ^ q = a * 2 ^ (c + p' + q) := by ring
    _ = a * 2 ^ p * 2 ^ q' := by rw [hpowers]; ring
    _ ≤ b * 2 ^ q * 2 ^ q' := Nat.mul_le_mul_right _ h
    _ = b * 2 ^ q' * 2 ^ q := by ring

theorem log2Ratio_le_ratio {num : Nat} (hnum : num ≠ 0) (den : Nat) :
    den * 2 ^ (log2Ratio num den).toNat ≤ num * 2 ^ (-log2Ratio num den).toNat := by
  unfold log2Ratio
  simp only
  split_ifs with hguess
  · exact hguess
  · have hlow : 2 ^ num.log2 ≤ num := Nat.log2_self_le hnum
    have hhigh : den < 2 ^ (den.log2 + 1) := Nat.lt_log2_self
    generalize hk : ((num.log2 : Int) - den.log2 - 1) = k
    calc den * 2 ^ k.toNat ≤ 2 ^ (den.log2 + 1) * 2 ^ k.toNat := Nat.mul_le_mul_right _ hhigh.le
      _ = 2 ^ num.log2 * 2 ^ (-k).toNat := by
        rw [← pow_add, ← pow_add]
        congr 1
        omega
      _ ≤ num * 2 ^ (-k).toNat := Nat.mul_le_mul_right _ hlow

theorem neg_log2_le_log2Ratio (num den : Nat) : -(den.log2 : Int) - 1 ≤ log2Ratio num den := by
  unfold log2Ratio
  simp only
  split_ifs <;> omega

theorem div_le_roundHalfEven (num den : Nat) : num / den ≤ roundHalfEven num den := by
  unfold roundHalfEven
  simp only
  split_ifs <;> omega

/-- A ratio that is no smaller than the least normal double has an exponent field. -/
theorem impliedBit_le_nearestBits {num den : Nat} (hnum : num ≠ 0) (hden : den ≠ 0)
    (hlog : den.log2 ≤ 1021) : impliedBit ≤ nearestBits num den := by
  have hk := neg_log2_le_log2Ratio num den
  have hratio := log2Ratio_le_ratio hnum den
  unfold nearestBits
  rw [if_neg (by simpa using hnum)]
  generalize log2Ratio num den = k at hk hratio
  have hexponent : max (k - 52) leastExponent = k - 52 := by
    apply max_eq_left
    unfold leastExponent
    omega
  have hquotient : impliedBit ≤ num * 2 ^ (-(k - 52)).toNat / (den * 2 ^ (k - 52).toNat) := by
    rw [Nat.le_div_iff_mul_le (by positivity)]
    exact two_pow_mul_le hratio (by omega)
  simp only [hexponent]
  apply le_min
  · decide
  · exact (hquotient.trans (div_le_roundHalfEven _ _)).trans (Nat.le_add_left _ _)

theorem nearestBits_le (num den : Nat) : nearestBits num den ≤ infinityBits := by
  unfold nearestBits
  split_ifs
  · exact Nat.zero_le _
  · exact min_le_left _ _

/-- The double nearest to a ratio with a denominator below `2 ^ 1022` is zero only for zero. -/
theorem nearest_beq_zero_iff (negative : Bool) (num : Nat) {den : Nat} (hden : den ≠ 0)
    (hlog : den.log2 ≤ 1021) : (nearest negative num den == 0) = true ↔ num = 0 := by
  constructor
  · contrapose
    intro hnum
    rw [Bool.not_eq_true]
    have hlow : 2 ^ 52 ≤ nearestBits num den := impliedBit_le_nearestBits hnum hden hlog
    have hhigh : nearestBits num den ≤ 0x7FF * 2 ^ 52 := nearestBits_le num den
    apply ofBits_beq_zero
    cases negative with
    | false =>
      simp only [Bool.false_eq_true, if_false]
      omega
    | true =>
      simp only [if_true, Nat.pow_eq]
      omega
  · rintro rfl
    have hbits : nearestBits 0 den = 0 := rfl
    rw [nearest, hbits]
    cases negative <;> rfl

theorem infinity_beq_zero : ∀ negative, (infinity negative == 0) = false := by
  decide +kernel

/-- A decimal number with at most two hundred places is read as zero only if it is zero. -/
theorem ofDecimal_beq_zero_iff (negative : Bool) (n : Nat) {e : Int} (he : -200 ≤ e) :
    (ofDecimal negative n e == 0) = true ↔ n = 0 := by
  have hone : (1 : Nat).log2 ≤ 1021 := by decide
  by_cases hn : n = 0
  · subst hn
    simp [ofDecimal, nearest_beq_zero_iff negative 0 Nat.one_ne_zero hone]
  · have hsmall : ¬ (n == 0 || decide (e + (Nat.toDigits 10 n).length < -400)) = true := by
      simp only [Bool.or_eq_true, beq_iff_eq, hn, decide_eq_true_eq, false_or]
      omega
    unfold ofDecimal
    simp only
    rw [if_neg hsmall]
    split_ifs with hlarge
    · exact iff_of_false (Bool.eq_false_iff.mp (infinity_beq_zero negative)) hn
    · have hden : (10 : Nat) ^ (-e).toNat ≠ 0 := by positivity
      have hlog : ((10 : Nat) ^ (-e).toNat).log2 ≤ 1021 := by
        have hpow : (10 : Nat) ^ (-e).toNat ≤ 10 ^ 200 :=
          Nat.pow_le_pow_right (by decide) (by omega)
        have hbound : (10 : Nat) ^ 200 < 2 ^ 1022 := by decide +kernel
        have hlt := (Nat.log2_lt hden).mpr (lt_of_le_of_lt hpow hbound)
        omega
      simp only [Nat.pow_eq]
      rw [nearest_beq_zero_iff negative _ hden hlog]
      simp

end CalcScript.Number
