import CalcScript.CrossCheck.Reference
import CalcScript.Proofs.CrossCheck.Reading
import CalcScript.Proofs.Expression.Faults
import CalcScript.Proofs.Number.Numeral
import CalcScript.Proofs.Number.Zero

/-!
# Quantities of short expressions

A whole number made of `k` literals below one hundred is at most `99 ^ k`, by whatever operations.
Up to one hundred and fifty-four literals this can be turned into a double, so a formula of that
size has a quantity unless a literal of value zero stands after a slash. Then it is a division by
zero, wherever in the formula that happens.
-/
namespace CalcScript
open Formula

/-! ### Bounded quantities -/

namespace Quantity

def Within (bound : Nat) : Quantity → Prop
  | .whole n => n.natAbs ≤ bound
  | .real _ => True

def isZero : Quantity → Bool
  | .whole n => n == 0
  | .real x => x == 0

theorem tooLarge_eq_false {num den : Nat} (hnum : num ≤ 99 ^ 154) (hden : den ≠ 0) :
    Number.tooLarge num den = false := by
  have hlimit : 99 ^ 154 < (Nat.pow 2 54 - 1) * Nat.pow 2 970 := by decide +kernel
  rw [Number.tooLarge, decide_eq_false_iff_not, not_le]
  generalize (Nat.pow 2 54 - 1) * Nat.pow 2 970 = limit at hlimit ⊢
  calc num ≤ 99 ^ 154 := hnum
    _ < limit := hlimit
    _ ≤ limit * den := Nat.le_mul_of_pos_right limit (Nat.pos_of_ne_zero hden)

theorem exists_toFloat_eq_ok {q : Quantity} (h : q.Within (99 ^ 154)) :
    ∃ x, q.toFloat = .ok x ∧ (x == 0) = q.isZero := by
  cases q with
  | real x => exact ⟨x, rfl, rfl⟩
  | whole n =>
    refine ⟨Number.nearest (n < 0) n.natAbs 1, ?_, ?_⟩
    · rw [toFloat, tooLarge_eq_false h Nat.one_ne_zero]
      rfl
    · rw [Bool.eq_iff_iff, Number.nearest_beq_zero_iff _ _ Nat.one_ne_zero (by decide)]
      simp [isZero]

theorem Within.mono {bound larger : Nat} {q : Quantity} (h : q.Within bound)
    (hle : bound ≤ larger) : q.Within larger := by
  cases q with
  | whole n => exact Nat.le_trans h hle
  | real x => trivial

theorem pow_add_pow_le {i j : Nat} (hi : 0 < i) (hj : 0 < j) : 99 ^ i + 99 ^ j ≤ 99 ^ (i + j) := by
  have hlow : 2 ≤ 99 ^ i := Nat.le_trans (by decide) (Nat.le_pow hi)
  have hhigh : 2 ≤ 99 ^ j := Nat.le_trans (by decide) (Nat.le_pow hj)
  rw [pow_add]
  exact add_le_mul hlow hhigh

variable {i j : Nat} {a b : Quantity} {op : Operator}

theorem exists_applyReal_eq_ok {x y : Float} (h : op = .div → (y == 0) = false) :
    ∃ z, applyReal op x y = .ok (.real z) := by
  cases op with
  | div => exact ⟨x / y, by simp [applyReal, h rfl]⟩
  | _ => exact ⟨_, rfl⟩

theorem exists_applyWhole_eq_ok {m n : Int} (hi : 0 < i) (hj : 0 < j) (hcount : i + j ≤ 154)
    (hm : m.natAbs ≤ 99 ^ i) (hn : n.natAbs ≤ 99 ^ j) (h : op = .div → n ≠ 0) :
    ∃ q, applyWhole op m n = .ok q ∧ q.Within (99 ^ (i + j)) := by
  have hsum : m.natAbs + n.natAbs ≤ 99 ^ (i + j) :=
    (Nat.add_le_add hm hn).trans (pow_add_pow_le hi hj)
  cases op with
  | add => exact ⟨.whole (m + n), rfl, (Int.natAbs_add_le m n).trans hsum⟩
  | sub => exact ⟨.whole (m - n), rfl, (Int.natAbs_sub_le m n).trans hsum⟩
  | mul =>
    refine ⟨.whole (m * n), rfl, ?_⟩
    rw [Within, Int.natAbs_mul, pow_add]
    exact Nat.mul_le_mul hm hn
  | div =>
    have hlarge : Number.tooLarge m.natAbs n.natAbs = false := by
      apply tooLarge_eq_false
      · exact hm.trans (Nat.pow_le_pow_right (by decide) (by omega))
      · exact Int.natAbs_ne_zero.mpr (h rfl)
    simp [applyWhole, quotient, h rfl, hlarge, Within]

theorem apply_eq_applyWhole_or_applyReal (ha : a.Within (99 ^ 154)) (hb : b.Within (99 ^ 154))
    (op : Operator) :
    (∃ m n, a = .whole m ∧ b = .whole n ∧ apply op a b = applyWhole op m n) ∨
      ∃ x y, apply op a b = applyReal op x y ∧ (y == 0) = b.isZero := by
  obtain ⟨x, hx, -⟩ := exists_toFloat_eq_ok ha
  obtain ⟨y, hy, hzero⟩ := exists_toFloat_eq_ok hb
  cases a with
  | whole m =>
    cases b with
    | whole n => exact .inl ⟨m, n, rfl, rfl, rfl⟩
    | real z => exact .inr ⟨x, y, by simp [apply, hx, hy], hzero⟩
  | real w => exact .inr ⟨x, y, by cases b <;> simp [apply, hx, hy], hzero⟩

theorem pow_le_limit (hcount : i ≤ 154) : 99 ^ i ≤ 99 ^ 154 :=
  Nat.pow_le_pow_right (by decide) hcount

theorem exists_apply_eq_ok (hi : 0 < i) (hj : 0 < j) (hcount : i + j ≤ 154)
    (ha : a.Within (99 ^ i)) (hb : b.Within (99 ^ j)) (h : op = .div → b.isZero = false) :
    ∃ q, apply op a b = .ok q ∧ q.Within (99 ^ (i + j)) := by
  have ha' := ha.mono (pow_le_limit (i := i) (by omega))
  have hb' := hb.mono (pow_le_limit (i := j) (by omega))
  rcases apply_eq_applyWhole_or_applyReal ha' hb' op with
    ⟨m, n, rfl, rfl, hwhole⟩ | ⟨x, y, hreal, hy⟩
  · rw [hwhole]
    exact exists_applyWhole_eq_ok hi hj hcount ha hb (fun hop => by simpa [isZero] using h hop)
  · rw [hreal]
    obtain ⟨z, hz⟩ := @exists_applyReal_eq_ok op x y (fun hop => hy.trans (h hop))
    exact ⟨.real z, hz, trivial⟩

theorem apply_div_of_isZero (ha : a.Within (99 ^ 154)) (hb : b.Within (99 ^ 154))
    (h : b.isZero = true) : apply .div a b = .error .divisionByZero := by
  rcases apply_eq_applyWhole_or_applyReal ha hb .div with
    ⟨m, n, rfl, rfl, hwhole⟩ | ⟨x, y, hreal, hy⟩
  · have hn : n = 0 := by simpa [isZero] using h
    rw [hwhole, applyWhole, quotient, if_pos hn]
  · rw [hreal, applyReal, if_pos (hy.trans h)]

end Quantity

/-! ### Short literals -/

/-- A numeral of few characters, below one hundred if it is whole. -/
structure IsShortNumeral (l : List Char) : Prop where
  isNumeral : IsNumeral l
  length_le : l.length ≤ 200
  whole_le : IsDigits l → Number.digitsValue l ≤ 99

structure Token.IsShort (t : Token) : Prop where
  isNumber : t.kind = .number
  isShortNumeral : IsShortNumeral t.lexeme.toList

theorem contains_point_of_isDigits {l : List Char} (h : IsDigits l) : l.contains '.' = false := by
  rw [Bool.eq_false_iff, ne_eq, List.contains_iff_mem]
  intro hpoint
  exact absurd (h.2 '.' hpoint) (by decide)

namespace Token.IsShort
variable {t : Token} (h : t.IsShort)
include h

theorem isOperand : t.isOperand = true :=
  isOperand_iff.mpr (.inl h.isNumber)

theorem operand?_eq (store : Store) :
    t.operand? store = Number.decimal? false t.lexeme.toList := by
  rw [operand?, h.isNumber]
  exact Number.read?_eq_decimal? h.isShortNumeral.isNumeral

/-- A whole literal is kept exact, a decimal one is read as the plain evaluation reads it; either is
zero for both evaluations or for none. -/
theorem exists_literal? (store : Store) :
    ∃ f q x, literal? t = some f ∧ f.quantity = .ok q ∧ q.Within 99 ∧
      t.operand? store = some x ∧ (x == 0) = q.isZero := by
  obtain ⟨hnumeral, -, hwhole⟩ := h.isShortNumeral
  rw [h.operand?_eq, literal?, Number.read?_eq_decimal? hnumeral]
  generalize t.lexeme.toList = l at hwhole hnumeral ⊢
  cases hnumeral with
  | whole hl =>
    rw [contains_point_of_isDigits hl, Number.decimal?_whole hl]
    refine ⟨_, _, _, rfl, rfl, by simpa [Quantity.Within] using hwhole hl, rfl, ?_⟩
    rw [Bool.eq_iff_iff, Number.ofDecimal_beq_zero_iff false _ (by decide)]
    simp [Quantity.isZero]
  | decimal hl hplaces =>
    rw [Number.decimal?_point hl hplaces]
    refine ⟨.decimal _, .real _, _, ?_, rfl, trivial, rfl, rfl⟩
    simp

theorem exists_operand? (store : Store) : ∃ x, t.operand? store = some x := by
  obtain ⟨-, -, x, -, -, -, hx, -⟩ := h.exists_literal? store
  exact ⟨x, hx⟩

end Token.IsShort

/-! ### Formulas of short literals -/

/-- The outcome is a bounded quantity where `safe` holds, and a division by zero where it does
not. -/
def Settles (safe : Prop) (bound : Nat) (outcome : Except ReferenceError Quantity) : Prop :=
  (safe → ∃ q, outcome = .ok q ∧ q.Within bound) ∧ (¬ safe → outcome = .error .divisionByZero)

theorem Settles.congr {safe other : Prop} {bound : Nat} {outcome : Except ReferenceError Quantity}
    (h : Settles safe bound outcome) (hiff : other ↔ safe) : Settles other bound outcome := by
  rwa [Settles, hiff]

/-- Two settled parts of a formula settle it; of a divisor it must be known when it is zero. -/
theorem Settles.binary {P Q R : Prop} {i j : Nat} {f g : Formula} {op : Operator}
    (hf : Settles P (99 ^ i) f.quantity) (hg : Settles Q (99 ^ j) g.quantity)
    (hi : 0 < i) (hj : 0 < j) (hcount : i + j ≤ 154)
    (hdivisor : ∀ b, g.quantity = .ok b → (R ↔ (op = .div → b.isZero = false))) :
    Settles (P ∧ Q ∧ R) (99 ^ (i + j)) (Formula.binary op f g).quantity := by
  -- The parts are evaluated from the left, and the first failure is that of the formula.
  by_cases hP : P
  · obtain ⟨a, ha, hawithin⟩ := hf.1 hP
    by_cases hQ : Q
    · obtain ⟨b, hb, hbwithin⟩ := hg.1 hQ
      have happly : (Formula.binary op f g).quantity = Quantity.apply op a b := by
        simp [quantity, ha, hb]
      rw [happly]
      constructor
      · rintro ⟨-, -, hR⟩
        exact Quantity.exists_apply_eq_ok hi hj hcount hawithin hbwithin ((hdivisor b hb).mp hR)
      · intro hsafe
        have hzero : op = .div ∧ b.isZero = true := by
          simpa [hP, hQ, hdivisor b hb] using hsafe
        rw [hzero.1]
        exact Quantity.apply_div_of_isZero (hawithin.mono (Quantity.pow_le_limit (by omega)))
          (hbwithin.mono (Quantity.pow_le_limit (by omega))) hzero.2
    · refine ⟨fun hsafe => absurd hsafe.2.1 hQ, fun _ => ?_⟩
      simp [quantity, ha, hg.2 hQ]
  · refine ⟨fun hsafe => absurd hsafe.1 hP, fun _ => ?_⟩
    simp [quantity, hf.2 hP]

section
variable {store : Store} {ts us : List Token} {op t : Token}

theorem dividesSafely_of_isOperator (h : op.isOperator = true) (t : Token) :
    DividesSafely store t op := by
  intro _ x hx
  rw [Token.operand?_of_isOperator h] at hx
  cases hx

theorem isChain_append_cons_iff (h : op.isOperator = true) :
    (ts ++ op :: us).IsChain (DividesSafely store) ↔
      ts.IsChain (DividesSafely store) ∧ us.IsChain (DividesSafely store) ∧
        ∀ t ∈ us.head?, DividesSafely store op t := by
  rw [List.isChain_append, List.isChain_cons]
  constructor
  · rintro ⟨hts, ⟨hhead, hus⟩, -⟩
    exact ⟨hts, hus, hhead⟩
  · rintro ⟨hts, hus, hhead⟩
    refine ⟨hts, ⟨hhead, hus⟩, fun t _ u hu => ?_⟩
    cases hu
    exact dividesSafely_of_isOperator h t

end

theorem TokenKind.eq_slash_iff {kind : TokenKind} {op : Operator} (h : kind.operator? = some op) :
    kind = .slash ↔ op = .div := by
  cases kind <;> cases h <;> simp

namespace Token.IsShort
variable {op t : Token} {f : Formula}

theorem settles (h : t.IsShort) (hf : literal? t = some f) : Settles True (99 ^ 1) f.quantity := by
  obtain ⟨f', q, x, hf', hq, hwithin, -⟩ := h.exists_literal? Store.empty
  rw [hf, Option.some.injEq] at hf'
  subst hf'
  exact ⟨fun _ => ⟨q, hq, hwithin⟩, fun hnot => absurd trivial hnot⟩

theorem dividesSafely_iff (h : t.IsShort) (hf : literal? t = some f) {o : Operator}
    (ho : op.kind.operator? = some o) {b : Quantity} (hb : f.quantity = .ok b) (store : Store) :
    DividesSafely store op t ↔ (o = .div → b.isZero = false) := by
  obtain ⟨f', q, x, hf', hq, -, hx, hzero⟩ := h.exists_literal? store
  rw [hf, Option.some.injEq] at hf'
  subst hf'
  rw [hb, Except.ok.injEq] at hq
  rw [DividesSafely, hx, TokenKind.eq_slash_iff ho, hq, ← hzero]
  simp

end Token.IsShort

/-- A product of short literals has a bounded quantity unless one of its divisors is zero. -/
theorem ProductFormula.settles {ts : List Token} {f : Formula} (h : ProductFormula ts f)
    (hshort : ∀ t ∈ ts, t.isOperand = true → t.IsShort)
    (hcount : ts.countP Token.isOperand ≤ 154) (store : Store) :
    0 < ts.countP Token.isOperand ∧
      Settles (ts.IsChain (DividesSafely store)) (99 ^ ts.countP Token.isOperand) f.quantity := by
  induction h with
  | @literal t f ht hf =>
    have ht' : t.isOperand = true := Token.isOperand_iff.mpr (.inl ht)
    rw [List.countP_singleton, if_pos ht']
    refine ⟨Nat.one_pos, ((hshort t (by simp) ht').settles hf).congr ?_⟩
    simp
  | @extend ts op t o f g hts hop ht hg ih =>
    have ho := (operatorAt?_eq_some_iff.mp hop).1
    have hop' := Token.isOperator_of_operator? ho
    have ht' : t.isOperand = true := Token.isOperand_iff.mpr (.inl ht)
    have hliteral : t.IsShort := hshort t (by simp) ht'
    have hsum : (ts ++ [op, t]).countP Token.isOperand = ts.countP Token.isOperand + 1 := by
      simp [Token.isOperand_of_isOperator hop', ht']
    rw [hsum] at hcount ⊢
    obtain ⟨hpos, hsettles⟩ := ih (fun u hu => hshort u (by simp [hu])) (by omega)
    have hboth := hsettles.binary (hliteral.settles hg) hpos Nat.one_pos hcount
      (fun b hb => hliteral.dividesSafely_iff hg ho hb store)
    refine ⟨by omega, hboth.congr ?_⟩
    rw [isChain_append_cons_iff hop']
    simp

/-- So has a sum: the bound of two parts together is larger than the sum of their bounds. -/
theorem SumFormula.settles {ts : List Token} {f : Formula} (h : SumFormula ts f)
    (hshort : ∀ t ∈ ts, t.isOperand = true → t.IsShort)
    (hcount : ts.countP Token.isOperand ≤ 154) (store : Store) :
    0 < ts.countP Token.isOperand ∧
      Settles (ts.IsChain (DividesSafely store)) (99 ^ ts.countP Token.isOperand) f.quantity := by
  induction h with
  | product hts => exact hts.settles hshort hcount store
  | @extend ts us op o f g hts hop hus ih =>
    obtain ⟨ho, hlevel⟩ := operatorAt?_eq_some_iff.mp hop
    have hop' := Token.isOperator_of_operator? ho
    have hdiv : o ≠ .div := by
      rintro rfl
      cases hlevel
    have hsum : (ts ++ op :: us).countP Token.isOperand =
        ts.countP Token.isOperand + us.countP Token.isOperand := by
      simp [Token.isOperand_of_isOperator hop']
    rw [hsum] at hcount ⊢
    obtain ⟨hpos, hsettles⟩ := ih (fun t ht => hshort t (by simp [ht])) (by omega)
    obtain ⟨hpos', hsettles'⟩ := hus.settles (fun t ht => hshort t (by simp [ht])) (by omega) store
    have hboth := @Settles.binary _ _ True _ _ _ _ o hsettles hsettles' hpos hpos' hcount
      (fun b hb => by simp [hdiv])
    refine ⟨by omega, hboth.congr ?_⟩
    rw [isChain_append_cons_iff hop']
    have hslash : op.kind ≠ .slash := fun hk => hdiv ((TokenKind.eq_slash_iff ho).mp hk)
    simp [DividesSafely, hslash]

end CalcScript
