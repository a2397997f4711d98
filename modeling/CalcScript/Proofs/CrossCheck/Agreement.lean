import CalcScript.CrossCheck.Comparison
import CalcScript.Proofs.CrossCheck.Samples
import CalcScript.Proofs.Execution.Runs
import Mathlib.Algebra.Order.Field.Rat
import Mathlib.Tactic.Positivity

/-!
# Agreement on samples

The evaluator divides when the next operator arrives or at the end, the reference when both parts of
a quotient are known. For expressions of literals this makes no difference: a divisor is always a
single literal, so each of the two has no value exactly where a literal of value zero stands after a
slash.
-/
namespace CalcScript
open Formula

/-! ### Where the evaluator has a value -/

section
variable {store : Store} {previous : Option Token} {op t : Token} {ts : List Token}

theorem Token.dividesSafely_of_fault?_eq_none (h : t.fault? store (some op) = none) :
    DividesSafely store op t := by
  intro hslash x hx
  rw [Option.mem_def] at hx
  simpa [fault?, hx, hslash] using h

theorem isChain_of_faults_eq_nil (h : faults store previous ts = []) :
    ts.IsChain (DividesSafely store) := by
  induction ts generalizing previous with
  | nil => exact .nil
  | cons t rest ih =>
    have hrest : faults store (some t) rest = [] := (List.append_eq_nil_iff.mp h).2
    refine List.isChain_cons.mpr ⟨fun u hu => ?_, ih hrest⟩
    cases rest with
    | nil => cases hu
    | cons v rest =>
      cases hu
      have hfault := (List.append_eq_nil_iff.mp hrest).1
      exact Token.dividesSafely_of_fault?_eq_none (by simpa using hfault)

/-- An infix expression of operands with values has a value unless a zero stands after a slash. -/
theorem exists_evaluate_eq_ok_iff (hts : isInfix ts = true)
    (hdef : ∀ t ∈ ts, t.isOperand = true → ∃ x, t.operand? store = some x) :
    (∃ x, evaluate store ts = .ok x) ↔ ts.IsChain (DividesSafely store) := by
  constructor
  · rintro ⟨x, hx⟩
    cases hfaults : faults store none ts with
    | nil => exact isChain_of_faults_eq_nil hfaults
    | cons f rest =>
      have herror := (evaluate_of_faults store hts).1 f (by rw [hfaults]; rfl)
      rw [hx] at herror
      cases herror
  · intro hsafe
    obtain ⟨x, hx⟩ := exists_expressionValue hts hdef
    exact ⟨x, hx.evaluate_eq_ok hsafe⟩

end

/-! ### Literals of value zero -/

theorem Number.digitsValue_eq_zero_iff (l : List Char) :
    digitsValue l = 0 ↔ ∀ c ∈ l, c.toNat ≤ 48 := by
  induction l using List.reverseRecOn with
  | nil => simp [digitsValue]
  | append_singleton l c ih =>
    have hvalue : digitsValue (l ++ [c]) = 10 * digitsValue l + (c.toNat - 48) := by
      simp [digitsValue]
    have hzero : digitsValue (l ++ [c]) = 0 ↔ digitsValue l = 0 ∧ c.toNat ≤ 48 := by omega
    rw [hzero, ih, List.forall_mem_append, List.forall_mem_singleton]

theorem Number.digitsValue_append_eq_zero_iff (l places : List Char) :
    digitsValue (l ++ places) = 0 ↔ digitsValue l = 0 ∧ digitsValue places = 0 := by
  simp only [digitsValue_eq_zero_iff, List.forall_mem_append]

namespace Sample
open Text

/-- The value of a literal, its digits after the point counting as a fraction. -/
def literalValue (literal : String) : ℚ :=
  let whole := literal.toList.takeWhile isDigit
  let places := (literal.toList.dropWhile isDigit).drop 1
  Number.digitsValue whole + Number.digitsValue places / 10 ^ places.length

theorem beq_zero_iff_literalValue {literal : String} (h : IsShortNumeral literal.toList) {x : Float}
    (hx : Number.decimal? false literal.toList = some x) :
    (x == 0) = true ↔ literalValue literal = 0 := by
  obtain ⟨hnumeral, hlength, -⟩ := h
  unfold literalValue
  generalize literal.toList = l at hnumeral hlength hx ⊢
  cases hnumeral with
  | whole hl =>
    have htake : l.takeWhile isDigit = l := List.takeWhile_eq_self_iff.mpr hl.2
    have hdrop : l.dropWhile isDigit = [] := List.dropWhile_eq_nil_iff.mpr hl.2
    rw [Number.decimal?_whole hl, Option.some.injEq] at hx
    rw [← hx, Number.ofDecimal_beq_zero_iff false _ (by decide), htake, hdrop]
    simp [Number.digitsValue]
  | @decimal l places hl hplaces =>
    have hpoint : Avoids isDigit ('.' :: places) := avoids_cons_iff.mpr rfl
    have hshort : (-200 : Int) ≤ -(places.length : Int) := by
      simp only [List.length_append, List.length_cons] at hlength
      omega
    rw [Number.decimal?_point hl hplaces, Option.some.injEq] at hx
    rw [← hx, Number.ofDecimal_beq_zero_iff false _ hshort,
      Number.digitsValue_append_eq_zero_iff, hpoint.takeWhile_append hl.2,
      hpoint.dropWhile_append hl.2, List.drop_one, List.tail_cons]
    have hwhole : (0 : ℚ) ≤ Number.digitsValue l := Nat.cast_nonneg _
    have hfraction : (0 : ℚ) ≤ Number.digitsValue places / 10 ^ places.length := by positivity
    simp [add_eq_zero_iff_of_nonneg hwhole hfraction]

end Sample

/-! ### Expressions of short literals -/

section
variable {code : String}

theorem plainValue_eq_none_iff (hcode : isInfix (Token.scan code) = true)
    (hshort : ∀ t ∈ Token.scan code, t.isOperand = true → t.IsShort) :
    plainValue code = none ↔ ¬ (Token.scan code).IsChain (DividesSafely .empty) := by
  have hdef : ∀ t ∈ Token.scan code, t.isOperand = true → ∃ x, t.operand? Store.empty = some x :=
    fun t ht hoperand => (hshort t ht hoperand).exists_operand? Store.empty
  rw [← exists_evaluate_eq_ok_iff hcode hdef, plainValue]
  cases evaluate Store.empty (Token.scan code) <;> simp

theorem exists_referenceValue_eq_ok (hcode : isInfix (Token.scan code) = true)
    (hshort : ∀ t ∈ Token.scan code, t.isOperand = true → t.IsShort)
    (hcount : (Token.scan code).countP Token.isOperand ≤ 154) :
    ∃ reference, referenceValue code = .ok reference ∧
      (reference = none ↔ ¬ (Token.scan code).IsChain (DividesSafely .empty)) := by
  have hliteral : ∀ t ∈ Token.scan code, t.isOperand = true →
      t.kind = .number ∧ ∃ g, literal? t = some g := by
    intro t ht hoperand
    obtain ⟨f, q, x, hf, -⟩ := (hshort t ht hoperand).exists_literal? Store.empty
    exact ⟨(hshort t ht hoperand).isNumber, f, hf⟩
  obtain ⟨f, hf⟩ := exists_sumFormula hcode hliteral
  obtain ⟨-, hsafe, hfaulty⟩ := hf.settles hshort hcount Store.empty
  rw [referenceValue, ofTokens?_of_sumFormula hf]
  by_cases hchain : (Token.scan code).IsChain (DividesSafely .empty)
  · obtain ⟨q, hq, hwithin⟩ := hsafe hchain
    obtain ⟨x, hx, -⟩ :=
      Quantity.exists_toFloat_eq_ok (hwithin.mono (Quantity.pow_le_limit hcount))
    exact ⟨some x, by simp [hq, hx, Except.map], by simp [hchain]⟩
  · exact ⟨none, by simp [hfaulty hchain], by simp [hchain]⟩

end

/-! ### Samples -/

theorem isInfix_of_append_operator {op : Token} (hop : op.isOperator = true)
    (before rest : List Token) :
    (isInfix (before ++ op :: rest) = true → isInfix rest = true) ∧
      (isContinuation (before ++ op :: rest) = true → isInfix rest = true) := by
  induction before with
  | nil =>
    refine ⟨fun h => ?_, fun h => (isContinuation_cons_iff.mp h).2⟩
    have hoperand := (isInfix_cons_iff.mp h).1
    rw [Token.isOperand_of_isOperator hop] at hoperand
    cases hoperand
  | cons t before ih =>
    exact ⟨fun h => ih.2 (isInfix_cons_iff.mp h).2, fun h => ih.1 (isContinuation_cons_iff.mp h).2⟩

namespace Sample
variable (operandCount : Nat) (draws : List Draw)

theorem isShortNumeral_after_slash {literal : String} {before after : List String}
    (h : parts operandCount draws = before ++ "/" :: literal :: after) :
    IsShortNumeral literal.toList := by
  obtain ⟨hparts, hinfix, -⟩ := parts_spec operandCount draws
  rw [h, List.map_append, List.map_cons, List.map_cons] at hinfix
  have hrest := (isInfix_of_append_operator rfl _ _).1 hinfix
  have hoperand := (isInfix_cons_iff.mp hrest).1
  exact ((hparts literal (by simp [h])).isShort hoperand).isShortNumeral

theorem dividesSafely_partToken_iff (store : Store) {part literal : String}
    {before after : List String}
    (h : parts operandCount draws = before ++ part :: literal :: after) :
    DividesSafely store (partToken part) (partToken literal) ↔
      (part = "/" → literalValue literal ≠ 0) := by
  have hslash : (partToken part).kind = .slash ↔ part = "/" := partKind_eq_slash_iff
  rw [DividesSafely, hslash]
  apply imp_congr_right
  rintro rfl
  have hshort := isShortNumeral_after_slash operandCount draws h
  obtain ⟨f, q, x, -, -, -, hx, -⟩ := (isShort_partToken hshort).exists_literal? store
  have hdecimal : Number.decimal? false literal.toList = some x := by
    rw [← hx, (isShort_partToken hshort).operand?_eq]
    rfl
  rw [hx, ne_eq, ← beq_zero_iff_literalValue hshort hdecimal]
  simp

/-- A sample divides by zero where a literal of value zero stands after a slash. -/
theorem not_isChain_parts_iff (store : Store) :
    ¬ ((parts operandCount draws).map partToken).IsChain (DividesSafely store) ↔
      ∃ literal, ["/", literal] <:+: parts operandCount draws ∧ literalValue literal = 0 := by
  rw [List.isChain_map, List.isChain_iff_forall_rel_of_append_cons_cons]
  constructor
  · intro h
    simp only [not_forall] at h
    obtain ⟨part, literal, before, after, hparts, hfaulty⟩ := h
    rw [dividesSafely_partToken_iff operandCount draws store hparts] at hfaulty
    obtain ⟨rfl, hzero⟩ : part = "/" ∧ literalValue literal = 0 := by simpa using hfaulty
    exact ⟨literal, ⟨before, after, by simp [hparts]⟩, hzero⟩
  · rintro ⟨literal, ⟨before, after, hparts⟩, hzero⟩ h
    have hsplit : parts operandCount draws = before ++ "/" :: literal :: after := by
      simp [← hparts]
    exact (dividesSafely_partToken_iff operandCount draws store hsplit).mp (h hsplit) rfl hzero

end Sample

/-- On every sample of at most one hundred and fifty-four operands both evaluators return: no number
is unreadable and no whole number is too large. They agree on whether there is a value, and there is
none exactly where a literal of value zero stands after a slash. -/
theorem sample_values_agree {operandCount : Nat} (hcount : operandCount ≤ 154)
    (draws : List Sample.Draw) :
    let code := Sample.generate operandCount draws
    (∀ e, evaluate Store.empty (Token.scan code) ≠ .error (.value e)) ∧
      ∃ reference, referenceValue code = .ok reference ∧
        (reference = none ↔ plainValue code = none) ∧
        (plainValue code = none ↔
          ∃ literal, ["/", literal] <:+: Sample.parts operandCount draws ∧
            Sample.literalValue literal = 0) := by
  intro code
  have hscan : Token.scan code = (Sample.parts operandCount draws).map Sample.partToken :=
    Sample.scan_generate operandCount draws
  obtain ⟨hparts, hinfix, hoperands⟩ := Sample.parts_spec operandCount draws
  have hshort : ∀ t ∈ Token.scan code, t.isOperand = true → t.IsShort := by
    intro t ht hoperand
    rw [hscan] at ht
    obtain ⟨part, hpart, rfl⟩ := List.mem_map.mp ht
    exact (hparts part hpart).isShort hoperand
  have hfaulty := Sample.not_isChain_parts_iff operandCount draws Store.empty
  rw [← hscan] at hinfix hoperands hfaulty
  have hplain := plainValue_eq_none_iff hinfix hshort
  obtain ⟨reference, hreference, hnone⟩ :=
    exists_referenceValue_eq_ok hinfix hshort (by omega)
  refine ⟨?_, reference, hreference, hnone.trans hplain.symm, hplain.trans hfaulty⟩
  intro e
  exact evaluate_ne_value (fun t ht => (Token.spelled_of_mem_scan ht).isReadable) Store.empty e

/-- The sample `7 / 0.0` has no value. -/
theorem sample_values_agree_quotient :
    let draws : List Sample.Draw := [⟨1, 0⟩, ⟨0, 7⟩, ⟨0, 3⟩, ⟨0, 0⟩, ⟨0, 0⟩, ⟨0, 0⟩]
    Sample.parts 2 draws = ["7", "/", "0.0"] ∧
      referenceValue (Sample.generate 2 draws) = .ok none ∧
      plainValue (Sample.generate 2 draws) = none := by
  intro draws
  have hparts : Sample.parts 2 draws = ["7", "/", "0.0"] := by decide +kernel
  have hzero : Sample.literalValue "0.0" = 0 := by decide +kernel
  obtain ⟨-, reference, hreference, hagree, hplain⟩ :=
    sample_values_agree (by decide : 2 ≤ 154) draws
  have hnone : plainValue (Sample.generate 2 draws) = none :=
    hplain.mpr ⟨"0.0", ⟨["7"], [], hparts.symm⟩, hzero⟩
  rw [hagree.mpr hnone] at hreference
  exact ⟨hparts, hreference, hnone⟩

end CalcScript
