import CalcScript.Proofs.Expression.Waiting

/-!
# Which token lists have a value

The machine does not look for infix expressions, it only counts. An arriving operator needs one
operand more than there are operators due, and how many are due can be read off the operators
before it. This gives a condition on the kinds of the tokens that is met exactly by the lists with
a value, as far as operands have values and no divisor is zero.
-/
namespace CalcScript

/-- How many operands must stand before an operator, given the operators before it. The first
operator needs none, nor does a product after a sum: neither finds an operator to apply. -/
def operandsNeeded (before : List Operator) (op : Operator) : Nat :=
  match before.getLast? with
  | none => 0
  | some last =>
    if op.isSum then before.length + 1
    else if last.isSum then 0
    else if before.any Operator.isSum then before.length
    else before.length + 1

/-- Before each operator stand the operands that it needs. -/
def Supplied (kinds : List TokenKind) : Prop :=
  ∀ i, ∀ h : i < kinds.length, ∀ op ∈ kinds[i].operator?,
    operandsNeeded ((kinds.take i).filterMap TokenKind.operator?) op ≤
      (kinds.take i).countP TokenKind.isOperand

instance (kinds : List TokenKind) : Decidable (Supplied kinds) :=
  inferInstanceAs (Decidable (∀ i, ∀ h : i < kinds.length, ∀ op ∈ kinds[i].operator?, _ ≤ _))

/-- Operands and operators only, one operand more than operators, and each operator supplied. -/
structure Acceptable (kinds : List TokenKind) : Prop where
  known : ∀ k ∈ kinds, k.isOperand = true ∨ k.operator?.isSome = true
  balanced : kinds.countP TokenKind.isOperand = (kinds.filterMap TokenKind.operator?).length + 1
  supplied : Supplied kinds

theorem acceptable_iff {kinds : List TokenKind} :
    Acceptable kinds ↔ (∀ k ∈ kinds, k.isOperand = true ∨ k.operator?.isSome = true) ∧
      kinds.countP TokenKind.isOperand = (kinds.filterMap TokenKind.operator?).length + 1 ∧
      Supplied kinds :=
  ⟨fun h => ⟨h.known, h.balanced, h.supplied⟩, fun h => ⟨h.1, h.2.1, h.2.2⟩⟩

instance (kinds : List TokenKind) : Decidable (Acceptable kinds) :=
  decidable_of_iff _ acceptable_iff.symm

theorem Supplied.before {before after : List TokenKind} {k : TokenKind} {op : Operator}
    (h : Supplied (before ++ k :: after)) (hop : k.operator? = some op) :
    operandsNeeded (before.filterMap TokenKind.operator?) op ≤
      before.countP TokenKind.isOperand := by
  have hneeded := h before.length (by simp) op (by simpa using hop)
  rwa [List.take_left] at hneeded

theorem supplied_of_append {kinds : List TokenKind}
    (h : ∀ before k after op, kinds = before ++ k :: after → k.operator? = some op →
      operandsNeeded (before.filterMap TokenKind.operator?) op ≤
        before.countP TokenKind.isOperand) : Supplied kinds := by
  intro i hi op hop
  refine h (kinds.take i) kinds[i] (kinds.drop (i + 1)) op ?_ hop
  rw [← List.drop_eq_getElem_cons hi, List.take_append_drop]

/-! ### Tokens and their kinds -/

theorem countP_isOperand_map_kind (ts : List Token) :
    (ts.map Token.kind).countP TokenKind.isOperand = ts.countP Token.isOperand :=
  List.countP_map

theorem length_operators (ts : List Token) :
    ((ts.map Token.kind).filterMap TokenKind.operator?).length = ts.countP Token.isOperator := by
  rw [List.length_filterMap_eq_countP, List.countP_map]
  rfl

theorem map_operator_pending (ts : List Token) :
    (ts.filterMap Token.pending?).map PendingOperator.operator =
      (ts.map Token.kind).filterMap TokenKind.operator? := by
  rw [List.map_filterMap, List.filterMap_map]
  congr 1
  funext t
  cases h : t.kind.operator? <;> simp [Token.pending?, h]

/-! ### What an operator needs -/

namespace Stacks

theorem length_lastSum (read : List PendingOperator) :
    (lastSum read).toList.length = if read.any (·.operator.isSum) then 1 else 0 := by
  by_cases h : read.any (·.operator.isSum) = true
  · obtain ⟨op, hop, hsum⟩ := List.any_eq_true.mp h
    cases hlast : lastSum read with
    | none =>
      rw [lastSum, List.getLast?_eq_none_iff, List.filter_eq_nil_iff] at hlast
      exact absurd hsum (hlast op hop)
    | some last => simp [h]
  · have hnone : read.filter (·.operator.isSum) = [] := by simpa using h
    simp [lastSum, hnone, h]

/-- The operands on the stack suffice for the due operators exactly when enough were read. -/
theorem length_due_waiting_le_iff {read : List PendingOperator} {op : Operator} {held count : Nat}
    (hheld : held + read.length = count + (waiting read).length) :
    (due op.precedence (waiting read)).length ≤ held - 1 ↔
      operandsNeeded (read.map PendingOperator.operator) op ≤ count := by
  rcases List.eq_nil_or_concat' read with rfl | ⟨init, last, rfl⟩
  · simp [operandsNeeded, due]
  · have hneeded : operandsNeeded ((init ++ [last]).map PendingOperator.operator) op =
        if op.isSum then init.length + 2
        else if last.operator.isSum then 0
        else if init.any (·.operator.isSum) then init.length + 1
        else init.length + 2 := by
      by_cases hlast : last.operator.isSum = true
      · simp [operandsNeeded, hlast]
      · simp [operandsNeeded, hlast, Function.comp_def]
    rw [hneeded]
    by_cases hop : op.isSum = true
    · rw [if_pos hop, Operator.precedence_of_isSum hop, due_zero]
      have hpos : 0 < (waiting (init ++ [last])).length := by
        rw [waiting_concat, List.length_cons]
        exact Nat.succ_pos _
      simp only [List.length_append, List.length_singleton] at hheld
      omega
    · rw [if_neg hop, Operator.precedence_of_not_isSum (by simpa using hop),
        (due_one_waiting _).1, finalProduct_concat]
      by_cases hlast : last.operator.isSum = true
      · simp [hlast]
      · rw [if_neg hlast, if_neg hlast, Option.toList_some, List.length_singleton]
        rw [Bool.not_eq_true] at hlast
        rw [waiting_concat_of_not_isSum hlast, List.length_append, List.length_singleton,
          List.length_cons, length_lastSum] at hheld
        split_ifs at hheld ⊢ <;> omega

/-! ### Where a run ends -/

/-- A token stops the machine by its shape only if it is neither operand nor operator, or an
operator that cannot arrive. -/
theorem step_malformed_cases {store : Store} {s : Stacks} {t : Token} {m : Malformation}
    (h : step store s t = .error (.error (.malformed m))) :
    (t.isOperand = false ∧ t.isOperator = false) ∨
      ∃ op, t.kind.operator? = some op ∧
        s.pushOperator ⟨op, t.lexeme⟩ = .error (.malformed m) := by
  unfold step at h
  split at h
  · next hk =>
    cases hx : Number.read? t.lexeme <;>
      simp [Token.value, hk, hx, Except.mapError, Except.map] at h
  · split at h <;> cases h
  · next hk =>
    simp [Token.isOperand, Token.isOperator, hk, TokenKind.isOperand, TokenKind.operator?]
  · next hk =>
    simp [Token.isOperand, Token.isOperator, hk, TokenKind.isOperand, TokenKind.operator?]
  · next hnumber hidentifier _ _ =>
    split at h
    · next op hop => exact .inr ⟨op, hop, mapError_eq_error.mp h⟩
    · next hop =>
      left
      simpa [Token.isOperand, TokenKind.isOperand, Token.isOperator, hop] using
        And.intro hnumber hidentifier

theorem length_ne_of_result_malformed {s : Stacks} {m : Malformation}
    (h : s.result = .error (.malformed m)) : s.operands.length ≠ s.operators.length + 1 := by
  intro hlength
  unfold result at h
  split at h
  · cases h
  · next r hsingle hr =>
    have hreduced := reduceFrom_length hr
    rw [reduceFrom_zero_operators hr, List.length_nil] at hreduced
    obtain ⟨x, hx⟩ := List.length_eq_one_iff.mp (show r.operands.length = 1 by omega)
    exact hsingle x r.operators (by rw [← hx])
  · next e he =>
    cases h
    have hshort := lt_length_due he (by simp)
    rw [due_zero] at hshort
    omega

theorem length_due_le_iff {store : Store} {before : List Token} {s : Stacks}
    (h : run store .empty before = .ok s) (op : Operator) :
    (due op.precedence s.operators).length ≤ s.operands.length - 1 ↔
      operandsNeeded ((before.map Token.kind).filterMap TokenKind.operator?) op ≤
        (before.map Token.kind).countP TokenKind.isOperand := by
  have hwaiting : s.operators = waiting (before.filterMap Token.pending?) :=
    run_waiting h waiting_nil.symm
  have hbalance := run_balance h
  have hread : (before.filterMap Token.pending?).length = before.countP Token.isOperator := by
    rw [← length_operators, ← map_operator_pending, List.length_map]
  simp only [empty, List.length_nil, hwaiting] at hbalance
  rw [hwaiting, ← map_operator_pending, countP_isOperand_map_kind]
  apply length_due_waiting_le_iff
  omega

end Stacks

open Stacks

/-! ### Values and malformed expressions -/

variable {store : Store} {ts : List Token}

theorem acceptable_of_evaluate {x : Float} (h : evaluate store ts = .ok x) :
    Acceptable (ts.map Token.kind) := by
  obtain ⟨hknown, hbalanced⟩ := balanced_of_evaluate h
  refine ⟨fun k hk => ?_, ?_, supplied_of_append fun before k after op hts hop => ?_⟩
  · obtain ⟨t, ht, rfl⟩ := List.mem_map.mp hk
    exact hknown t ht
  · rw [countP_isOperand_map_kind, length_operators]
    exact hbalanced
  · obtain ⟨us, vs, rfl, rfl, hvs⟩ := List.map_eq_append_iff.mp hts
    obtain ⟨t, rest, rfl, rfl, -⟩ := List.map_eq_cons_iff.mp hvs
    obtain ⟨s, hrun, -⟩ := evaluate_eq_ok_iff.mp h
    obtain ⟨s₁, hbefore, hrest⟩ := run_append_cases hrun
    obtain ⟨s₂, hstep, -⟩ := run_cons_cases hrest
    rw [step_operator hop, mapError_eq_ok] at hstep
    obtain ⟨r, hr, -⟩ := pushOperator_cases hstep
    exact (length_due_le_iff hbefore op).mp (length_due_le hr)

theorem not_acceptable_of_evaluate {m : Malformation}
    (h : evaluate store ts = .error (.error (.malformed m))) :
    ¬ Acceptable (ts.map Token.kind) := by
  intro hts
  cases hrun : run store .empty ts with
  | error f =>
    rw [evaluate_of_run_error hrun] at h
    cases h
    -- The machine stopped at a token, for its kind or for want of operands before it.
    obtain ⟨before, t, after, s, rfl, hbefore, hstep⟩ := run_error_cases hrun
    rcases step_malformed_cases hstep with ⟨hoperand, hoperator⟩ | ⟨op, hop, hpush⟩
    · have hknown : t.isOperand = true ∨ t.isOperator = true := hts.known t.kind (by simp)
      simp [hoperand, hoperator] at hknown
    · have hsupplied := hts.supplied
      rw [List.map_append, List.map_cons] at hsupplied
      have henough := (length_due_le_iff hbefore op).mpr (hsupplied.before hop)
      have hshort := lt_length_due (pushOperator_error_cases hpush) (by simp)
      exact absurd henough (Nat.not_le.mpr hshort)
  | ok s =>
    -- All tokens were read, so the balance alone decides.
    rw [evaluate_of_run hrun, mapError_eq_error] at h
    have hbalance := run_balance hrun
    have hbalanced := hts.balanced
    rw [countP_isOperand_map_kind, length_operators] at hbalanced
    simp only [empty, List.length_nil] at hbalance
    apply length_ne_of_result_malformed h
    omega

/-- Where every operand that is met has a value and no division meets a zero, a token list has a
value exactly when its kinds are acceptable, and is malformed otherwise. -/
theorem evaluate_iff_acceptable (hvalue : ∀ e, evaluate store ts ≠ .error (.value e))
    (hundefined : ∀ name, evaluate store ts ≠ .error (.error (.undefinedVariable name)))
    (hzero : evaluate store ts ≠ .error (.error .divisionByZero)) :
    ((∃ x, evaluate store ts = .ok x) ↔ Acceptable (ts.map Token.kind)) ∧
      ((∃ m, evaluate store ts = .error (.error (.malformed m))) ↔
        ¬ Acceptable (ts.map Token.kind)) := by
  cases h : evaluate store ts with
  | ok x => simpa using acceptable_of_evaluate h
  | error f =>
    cases f with
    | value e => exact absurd h (hvalue e)
    | error e =>
      cases e with
      | undefinedVariable name => exact absurd h (hundefined name)
      | divisionByZero => exact absurd h hzero
      | malformed m => simpa using not_acceptable_of_evaluate h

/-- In `+ 1 * 2 * 3 4` the second product is due an operand of the sum that waits below it. -/
theorem evaluate_iff_acceptable_prefixed :
    let ts : List Token := [⟨.plus, "+"⟩, ⟨.number, "1"⟩, ⟨.star, "*"⟩, ⟨.number, "2"⟩,
      ⟨.star, "*"⟩, ⟨.number, "3"⟩, ⟨.number, "4"⟩]
    (evaluate .empty ts).isOk = true ∧
      ((∃ x, evaluate .empty ts = .ok x) ↔ Acceptable (ts.map Token.kind)) ∧
      ((∃ m, evaluate .empty ts = .error (.error (.malformed m))) ↔
        ¬ Acceptable (ts.map Token.kind)) := by
  intro ts
  have hok : (evaluate .empty ts).isOk = true := by decide +kernel
  have hne (f : EvalFailure) : evaluate .empty ts ≠ .error f := by
    intro h
    rw [h] at hok
    cases hok
  exact ⟨hok, evaluate_iff_acceptable (fun e => hne _) (fun name => hne _) (hne _)⟩

example : Acceptable [.plus, .number, .star, .number, .star, .number, .number] ∧
    ¬ Acceptable [.number, .star, .star, .number, .number] := by
  decide

end CalcScript
