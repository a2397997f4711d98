import CalcScript.Proofs.Expression.Stacks

/-!
# Balanced expressions

The machine only counts. Each token changes the lengths of the stacks by what it adds to the counts
of operands and operators, so a list with a value has one operand more than operators. Such a list
is an infix expression exactly when no two operands are neighbours in it; with neighbouring operands
there are lists that have a value and are no infix expressions.
-/
namespace CalcScript
namespace Stacks

/-- What one token adds to the difference between the stacks. -/
theorem step_balance {store : Store} {s s' : Stacks} {t : Token} (h : step store s t = .ok s') :
    s'.operands.length + s.operators.length + [t].countP Token.isOperator =
      s.operands.length + s'.operators.length + [t].countP Token.isOperand := by
  rcases step_cases h with ⟨x, hx, rfl⟩ | ⟨op, hop, hpush⟩
  · have ht := Token.isOperand_of_operand? hx
    have hnot := Token.isOperator_of_isOperand ht
    simp only [push_operands, push_operators, List.length_cons, List.countP_singleton, ht, hnot]
    simp only [Bool.false_eq_true, if_true, if_false]
    omega
  · have ht := Token.isOperator_of_operator? hop
    have hnot := Token.isOperand_of_isOperator ht
    obtain ⟨r, hr, rfl⟩ := pushOperator_cases hpush
    have hlen := reduceFrom_length hr
    simp only [List.length_cons, List.countP_singleton, ht, hnot]
    simp only [Bool.false_eq_true, if_true, if_false]
    omega

/-- The difference between the stacks is that between the operands and operators read. -/
theorem run_balance {store : Store} {s s' : Stacks} {ts : List Token}
    (h : run store s ts = .ok s') :
    s'.operands.length + s.operators.length + ts.countP Token.isOperator =
      s.operands.length + s'.operators.length + ts.countP Token.isOperand := by
  induction ts generalizing s with
  | nil =>
    cases h
    simp
  | cons t rest ih =>
    obtain ⟨s₁, hstep, hrest⟩ := run_cons_cases h
    have hhead := step_balance hstep
    have htail := ih hrest
    rw [← List.singleton_append, List.countP_append, List.countP_append]
    omega

theorem isOperand_or_isOperator_of_run {store : Store} {s s' : Stacks} {ts : List Token}
    (h : run store s ts = .ok s') : ∀ t ∈ ts, t.isOperand = true ∨ t.isOperator = true := by
  induction ts generalizing s with
  | nil => simp
  | cons t rest ih =>
    obtain ⟨s₁, hstep, hrest⟩ := run_cons_cases h
    have hhead : t.isOperand = true ∨ t.isOperator = true := by
      rcases step_cases hstep with ⟨x, hx, -⟩ | ⟨op, hop, -⟩
      · exact Or.inl (Token.isOperand_of_operand? hx)
      · exact Or.inr (Token.isOperator_of_operator? hop)
    exact List.forall_mem_cons.mpr ⟨hhead, ih hrest⟩

end Stacks

open Stacks

theorem balanced_of_evaluate {store : Store} {ts : List Token} {x : Float}
    (h : evaluate store ts = .ok x) :
    (∀ t ∈ ts, t.isOperand = true ∨ t.isOperator = true) ∧
      ts.countP Token.isOperand = ts.countP Token.isOperator + 1 := by
  obtain ⟨s, hrun, hresult⟩ := evaluate_eq_ok_iff.mp h
  have hscan := run_balance hrun
  have hend := reduceFrom_length (result_eq_ok_iff.mp hresult)
  simp only [empty, List.length_nil, List.length_singleton] at hscan hend
  exact ⟨isOperand_or_isOperator_of_run hrun, by omega⟩

/-- When a value implies an infix expression: where evaluation fails, and where no two operands are
neighbours. A list with a value is balanced in any case. -/
theorem infix_of_value_iff (store : Store) (ts : List Token) :
    (((∃ x, evaluate store ts = .ok x) → isInfix ts = true) ↔
        (∃ e, evaluate store ts = .error e) ∨ ts.IsChain Parted) ∧
      ((∃ x, evaluate store ts = .ok x) →
        (∀ t ∈ ts, t.isOperand = true ∨ t.isOperator = true) ∧
          ts.countP Token.isOperand = ts.countP Token.isOperator + 1) := by
  cases h : evaluate store ts with
  | error e => simp
  | ok x =>
    obtain ⟨hkind, hcount⟩ := balanced_of_evaluate h
    refine ⟨?_, fun _ => ⟨hkind, hcount⟩⟩
    simpa using isInfix_iff_of_balanced hkind hcount

/-- `1 2 +` and `- 1 2` have values and are no infix expressions. -/
theorem value_without_infix :
    (evaluate .empty [⟨.number, "1"⟩, ⟨.number, "2"⟩, ⟨.plus, "+"⟩] = .ok 3 ∧
      isInfix [⟨.number, "1"⟩, ⟨.number, "2"⟩, ⟨.plus, "+"⟩] = false) ∧
    (evaluate .empty [⟨.minus, "-"⟩, ⟨.number, "1"⟩, ⟨.number, "2"⟩] = .ok (-1) ∧
      isInfix [⟨.minus, "-"⟩, ⟨.number, "1"⟩, ⟨.number, "2"⟩] = false) := by
  refine ⟨⟨?_, ?_⟩, ?_, ?_⟩ <;> rfl

end CalcScript
