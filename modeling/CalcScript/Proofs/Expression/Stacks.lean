import CalcScript.Expression.Evaluate
import CalcScript.Proofs.Expression.Infix

/-!
# Laws of the two-stack machine

One token either pushes the value of an operand or lets an operator arrive; no other token is read.
Applying the waiting operators of some level keeps the difference between the lengths of the two
stacks, and applying those of a high level first changes nothing for a lower one. These laws are
all that later arguments know about a step.
-/
namespace CalcScript

theorem mapError_eq_ok {ε ε' α : Type} {r : Except ε α} {f : ε → ε'} {a : α} :
    r.mapError f = .ok a ↔ r = .ok a := by
  cases r <;> simp [Except.mapError]

theorem mapError_eq_error {α : Type} {r : Except EvalError α} {e : EvalError} :
    r.mapError EvalFailure.error = .error (.error e) ↔ r = .error e := by
  cases r <;> simp [Except.mapError]

def Token.operand? (store : Store) (t : Token) : Option Float :=
  match t.kind with
  | .number => Number.read? t.lexeme
  | .identifier => store.get? t.lexeme
  | _ => none

theorem Token.isOperand_of_operand? {store : Store} {t : Token} {x : Float}
    (h : t.operand? store = some x) : t.isOperand = true := by
  unfold operand? at h
  split at h
  · next hk => exact isOperand_iff.mpr (.inl hk)
  · next hk => exact isOperand_iff.mpr (.inr hk)
  · cases h

@[simp] theorem Stacks.push_operands (s : Stacks) (x : Float) :
    (s.push x).operands = x :: s.operands := rfl

@[simp] theorem Stacks.push_operators (s : Stacks) (x : Float) :
    (s.push x).operators = s.operators := rfl

variable [Arithmetic]

theorem Operator.apply_eq_error {op : Operator} {left right : Float} {e : EvalError}
    (h : op.apply left right = .error e) : e = .divisionByZero := by
  cases op with
  | div =>
    rw [apply] at h
    split_ifs at h
    cases h
    rfl
  | _ => cases h

namespace Stacks

theorem step_operand {store : Store} {t : Token} {x : Float} (h : t.operand? store = some x)
    (s : Stacks) : step store s t = .ok (s.push x) := by
  unfold Token.operand? at h
  split at h
  · next hk => simp [step, hk, Token.value, h, Except.mapError, Except.map]
  · next hk => simp [step, hk, h]
  · cases h

theorem step_operator {t : Token} {op : Operator} (h : t.kind.operator? = some op) (store : Store)
    (s : Stacks) : step store s t = (s.pushOperator ⟨op, t.lexeme⟩).mapError .error := by
  unfold step
  cases hk : t.kind <;> rw [hk] at h <;> cases h <;> rfl

/-- All that a step can do: push an operand's value or let an operator arrive. -/
theorem step_cases {store : Store} {s s' : Stacks} {t : Token} (h : step store s t = .ok s') :
    (∃ x, t.operand? store = some x ∧ s' = s.push x) ∨
      ∃ op, t.kind.operator? = some op ∧ s.pushOperator ⟨op, t.lexeme⟩ = .ok s' := by
  unfold step at h
  split at h
  · next hk =>
    left
    cases hx : Number.read? t.lexeme with
    | none => simp [Token.value, hk, hx, Except.mapError, Except.map] at h
    | some x =>
      simp only [Token.value, hk, hx, if_true, Except.mapError, Except.map, Except.ok.injEq] at h
      exact ⟨x, by simp [Token.operand?, hk, hx], h.symm⟩
  · next hk =>
    left
    cases hx : store.get? t.lexeme with
    | none => simp [hx] at h
    | some x =>
      simp only [hx, Except.ok.injEq] at h
      exact ⟨x, by simp [Token.operand?, hk, hx], h.symm⟩
  · cases h
  · cases h
  · right
    split at h
    · next op hop => exact ⟨op, hop, mapError_eq_ok.mp h⟩
    · cases h

def run (store : Store) (s : Stacks) (ts : List Token) : Except EvalFailure Stacks :=
  ts.foldlM (step store) s

@[simp] theorem run_nil (store : Store) (s : Stacks) : run store s [] = .ok s := rfl

theorem run_cons {store : Store} {s s' : Stacks} {t : Token} (h : step store s t = .ok s')
    (ts : List Token) : run store s (t :: ts) = run store s' ts := by
  rw [run, List.foldlM_cons, h]
  rfl

theorem run_cons_error {store : Store} {s : Stacks} {t : Token} {f : EvalFailure}
    (h : step store s t = .error f) (ts : List Token) : run store s (t :: ts) = .error f := by
  rw [run, List.foldlM_cons, h]
  rfl

theorem run_append {store : Store} {s s' : Stacks} {ts : List Token}
    (h : run store s ts = .ok s') (us : List Token) :
    run store s (ts ++ us) = run store s' us := by
  rw [run] at h
  rw [run, List.foldlM_append, h]
  rfl

theorem run_cons_cases {store : Store} {s s' : Stacks} {t : Token} {ts : List Token}
    (h : run store s (t :: ts) = .ok s') :
    ∃ s₁, step store s t = .ok s₁ ∧ run store s₁ ts = .ok s' := by
  cases hs : step store s t with
  | error e =>
    rw [run_cons_error hs] at h
    cases h
  | ok s₁ => exact ⟨s₁, rfl, by rw [← run_cons hs, h]⟩

theorem run_append_cases {store : Store} {s s' : Stacks} {ts us : List Token}
    (h : run store s (ts ++ us) = .ok s') :
    ∃ s₁, run store s ts = .ok s₁ ∧ run store s₁ us = .ok s' := by
  induction ts generalizing s with
  | nil => exact ⟨s, rfl, h⟩
  | cons t rest ih =>
    obtain ⟨s₁, hstep, hrest⟩ := run_cons_cases h
    obtain ⟨s₂, hfirst, hlast⟩ := ih hrest
    exact ⟨s₂, by rw [run_cons hstep, hfirst], hlast⟩

theorem run_error_cases {store : Store} {s : Stacks} {ts : List Token} {f : EvalFailure}
    (h : run store s ts = .error f) :
    ∃ before t after s', ts = before ++ t :: after ∧ run store s before = .ok s' ∧
      step store s' t = .error f := by
  induction ts generalizing s with
  | nil => cases h
  | cons t rest ih =>
    cases hstep : step store s t with
    | error g =>
      rw [run_cons_error hstep] at h
      cases h
      exact ⟨[], t, rest, s, rfl, rfl, hstep⟩
    | ok s₁ =>
      rw [run_cons hstep] at h
      obtain ⟨before, u, after, s', rfl, hbefore, hu⟩ := ih h
      exact ⟨t :: before, u, after, s', rfl, by rw [run_cons hstep, hbefore], hu⟩

theorem reduce_cases {op : PendingOperator} {operands operands' : List Float}
    (h : reduce op operands = .ok operands') :
    ∃ left right rest x, operands = right :: left :: rest ∧ op.operator.apply left right = .ok x ∧
      operands' = x :: rest := by
  unfold reduce at h
  split at h
  · next right left rest =>
    cases hx : op.operator.apply left right with
    | error e => simp [hx] at h
    | ok x =>
      simp only [hx, Except.ok.injEq] at h
      exact ⟨left, right, rest, x, rfl, hx, h.symm⟩
  · cases h

theorem reduce_eq_ok {op : PendingOperator} {left right x : Float}
    (h : op.operator.apply left right = .ok x) (rest : List Float) :
    reduce op (right :: left :: rest) = .ok (x :: rest) := by
  simp [reduce, h]

theorem reduceFrom_of_loose {level : Nat} {operators : List PendingOperator}
    (h : ∀ op ∈ operators.head?, op.operator.precedence < level) (operands : List Float) :
    reduceFrom level operands operators = .ok ⟨operands, operators⟩ := by
  cases operators with
  | nil => rfl
  | cons op rest => rw [reduceFrom, if_neg (by simpa using h)]

theorem reduceFrom_cons {level : Nat} {op : PendingOperator}
    {operands operands' : List Float} (hlevel : level ≤ op.operator.precedence)
    (h : reduce op operands = .ok operands') (rest : List PendingOperator) :
    reduceFrom level operands (op :: rest) = reduceFrom level operands' rest := by
  rw [reduceFrom, if_pos hlevel, h]

/-- All that can become of the topmost operator: it is applied, or it stays with those below. -/
theorem reduceFrom_cons_cases {level : Nat} {op : PendingOperator} {operands : List Float}
    {rest : List PendingOperator} {s : Stacks}
    (h : reduceFrom level operands (op :: rest) = .ok s) :
    (level ≤ op.operator.precedence ∧ ∃ operands', reduce op operands = .ok operands' ∧
        reduceFrom level operands' rest = .ok s) ∨
      ¬ level ≤ op.operator.precedence ∧ s = ⟨operands, op :: rest⟩ := by
  rw [reduceFrom] at h
  split at h
  · next hlevel =>
    split at h
    · next operands' hr => exact .inl ⟨hlevel, operands', hr, h⟩
    · cases h
  · next hlevel =>
    cases h
    exact .inr ⟨hlevel, rfl⟩

/-- The waiting operators that bind tightly may be applied first. -/
theorem reduceFrom_of_le {low high : Nat} (hle : low ≤ high) {operands : List Float}
    {operators : List PendingOperator} {s : Stacks}
    (h : reduceFrom high operands operators = .ok s) :
    reduceFrom low operands operators = reduceFrom low s.operands s.operators := by
  induction operators generalizing operands with
  | nil =>
    cases h
    rfl
  | cons op rest ih =>
    rcases reduceFrom_cons_cases h with ⟨hhigh, operands', hr, hrest⟩ | ⟨-, rfl⟩
    · rw [reduceFrom_cons (hle.trans hhigh) hr, ih hrest]
    · rfl

theorem reduceFrom_length {level : Nat} {operands : List Float} {operators : List PendingOperator}
    {s : Stacks} (h : reduceFrom level operands operators = .ok s) :
    operands.length + s.operators.length = s.operands.length + operators.length := by
  induction operators generalizing operands with
  | nil =>
    cases h
    simp
  | cons op rest ih =>
    rcases reduceFrom_cons_cases h with ⟨-, operands', hr, hrest⟩ | ⟨-, rfl⟩
    · obtain ⟨left, right, tail, x, rfl, -, rfl⟩ := reduce_cases hr
      have hlen := ih hrest
      simp only [List.length_cons] at hlen ⊢
      omega
    · rfl

theorem reduceFrom_zero_operators {operands : List Float} {operators : List PendingOperator}
    {s : Stacks} (h : reduceFrom 0 operands operators = .ok s) : s.operators = [] := by
  induction operators generalizing operands with
  | nil =>
    cases h
    rfl
  | cons op rest ih =>
    rcases reduceFrom_cons_cases h with ⟨-, operands', -, hrest⟩ | ⟨hlevel, -⟩
    · exact ih hrest
    · exact absurd (Nat.zero_le _) hlevel

theorem pushOperator_cases {s s' : Stacks} {op : PendingOperator}
    (h : s.pushOperator op = .ok s') :
    ∃ r, reduceFrom op.operator.precedence s.operands s.operators = .ok r ∧
      s' = ⟨r.operands, op :: r.operators⟩ := by
  unfold pushOperator at h
  split at h
  · next r hr =>
    cases h
    exact ⟨r, hr, rfl⟩
  · cases h

theorem pushOperator_error_cases {s : Stacks} {op : PendingOperator} {e : EvalError}
    (h : s.pushOperator op = .error e) :
    reduceFrom op.operator.precedence s.operands s.operators = .error e := by
  unfold pushOperator at h
  split at h
  · cases h
  · next e' he =>
    cases h
    exact he

theorem pushOperator_eq_ok {s r : Stacks} {op : PendingOperator}
    (h : reduceFrom op.operator.precedence s.operands s.operators = .ok r) :
    s.pushOperator op = .ok ⟨r.operands, op :: r.operators⟩ := by
  rw [pushOperator, h]

/-- A state has a value when reducing it leaves that value alone. -/
theorem result_eq_ok_iff {s : Stacks} {x : Float} :
    s.result = .ok x ↔ reduceFrom 0 s.operands s.operators = .ok ⟨[x], []⟩ := by
  constructor
  · intro h
    unfold result at h
    split at h
    · next y operators hr =>
      have hops := reduceFrom_zero_operators hr
      simp only [Except.ok.injEq] at h hops
      rw [hr, h, hops]
    · cases h
    · cases h
  · intro h
    rw [result, h]

end Stacks

theorem evaluate_of_run {store : Store} {ts : List Token} {s : Stacks}
    (h : Stacks.run store .empty ts = .ok s) : evaluate store ts = s.result.mapError .error := by
  rw [Stacks.run] at h
  rw [evaluate, h]

theorem evaluate_of_run_error {store : Store} {ts : List Token} {f : EvalFailure}
    (h : Stacks.run store .empty ts = .error f) : evaluate store ts = .error f := by
  rw [Stacks.run] at h
  rw [evaluate, h]

theorem evaluate_eq_ok_iff {store : Store} {ts : List Token} {x : Float} :
    evaluate store ts = .ok x ↔
      ∃ s, Stacks.run store .empty ts = .ok s ∧ s.result = .ok x := by
  cases hs : Stacks.run store .empty ts with
  | error e => simp [evaluate_of_run_error hs]
  | ok s => simp [evaluate_of_run hs, mapError_eq_ok]

end CalcScript
