import CalcScript.Proofs.Expression.Balance

/-!
# Waiting operators

An operator that arrives drives out the waiting ones that bind at least as tightly, and there are
only two levels. So of all operators read, those that still wait are the last one, if it is no sum,
above the last sum. Applying the due ones among them runs short of operands exactly when there are
not more operands than operators to apply; nothing else but a division by zero can stop it.
-/
namespace CalcScript

def Operator.isSum : Operator → Bool
  | .add => true
  | .sub => true
  | .mul => false
  | .div => false

theorem Operator.precedence_of_isSum {op : Operator} (h : op.isSum = true) :
    op.precedence = 0 := by
  cases op <;> simp_all [isSum, precedence]

theorem Operator.precedence_of_not_isSum {op : Operator} (h : op.isSum = false) :
    op.precedence = 1 := by
  cases op <;> simp_all [isSum, precedence]

def Token.pending? (t : Token) : Option PendingOperator :=
  t.kind.operator?.map fun op => ⟨op, t.lexeme⟩

namespace Stacks

/-! ### Which operators wait -/

def lastSum (read : List PendingOperator) : Option PendingOperator :=
  (read.filter (·.operator.isSum)).getLast?

/-- The last operator read, if it is no sum. -/
def finalProduct (read : List PendingOperator) : Option PendingOperator :=
  read.getLast?.filter (!·.operator.isSum)

/-- The operators that still wait when some were read. -/
def waiting (read : List PendingOperator) : List PendingOperator :=
  (finalProduct read).toList ++ (lastSum read).toList

@[simp] theorem waiting_nil : waiting [] = [] := rfl

theorem isSum_of_mem_lastSum {read : List PendingOperator} {op : PendingOperator}
    (h : op ∈ lastSum read) : op.operator.isSum = true :=
  (List.mem_filter.mp (List.mem_of_getLast? h)).2

theorem isSum_of_mem_finalProduct {read : List PendingOperator} {op : PendingOperator}
    (h : op ∈ finalProduct read) : op.operator.isSum = false := by
  rw [finalProduct, Option.mem_def, Option.filter_eq_some_iff, Bool.not_eq_true'] at h
  exact h.2

theorem finalProduct_concat (read : List PendingOperator) (op : PendingOperator) :
    finalProduct (read ++ [op]) = if op.operator.isSum then none else some op := by
  by_cases h : op.operator.isSum = true <;> simp [finalProduct, Option.filter, h]

theorem lastSum_concat (read : List PendingOperator) (op : PendingOperator) :
    lastSum (read ++ [op]) = if op.operator.isSum then some op else lastSum read := by
  by_cases h : op.operator.isSum = true <;> simp [lastSum, h]

theorem waiting_concat_of_isSum {op : PendingOperator} (h : op.operator.isSum = true)
    (read : List PendingOperator) : waiting (read ++ [op]) = [op] := by
  rw [waiting, finalProduct_concat, lastSum_concat, if_pos h, if_pos h]
  rfl

theorem waiting_concat_of_not_isSum {op : PendingOperator} (h : op.operator.isSum = false)
    (read : List PendingOperator) : waiting (read ++ [op]) = op :: (lastSum read).toList := by
  rw [waiting, finalProduct_concat, lastSum_concat, if_neg (by simp [h]), if_neg (by simp [h])]
  rfl

/-- The waiting operators that are due when one of the given level arrives. -/
def due (level : Nat) (operators : List PendingOperator) : List PendingOperator :=
  operators.takeWhile fun op => level ≤ op.operator.precedence

def staying (level : Nat) (operators : List PendingOperator) : List PendingOperator :=
  operators.dropWhile fun op => level ≤ op.operator.precedence

theorem due_zero (operators : List PendingOperator) : due 0 operators = operators := by
  simp [due]

theorem staying_zero (operators : List PendingOperator) : staying 0 operators = [] := by
  simp [staying]

theorem due_one_lastSum (read : List PendingOperator) :
    due 1 (lastSum read).toList = [] ∧ staying 1 (lastSum read).toList = (lastSum read).toList := by
  cases hlast : lastSum read with
  | none => exact ⟨rfl, rfl⟩
  | some op =>
    have hsum := Operator.precedence_of_isSum (isSum_of_mem_lastSum hlast)
    simp [due, staying, hsum]

theorem due_one_waiting (read : List PendingOperator) :
    due 1 (waiting read) = (finalProduct read).toList ∧
      staying 1 (waiting read) = (lastSum read).toList := by
  obtain ⟨hdue, hstaying⟩ := due_one_lastSum read
  unfold waiting
  cases hlast : finalProduct read with
  | none => exact ⟨hdue, hstaying⟩
  | some op =>
    have hproduct := Operator.precedence_of_not_isSum (isSum_of_mem_finalProduct hlast)
    simp only [due, staying] at hdue hstaying ⊢
    simp [hproduct, hdue, hstaying]

/-- One more operator is put on those that stay. -/
theorem waiting_concat (read : List PendingOperator) (op : PendingOperator) :
    waiting (read ++ [op]) = op :: staying op.operator.precedence (waiting read) := by
  by_cases h : op.operator.isSum = true
  · rw [waiting_concat_of_isSum h, Operator.precedence_of_isSum h, staying_zero]
  · rw [Bool.not_eq_true] at h
    rw [waiting_concat_of_not_isSum h, Operator.precedence_of_not_isSum h,
      (due_one_waiting read).2]

theorem reduceFrom_operators {level : Nat} {operands : List Float}
    {operators : List PendingOperator} {s : Stacks}
    (h : reduceFrom level operands operators = .ok s) : s.operators = staying level operators := by
  induction operators generalizing operands with
  | nil =>
    cases h
    rfl
  | cons op rest ih =>
    rcases reduceFrom_cons_cases h with ⟨hlevel, operands', -, hrest⟩ | ⟨hlevel, rfl⟩
    · rw [ih hrest]
      simp [staying, hlevel]
    · simp [staying, hlevel]

theorem step_waiting {store : Store} {s s' : Stacks} {t : Token} {read : List PendingOperator}
    (h : step store s t = .ok s') (hs : s.operators = waiting read) :
    s'.operators = waiting (read ++ t.pending?.toList) := by
  rcases step_cases h with ⟨x, hx, rfl⟩ | ⟨op, hop, hpush⟩
  · have hnot := Token.isOperator_of_isOperand (Token.isOperand_of_operand? hx)
    rw [Token.isOperator, Option.isSome_eq_false_iff, Option.isNone_iff_eq_none] at hnot
    simpa [Token.pending?, hnot] using hs
  · obtain ⟨r, hr, rfl⟩ := pushOperator_cases hpush
    rw [hs] at hr
    simp only [Token.pending?, hop, Option.map_some, Option.toList_some]
    rw [waiting_concat, reduceFrom_operators hr]

/-- What waits depends on the operators read, and on nothing else. -/
theorem run_waiting {store : Store} {s s' : Stacks} {ts : List Token} {read : List PendingOperator}
    (h : run store s ts = .ok s') (hs : s.operators = waiting read) :
    s'.operators = waiting (read ++ ts.filterMap Token.pending?) := by
  induction ts generalizing s read with
  | nil =>
    cases h
    simpa using hs
  | cons t rest ih =>
    obtain ⟨s₁, hstep, hrest⟩ := run_cons_cases h
    have hnext := ih hrest (step_waiting hstep hs)
    rw [hnext, List.append_assoc]
    congr 2
    cases ht : t.pending? <;> simp [ht]

/-! ### When operands run short -/

/-- Where the due operators were applied there were more operands than operators. -/
theorem length_due_le {level : Nat} {operands : List Float} {operators : List PendingOperator}
    {s : Stacks} (h : reduceFrom level operands operators = .ok s) :
    (due level operators).length ≤ operands.length - 1 := by
  induction operators generalizing operands with
  | nil => exact Nat.zero_le _
  | cons op rest ih =>
    rcases reduceFrom_cons_cases h with ⟨hlevel, operands', hr, hrest⟩ | ⟨hlevel, rfl⟩
    · obtain ⟨left, right, tail, x, rfl, -, rfl⟩ := reduce_cases hr
      have hlen := ih hrest
      simp only [due, List.takeWhile_cons, hlevel, decide_true, if_true, List.length_cons]
        at hlen ⊢
      omega
    · simp [due, hlevel]

theorem reduce_error_cases {op : PendingOperator} {operands : List Float} {e : EvalError}
    (h : reduce op operands = .error e) : e = .divisionByZero ∨ operands.length < 2 := by
  unfold reduce at h
  split at h
  · next right left rest =>
    left
    cases hx : op.operator.apply left right with
    | ok x => simp [hx] at h
    | error e =>
      rw [hx] at h
      cases h
      exact Operator.apply_eq_error hx
  · next hshort =>
    right
    match operands, hshort with
    | [], _ => simp
    | [x], _ => simp
    | right :: left :: rest, hshort => exact absurd rfl (hshort right left rest)

/-- Where applying the due operators fails otherwise than at a zero divisor, operands run short. -/
theorem lt_length_due {level : Nat} {operands : List Float} {operators : List PendingOperator}
    {e : EvalError} (h : reduceFrom level operands operators = .error e)
    (hne : e ≠ .divisionByZero) : operands.length - 1 < (due level operators).length := by
  induction operators generalizing operands with
  | nil => cases h
  | cons op rest ih =>
    rw [reduceFrom] at h
    by_cases hlevel : level ≤ op.operator.precedence
    · rw [if_pos hlevel] at h
      simp only [due, List.takeWhile_cons, hlevel, decide_true, if_true, List.length_cons]
      split at h
      · -- one operator and one operand less, so the shortage is that of the rest
        next operands' hr =>
        obtain ⟨left, right, tail, x, rfl, -, rfl⟩ := reduce_cases hr
        have hrest := ih h
        simp only [due, List.length_cons] at hrest ⊢
        omega
      · next e' hr =>
        cases h
        have hshort := (reduce_error_cases hr).resolve_left hne
        omega
    · rw [if_neg hlevel] at h
      cases h

end Stacks
end CalcScript
