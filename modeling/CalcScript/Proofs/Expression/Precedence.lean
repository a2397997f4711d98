import CalcScript.Proofs.Expression.Stacks

/-!
# The precedence grammar

A term is an operand, multiplied or divided by operands; an expression is a term, to which terms are
added or from which they are subtracted. Both levels take their operations from the left. The two
relations below give each token list of the grammar its value, operation by operation, and the
two-stack machine computes that value: while it reads a term, what waits on the stacks reduces to
the term's value so far, on top of the unfinished sum. The operations themselves are left open: the
machine applies the same ones to the same numbers, whatever they are.
-/
namespace CalcScript

section
variable [Arithmetic]

/-- `term = operand ((* | /) operand)*`, with its value. -/
inductive TermValue (store : Store) : List Token → Float → Prop where
  | operand {t : Token} {x : Float} (ht : t.operand? store = some x) : TermValue store [t] x
  | mul {ts : List Token} {op t : Token} {x y : Float} (hts : TermValue store ts x)
      (hop : op.kind = .star) (ht : t.operand? store = some y) :
      TermValue store (ts ++ [op, t]) (Arithmetic.mul x y)
  | div {ts : List Token} {op t : Token} {x y : Float} (hts : TermValue store ts x)
      (hop : op.kind = .slash) (ht : t.operand? store = some y) :
      TermValue store (ts ++ [op, t]) (Arithmetic.div x y)

/-- `expression = term ((+ | -) term)*`, with its value. -/
inductive ExpressionValue (store : Store) : List Token → Float → Prop where
  | term {ts : List Token} {x : Float} (hts : TermValue store ts x) : ExpressionValue store ts x
  | add {ts us : List Token} {op : Token} {x y : Float} (hts : ExpressionValue store ts x)
      (hop : op.kind = .plus) (hus : TermValue store us y) :
      ExpressionValue store (ts ++ op :: us) (Arithmetic.add x y)
  | sub {ts us : List Token} {op : Token} {x y : Float} (hts : ExpressionValue store ts x)
      (hop : op.kind = .minus) (hus : TermValue store us y) :
      ExpressionValue store (ts ++ op :: us) (Arithmetic.sub x y)

/-- A token and its right neighbour do not spell a division by zero. -/
def DividesSafely (store : Store) (op t : Token) : Prop :=
  op.kind = .slash → ∀ x ∈ t.operand? store, (x == 0) = false

instance (store : Store) (op t : Token) : Decidable (DividesSafely store op t) :=
  inferInstanceAs (Decidable (op.kind = .slash → ∀ x ∈ t.operand? store, (x == 0) = false))

/-! ### Every infix expression is in the grammar -/

/-- What may follow every term may follow an expression, in its last term. -/
theorem ExpressionValue.extend_term {store : Store} {ts tail : List Token} {x : Float}
    (hts : ExpressionValue store ts x)
    (hterm : ∀ us y, TermValue store us y → ∃ z, TermValue store (us ++ tail) z) :
    ∃ z, ExpressionValue store (ts ++ tail) z := by
  cases hts with
  | term h =>
    obtain ⟨z, hz⟩ := hterm _ _ h
    exact ⟨z, .term hz⟩
  | add h hop hus =>
    obtain ⟨z, hz⟩ := hterm _ _ hus
    exact ⟨_, by simpa using ExpressionValue.add h hop hz⟩
  | sub h hop hus =>
    obtain ⟨z, hz⟩ := hterm _ _ hus
    exact ⟨_, by simpa using ExpressionValue.sub h hop hz⟩

theorem ExpressionValue.extend {store : Store} {ts : List Token} {op t : Token} {x y : Float}
    (hts : ExpressionValue store ts x) (hop : op.isOperator = true)
    (ht : t.operand? store = some y) : ∃ z, ExpressionValue store (ts ++ [op, t]) z := by
  cases hk : op.kind <;> simp [Token.isOperator, hk, TokenKind.operator?] at hop
  · exact ⟨_, .add hts hk (.operand ht)⟩
  · exact ⟨_, .sub hts hk (.operand ht)⟩
  · exact hts.extend_term fun us z hus => ⟨_, .mul hus hk ht⟩
  · exact hts.extend_term fun us z hus => ⟨_, .div hus hk ht⟩

theorem ExpressionValue.append_continuation {store : Store} {us : List Token}
    (hus : isContinuation us = true) {ts : List Token} {x : Float}
    (hts : ExpressionValue store ts x)
    (hdef : ∀ t ∈ us, t.isOperand = true → ∃ y, t.operand? store = some y) :
    ∃ z, ExpressionValue store (ts ++ us) z := by
  induction us, hus using isContinuation_induction generalizing ts x with
  | nil => exact ⟨x, by simpa using hts⟩
  | pair op t rest hop ht hrest ih =>
    obtain ⟨y, hy⟩ := hdef t (by simp) ht
    obtain ⟨z, hz⟩ := hts.extend hop hy
    obtain ⟨w, hw⟩ := ih hz (fun u hu => hdef u (by simp [hu]))
    exact ⟨w, by simpa using hw⟩

theorem exists_expressionValue {store : Store} {ts : List Token} (hts : isInfix ts = true)
    (hdef : ∀ t ∈ ts, t.isOperand = true → ∃ x, t.operand? store = some x) :
    ∃ x, ExpressionValue store ts x := by
  cases ts with
  | nil => simp [isInfix] at hts
  | cons t rest =>
    obtain ⟨ht, hrest⟩ := isInfix_cons_iff.mp hts
    obtain ⟨x, hx⟩ := hdef t List.mem_cons_self ht
    exact ExpressionValue.append_continuation hrest (.term (.operand hx))
      (fun u hu => hdef u (List.mem_cons_of_mem t hu))

/-! ### The machine computes the grammar's value -/

namespace Stacks

def Loose (level : Nat) (s : Stacks) : Prop :=
  ∀ op ∈ s.operators.head?, op.operator.precedence < level

/-- What waits in `s` above the stacks of `base` reduces to the single value `x`. -/
def Holds (level : Nat) (s : Stacks) (x : Float) (base : Stacks) : Prop :=
  reduceFrom level s.operands s.operators = .ok (base.push x)

def awaiting (base : Stacks) (x : Float) (op : PendingOperator) : Stacks :=
  ⟨x :: base.operands, op :: base.operators⟩

theorem holds_push {level : Nat} {base : Stacks} (h : base.Loose level) (x : Float) :
    (base.push x).Holds level x base :=
  reduceFrom_of_loose h _

omit [Arithmetic] in
theorem empty_loose {level : Nat} : empty.Loose level := by
  simp [Loose, empty]

omit [Arithmetic] in
theorem awaiting_loose (base : Stacks) (x : Float) {op : PendingOperator} {level : Nat}
    (h : op.operator.precedence < level) : (base.awaiting x op).Loose level := by
  intro p hp
  simp only [awaiting, List.head?_cons, Option.mem_def, Option.some.injEq] at hp
  exact hp ▸ h

/-- An operator that arrives finds the value of what waited at its level. -/
theorem Holds.step_eq_ok {store : Store} {s base : Stacks} {x : Float} {t : Token} {op : Operator}
    (h : s.Holds op.precedence x base) (ht : t.kind.operator? = some op) :
    step store s t = .ok (base.awaiting x ⟨op, t.lexeme⟩) := by
  rw [step_operator ht, mapError_eq_ok]
  exact pushOperator_eq_ok (r := base.push x) h

/-- An operator is applied once its right operand is complete. -/
theorem Holds.apply {low high : Nat} {s base : Stacks} {x y z : Float} {op : PendingOperator}
    (h : s.Holds high y (base.awaiting x op)) (hle : low ≤ high)
    (hop : low ≤ op.operator.precedence) (hz : op.operator.apply x y = .ok z)
    (hbase : base.Loose low) : s.Holds low z base := by
  rw [Holds, reduceFrom_of_le hle h]
  calc reduceFrom low (y :: x :: base.operands) (op :: base.operators)
      = reduceFrom low (z :: base.operands) base.operators :=
        reduceFrom_cons hop (reduce_eq_ok hz base.operands) base.operators
    _ = .ok (base.push z) := reduceFrom_of_loose hbase _

/-- A tight operator and its operand change the value on top and nothing below. -/
theorem Holds.run_pair {store : Store} {s base : Stacks} {x y z : Float} {op t : Token}
    {o : Operator} (h : s.Holds 1 x base) (hbase : base.Loose 1)
    (hop : op.kind.operator? = some o) (ho : o.precedence = 1) (ht : t.operand? store = some y)
    (hz : o.apply x y = .ok z) : ∃ s', run store s [op, t] = .ok s' ∧ s'.Holds 1 z base := by
  have hstep : step store s op = .ok (base.awaiting x ⟨o, op.lexeme⟩) :=
    Holds.step_eq_ok (ho ▸ h) hop
  have hloose : (base.awaiting x ⟨o, op.lexeme⟩).Loose 2 := awaiting_loose base x (by simp [ho])
  refine ⟨(base.awaiting x ⟨o, op.lexeme⟩).push y, ?_, ?_⟩
  · rw [run_cons hstep, run_cons (step_operand ht _), run_nil]
  · exact (holds_push hloose y).apply (by decide) (Nat.le_of_eq ho.symm) hz hbase

end Stacks

open Stacks

/-- While a term is read, the stacks below it stay as they were. -/
theorem TermValue.run_eq_ok {store : Store} {ts : List Token} {x : Float}
    (h : TermValue store ts x) (hsafe : ts.IsChain (DividesSafely store)) {base : Stacks}
    (hbase : base.Loose 1) : ∃ s, run store base ts = .ok s ∧ s.Holds 1 x base := by
  induction h with
  | operand ht =>
    refine ⟨_, ?_, holds_push hbase _⟩
    rw [run_cons (step_operand ht base), run_nil]
  | mul hts hop ht ih =>
    obtain ⟨s, hrun, hs⟩ := ih (List.isChain_append.mp hsafe).1
    obtain ⟨s', hrun', hs'⟩ := hs.run_pair hbase (by rw [hop]; rfl) rfl ht rfl
    exact ⟨s', by rw [run_append hrun, hrun'], hs'⟩
  | @div ts op t x y hts hop ht ih =>
    obtain ⟨hsafe, hpair, -⟩ := List.isChain_append.mp hsafe
    have hy : (y == 0) = false := List.isChain_pair.mp hpair hop y ht
    have hdiv : Operator.apply .div x y = .ok (Arithmetic.div x y) := by simp [Operator.apply, hy]
    obtain ⟨s, hrun, hs⟩ := ih hsafe
    obtain ⟨s', hrun', hs'⟩ := hs.run_pair hbase (by rw [hop]; rfl) rfl ht hdiv
    exact ⟨s', by rw [run_append hrun, hrun'], hs'⟩

theorem Stacks.Holds.run_term {store : Store} {s : Stacks} {x y z : Float} {op : Token}
    {o : Operator} {us : List Token} (h : s.Holds 0 x .empty) (hop : op.kind.operator? = some o)
    (ho : o.precedence = 0) (hus : TermValue store us y)
    (hsafe : us.IsChain (DividesSafely store)) (hz : o.apply x y = .ok z) :
    ∃ s', run store s (op :: us) = .ok s' ∧ s'.Holds 0 z .empty := by
  have hstep : step store s op = .ok (empty.awaiting x ⟨o, op.lexeme⟩) :=
    Holds.step_eq_ok (ho ▸ h) hop
  have hloose : (empty.awaiting x ⟨o, op.lexeme⟩).Loose 1 := awaiting_loose empty x (by simp [ho])
  obtain ⟨s', hrun, hs'⟩ := hus.run_eq_ok hsafe hloose
  refine ⟨s', by rw [run_cons hstep, hrun], ?_⟩
  exact hs'.apply (by decide) (Nat.zero_le _) hz empty_loose

/-- While an expression is read, the machine holds its value. -/
theorem ExpressionValue.run_eq_ok {store : Store} {ts : List Token} {x : Float}
    (h : ExpressionValue store ts x) (hsafe : ts.IsChain (DividesSafely store)) :
    ∃ s, run store .empty ts = .ok s ∧ s.Holds 0 x .empty := by
  induction h with
  | term hts =>
    obtain ⟨s, hrun, hs⟩ := hts.run_eq_ok hsafe empty_loose
    refine ⟨s, hrun, ?_⟩
    rw [Holds, reduceFrom_of_le (by decide) hs]
    rfl
  | add hts hop hus ih =>
    obtain ⟨hsafe, hrest, -⟩ := List.isChain_append.mp hsafe
    obtain ⟨s, hrun, hs⟩ := ih hsafe
    obtain ⟨s', hrun', hs'⟩ := hs.run_term (by rw [hop]; rfl) rfl hus hrest.tail rfl
    exact ⟨s', by rw [run_append hrun, hrun'], hs'⟩
  | sub hts hop hus ih =>
    obtain ⟨hsafe, hrest, -⟩ := List.isChain_append.mp hsafe
    obtain ⟨s, hrun, hs⟩ := ih hsafe
    obtain ⟨s', hrun', hs'⟩ := hs.run_term (by rw [hop]; rfl) rfl hus hrest.tail rfl
    exact ⟨s', by rw [run_append hrun, hrun'], hs'⟩

theorem ExpressionValue.evaluate_eq_ok {store : Store} {ts : List Token} {x : Float}
    (h : ExpressionValue store ts x) (hsafe : ts.IsChain (DividesSafely store)) :
    evaluate store ts = .ok x := by
  obtain ⟨s, hrun, hs⟩ := h.run_eq_ok hsafe
  exact evaluate_eq_ok_iff.mpr ⟨s, hrun, result_eq_ok_iff.mpr hs⟩

/-- An infix expression whose operands all have values, none of them a zero after a slash, has
exactly one value in the grammar, and the machine returns it. -/
theorem evaluate_eq_expressionValue {store : Store} {ts : List Token} (hts : isInfix ts = true)
    (hdef : ∀ t ∈ ts, t.isOperand = true → ∃ x, t.operand? store = some x)
    (hsafe : ts.IsChain (DividesSafely store)) :
    ∃ x, evaluate store ts = .ok x ∧ ExpressionValue store ts x ∧
      ∀ y, ExpressionValue store ts y → y = x := by
  obtain ⟨x, hx⟩ := exists_expressionValue hts hdef
  have heval := hx.evaluate_eq_ok hsafe
  refine ⟨x, heval, hx, fun y hy => ?_⟩
  have hyeval := hy.evaluate_eq_ok hsafe
  rw [heval, Except.ok.injEq] at hyeval
  exact hyeval.symm

end

/-- `1 - a * 3 + 4 / a` where `a` is two. -/
theorem evaluate_eq_expressionValue_mixed :
    let store := Store.empty.set "a" 2
    let ts : List Token := [⟨.number, "1"⟩, ⟨.minus, "-"⟩, ⟨.identifier, "a"⟩, ⟨.star, "*"⟩,
      ⟨.number, "3"⟩, ⟨.plus, "+"⟩, ⟨.number, "4"⟩, ⟨.slash, "/"⟩, ⟨.identifier, "a"⟩]
    isInfix ts = true ∧ ts.IsChain (DividesSafely store) ∧
      ∃ x, evaluate store ts = .ok x ∧ ExpressionValue store ts x ∧
        ∀ y, ExpressionValue store ts y → y = x := by
  intro store ts
  have hts : isInfix ts = true := by decide
  have hsafe : ts.IsChain (DividesSafely store) := by decide +kernel
  have hdef : ∀ t ∈ ts, t.isOperand = true → (t.operand? store).isSome = true := by
    decide +kernel
  refine ⟨hts, hsafe, evaluate_eq_expressionValue hts (fun t ht hop => ?_) hsafe⟩
  exact Option.isSome_iff_exists.mp (hdef t ht hop)

end CalcScript
