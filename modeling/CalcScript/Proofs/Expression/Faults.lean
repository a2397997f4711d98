import CalcScript.Proofs.Expression.Precedence

/-!
# Faulty operands

An operand of an infix expression is at fault if it has no value, or if its value is zero and a
slash stands before it. An operand without a value stops the machine where it is read. A division
waits for the next operator or for the end, but no operator binds tighter than a slash, so it is
applied before another operand is read. Hence the first fault in the order of the tokens is the
error of the expression, and an expression without a fault has a value.
-/
namespace CalcScript
variable {store : Store} {previous : Option Token} {t : Token} {f : EvalFailure}

/-- What is wrong with an operand that stands after `previous`. -/
def Token.fault? (store : Store) (previous : Option Token) (t : Token) : Option EvalFailure :=
  match t.operand? store with
  | some x =>
    if previous.any (·.kind == .slash) && x == 0 then some (.error .divisionByZero) else none
  | none =>
    match t.kind with
    | .number => some (.value (.unreadable t.lexeme))
    | .identifier => some (.error (.undefinedVariable t.lexeme))
    | _ => none

/-- The faults of tokens that stand after `previous`, in order. -/
def faults (store : Store) (previous : Option Token) : List Token → List EvalFailure
  | [] => []
  | t :: rest => (t.fault? store previous).toList ++ faults store (some t) rest

namespace Token

/-- A fault stops the machine at the operand, or is a zero after a slash. -/
theorem fault?_cases (h : t.fault? store previous = some f) :
    (f ≠ .error .divisionByZero ∧ ∀ s, Stacks.step store s t = .error f) ∨
      f = .error .divisionByZero ∧ (∃ op ∈ previous, op.kind = .slash) ∧
        ∃ x, t.operand? store = some x ∧ (x == 0) = true := by
  unfold fault? at h
  split at h
  · next x hx =>
    right
    split_ifs at h with hzero
    cases h
    rw [Bool.and_eq_true, Option.any_eq_true] at hzero
    obtain ⟨⟨op, hop, hslash⟩, hx0⟩ := hzero
    exact ⟨rfl, ⟨op, hop, by simpa using hslash⟩, x, hx, hx0⟩
  · next hx =>
    left
    split at h
    · next hk =>
      cases h
      have hread : Number.read? t.lexeme = none := by simpa [operand?, hk] using hx
      simp [Stacks.step, hk, value, hread, Except.mapError, Except.map]
    · next hk =>
      cases h
      have hget : store.get? t.lexeme = none := by simpa [operand?, hk] using hx
      simp [Stacks.step, hk, hget]
    · cases h

theorem exists_operand?_of_fault?_eq_none (ht : t.isOperand = true)
    (h : t.fault? store previous = none) :
    ∃ x, t.operand? store = some x ∧ ∀ op ∈ previous, DividesSafely store op t := by
  unfold fault? at h
  split at h
  · next x hx =>
    refine ⟨x, hx, fun op hop hslash y hy => ?_⟩
    rw [hx, Option.mem_some_iff] at hy
    subst hy
    rw [Option.mem_def] at hop
    simpa [hop, hslash] using h
  · rcases isOperand_iff.mp ht with hk | hk <;> simp [hk] at h

theorem isOperand_of_fault? (h : t.fault? store previous = some f) : t.isOperand = true := by
  unfold fault? at h
  split at h
  · next x hx => exact isOperand_of_operand? hx
  · split at h
    · next hk => exact isOperand_iff.mpr (.inl hk)
    · next hk => exact isOperand_iff.mpr (.inr hk)
    · cases h

theorem eq_divisionByZero_of_fault? {x : Float} (hx : t.operand? store = some x)
    (h : t.fault? store previous = some f) : f = .error .divisionByZero := by
  rcases fault?_cases h with ⟨-, hfail⟩ | ⟨hf, -⟩
  · have hstep := hfail .empty
    rw [Stacks.step_operand hx] at hstep
    cases hstep
  · exact hf

theorem operand?_of_isOperator (h : t.isOperator = true) : t.operand? store = none := by
  rw [Option.eq_none_iff_forall_ne_some]
  intro x hx
  have ht := isOperator_of_isOperand (isOperand_of_operand? hx)
  rw [h] at ht
  exact Bool.false_ne_true ht.symm

theorem fault?_of_isOperator (h : t.isOperator = true) : t.fault? store previous = none := by
  rw [fault?, operand?_of_isOperator h]
  cases hk : t.kind <;> simp [isOperator, hk, TokenKind.operator?] at h ⊢

end Token

theorem faults_cons_operator (h : t.isOperator = true) (rest : List Token) :
    faults store previous (t :: rest) = faults store (some t) rest := by
  rw [faults, Token.fault?_of_isOperator h]
  rfl

theorem exists_of_mem_faults {ts : List Token} (h : f ∈ faults store previous ts) :
    ∃ before t after, ts = before ++ t :: after ∧
      t.fault? store (before.getLast?.or previous) = some f := by
  induction ts generalizing previous with
  | nil => cases h
  | cons t rest ih =>
    rw [faults, List.mem_append, Option.mem_toList] at h
    rcases h with h | h
    · exact ⟨[], t, rest, rfl, h⟩
    · obtain ⟨before, u, after, rfl, hu⟩ := ih h
      refine ⟨t :: before, u, after, rfl, ?_⟩
      rw [List.getLast?_cons, ← hu]
      cases before.getLast? <;> rfl

theorem exists_zero_divisor_of_mem_faults {ts : List Token}
    (h : .error .divisionByZero ∈ faults store none ts) :
    ∃ before slash t after x, ts = before ++ slash :: t :: after ∧ slash.kind = .slash ∧
      t.operand? store = some x ∧ (x == 0) = true := by
  obtain ⟨before, t, after, rfl, hfault⟩ := exists_of_mem_faults h
  rw [Option.or_none] at hfault
  rcases Token.fault?_cases hfault with ⟨hne, -⟩ | ⟨-, ⟨slash, hslash, hkind⟩, x, hx, hzero⟩
  · exact absurd rfl hne
  · obtain ⟨init, rfl⟩ := List.getLast?_eq_some_iff.mp hslash
    exact ⟨init, slash, t, after, x, by simp, hkind, hx, hzero⟩

/-! ### The machine at a fault -/

namespace Stacks

theorem exists_reduceFrom_of_le {low high : Nat} (hle : low ≤ high) {operands : List Float}
    {operators : List PendingOperator} {s : Stacks}
    (h : reduceFrom low operands operators = .ok s) :
    ∃ r, reduceFrom high operands operators = .ok r := by
  induction operators generalizing operands with
  | nil => exact ⟨_, rfl⟩
  | cons op rest ih =>
    by_cases hhigh : high ≤ op.operator.precedence
    · rcases reduceFrom_cons_cases h with ⟨-, operands', hr, hrest⟩ | ⟨hlow, -⟩
      · rw [reduceFrom_cons hhigh hr]
        exact ih hrest
      · exact absurd (hle.trans hhigh) hlow
    · exact ⟨_, by rw [reduceFrom, if_neg hhigh]⟩

theorem Holds.exists_step_eq_ok {s : Stacks} {x : Float} {op : Token} {o : Operator}
    (h : s.Holds 0 x .empty) (hop : op.kind.operator? = some o) (store : Store) :
    ∃ base y, step store s op = .ok (awaiting base y ⟨o, op.lexeme⟩) := by
  obtain ⟨⟨operands, operators⟩, hr⟩ := exists_reduceFrom_of_le (Nat.zero_le o.precedence) h
  have hall := reduceFrom_length h
  have hsome := reduceFrom_length hr
  simp only [push_operands, push_operators, empty, List.length_singleton, List.length_nil]
    at hall hsome
  cases operands with
  | nil =>
    simp only [List.length_nil] at hsome
    omega
  | cons y rest =>
    refine ⟨⟨rest, operators⟩, y, ?_⟩
    rw [step_operator hop, mapError_eq_ok]
    exact pushOperator_eq_ok (r := ⟨y :: rest, operators⟩) hr

/-- A division that waits above its two operands is the first to be applied. -/
theorem reduceFrom_zero_divisor {level : Nat} (hlevel : level ≤ 1) {x : Float}
    (hx : (x == 0) = true) (base : Stacks) (y : Float) (lexeme : String) :
    reduceFrom level (x :: y :: base.operands) (⟨.div, lexeme⟩ :: base.operators) =
      .error .divisionByZero := by
  have hdue : level ≤ Operator.div.precedence := hlevel
  rw [reduceFrom, if_pos hdue]
  simp [reduce, Operator.apply, hx]

theorem step_zero_divisor {op : Token} (hop : op.isOperator = true) {x : Float}
    (hx : (x == 0) = true) (base : Stacks) (y : Float) (lexeme : String) (store : Store) :
    step store ((base.awaiting y ⟨.div, lexeme⟩).push x) op =
      .error (.error .divisionByZero) := by
  obtain ⟨o, ho⟩ := Option.isSome_iff_exists.mp hop
  have hlevel : o.precedence ≤ 1 := by cases o <;> decide
  have hreduce := reduceFrom_zero_divisor hlevel hx base y lexeme
  rw [step_operator ho, pushOperator]
  simp only [push_operands, push_operators, awaiting]
  rw [hreduce]
  rfl

theorem result_zero_divisor {x : Float} (hx : (x == 0) = true) (base : Stacks) (y : Float)
    (lexeme : String) :
    ((base.awaiting y ⟨.div, lexeme⟩).push x).result = .error .divisionByZero := by
  have hreduce := reduceFrom_zero_divisor (Nat.zero_le 1) hx base y lexeme
  rw [result]
  simp only [push_operands, push_operators, awaiting]
  rw [hreduce]

end Stacks

open Stacks

theorem evaluate_zero_divisor {ts rest : List Token} {base : Stacks} {x y : Float}
    {lexeme : String} (hrun : run store .empty ts = .ok (base.awaiting y ⟨.div, lexeme⟩))
    (ht : t.operand? store = some x) (hx : (x == 0) = true) (hrest : isContinuation rest = true) :
    evaluate store (ts ++ t :: rest) = .error (.error .divisionByZero) := by
  have hstep := step_operand ht (base.awaiting y ⟨.div, lexeme⟩)
  cases rest with
  | nil =>
    rw [evaluate_of_run (by rw [run_append hrun, run_cons hstep, run_nil]),
      result_zero_divisor hx base y lexeme]
    rfl
  | cons op rest =>
    obtain ⟨hop, -⟩ := isContinuation_cons_iff.mp hrest
    apply evaluate_of_run_error
    rw [run_append hrun, run_cons hstep]
    exact run_cons_error (step_zero_divisor hop hx base y lexeme store) rest

/-- After an expression an operator and a faulty operand end the evaluation. -/
theorem ExpressionValue.evaluate_eq_error {us rest : List Token} {op : Token} {x : Float}
    (hus : ExpressionValue store us x) (hsafe : us.IsChain (DividesSafely store))
    (hop : op.isOperator = true) (ht : t.fault? store (some op) = some f)
    (hrest : isContinuation rest = true) :
    evaluate store (us ++ op :: t :: rest) = .error f := by
  obtain ⟨s, hrun, hs⟩ := hus.run_eq_ok hsafe
  obtain ⟨o, ho⟩ := Option.isSome_iff_exists.mp hop
  obtain ⟨base, y, hstep⟩ := hs.exists_step_eq_ok ho store
  have hread : run store .empty (us ++ [op]) = .ok (base.awaiting y ⟨o, op.lexeme⟩) := by
    rw [run_append hrun, run_cons hstep, run_nil]
  rw [List.append_cons]
  rcases Token.fault?_cases ht with ⟨-, hfail⟩ | ⟨rfl, ⟨slash, hslash, hkind⟩, z, hz, hzero⟩
  · apply evaluate_of_run_error
    rw [run_append hread]
    exact run_cons_error (hfail _) rest
  · cases hslash
    rw [hkind] at ho
    cases ho
    exact evaluate_zero_divisor hread hz hzero hrest

/-- An expression goes on until the first fault of what follows it. -/
theorem ExpressionValue.evaluate_append {cs : List Token} (hcs : isContinuation cs = true)
    (previous : Option Token) {us : List Token} {x : Float} (hus : ExpressionValue store us x)
    (hsafe : us.IsChain (DividesSafely store)) :
    (∀ f ∈ (faults store previous cs).head?, evaluate store (us ++ cs) = .error f) ∧
      (faults store previous cs = [] → ∃ z, evaluate store (us ++ cs) = .ok z) := by
  induction cs, hcs using isContinuation_induction generalizing previous us x with
  | nil =>
    refine ⟨fun f hf => absurd hf (by simp [faults]), fun _ => ⟨x, ?_⟩⟩
    rw [List.append_nil]
    exact hus.evaluate_eq_ok hsafe
  | pair op t rest hop ht hrest ih =>
    -- The machine stops at the operand, or the expression goes on past it.
    rw [faults_cons_operator hop, faults]
    cases hfault : t.fault? store (some op) with
    | some g =>
      refine ⟨fun f hf => ?_, fun hnil => absurd hnil (by simp)⟩
      cases hf
      exact hus.evaluate_eq_error hsafe hop hfault hrest
    | none =>
      obtain ⟨y, hy, hdivides⟩ := Token.exists_operand?_of_fault?_eq_none ht hfault
      obtain ⟨z, hz⟩ := hus.extend hop hy
      have hchain : (us ++ [op, t]).IsChain (DividesSafely store) := by
        refine List.isChain_append.mpr ⟨hsafe, List.isChain_pair.mpr (hdivides op rfl), ?_⟩
        intro u hu v hv hslash w hw
        cases hv
        rw [Token.operand?_of_isOperator hop] at hw
        cases hw
      have hnext := ih (some t) hz hchain
      rw [List.append_assoc] at hnext
      exact hnext

theorem evaluate_of_faults (store : Store) {ts : List Token} (hts : isInfix ts = true) :
    (∀ f ∈ (faults store none ts).head?, evaluate store ts = .error f) ∧
      (faults store none ts = [] → ∃ x, evaluate store ts = .ok x) := by
  cases ts with
  | nil => cases hts
  | cons t rest =>
    obtain ⟨ht, hrest⟩ := isInfix_cons_iff.mp hts
    rw [faults]
    cases hfault : t.fault? store none with
    | some g =>
      refine ⟨fun f hf => ?_, fun hnil => absurd hnil (by simp)⟩
      cases hf
      rcases Token.fault?_cases hfault with ⟨-, hfail⟩ | ⟨-, ⟨slash, hslash, -⟩, -⟩
      · exact evaluate_of_run_error (run_cons_error (hfail _) rest)
      · cases hslash
    | none =>
      obtain ⟨x, hx, -⟩ := Token.exists_operand?_of_fault?_eq_none ht hfault
      exact ExpressionValue.evaluate_append hrest (some t) (.term (.operand hx))
        (List.isChain_singleton t)

theorem evaluate_eq_error_iff {ts : List Token} (hts : isInfix ts = true) :
    evaluate store ts = .error f ↔ (faults store none ts).head? = some f := by
  obtain ⟨herror, hok⟩ := evaluate_of_faults store hts
  refine ⟨fun h => ?_, herror f⟩
  cases hhead : (faults store none ts).head? with
  | none =>
    obtain ⟨x, hx⟩ := hok (List.head?_eq_none_iff.mp hhead)
    rw [hx] at h
    cases h
  | some g =>
    rw [herror g hhead] at h
    cases h
    rfl

theorem eq_divisionByZero_of_evaluate {ts : List Token} (hts : isInfix ts = true)
    (hdef : ∀ t ∈ ts, t.isOperand = true → ∃ x, t.operand? store = some x)
    (h : evaluate store ts = .error f) : f = .error .divisionByZero := by
  have hmem := List.mem_of_head? ((evaluate_eq_error_iff hts).mp h)
  obtain ⟨before, t, after, rfl, hfault⟩ := exists_of_mem_faults hmem
  obtain ⟨x, hx⟩ := hdef t (by simp) (Token.isOperand_of_fault? hfault)
  exact Token.eq_divisionByZero_of_fault? hx hfault

/-- The error of an infix expression is the first fault of its operands, and there is a value where
there is no fault. So only a zero that is itself an operand, right after a slash, is a division by
zero. -/
theorem evaluate_eq_first_fault {ts : List Token} (hts : isInfix ts = true) :
    (∀ f, evaluate store ts = .error f ↔ (faults store none ts).head? = some f) ∧
      ((∃ x, evaluate store ts = .ok x) ↔ faults store none ts = []) ∧
      (evaluate store ts = .error (.error .divisionByZero) →
        ∃ before slash t after x, ts = before ++ slash :: t :: after ∧ slash.kind = .slash ∧
          t.operand? store = some x ∧ (x == 0) = true) := by
  refine ⟨fun f => evaluate_eq_error_iff hts, ⟨?_, (evaluate_of_faults store hts).2⟩, fun h => ?_⟩
  · rintro ⟨x, hx⟩
    rw [← List.head?_eq_none_iff, Option.eq_none_iff_forall_ne_some]
    intro f hf
    rw [(evaluate_eq_error_iff hts).mpr hf] at hx
    cases hx
  · exact exists_zero_divisor_of_mem_faults (List.mem_of_head? ((evaluate_eq_error_iff hts).mp h))

/-- In `1 + a / b * c` the zero `b` is at fault before the unknown `c`. -/
theorem evaluate_eq_first_fault_delayed :
    let store := (Store.empty.set "a" 4).set "b" (-0)
    let ts : List Token := [⟨.number, "1"⟩, ⟨.plus, "+"⟩, ⟨.identifier, "a"⟩, ⟨.slash, "/"⟩,
      ⟨.identifier, "b"⟩, ⟨.star, "*"⟩, ⟨.identifier, "c"⟩]
    isInfix ts = true ∧
      faults store none ts =
        [.error .divisionByZero, .error (.undefinedVariable "c")] ∧
      evaluate store ts = .error (.error .divisionByZero) := by
  intro store ts
  have hts : isInfix ts = true := by decide
  have hfaults : faults store none ts =
      [.error .divisionByZero, .error (.undefinedVariable "c")] := by decide +kernel
  exact ⟨hts, hfaults, ((evaluate_eq_first_fault hts).1 _).mpr (by rw [hfaults]; rfl)⟩

end CalcScript
