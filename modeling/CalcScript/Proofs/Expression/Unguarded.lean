import CalcScript.Proofs.Expression.Waiting

/-!
# The machine without guards

Between any two tokens the operators wait in the order of their precedence, the tightest on top, so
there are never more than two of them. The machine of this module takes that for granted: it keeps
operators as the tokens they are, pops its stacks without looking, finds precedence and operation in
a table each, by the kind of the token, and turns each loop three times at most. It would break down
on an empty stack, on an operator that is missing from one of the tables and on a longer loop. None
of this happens, on any token list: it ends as the evaluation does.
-/
namespace CalcScript

/-! ### The order of the stacks -/

namespace Stacks
variable {read : List PendingOperator}

/-- What the stacks hold when the given tokens were read. -/
structure Orderly (read : List Token) (s : Stacks) : Prop where
  /-- Each operator binds more loosely than the one on top of it. -/
  tightening : s.operators.Pairwise fun upper lower =>
    lower.operator.precedence < upper.operator.precedence
  atMostTwo : s.operators.length ≤ 2
  sumBelowProduct : ∀ upper lower, s.operators = [upper, lower] →
    upper.operator.isSum = false ∧ lower.operator.isSum = true
  empty_iff : s.operators = [] ↔ ∀ t ∈ read, t.isOperator = false
  bottom_isSum_iff : (∃ op ∈ s.operators.getLast?, op.operator.isSum = true) ↔
    ∃ t ∈ read, t.kind = .plus ∨ t.kind = .minus
  top_eq : s.operators.head? = (read.filterMap Token.pending?).getLast?
  /-- The operands exceed the operators on the stacks as they do among the tokens. -/
  balance : s.operands.length + read.countP Token.isOperator =
    read.countP Token.isOperand + s.operators.length

theorem pairwise_waiting (read : List PendingOperator) :
    (waiting read).Pairwise fun upper lower =>
      lower.operator.precedence < upper.operator.precedence := by
  unfold waiting
  cases hproduct : finalProduct read with
  | none => cases lastSum read <;> simp
  | some upper =>
    cases hsum : lastSum read with
    | none => simp
    | some lower =>
      have hupper := Operator.precedence_of_not_isSum (isSum_of_mem_finalProduct hproduct)
      have hlower := Operator.precedence_of_isSum (isSum_of_mem_lastSum hsum)
      simp [hupper, hlower]

theorem length_waiting_le (read : List PendingOperator) : (waiting read).length ≤ 2 := by
  unfold waiting
  cases finalProduct read <;> cases lastSum read <;> simp

theorem head?_waiting (read : List PendingOperator) : (waiting read).head? = read.getLast? := by
  rcases List.eq_nil_or_concat' read with rfl | ⟨init, last, rfl⟩
  · rfl
  · rw [waiting_concat, List.getLast?_concat]
    rfl

theorem waiting_eq_nil_iff : waiting read = [] ↔ read = [] := by
  rw [← List.head?_eq_none_iff, head?_waiting, List.getLast?_eq_none_iff]

theorem getLast?_waiting_isSum_iff :
    (∃ op ∈ (waiting read).getLast?, op.operator.isSum = true) ↔
      ∃ op ∈ read, op.operator.isSum = true := by
  cases hlast : lastSum read with
  | some lower =>
    have hsum := isSum_of_mem_lastSum hlast
    have hread : lower ∈ read := (List.mem_filter.mp (List.mem_of_getLast? hlast)).1
    constructor
    · exact fun _ => ⟨lower, hread, hsum⟩
    · intro _
      refine ⟨lower, ?_, hsum⟩
      simp [waiting, hlast]
  | none =>
    have hnone : ∀ op ∈ read, ¬ op.operator.isSum = true := by
      rw [lastSum, List.getLast?_eq_none_iff, List.filter_eq_nil_iff] at hlast
      exact hlast
    constructor
    · rintro ⟨op, hop, hsum⟩
      rw [waiting, hlast, Option.toList_none, List.append_nil] at hop
      cases hproduct : finalProduct read with
      | none => simp [hproduct] at hop
      | some upper =>
        have hupper := isSum_of_mem_finalProduct hproduct
        simp only [hproduct, Option.toList_some, List.getLast?_singleton, Option.mem_def,
          Option.some.injEq] at hop
        rw [← hop, hupper] at hsum
        exact absurd hsum Bool.false_ne_true
    · rintro ⟨op, hop, hsum⟩
      exact absurd hsum (hnone op hop)

end Stacks

namespace Token

theorem pending?_eq_none_iff {t : Token} : t.pending? = none ↔ t.isOperator = false := by
  simp [pending?, isOperator]

theorem exists_pending?_isSum_iff {t : Token} :
    (∃ op ∈ t.pending?, op.operator.isSum = true) ↔ t.kind = .plus ∨ t.kind = .minus := by
  cases hk : t.kind <;> simp [pending?, hk, TokenKind.operator?, Operator.isSum]

end Token

open Stacks

theorem Stacks.orderly_of_run {store : Store} {before : List Token} {s : Stacks}
    (h : run store .empty before = .ok s) : s.Orderly before := by
  have hwaiting : s.operators = waiting (before.filterMap Token.pending?) :=
    run_waiting h waiting_nil.symm
  have hbalance := run_balance h
  simp only [empty, List.length_nil] at hbalance
  have htightening := pairwise_waiting (before.filterMap Token.pending?)
  rw [← hwaiting] at htightening
  refine ⟨htightening, ?_, ?_, ?_, ?_, ?_, by omega⟩
  · rw [hwaiting]
    exact length_waiting_le _
  · intro upper lower hs
    rw [hs] at htightening
    have hlt : lower.operator.precedence < upper.operator.precedence := by
      simpa using htightening
    revert hlt
    cases upper.operator <;> cases lower.operator <;> decide
  · rw [hwaiting, waiting_eq_nil_iff, List.filterMap_eq_nil_iff]
    simp only [Token.pending?_eq_none_iff]
  · rw [hwaiting, getLast?_waiting_isSum_iff]
    simp only [List.mem_filterMap, ← Token.exists_pending?_isSum_iff]
    constructor
    · rintro ⟨op, ⟨t, ht, hop⟩, hsum⟩
      exact ⟨t, ht, op, hop, hsum⟩
    · rintro ⟨t, ht, op, hop, hsum⟩
      exact ⟨op, ⟨t, ht, hop⟩, hsum⟩
  · rw [hwaiting, head?_waiting]

/-! ### Access without looking -/

/-- What a machine that does not look first can break down on. -/
inductive Breakdown where
  | emptyStack
  | noPrecedence (kind : TokenKind)
  | noOperation (kind : TokenKind)
  | endlessLoop

inductive Stop where
  | failure (f : EvalFailure)
  | breakdown (b : Breakdown)

structure TokenStacks where
  operands : List Float
  operators : List Token

namespace TokenStacks

def pop {α : Type} : List α → Except Stop (α × List α)
  | [] => .error (.breakdown .emptyStack)
  | a :: rest => .ok (a, rest)

/-- The kinds that are taken for operators. -/
def operatorKinds : List TokenKind :=
  [.plus, .minus, .star, .slash]

def precedences : List (TokenKind × Nat) :=
  [(.plus, 0), (.minus, 0), (.star, 1), (.slash, 1)]

def precedenceOf (kind : TokenKind) : Except Stop Nat :=
  match precedences.lookup kind with
  | some precedence => .ok precedence
  | none => .error (.breakdown (.noPrecedence kind))

def divide (a b : Float) : Except EvalError Float :=
  if b == 0 then .error .divisionByZero else .ok (a / b)

def operations : List (TokenKind × (Float → Float → Except EvalError Float)) :=
  [(.plus, fun a b => .ok (a + b)), (.minus, fun a b => .ok (a - b)),
    (.star, fun a b => .ok (a * b)), (.slash, divide)]

def operationOf (kind : TokenKind) : Except Stop (Float → Float → Except EvalError Float) :=
  match operations.lookup kind with
  | some operation => .ok operation
  | none => .error (.breakdown (.noOperation kind))

def reduce (s : TokenStacks) : Except Stop TokenStacks := do
  let (op, operators) ← pop s.operators
  if s.operands.length < 2 then
    .error (.failure (.error (.malformed (.missingOperand op.lexeme))))
  else
    let (right, operands) ← pop s.operands
    let (left, operands) ← pop operands
    let operation ← operationOf op.kind
    let x ← (operation left right).mapError (.failure ∘ .error)
    return ⟨x :: operands, operators⟩

def isDue (level : Nat) (op : Token) : Except Stop Bool := do
  let precedence ← precedenceOf op.kind
  return decide (level ≤ precedence)

/-- Reductions while there is an operator and the topmost one is due. -/
def reduceWhile (due : Token → Except Stop Bool) : Nat → TokenStacks → Except Stop TokenStacks
  | 0, _ => .error (.breakdown .endlessLoop)
  | turns + 1, s =>
    if s.operators.isEmpty then .ok s
    else do
      let (top, _) ← pop s.operators
      if ← due top then
        let next ← s.reduce
        reduceWhile due turns next
      else return s

def pushOperator (s : TokenStacks) (t : Token) : Except Stop TokenStacks := do
  let level ← precedenceOf t.kind
  let next ← s.reduceWhile (isDue level) 3
  return { next with operators := t :: next.operators }

def step (store : Store) (s : TokenStacks) (t : Token) : Except Stop TokenStacks :=
  match t.kind with
  | .number => do
    let x ← t.value.mapError (.failure ∘ .value)
    return { s with operands := x :: s.operands }
  | .identifier =>
    match store.get? t.lexeme with
    | some x => .ok { s with operands := x :: s.operands }
    | none => .error (.failure (.error (.undefinedVariable t.lexeme)))
  | .bracketOpen => .error (.failure (.error (.malformed .parentheses)))
  | .bracketClose => .error (.failure (.error (.malformed .parentheses)))
  | _ =>
    if t.kind ∈ operatorKinds then s.pushOperator t
    else .error (.failure (.error (.malformed (.unexpected t))))

def evaluate (store : Store) (expression : List Token) : Except Stop Float := do
  let s ← expression.foldlM (step store) ⟨[], []⟩
  let last ← s.reduceWhile (fun _ => .ok true) 3
  match last.operands with
  | [x] => .ok x
  | operands => .error (.failure (.error (.malformed (.valueCount operands.length))))

end TokenStacks

/-! ### The two machines in step -/

def Operator.kind : Operator → TokenKind
  | .add => .plus
  | .sub => .minus
  | .mul => .star
  | .div => .slash

theorem Operator.kind_of_operator? {kind : TokenKind} {op : Operator}
    (h : kind.operator? = some op) : op.kind = kind := by
  cases kind <;> cases h <;> rfl

def PendingOperator.token (op : PendingOperator) : Token :=
  ⟨op.operator.kind, op.lexeme⟩

def Stacks.tokens (s : Stacks) : TokenStacks :=
  ⟨s.operands, s.operators.map PendingOperator.token⟩

@[simp] theorem Stacks.tokens_operators (s : Stacks) :
    s.tokens.operators = s.operators.map PendingOperator.token := rfl

def Stop.ofOutcome {ε : Type} (failure : ε → EvalFailure) :
    Except ε Stacks → Except Stop TokenStacks
  | .ok s => .ok s.tokens
  | .error e => .error (.failure (failure e))

namespace TokenStacks
open Stop

@[simp] theorem precedenceOf_token (op : PendingOperator) :
    precedenceOf op.token.kind = .ok op.operator.precedence := by
  rw [PendingOperator.token]
  cases op.operator <;> rfl

theorem isDue_token (level : Nat) (op : PendingOperator) :
    isDue level op.token = .ok (decide (level ≤ op.operator.precedence)) := by
  rw [isDue, precedenceOf_token]
  rfl

@[simp] theorem operationOf_token (op : PendingOperator) :
    operationOf op.token.kind = .ok op.operator.apply := by
  rw [PendingOperator.token]
  cases op.operator <;> rfl

theorem reduce_tokens (op : PendingOperator) (operands : List Float)
    (rest : List PendingOperator) :
    (Stacks.tokens ⟨operands, op :: rest⟩).reduce =
      ofOutcome .error ((Stacks.reduce op operands).map (⟨·, rest⟩)) := by
  match operands with
  | [] => rfl
  | [x] => rfl
  | right :: left :: tail =>
    cases hx : op.operator.apply left right with
    | ok x =>
      simp [reduce, Stacks.tokens, pop, Stacks.reduce, hx, ofOutcome, bind, Except.bind, pure,
        Except.pure, Except.map, Except.mapError]
    | error e =>
      simp [reduce, Stacks.tokens, pop, Stacks.reduce, hx, ofOutcome, bind, Except.bind,
        Except.map, Except.mapError]

/-- One turn for each waiting operator, and one to find that none is due, are enough. -/
theorem reduceWhile_tokens {due : Token → Except Stop Bool} {level : Nat}
    (hdue : ∀ op : PendingOperator, due op.token = .ok (decide (level ≤ op.operator.precedence)))
    {operators : List PendingOperator} {turns : Nat} (hturns : operators.length < turns)
    (operands : List Float) :
    (Stacks.tokens ⟨operands, operators⟩).reduceWhile due turns =
      ofOutcome .error (Stacks.reduceFrom level operands operators) := by
  induction operators generalizing operands turns with
  | nil =>
    cases turns with
    | zero => exact absurd hturns (Nat.not_lt_zero _)
    | succ turns => rfl
  | cons op rest ih =>
    cases turns with
    | zero => exact absurd hturns (Nat.not_lt_zero _)
    | succ turns =>
      have hrest : rest.length < turns := Nat.lt_of_succ_lt_succ hturns
      simp only [reduceWhile, Stacks.tokens_operators, List.map_cons, List.isEmpty_cons, pop, bind,
        Except.bind, hdue, reduce_tokens, Stacks.reduceFrom, Bool.false_eq_true, if_false,
        decide_eq_true_eq]
      by_cases hlevel : level ≤ op.operator.precedence
      · rw [if_pos hlevel, if_pos hlevel]
        cases hr : Stacks.reduce op operands with
        | ok operands' => exact ih hrest operands'
        | error e => rfl
      · rw [if_neg hlevel, if_neg hlevel]
        rfl

theorem pushOperator_tokens {t : Token} {op : Operator} (hop : t.kind.operator? = some op)
    {s : Stacks} (hs : s.operators.length ≤ 2) :
    s.tokens.pushOperator t = ofOutcome .error (s.pushOperator ⟨op, t.lexeme⟩) := by
  have hloop := reduceWhile_tokens (isDue_token op.precedence) (Nat.lt_succ_of_le hs) s.operands
  have htoken : PendingOperator.token ⟨op, t.lexeme⟩ = t := by
    rw [PendingOperator.token, Operator.kind_of_operator? hop]
  have hlevel : precedenceOf t.kind = .ok op.precedence := by
    rw [← htoken, precedenceOf_token]
  rw [pushOperator, hlevel, Stacks.pushOperator]
  simp only [bind, Except.bind]
  rw [hloop]
  cases hr : Stacks.reduceFrom op.precedence s.operands s.operators with
  | ok r => simp [ofOutcome, Stacks.tokens, htoken, pure, Except.pure]
  | error e => rfl

theorem mem_operatorKinds_iff {t : Token} :
    t.kind ∈ operatorKinds ↔ t.isOperator = true := by
  rw [Token.isOperator]
  cases t.kind <;> decide

theorem step_tokens (store : Store) (t : Token) {s : Stacks} (hs : s.operators.length ≤ 2) :
    step store s.tokens t = ofOutcome id (Stacks.step store s t) := by
  by_cases hoperator : t.isOperator = true
  · obtain ⟨op, hop⟩ := Option.isSome_iff_exists.mp hoperator
    have hpush : step store s.tokens t = s.tokens.pushOperator t := by
      unfold step
      simp only [mem_operatorKinds_iff]
      cases hk : t.kind <;> rw [hk] at hop <;> cases hop <;> simp [hoperator]
    rw [hpush, pushOperator_tokens hop hs, Stacks.step_operator hop]
    cases s.pushOperator ⟨op, t.lexeme⟩ <;> rfl
  · have hop : t.kind.operator? = none := by simpa [Token.isOperator] using hoperator
    unfold step Stacks.step
    simp only [mem_operatorKinds_iff]
    cases hk : t.kind with
    | number => cases t.value <;> rfl
    | identifier => cases hx : store.get? t.lexeme <;> rfl
    | bracketOpen => rfl
    | bracketClose => rfl
    | _ => rw [hk] at hop; simp_all [ofOutcome]

theorem foldlM_tokens (store : Store) (ts : List Token) {s : Stacks}
    {read : List PendingOperator} (hs : s.operators = waiting read) :
    ts.foldlM (step store) s.tokens = ofOutcome id (Stacks.run store s ts) := by
  induction ts generalizing s read with
  | nil => rfl
  | cons t rest ih =>
    have hlength : s.operators.length ≤ 2 := by
      rw [hs]
      exact length_waiting_le read
    rw [List.foldlM_cons, step_tokens store t hlength]
    cases hstep : Stacks.step store s t with
    | error f =>
      rw [run_cons_error hstep]
      rfl
    | ok s' =>
      rw [run_cons hstep]
      exact ih (step_waiting hstep hs)

/-- The unguarded machine never breaks down, and it ends as the evaluation does. -/
theorem evaluate_tokens (store : Store) (ts : List Token) :
    evaluate store ts = (CalcScript.evaluate store ts).mapError .failure := by
  have hrun : ts.foldlM (step store) ⟨[], []⟩ = ofOutcome id (Stacks.run store .empty ts) :=
    @foldlM_tokens store ts .empty [] waiting_nil.symm
  rw [evaluate, hrun]
  cases hs : Stacks.run store .empty ts with
  | error f =>
    rw [evaluate_of_run_error hs]
    rfl
  | ok s =>
    have hlength : s.operators.length < 3 := Nat.lt_succ_of_le (orderly_of_run hs).atMostTwo
    have hall : s.tokens.reduceWhile (fun _ => .ok true) 3 = _ :=
      @reduceWhile_tokens _ 0 (by simp) _ _ hlength s.operands
    rw [evaluate_of_run hs]
    simp only [ofOutcome, bind, Except.bind, hall, Stacks.result]
    cases hr : Stacks.reduceFrom 0 s.operands s.operators with
    | error e => rfl
    | ok r =>
      obtain ⟨operands, operators⟩ := r
      cases operands with
      | nil => rfl
      | cons x rest => cases rest <;> rfl

end TokenStacks

/-- Between any two tokens the stacks are orderly, and so nothing of what the unguarded machine
takes for granted ever fails: no stack is empty when it is popped, every waiting token has its
precedence and its operation, and each loop ends within three turns. -/
theorem evaluate_keeps_stacks_orderly (store : Store) (ts : List Token) :
    (∀ before s, before <+: ts → run store .empty before = .ok s → s.Orderly before) ∧
      TokenStacks.evaluate store ts = (evaluate store ts).mapError .failure := by
  constructor
  · intro before s _ hs
    exact orderly_of_run hs
  · exact TokenStacks.evaluate_tokens store ts

/-- Before the last operand of `1 + 2 * 3` a sum waits below a product. -/
theorem evaluate_keeps_stacks_orderly_sum_below_product :
    let before : List Token := [⟨.number, "1"⟩, ⟨.plus, "+"⟩, ⟨.number, "2"⟩, ⟨.star, "*"⟩]
    ∃ s, run .empty .empty before = .ok s ∧ s.Orderly before ∧
      s.operators = [⟨.mul, "*"⟩, ⟨.add, "+"⟩] := by
  intro before
  have hoperators : (run .empty .empty before).toOption.map operators =
      some [⟨.mul, "*"⟩, ⟨.add, "+"⟩] := by decide +kernel
  cases hs : run .empty .empty before with
  | error f =>
    rw [hs] at hoperators
    cases hoperators
  | ok s =>
    rw [hs] at hoperators
    have horderly := evaluate_keeps_stacks_orderly .empty (before ++ [⟨.number, "3"⟩])
    exact ⟨s, rfl, horderly.1 before s (List.prefix_append _ _) hs, Option.some.inj hoperators⟩

end CalcScript
