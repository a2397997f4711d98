import CalcScript.Expression.Operator
import CalcScript.Store

/-!
# Evaluating an expression

An expression is a list of tokens. It is read once from left to right with a stack of operands and
a stack of operators that wait for their right operand. An arriving operator first applies the
waiting ones that bind at least as tightly, so operators of equal precedence are applied from left
to right; at the end all that wait are applied, and one operand must remain.
-/
namespace CalcScript
variable [Arithmetic]

/-- An operator that waits for its right operand, with its lexeme. -/
structure PendingOperator where
  operator : Operator
  lexeme : String
  deriving DecidableEq, Repr

/-- The state between two tokens; the top of each stack is the head of its list. -/
structure Stacks where
  operands : List Float
  operators : List PendingOperator

/-- Evaluation ends without a value in an error of the expression, or in a number token that
denotes no number. -/
inductive EvalFailure where
  | error (e : EvalError)
  | value (e : Token.ValueError)
  deriving DecidableEq, Repr

namespace Stacks

def empty : Stacks :=
  ⟨[], []⟩

def push (s : Stacks) (x : Float) : Stacks :=
  { s with operands := x :: s.operands }

/-- The operand stack after an operator took its two operands, the right one from the top. -/
def reduce (op : PendingOperator) : List Float → Except EvalError (List Float)
  | right :: left :: rest =>
    match op.operator.apply left right with
    | .ok x => .ok (x :: rest)
    | .error e => .error e
  | _ => .error (.malformed (.missingOperand op.lexeme))

/-- The state after the waiting operators that bind at least as tightly as `level` were applied,
from the top until a looser one. -/
def reduceFrom (level : Nat) (operands : List Float) :
    List PendingOperator → Except EvalError Stacks
  | [] => .ok ⟨operands, []⟩
  | op :: rest =>
    if level ≤ op.operator.precedence then
      match reduce op operands with
      | .ok operands => reduceFrom level operands rest
      | .error e => .error e
    else .ok ⟨operands, op :: rest⟩

def pushOperator (s : Stacks) (op : PendingOperator) : Except EvalError Stacks :=
  match reduceFrom op.operator.precedence s.operands s.operators with
  | .ok s => .ok { s with operators := op :: s.operators }
  | .error e => .error e

/-- The value that remains when all waiting operators are applied. -/
def result (s : Stacks) : Except EvalError Float :=
  match reduceFrom 0 s.operands s.operators with
  | .ok ⟨[x], _⟩ => .ok x
  | .ok s => .error (.malformed (.valueCount s.operands.length))
  | .error e => .error e

def step (store : Store) (s : Stacks) (t : Token) : Except EvalFailure Stacks :=
  match t.kind with
  | .number => (t.value.mapError .value).map s.push
  | .identifier =>
    match store.get? t.lexeme with
    | some x => .ok (s.push x)
    | none => .error (.error (.undefinedVariable t.lexeme))
  | .bracketOpen => .error (.error (.malformed .parentheses))
  | .bracketClose => .error (.error (.malformed .parentheses))
  | kind =>
    match kind.operator? with
    | some op => (s.pushOperator ⟨op, t.lexeme⟩).mapError .error
    | none => .error (.error (.malformed (.unexpected t)))

end Stacks

/-- The value of an expression under a store. -/
def evaluate (store : Store) (expression : List Token) : Except EvalFailure Float :=
  match expression.foldlM (Stacks.step store) Stacks.empty with
  | .ok s => s.result.mapError .error
  | .error e => .error e

end CalcScript
