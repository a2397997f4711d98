import CalcScript.Token.Basic

/-!
# Binary operators

The four operators of arithmetic, two of them binding tighter than the others, and the errors that
evaluating an expression can end in.
-/
namespace CalcScript

inductive Operator where
  | add
  | sub
  | mul
  | div
  deriving DecidableEq, Repr

def TokenKind.operator? : TokenKind → Option Operator
  | .plus => some .add
  | .minus => some .sub
  | .star => some .mul
  | .slash => some .div
  | _ => none

/-- Products bind tighter than sums. -/
def Operator.precedence : Operator → Nat
  | .add => 0
  | .sub => 0
  | .mul => 1
  | .div => 1

inductive Malformation where
  | parentheses
  | unexpected (t : Token)
  | missingOperand (lexeme : String)
  | valueCount (count : Nat)
  deriving DecidableEq, Repr

def Malformation.reason : Malformation → String
  | .parentheses => "parentheses are not supported"
  | .unexpected t => "unexpected " ++ t.kind.name ++ " " ++ Text.quoted t.lexeme
  | .missingOperand lexeme => "missing operand for " ++ Text.quoted lexeme
  | .valueCount count => "expected a single value, got " ++ toString count

inductive EvalError where
  | undefinedVariable (name : String)
  | divisionByZero
  | malformed (m : Malformation)
  deriving DecidableEq, Repr

def EvalError.message : EvalError → String
  | .undefinedVariable name => "Undefined variable " ++ name
  | .divisionByZero => "Division by zero"
  | .malformed m => "Malformed expression: " ++ m.reason

/-- What the operators stand for. The evaluator applies these operations and relies on no law of
theirs. -/
class Arithmetic where
  add : Float → Float → Float
  sub : Float → Float → Float
  mul : Float → Float → Float
  div : Float → Float → Float

instance Arithmetic.binary64 : Arithmetic :=
  ⟨(· + ·), (· - ·), (· * ·), (· / ·)⟩

/-- An operator applied. Only a divisor equal to zero is refused; overflow gives infinity. -/
def Operator.apply [Arithmetic] : Operator → Float → Float → Except EvalError Float
  | .add, a, b => .ok (Arithmetic.add a b)
  | .sub, a, b => .ok (Arithmetic.sub a b)
  | .mul, a, b => .ok (Arithmetic.mul a b)
  | .div, a, b => if b == 0 then .error .divisionByZero else .ok (Arithmetic.div a b)

end CalcScript
