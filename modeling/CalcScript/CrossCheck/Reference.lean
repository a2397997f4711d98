import CalcScript.CrossCheck.Formula
import CalcScript.Token.Scan

/-!
# Reference arithmetic

Formulas are evaluated over two sorts of quantity: whole numbers of any size, kept exact, and
doubles. Sum, difference and product of whole numbers are whole; their quotient is the nearest
double. Where a double takes part, a whole number first becomes the nearest double, which fails if
it is too large.

The text of a formula is cut into tokens by the scanner, which skips stray characters. So the
reference is the usual arithmetic on texts of literals, signs, operators and brackets with blanks
between them, as samples are; it refuses `2 ** 3`, and takes `1 $ + 2` for `1 + 2`.
-/
namespace CalcScript

inductive ReferenceError where
  | divisionByZero
  | wholeTooLarge
  | quotientTooLarge
  | unreadable
  deriving DecidableEq, Repr

def ReferenceError.message : ReferenceError → String
  | .divisionByZero => "division by zero"
  | .wholeTooLarge => "int too large to convert to float"
  | .quotientTooLarge => "integer division result too large for a float"
  | .unreadable => "invalid syntax (<string>, line 1)"

inductive Quantity where
  | whole (n : Int)
  | real (x : Float)

namespace Quantity

def toFloat : Quantity → Except ReferenceError Float
  | .whole n =>
    if Number.tooLarge n.natAbs 1 then .error .wholeTooLarge
    else .ok (Number.nearest (n < 0) n.natAbs 1)
  | .real x => .ok x

/-- The quotient of two whole numbers, of which the second is not zero; a zero quotient has the sign
of the division. -/
def quotient (a b : Int) : Except ReferenceError Quantity :=
  if b = 0 then .error .divisionByZero
  else if Number.tooLarge a.natAbs b.natAbs then .error .quotientTooLarge
  else .ok (.real (Number.nearest (decide (a < 0) != decide (b < 0)) a.natAbs b.natAbs))

def applyReal (op : Operator) (a b : Float) : Except ReferenceError Quantity :=
  match op with
  | .add => .ok (.real (a + b))
  | .sub => .ok (.real (a - b))
  | .mul => .ok (.real (a * b))
  | .div => if b == 0 then .error .divisionByZero else .ok (.real (a / b))

def applyWhole (op : Operator) (a b : Int) : Except ReferenceError Quantity :=
  match op with
  | .add => .ok (.whole (a + b))
  | .sub => .ok (.whole (a - b))
  | .mul => .ok (.whole (a * b))
  | .div => quotient a b

def apply (op : Operator) (a b : Quantity) : Except ReferenceError Quantity :=
  match a, b with
  | .whole m, .whole n => applyWhole op m n
  | a, b =>
    match a.toFloat with
    | .error e => .error e
    | .ok x =>
      match b.toFloat with
      | .error e => .error e
      | .ok y => applyReal op x y

def negate : Quantity → Quantity
  | .whole n => .whole (-n)
  | .real x => .real (-x)

end Quantity

/-- The quantity that a formula denotes, its left part evaluated first. -/
def Formula.quantity : Formula → Except ReferenceError Quantity
  | .whole n => .ok (.whole n)
  | .decimal x => .ok (.real x)
  | .negate f => f.quantity.map Quantity.negate
  | .binary op left right =>
    match left.quantity with
    | .error e => .error e
    | .ok a =>
      match right.quantity with
      | .error e => .error e
      | .ok b => Quantity.apply op a b

/-- The reference value of source text; there is none where a division by zero occurs. -/
def referenceValue (code : String) : Except ReferenceError (Option Float) :=
  match Formula.ofTokens? (Token.scan code) with
  | none => .error .unreadable
  | some f =>
    match f.quantity with
    | .error .divisionByZero => .ok none
    | .error e => .error e
    | .ok q => q.toFloat.map some

end CalcScript
