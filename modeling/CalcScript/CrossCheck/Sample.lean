import CalcScript.Number.Binary64

/-!
# Sample expressions

Expressions for comparing evaluators, made from a list of draws: numbers below one hundred, about
three in ten of them with a fraction, joined by operators. Each decision takes the next draw; after
the last one every draw is zero.
-/
namespace CalcScript.Sample

/-- One draw, read as a ratio or as an index. -/
structure Draw where
  ratio : Float
  index : Int

def next : List Draw → Draw × List Draw
  | [] => (⟨0, 0⟩, [])
  | d :: rest => (d, rest)

def Draw.below (d : Draw) (bound : Nat) : Nat :=
  (d.index % bound).toNat

/-- A ratio below this one asks for a fraction. -/
def fractionRatio : Float :=
  Number.ofDecimal false 3 (-1)

/-- A number from zero to ninety-nine, without leading zeros. -/
def digits (draws : List Draw) : String × List Draw :=
  let (d, rest) := next draws
  (toString (d.below 100), rest)

def number (draws : List Draw) : String × List Draw :=
  let (d, rest) := next draws
  let (whole, rest) := digits rest
  if d.ratio < fractionRatio then
    let (places, rest) := digits rest
    (whole ++ "." ++ places, rest)
  else (whole, rest)

def operators : List String :=
  ["+", "-", "*", "/"]

def operator (draws : List Draw) : String × List Draw :=
  let (d, rest) := next draws
  (operators.getD (d.below operators.length) "+", rest)

/-- As many operators, each with the number after it. -/
def continuation : Nat → List Draw → List String
  | 0, _ => []
  | count + 1, draws =>
    let (op, rest) := operator draws
    let (n, rest) := number rest
    op :: n :: continuation count rest

/-- The numbers and operators of an expression; it has at least one number. -/
def parts (operandCount : Nat) (draws : List Draw) : List String :=
  let (n, rest) := number draws
  n :: continuation (operandCount - 1) rest

/-- An expression with its parts one space apart. -/
def generate (operandCount : Nat) (draws : List Draw) : String :=
  " ".intercalate (parts operandCount draws)

end CalcScript.Sample
