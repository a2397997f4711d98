import CalcScript.Number.Binary64

/-!
# The shortest digits of a double

Among the decimals that round to a given double, the fewest significant digits are chosen, and among
those the decimal nearest to the double. The decimals that round to `significand * 2 ^ exponent`
fill the interval that ends halfway to its two neighbours; the ends belong to it when the
significand is even. On the grid of all decimals with `n` digits only the two points next to the
value have to be tried.
-/
namespace CalcScript.Number

/-- The decimal `digits * 10 ^ exponent`. -/
structure Decimal where
  digits : Nat
  exponent : Int
  deriving DecidableEq, Repr

/-- The interval of reals that round to one double, as numerators over one denominator. -/
structure RoundingInterval where
  low : Nat
  value : Nat
  high : Nat
  den : Nat
  closed : Bool

/-- The interval around `significand * 2 ^ exponent`. Below a power of two the neighbour is half as
far, unless the power begins the least binade. -/
def roundingInterval (significand : Nat) (exponent : Int) : RoundingInterval :=
  let below := if significand == impliedBit && leastExponent < exponent then 1 else 2
  let scale := Nat.pow 2 (exponent - 2).toNat
  { low := (4 * significand - below) * scale
    value := 4 * significand * scale
    high := (4 * significand + 2) * scale
    den := Nat.pow 2 (2 - exponent).toNat
    closed := significand % 2 == 0 }

/-- The greatest `k` with `10 ^ k ≤ num / den`, for positive `num` and `den`. -/
def log10Ratio (num den : Nat) : Int :=
  if den ≤ num then ((Nat.toDigits 10 (num / den)).length : Int) - 1
  else -((Nat.toDigits 10 ((den - 1) / num)).length : Int)

def RoundingInterval.ordered (i : RoundingInterval) (a b : Nat) : Bool :=
  if i.closed then a ≤ b else a < b

/-- The grid point nearest to the interval's value, of the two beside it that lie in the interval;
the grid is the multiples of `10 ^ power`, and of two equally near points the even one is taken. -/
def RoundingInterval.gridPoint? (i : RoundingInterval) (power : Int) : Option Nat :=
  let scale := Nat.pow 10 (-power).toNat
  let step := i.den * Nat.pow 10 power.toNat
  let lower := i.value * scale / step
  match i.ordered (i.low * scale) (lower * step),
      i.ordered ((lower + 1) * step) (i.high * scale) with
  | true, true => some (roundHalfEven (i.value * scale) step)
  | true, false => some lower
  | false, true => some (lower + 1)
  | false, false => none

/-- The first grid with a point in the interval, from `count` digits up, where the leading digit
counts `10 ^ top` and `left` more grids may be tried. -/
def RoundingInterval.search (i : RoundingInterval) (top : Int) (count : Nat) : Nat → Decimal
  | 0 => ⟨roundHalfEven (i.value * Nat.pow 10 (count - 1 - top).toNat)
      (i.den * Nat.pow 10 (top + 1 - count).toNat), top + 1 - count⟩
  | left + 1 =>
    match i.gridPoint? (top + 1 - count) with
    | some n => ⟨n, top + 1 - count⟩
    | none => i.search top (count + 1) left

/-- The shortest decimal that rounds to `significand * 2 ^ exponent`; seventeen digits always
suffice. -/
def shortest (significand : Nat) (exponent : Int) : Decimal :=
  let i := roundingInterval significand exponent
  i.search (log10Ratio i.value i.den) 1 16

end CalcScript.Number
