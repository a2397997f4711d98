/-!
# Double precision values and exact ratios

A finite double is a significand times a power of two. The value nearest to a ratio of natural
numbers, a half going to the even significand, is found in exact arithmetic: its bit pattern is the
exponent field times `2 ^ 52` plus the rounded significand, so a carry out of the significand moves
to the next exponent by itself, and a pattern past the largest finite one is infinity.
-/
namespace CalcScript.Number

/-- A double taken apart. The value of `finite` is `significand * 2 ^ exponent`, negated if
`negative`. -/
inductive Binary64 where
  | nan
  | infinite (negative : Bool)
  | finite (negative : Bool) (significand : Nat) (exponent : Int)
  deriving DecidableEq, Repr

def leastExponent : Int := -1074

/-- The significand of a normal double has 53 bits, of which the first is implied. -/
def impliedBit : Nat := Nat.pow 2 52

def infinityBits : Nat := 0x7FF * impliedBit

/-- Sign, exponent field and fraction field of a bit pattern. -/
def Binary64.ofBits (bits : Nat) : Binary64 :=
  let negative := bits / Nat.pow 2 63 % 2 == 1
  let field := bits / impliedBit % 0x800
  let fraction := bits % impliedBit
  if field == 0x7FF then
    if fraction == 0 then .infinite negative else .nan
  else if field == 0 then .finite negative fraction leastExponent
  else .finite negative (impliedBit + fraction) (field - 1 + leastExponent)

def Binary64.ofFloat (x : Float) : Binary64 :=
  Binary64.ofBits x.toBits.toNat

/-- The quotient rounded to the nearest natural number, a half to the even one. -/
def roundHalfEven (num den : Nat) : Nat :=
  let quotient := num / den
  let twice := 2 * (num % den)
  if twice < den then quotient
  else if den < twice then quotient + 1
  else quotient + quotient % 2

/-- The greatest `k` with `2 ^ k ≤ num / den`, for positive `num` and `den`. -/
def log2Ratio (num den : Nat) : Int :=
  let guess : Int := num.log2 - den.log2
  if den * Nat.pow 2 guess.toNat ≤ num * Nat.pow 2 (-guess).toNat then guess else guess - 1

/-- The bit pattern of the non-negative double nearest to `num / den`. -/
def nearestBits (num den : Nat) : Nat :=
  if num == 0 then 0
  else
    let exponent := max (log2Ratio num den - 52) leastExponent
    let significand :=
      roundHalfEven (num * Nat.pow 2 (-exponent).toNat) (den * Nat.pow 2 exponent.toNat)
    min infinityBits ((exponent - leastExponent).toNat * impliedBit + significand)

/-- The double nearest to `num / den`, or to its negation. -/
def nearest (negative : Bool) (num den : Nat) : Float :=
  Float.ofBits (UInt64.ofNat ((if negative then Nat.pow 2 63 else 0) + nearestBits num den))

/-- A ratio is too large when it is at least halfway from the largest finite double to the next
power of two. -/
def tooLarge (num den : Nat) : Bool :=
  (Nat.pow 2 54 - 1) * Nat.pow 2 970 * den ≤ num

/-- The double nearest to `n * 10 ^ e`, or to its negation. Powers far outside the range of a double
are settled by the count of digits alone. -/
def ofDecimal (negative : Bool) (n : Nat) (e : Int) : Float :=
  let magnitude := e + (Nat.toDigits 10 n).length
  if n == 0 || magnitude < -400 then nearest negative 0 1
  else if 400 < magnitude then nearest negative (Nat.pow 2 1024) 1
  else nearest negative (n * Nat.pow 10 e.toNat) (Nat.pow 10 (-e).toNat)

def infinity (negative : Bool) : Float :=
  nearest negative (Nat.pow 2 1024) 1

end CalcScript.Number
