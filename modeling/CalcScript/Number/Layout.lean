import CalcScript.Number.Shortest

/-!
# How a number is written

The digits of a number are the shortest that read back. They are written positionally while the
power of ten of the leading digit lies in a fixed range, and scientifically outside it.
-/
namespace CalcScript.Number

structure Layout where
  /-- Powers of the leading digit from this one on are written positionally. -/
  leastPositional : Int
  /-- Powers of the leading digit from this one on are written scientifically. -/
  leastScientific : Int
  /-- The least number of digits of a written exponent. -/
  exponentWidth : Nat
  infinityText : String
  nanText : String

/-- Numbers are positional from `0.0001` to below `10 ^ 16`; an exponent has a sign and at least two
digits. -/
def standard : Layout where
  leastPositional := -4
  leastScientific := 16
  exponentWidth := 2
  infinityText := "inf"
  nanText := "nan"

def paddedDigits (width n : Nat) : List Char :=
  let digits := Nat.toDigits 10 n
  List.replicate (width - digits.length) '0' ++ digits

/-- The digits with the leading one counting `10 ^ power`, written with a decimal point and at least
one place after it. -/
def positional (digits : List Char) (power : Int) : List Char :=
  if 0 ≤ power then
    let whole := power.toNat + 1
    let places := digits.drop whole
    digits.take whole ++ List.replicate (whole - digits.length) '0' ++ '.' ::
      (if places.isEmpty then ['0'] else places)
  else '0' :: '.' :: List.replicate (-power - 1).toNat '0' ++ digits

/-- The digits with the leading one counting `10 ^ power`, written with an exponent. -/
def Layout.scientific (layout : Layout) (digits : List Char) (power : Int) : List Char :=
  let fraction := digits.drop 1
  digits.take 1 ++ (if fraction.isEmpty then [] else '.' :: fraction) ++
    'e' :: (if power < 0 then '-' else '+') :: paddedDigits layout.exponentWidth power.natAbs

def dropTrailingZeros (digits : List Char) : List Char :=
  (digits.reverse.dropWhile (· == '0')).reverse

def Layout.magnitude (layout : Layout) (d : Decimal) : List Char :=
  if d.digits == 0 then positional ['0'] 0
  else
    let all := Nat.toDigits 10 d.digits
    let power := d.exponent + all.length - 1
    let digits := dropTrailingZeros all
    if layout.leastPositional ≤ power && power < layout.leastScientific then
      positional digits power
    else layout.scientific digits power

def Layout.write (layout : Layout) : Binary64 → String
  | .nan => layout.nanText
  | .infinite negative => (if negative then "-" else "") ++ layout.infinityText
  | .finite negative significand exponent =>
    let d : Decimal := if significand == 0 then ⟨0, 0⟩ else shortest significand exponent
    String.ofList ((if negative then ['-'] else []) ++ layout.magnitude d)

def text (x : Float) : String :=
  standard.write (Binary64.ofFloat x)

end CalcScript.Number
