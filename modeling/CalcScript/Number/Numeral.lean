import CalcScript.Number.Binary64
import CalcScript.Text.CharClass
import CalcScript.Text.DecimalDigit

/-!
# Numerals

The texts that denote a double: an optional sign, then digits with at most one decimal point and an
optional exponent, or the name of infinity or of the undefined value. Single underscores may stand
between digits, spaces around the whole, and digits may be those of any script.
-/
namespace CalcScript.Number
open Text

/-- A character reduced to ASCII: spaces of other blocks become the space, digits of other scripts
the ASCII digits. -/
def asciiChar? (c : Char) : Option Char :=
  if c.toNat < 128 then some c
  else if isBlank c then some ' '
  else (decimalDigit? c).map fun d => Char.ofNat (48 + d)

def isPadding (c : Char) : Bool :=
  c == ' ' || (9 ≤ c.toNat && c.toNat ≤ 13)

def unpad (cs : List Char) : List Char :=
  ((cs.dropWhile isPadding).reverse.dropWhile isPadding).reverse

/-- The text without its underscores, each of which must stand between two digits; `afterDigit` says
that a digit comes before it. -/
def ungroup? (afterDigit : Bool) : List Char → Option (List Char)
  | [] => some []
  | c :: rest =>
    if c == '_' then
      if afterDigit && rest.head?.any isDigit then ungroup? false rest else none
    else (ungroup? (isDigit c) rest).map (c :: ·)

def digitsValue (cs : List Char) : Nat :=
  cs.foldl (fun n c => 10 * n + (c.toNat - 48)) 0

def takeSign : List Char → Bool × List Char
  | '-' :: rest => (true, rest)
  | '+' :: rest => (false, rest)
  | cs => (false, cs)

/-- The exponent part of a numeral: nothing, or `e` and an integer. -/
def exponent? : List Char → Option Int
  | [] => some 0
  | c :: rest =>
    let (negative, digits) := takeSign rest
    if (c == 'e' || c == 'E') && !digits.isEmpty && digits.all isDigit then
      some (if negative then -(digitsValue digits : Int) else digitsValue digits)
    else none

def decimal? (negative : Bool) (cs : List Char) : Option Float :=
  let whole := cs.takeWhile isDigit
  let afterWhole := cs.dropWhile isDigit
  let (places, afterPlaces) :=
    match afterWhole with
    | '.' :: rest => (rest.takeWhile isDigit, rest.dropWhile isDigit)
    | _ => ([], afterWhole)
  if whole.isEmpty && places.isEmpty then none
  else (exponent? afterPlaces).map fun e =>
    ofDecimal negative (digitsValue (whole ++ places)) (e - places.length)

def unsigned? (negative : Bool) (cs : List Char) : Option Float :=
  let name := String.ofList (cs.map Char.toLower)
  if name == "inf" || name == "infinity" then some (infinity negative)
  else if name == "nan" then some (0.0 / 0.0)
  else decimal? negative cs

/-- The double that a text denotes. -/
def read? (s : String) : Option Float := do
  let ascii ← s.toList.mapM asciiChar?
  let plain ← ungroup? false (unpad ascii)
  let (negative, body) := takeSign plain
  unsigned? negative body

end CalcScript.Number
