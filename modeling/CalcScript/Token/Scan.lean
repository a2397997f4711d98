import CalcScript.Text.CharClass
import CalcScript.Token.Basic
import CalcScript.Token.Excerpt

/-!
# Scanning source text

One loop goes through the text. It takes words, numbers and symbols as tokens and passes over
blanks. Any other character is stray: a lenient scan skips it and keeps a note of it, a strict scan
is refused at the first one.
-/
namespace CalcScript

structure Stray where
  char : Char
  position : Nat
  deriving DecidableEq, Repr

namespace Scan
open Text

/-- The number at the start of a text that begins with a digit, and the text after it: digits, and
a point with more digits if a digit follows the point. -/
def splitNumber (cs : List Char) : List Char × List Char :=
  let whole := cs.takeWhile isDigit
  match cs.dropWhile isDigit with
  | '.' :: rest =>
    if rest.head?.any isDigit then
      (whole ++ '.' :: rest.takeWhile isDigit, rest.dropWhile isDigit)
    else (whole, '.' :: rest)
  | rest => (whole, rest)

theorem splitNumber_append (cs : List Char) : (splitNumber cs).1 ++ (splitNumber cs).2 = cs := by
  unfold splitNumber
  have hsplit : cs.takeWhile isDigit ++ cs.dropWhile isDigit = cs := List.takeWhile_append_dropWhile
  split
  next rest h =>
    rw [h] at hsplit
    split
    · simpa using hsplit
    · simpa using hsplit
  next => exact hsplit

theorem length_splitNumber_snd {c : Char} {cs : List Char} (h : isDigit c = true) :
    (splitNumber (c :: cs)).2.length ≤ cs.length := by
  have hsplit := congrArg List.length (splitNumber_append (c :: cs))
  have hpos : 0 < (splitNumber (c :: cs)).1.length := by
    unfold splitNumber
    simp only [List.takeWhile_cons, h, if_true]
    split
    · split <;> simp
    · simp
  simp only [List.length_append, List.length_cons] at hsplit
  omega

/-- The kind of a word; right after a word character no keyword is recognised. -/
def wordKind (glued : Bool) (word : List Char) : TokenKind :=
  if glued then .identifier else .ofWord (String.ofList word)

/-- What a scan has when it ends: its tokens, the stray characters it skipped, and the one at which
it was refused. -/
structure Outcome where
  tokens : List Token
  skipped : List Stray
  refusal : Option Stray
  deriving DecidableEq, Repr

def Outcome.push (t : Token) (o : Outcome) : Outcome :=
  { o with tokens := t :: o.tokens }

def Outcome.skip (s : Stray) (o : Outcome) : Outcome :=
  { o with skipped := s :: o.skipped }

/-- The scan of a text that begins at `position`; `glued` says that a word character stands right
before it. -/
def loop (strict : Bool) (position : Nat) (glued : Bool) : List Char → Outcome
  | [] => ⟨[], [], none⟩
  | c :: rest =>
    if isWordStart c then
      let word := c :: rest.takeWhile isWordChar
      (loop strict (position + word.length) true (rest.dropWhile isWordChar)).push
        ⟨wordKind glued word, String.ofList word⟩
    else if _h : isDigit c = true then
      let number := (splitNumber (c :: rest)).1
      (loop strict (position + number.length) true (splitNumber (c :: rest)).2).push
        ⟨.number, String.ofList number⟩
    else
      match TokenKind.ofSymbol? c with
      | some kind => (loop strict (position + 1) false rest).push ⟨kind, String.singleton c⟩
      | none =>
        if isBlank c then loop strict (position + 1) false rest
        else if strict then ⟨[], [], some ⟨c, position⟩⟩
        else (loop strict (position + 1) false rest).skip ⟨c, position⟩
termination_by cs => cs.length
decreasing_by
  · have := (List.dropWhile_sublist isWordChar (l := rest)).length_le
    simp only [List.length_cons]
    omega
  · have := @length_splitNumber_snd c rest _h
    simp only [List.length_cons]
    omega
  all_goals simp

def outcome (strict : Bool) (code : String) : Outcome :=
  loop strict 0 false code.toList

structure Error where
  code : String
  stray : Stray
  deriving DecidableEq, Repr

def Error.reason (e : Error) : String :=
  "Unexpected character: " ++ Text.quoted (String.singleton e.stray.char)

def Error.message (e : Error) : String :=
  Excerpt.text ⟨e.reason, e.code, e.stray.position⟩

end Scan

namespace Token
open Scan

/-- The tokens of source text, stray characters skipped. -/
def scan (code : String) : List Token :=
  (outcome false code).tokens

def scanAs (strict : Bool) (code : String) : Except Scan.Error (List Token) :=
  match (outcome strict code).refusal with
  | none => .ok (outcome strict code).tokens
  | some stray => .error ⟨code, stray⟩

def scanStrict (code : String) : Except Scan.Error (List Token) :=
  scanAs true code

end Token
end CalcScript
