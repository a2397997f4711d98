/-!
# Excerpts of source text

An excerpt shows up to ten characters on either side of a position, dots where the text goes on,
and a caret below the position. The position is a signed number: an excerpt can be asked for at any
place, also outside the text.
-/
namespace CalcScript

/-- A message about a position of a text. -/
structure Excerpt where
  reason : String
  source : String
  position : Int
  deriving DecidableEq, Repr

namespace Excerpt

def reach : Int := 10

/-- The place of a signed bound in a text of a given length: a negative bound counts from the end
and stops at the start. -/
def place (length : Nat) (bound : Int) : Nat :=
  if bound < 0 then (length + bound).toNat else bound.toNat

def slice (cs : List Char) (start stop : Int) : List Char :=
  (cs.take (place cs.length stop)).drop (place cs.length start)

def start (e : Excerpt) : Int :=
  max 0 (e.position - reach)

def stop (e : Excerpt) : Int :=
  min e.source.length (e.position + reach)

/-- The shown part of the text, with dots where text is left out. -/
def window (e : Excerpt) : String :=
  (if 0 < e.start then "..." else "") ++
    String.ofList (slice e.source.toList e.start e.stop) ++
    (if e.stop < e.source.length then "..." else "")

def column (e : Excerpt) : Int :=
  e.position - e.start + (if 0 < e.start then 3 else 0)

def caretLine (column : Int) : String :=
  String.ofList (List.replicate column.toNat ' ' ++ ['^'])

def text (e : Excerpt) : String :=
  "[Tokenizer error] " ++ e.reason ++ "\n" ++ e.window ++ "\n" ++ caretLine e.column

end Excerpt
end CalcScript
