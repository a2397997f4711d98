/-!
# Line ends

A carriage return, alone or before a line feed, is read as a line feed.
-/
namespace CalcScript.Text

/-- Every line end written as one line feed. -/
def unifyNewlines : List Char → List Char
  | [] => []
  | '\r' :: '\n' :: rest => '\n' :: unifyNewlines rest
  | '\r' :: rest => '\n' :: unifyNewlines rest
  | c :: rest => c :: unifyNewlines rest

/-- The lines of a text, given the start of the first one, last character first. What follows the
last line feed is a line if it is not empty. -/
def linesAfter (started : List Char) : List Char → List String
  | [] => if started.isEmpty then [] else [String.ofList started.reverse]
  | c :: rest =>
    if c == '\n' then String.ofList started.reverse :: linesAfter [] rest
    else linesAfter (c :: started) rest

def lines (cs : List Char) : List String :=
  linesAfter [] cs

end CalcScript.Text
