import CalcScript.Text.CharClass
import CalcScript.Token.Basic

/-!
# Rendering tokens

Lexemes are joined by single spaces, and then blanks are closed up: none stay before a semicolon,
after an opening bracket or before a closing bracket. Closing up works on the joined text, so it
also acts inside lexemes that hold such characters.
-/
namespace CalcScript.Render
open Text

/-- The text without the blanks that run up to a `mark`. -/
def closeBefore (mark : Char) : List Char → List Char
  | [] => []
  | c :: rest =>
    if isBlank c && (rest.dropWhile isBlank).head? == some mark then closeBefore mark rest
    else c :: closeBefore mark rest

/-- The text without the blanks that follow a `mark`; `behind` says that the mark, and perhaps
blanks after it, stand right before the text. -/
def closeAfter (mark : Char) (behind : Bool) : List Char → List Char
  | [] => []
  | c :: rest =>
    if behind && isBlank c then closeAfter mark true rest
    else c :: closeAfter mark (c == mark) rest

def joinSpaced : List (List Char) → List Char
  | [] => []
  | [cs] => cs
  | cs :: rest => cs ++ ' ' :: joinSpaced rest

def closeUp (cs : List Char) : List Char :=
  closeBefore ')' (closeAfter '(' false (closeBefore ';' cs))

def chars (ts : List Token) : List Char :=
  closeUp (joinSpaced (ts.map (·.lexeme.toList)))

end CalcScript.Render

namespace CalcScript.Token

/-- Tokens rendered as source text. -/
def render (ts : List Token) : String :=
  String.ofList (Render.chars ts)

end CalcScript.Token
