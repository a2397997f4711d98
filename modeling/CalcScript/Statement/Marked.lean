import CalcScript.Token.Render

/-!
# Marked token lists

A message about a token list shows the rendered tokens and a caret below one of them. The caret's
column is the length of the rendering up to the token less the token's own length; past the last
token the caret stands one column after the text. Positions below zero count from the end.
-/
namespace CalcScript

/-- A message about one position of a token list. -/
structure MarkedTokens where
  reason : String
  tokens : List Token
  position : Int
  deriving DecidableEq, Repr

namespace MarkedTokens

def column (tokens : List Token) (index : Nat) : Nat :=
  match tokens[index]? with
  | some t => (Render.chars (tokens.take (index + 1))).length - t.lexeme.length
  | none =>
    let rendered := Render.chars tokens
    if rendered.isEmpty then 0 else rendered.length + 1

/-- The three lines of a message: reason, rendered tokens, caret. -/
def layout (reason : String) (tokens : List Token) (column : Nat) : String :=
  "Parser error: " ++ reason ++ "\n" ++ Token.render tokens ++ "\n" ++
    String.ofList (List.replicate column ' ' ++ ['^'])

/-- The column of a position; there is none before the first token. The rendering up to the last
token counts as empty when the position is given from the end. -/
def column? (m : MarkedTokens) : Option Nat :=
  if 0 ≤ m.position then some (column m.tokens m.position.toNat)
  else
    let index := m.tokens.length + m.position
    if index < 0 then none
    else
      let upTo := if m.position == -1 then 0 else index.toNat + 1
      m.tokens[index.toNat]?.map fun t =>
        (Render.chars (m.tokens.take upTo)).length - t.lexeme.length

def text? (m : MarkedTokens) : Option String :=
  m.column?.map (layout m.reason m.tokens)

end MarkedTokens
end CalcScript
