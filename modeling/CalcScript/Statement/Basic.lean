import CalcScript.Token.Render

/-!
# Statements

A program is a list of statements: a declaration that sets a variable to zero, a display of a
variable, or an assignment of an expression. A caller may also hand over a text that is no
statement; reading a program never makes one.
-/
namespace CalcScript

inductive Statement where
  | read (name : String)
  | display (name keyword : String)
  | assign (name : String) (expression : List Token)
  | unknown (text : String)
  deriving DecidableEq, Repr

def Statement.text : Statement → String
  | .read name => "Read " ++ name
  | .display name keyword => keyword ++ " " ++ name
  | .assign name expression => name ++ " = " ++ Token.render expression
  | .unknown text => text

end CalcScript
