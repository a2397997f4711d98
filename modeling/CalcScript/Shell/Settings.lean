import CalcScript.Text.Lowercase
import CalcScript.Text.CharClass

/-!
# Shell settings

What an interactive session prints around its output, the command that ends it, and how it treats
variables and stray characters.
-/
namespace CalcScript

structure ShellSettings where
  /-- Printed before each line is read. -/
  prompt : String := "\nEnter an expression (or 'exit' to quit):"
  /-- The line that ends a session, whatever its letter case. -/
  exitCommand : String := "exit"
  /-- Printed at the end. -/
  farewell : String := "Interpreter closed."
  /-- Lines share one store; otherwise each starts with an empty one. -/
  keepVariables : Bool := false
  /-- Stray characters are refused; otherwise they are skipped. -/
  strictTokens : Bool := false
  deriving DecidableEq, Repr

/-- A line ends the session when, without the blanks around it and in lower case, it is the exit
command in lower case. -/
def ShellSettings.isExit (settings : ShellSettings) (line : String) : Bool :=
  Text.lowercase (Text.strip line.toList) == Text.lowercase settings.exitCommand.toList

end CalcScript
