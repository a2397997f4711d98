import CalcScript.CommandLine.Request

/-!
# Usage, help and refusals

The fixed texts of the command line and the wording of its errors.
-/
namespace CalcScript.CommandLine

def usage : String :=
  "usage: repl.py [-h] [--strict] [--keep-variables] [--prompt PROMPT]\n" ++
  "               [--log-level \x7bDEBUG,INFO,WARNING,ERROR\x7d]\n" ++
  "               [file]\n"

def helpText : String :=
  usage ++ "\n" ++
  "Run minilang programs\n\n" ++
  "positional arguments:\n" ++
  "  file                  program to run, starts a REPL if omitted\n\n" ++
  "options:\n" ++
  "  -h, --help            show this help message and exit\n" ++
  "  --strict              fail on unrecognized characters\n" ++
  "  --keep-variables      share variables between REPL lines\n" ++
  "  --prompt PROMPT\n" ++
  "  --log-level \x7bDEBUG,INFO,WARNING,ERROR\x7d\n"

def UsageError.message : UsageError → String
  | .ambiguous word candidates =>
    "ambiguous option: " ++ word ++ " could match " ++
      ", ".intercalate (candidates.map Switch.longName)
  | .ignoredArgument switch given =>
    "argument " ++ switch.title ++ ": ignored explicit argument " ++ Text.quoted given
  | .missingArgument switch => "argument " ++ switch.title ++ ": expected one argument"
  | .invalidLevel given =>
    "argument " ++ Switch.logLevel.title ++ ": invalid choice: " ++ Text.quoted given ++
      " (choose from " ++ ", ".intercalate (LogLevel.all.map fun l => Text.quoted l.name) ++ ")"
  | .unrecognized words => "unrecognized arguments: " ++ " ".intercalate words

def refusal (e : UsageError) : String :=
  usage ++ "repl.py: error: " ++ e.message ++ "\n"

end CalcScript.CommandLine
