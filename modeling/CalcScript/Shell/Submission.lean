import CalcScript.Journal
import CalcScript.Shell.Settings

/-!
# Submissions

A submission is source text run as a whole. If it cannot be scanned or read, its output is the one
message that says so and the store stays as it was.
-/
namespace CalcScript

/-- The output of source text, and the store after it. -/
def runSubmission (settings : ShellSettings) (code : String) (store : Store) :
    Except Halt (List String × Store) :=
  match Token.scanAs settings.strictTokens code with
  | .error e => .ok ([e.message], store)
  | .ok tokens =>
    match parse tokens with
    | .error e => .ok ([e.message], store)
    | .ok statements => execute store statements

def Journal.runSubmission (settings : ShellSettings) (code : String) (store : Store) :
    List JournalRecord :=
  scan settings.strictTokens code ++
    match Token.scanAs settings.strictTokens code with
    | .error _ => []
    | .ok tokens =>
      parse tokens ++
        match CalcScript.parse tokens with
        | .error _ => []
        | .ok statements => execute store statements

end CalcScript
