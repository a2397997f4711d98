import CalcScript.Execution
import CalcScript.Statement.Parse
import CalcScript.Token.Scan

/-!
# The journal

Every stage writes debug records about its work. The records are given by functions beside the
stages themselves, each of the same input as its stage; records made before a run stops are kept.
-/
namespace CalcScript

inductive JournalOrigin where
  | scanner
  | reader
  | evaluator
  | runner
  | shell
  deriving DecidableEq, Repr

def JournalOrigin.name : JournalOrigin → String
  | .scanner => "minilang.tokenizer"
  | .reader => "minilang.parser"
  | .evaluator => "minilang.evaluator"
  | .runner => "minilang.runtime"
  | .shell => "minilang.shell"

structure JournalRecord where
  origin : JournalOrigin
  message : String
  deriving DecidableEq, Repr

/-- Every record is of the debug level. -/
def JournalRecord.level (_ : JournalRecord) : String :=
  "DEBUG"

def JournalRecord.line (r : JournalRecord) : String :=
  r.level ++ " " ++ r.origin.name ++ ": " ++ r.message

namespace Journal

def scan (strict : Bool) (code : String) : List JournalRecord :=
  (Scan.outcome strict code).skipped.map fun stray =>
    ⟨.scanner, "Skipping unrecognized character " ++
      Text.quoted (String.singleton stray.char) ++ " at index " ++ toString stray.position⟩

def parse (tokens : List Token) : List JournalRecord :=
  match CalcScript.parse tokens with
  | .ok statements =>
    [⟨.reader, "Parsed " ++ toString statements.length ++ " statement(s) from " ++
      toString tokens.length ++ " token(s)"⟩]
  | .error e =>
    [⟨.reader, "Rejecting program: " ++ e.fault.reason ++ " at token " ++ toString e.index⟩]

def evaluate (store : Store) (expression : List Token) : List JournalRecord :=
  match CalcScript.evaluate store expression with
  | .error (.error e) =>
    [⟨.evaluator, "Failed to evaluate " ++ Text.quoted (Token.render expression) ++ ": " ++
      e.message⟩]
  | _ => []

def statement (store : Store) : Statement → List JournalRecord
  | .assign _ expression => evaluate store expression
  | _ => []

/-- The records of single statements run one after the other. -/
def trace (store : Store) : List Statement → List JournalRecord
  | [] => []
  | s :: rest =>
    statement store s ++
      match s.execute store with
      | .error _ => []
      | .ok (_, next) => trace next rest

/-- A run records each statement before it starts. -/
def execute (store : Store) : List Statement → List JournalRecord
  | [] => []
  | s :: rest =>
    ⟨.runner, "Executing " ++ s.text⟩ :: statement store s ++
      match s.execute store with
      | .error _ => []
      | .ok (_, next) => execute next rest

end Journal
end CalcScript
