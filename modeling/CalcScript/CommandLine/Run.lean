import CalcScript.CommandLine.Usage
import CalcScript.Shell.Session
import CalcScript.WorkDir

/-!
# Running a command line

The outcome of a command line in a working directory, with all of its input at hand: the exit status
and the text on the two output channels. The journal goes to the error channel at the debug level.
-/
namespace CalcScript.CommandLine

inductive Failure where
  /-- The file could not be read. -/
  | file (e : FileError)
  /-- The program stopped. -/
  | halt (h : Halt)
  /-- There is no level for the journal. -/
  | noLevel
  deriving DecidableEq, Repr

def Failure.message : Failure → String
  | .file e => e.message
  | .halt h => h.message
  | .noLevel => "Level not an integer or a valid string: []"

structure Outcome where
  status : Nat
  output : String
  errors : String
  failure : Option Failure

def endedLines (lines : List String) : String :=
  "".intercalate (lines.map (· ++ "\n"))

/-- The journal as the error channel shows it. -/
def LogLevel.shown (level : LogLevel) (records : List JournalRecord) : String :=
  if level = .debug then endedLines (records.map JournalRecord.line) else ""

def runFile (settings : ShellSettings) (dir : WorkDir) (path : String) :
    Except Failure (List String) :=
  match dir.readText path with
  | .error e => .error (.file e)
  | .ok code =>
    match runSubmission settings code Store.empty with
    | .error h => .error (.halt h)
    | .ok (lines, _) => .ok lines

def fileJournal (settings : ShellSettings) (dir : WorkDir) (path : String) : List JournalRecord :=
  match dir.readText path with
  | .error _ => []
  | .ok code => Journal.runSubmission settings code Store.empty

def inputLines (input : String) : List String :=
  Text.lines (Text.unifyNewlines input.toList)

/-- The records of a task, which has none when it cannot start. -/
def Task.journal (task : Task) (dir : WorkDir) (input : String) : List JournalRecord :=
  match task.level, task.file with
  | none, _ => []
  | some _, some path => fileJournal task.settings dir path
  | some _, none => Journal.session task.settings Store.empty (inputLines input)

def Task.output (task : Task) (dir : WorkDir) (input : String) : Except Failure (List String) :=
  match task.file with
  | some path => runFile task.settings dir path
  | none =>
    match runSession task.settings (inputLines input) with
    | .error h => .error (.halt h)
    | .ok transcript => .ok (transcript.output task.settings)

def Task.outcome (task : Task) (dir : WorkDir) (input : String) : Outcome :=
  match task.level with
  | none => ⟨1, "", "", some .noLevel⟩
  | some level =>
    let errors := level.shown (task.journal dir input)
    match task.output dir input with
    | .error failure => ⟨1, "", errors, some failure⟩
    | .ok lines => ⟨0, endedLines lines, errors, none⟩

def run (words : List String) (dir : WorkDir) (input : String) : Outcome :=
  match request words with
  | .error e => ⟨2, "", refusal e, none⟩
  | .ok .help => ⟨0, helpText, "", none⟩
  | .ok (.run task) => task.outcome dir input

end CalcScript.CommandLine
