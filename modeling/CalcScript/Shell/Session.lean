import CalcScript.Shell.Submission

/-!
# Interactive sessions

A session prints the prompt, reads a line and runs it, until the exit command or the end of input,
and then prints the farewell. A transcript keeps the block of output of each line that was run and
counts the lines never read.
-/
namespace CalcScript

/-- A line that was run: its output and the store after it. -/
structure Turn where
  block : List String
  store : Store

structure Transcript where
  turns : List Turn
  unread : Nat

def Transcript.cons (turn : Turn) (t : Transcript) : Transcript :=
  { t with turns := turn :: t.turns }

/-- The store that a line starts with, after the previous one left `store`. -/
def ShellSettings.carried (settings : ShellSettings) (store : Store) : Store :=
  if settings.keepVariables then store else Store.empty

/-- The turn of a line, when the line before left `store`; there is none for the exit command. -/
def takeTurn (settings : ShellSettings) (store : Store) (line : String) :
    Except Halt (Option Turn) :=
  if settings.isExit line then .ok none
  else (runSubmission settings line (settings.carried store)).map fun r => some ⟨r.1, r.2⟩

/-- A session over the lines that the input holds, when the line before left `store`. -/
def runSessionFrom (settings : ShellSettings) (store : Store) : List String → Except Halt Transcript
  | [] => .ok ⟨[], 0⟩
  | line :: rest =>
    match takeTurn settings store line with
    | .error halt => .error halt
    | .ok none => .ok ⟨[], rest.length⟩
    | .ok (some turn) => (runSessionFrom settings turn.store rest).map (.cons turn)

def runSession (settings : ShellSettings) (lines : List String) : Except Halt Transcript :=
  runSessionFrom settings Store.empty lines

/-- All that a session prints: before each line the prompt, after it its block, and at the end the
last prompt and the farewell. -/
def Transcript.output (settings : ShellSettings) (t : Transcript) : List String :=
  t.turns.flatMap (fun turn => settings.prompt :: turn.block) ++
    [settings.prompt, settings.farewell]

/-- The records of a turn: those of its line, and the variables after it. -/
def Journal.turn (settings : ShellSettings) (store : Store) (line : String) : List JournalRecord :=
  match takeTurn settings store line with
  | .error _ => runSubmission settings line (settings.carried store)
  | .ok none => []
  | .ok (some turn) =>
    runSubmission settings line (settings.carried store) ++
      [⟨.shell, "Variables after submission: " ++ turn.store.text⟩]

def Journal.session (settings : ShellSettings) (store : Store) : List String → List JournalRecord
  | [] => []
  | line :: rest =>
    turn settings store line ++
      match takeTurn settings store line with
      | .ok (some turn) => session settings turn.store rest
      | _ => []

end CalcScript
