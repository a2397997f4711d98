import CalcScript.CommandLine.Run

/-!
# The command line program

Reads the arguments, the file or the standard input, and prints. Every decision is made by the pure
modules; an interactive session takes the turns of a transcript as its lines come in.
-/
namespace CalcScript.Main

def printLines (lines : List String) : IO Unit :=
  lines.forM IO.println

def printJournal (level : CommandLine.LogLevel) (records : List JournalRecord) : IO Unit :=
  IO.eprint (level.shown records)

/-- An interactive session, when the line before left `store`. -/
partial def interact (settings : ShellSettings) (level : CommandLine.LogLevel)
    (input : IO.FS.Stream) (store : Store) : IO UInt32 := do
  IO.println settings.prompt
  let line ← input.getLine
  let code := (CommandLine.inputLines line).headD ""
  match if line.isEmpty then .ok none else takeTurn settings store code with
  | .error halt =>
    IO.eprintln halt.message
    return 1
  | .ok none =>
    IO.println settings.farewell
    return 0
  | .ok (some turn) =>
    printLines turn.block
    printJournal level (Journal.turn settings store code)
    interact settings level input turn.store

def runPath (task : CommandLine.Task) (path : String) : IO UInt32 := do
  let bytes ← IO.FS.readBinFile path
  let dir : WorkDir := ⟨some bytes.toList⟩
  let outcome := { task with file := some WorkDir.programName }.outcome dir ""
  IO.print outcome.output
  IO.eprint outcome.errors
  match outcome.failure with
  | some failure => IO.eprintln failure.message
  | none => pure ()
  return outcome.status.toUInt32

end CalcScript.Main

def main (words : List String) : IO UInt32 := do
  match CalcScript.CommandLine.request words with
  | .error e =>
    IO.eprint (CalcScript.CommandLine.refusal e)
    return 2
  | .ok .help =>
    IO.print CalcScript.CommandLine.helpText
    return 0
  | .ok (.run task) =>
    match task.file, task.level with
    | some path, some _ => CalcScript.Main.runPath task path
    | none, some level =>
      CalcScript.Main.interact task.settings level (← IO.getStdin) CalcScript.Store.empty
    | _, none =>
      IO.eprintln CalcScript.CommandLine.Failure.noLevel.message
      return 1
