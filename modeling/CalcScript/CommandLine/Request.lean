import CalcScript.CommandLine.Argument
import CalcScript.Shell.Settings

/-!
# Requests

A command line asks for help, or for a run of a file or an interactive session under some settings.
Words are acted on from left to right: the first plain word is the file, further ones and unknown
options are collected and refused at the end, and an option that needs an argument takes the plain
word right after it.
-/
namespace CalcScript.CommandLine

inductive LogLevel where
  | debug
  | info
  | warning
  | error
  deriving DecidableEq, Repr

def LogLevel.all : List LogLevel :=
  [.debug, .info, .warning, .error]

def LogLevel.name : LogLevel → String
  | .debug => "DEBUG"
  | .info => "INFO"
  | .warning => "WARNING"
  | .error => "ERROR"

def LogLevel.ofName? (s : String) : Option LogLevel :=
  all.find? (·.name == s)

/-- What a run is asked to do; without a file it is an interactive session. -/
structure Task where
  settings : ShellSettings := {}
  /-- The level of the journal; a run without one cannot start. -/
  level : Option LogLevel := some .warning
  file : Option String := none

inductive Request where
  | help
  | run (task : Task)

/-- The state of the walk: the task so far and the words that nothing takes. -/
structure Walk where
  task : Task := {}
  extras : List String := []

/-- A plain word becomes the file, or is one too many. -/
def Walk.takePlain (w : Walk) (word : String) : Walk :=
  match w.task.file with
  | none => { w with task := { w.task with file := some word } }
  | some _ => { w with extras := w.extras ++ [word] }

/-- The task after an option without argument; help is none of them. -/
def Task.withFlag (task : Task) : Switch → Task
  | .strict => { task with settings := { task.settings with strictTokens := true } }
  | .keepVariables => { task with settings := { task.settings with keepVariables := true } }
  | _ => task

def isAbsent (value : String) : Bool :=
  value == "--"

/-- The task after an option with its argument. Two dashes are no argument: the prompt is then an
empty pair of brackets and the level is missing. -/
def Task.withArgument (task : Task) (value : String) : Switch → Except UsageError Task
  | .prompt =>
    let prompt := if isAbsent value then "[]" else value
    .ok { task with settings := { task.settings with prompt := prompt } }
  | .logLevel =>
    if isAbsent value then .ok { task with level := none }
    else
      match LogLevel.ofName? value with
      | some level => .ok { task with level := some level }
      | none => .error (.invalidLevel value)
  | switch => .error (.ignoredArgument switch value)

/-- The words after the two dashes. The dashes themselves are dropped when the file is taken on
either side of them, and otherwise are one word too many. -/
def Walk.afterSeparator (w : Walk) (fileJustTaken : Bool) (words : List String) : Walk :=
  match w.task.file, words with
  | none, [] => w
  | none, word :: rest =>
    { task := { w.task with file := some word }, extras := w.extras ++ rest }
  | some _, words =>
    { w with extras := w.extras ++ (if fileJustTaken then words else "--" :: words) }

def plainWords : List Argument → List String
  | [] => []
  | .plain word :: rest => word :: plainWords rest
  | _ :: rest => plainWords rest

/-- The walk over classified words; `fileJustTaken` says that the word before became the file. -/
def Walk.run (w : Walk) (fileJustTaken : Bool) : List Argument → Except UsageError (Option Walk)
  | [] => .ok (some w)
  | .separator :: rest => .ok (some (w.afterSeparator fileJustTaken (plainWords rest)))
  | .plain word :: rest => (w.takePlain word).run w.task.file.isNone rest
  | .unknown word :: rest => run { w with extras := w.extras ++ [word] } false rest
  | .option switch (some given) :: rest =>
    match w.task.withArgument given switch with
    | .error e => .error e
    | .ok task => run { w with task := task } false rest
  | .option .help none :: _ => .ok none
  | .option switch none :: rest =>
    if switch.takesArgument then
      match rest with
      | .plain value :: rest =>
        match w.task.withArgument value switch with
        | .error e => .error e
        | .ok task => run { w with task := task } false rest
      | _ => .error (.missingArgument switch)
    else run { w with task := w.task.withFlag switch } false rest

def request (words : List String) : Except UsageError Request :=
  match classifyAll words with
  | .error e => .error e
  | .ok arguments =>
    match Walk.run {} false arguments with
    | .error e => .error e
    | .ok none => .ok .help
    | .ok (some w) =>
      if w.extras.isEmpty then .ok (.run w.task) else .error (.unrecognized w.extras)

end CalcScript.CommandLine
