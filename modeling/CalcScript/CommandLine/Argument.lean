import CalcScript.Text.DecimalDigit
import CalcScript.Text.Quoted

/-!
# Arguments

Each word of a command line is classified before any is acted on. A word with a leading dash is an
option when it names one, in full or by the beginning of one long name, with an argument after an
equals sign if it has one; behind the short name of help any text is an argument. A lone dash, a
negative number and a word with a space are plain; any other word with a leading dash is an unknown
option. Two dashes end the options.
-/
namespace CalcScript.CommandLine

inductive Switch where
  | help
  | strict
  | keepVariables
  | prompt
  | logLevel
  deriving DecidableEq, Repr

namespace Switch

def all : List Switch :=
  [.help, .strict, .keepVariables, .prompt, .logLevel]

def longName : Switch → String
  | .help => "--help"
  | .strict => "--strict"
  | .keepVariables => "--keep-variables"
  | .prompt => "--prompt"
  | .logLevel => "--log-level"

/-- The name of an option in messages; help also has a short name. -/
def title : Switch → String
  | .help => "-h/--help"
  | s => s.longName

def takesArgument : Switch → Bool
  | .prompt => true
  | .logLevel => true
  | _ => false

def ofName? (name : String) : Option Switch :=
  if name == "-h" then some .help else all.find? (·.longName == name)

def beginningWith (start : String) : List Switch :=
  all.filter fun s => start.toList.isPrefixOf s.longName.toList

end Switch

/-- A classified word of the command line. -/
inductive Argument where
  /-- A plain word. -/
  | plain (word : String)
  /-- An option, with the argument that the word itself gives it. -/
  | option (switch : Switch) (given : Option String)
  /-- An option that does not exist. -/
  | unknown (word : String)
  /-- The two dashes that end the options. -/
  | separator
  deriving DecidableEq, Repr

inductive UsageError where
  | ambiguous (word : String) (candidates : List Switch)
  | ignoredArgument (switch : Switch) (given : String)
  | missingArgument (switch : Switch)
  | invalidLevel (given : String)
  | unrecognized (words : List String)
  deriving DecidableEq, Repr

/-- A word cut at its first equals sign; without one there is no second part. -/
def splitAtEquals (word : String) : String × Option String :=
  let name := word.toList.takeWhile (· != '=')
  match word.toList.dropWhile (· != '=') with
  | [] => (word, none)
  | _ :: value => (String.ofList name, some (String.ofList value))

/-- The argument in the text behind `-h`: the flag may be repeated, and what follows the last
repetition, if anything does, is the argument. -/
def shortArgument? (flags : List Char) : Option String :=
  match flags.dropWhile (· == 'h') with
  | [] => none
  | argument => some (String.ofList argument)

def isNumberText (cs : List Char) : Bool :=
  !cs.isEmpty && cs.all fun c => (Text.decimalDigit? c).isSome

/-- A dash, then digits, or then a point with digits after it and perhaps before it. One line feed
may follow. -/
def isNegativeNumber (word : List Char) : Bool :=
  let body := if word.getLast? == some '\n' then word.dropLast else word
  match body with
  | '-' :: digits =>
    isNumberText digits ||
      match digits.dropWhile fun c => (Text.decimalDigit? c).isSome with
      | '.' :: places => isNumberText places
      | _ => false
  | _ => false

/-- A word that is not the name of an option. -/
def classifyOther (word : String) : Argument :=
  if isNegativeNumber word.toList || word.toList.contains ' ' then .plain word
  else .unknown word

/-- A word with a leading dash that is neither a full name nor one with an argument. -/
def classifyAbbreviated (word : String) : Except UsageError Argument :=
  match word.toList with
  | '-' :: '-' :: _ =>
    let (start, given) := splitAtEquals word
    match Switch.beginningWith start with
    | [] => .ok (classifyOther word)
    | [switch] => .ok (.option switch given)
    | candidates => .error (.ambiguous word candidates)
  | '-' :: 'h' :: flags => .ok (.option .help (shortArgument? flags))
  | _ => .ok (classifyOther word)

/-- A full name with the text after the equals sign. The text is the argument, except that behind
the short name of help it continues the flags unless it is empty. -/
def classifyNamed (name given : String) : Option Argument :=
  match Switch.ofName? name with
  | none => none
  | some switch =>
    if name == "-h" && given != "" then some (.option switch (shortArgument? given.toList))
    else some (.option switch (some given))

/-- A word before the two dashes. -/
def classify (word : String) : Except UsageError Argument :=
  if word.toList.head? != some '-' then .ok (.plain word)
  else
    match Switch.ofName? word with
    | some switch => .ok (.option switch none)
    | none =>
      if word == "-" then .ok (.plain word)
      else
        match splitAtEquals word with
        | (name, some given) =>
          match classifyNamed name given with
          | some argument => .ok argument
          | none => classifyAbbreviated word
        | (_, none) => classifyAbbreviated word

/-- The words of a command line; after the two dashes all are plain. -/
def classifyAll : List String → Except UsageError (List Argument)
  | [] => .ok []
  | word :: rest =>
    if word == "--" then .ok (.separator :: rest.map .plain)
    else
      match classify word with
      | .error e => .error e
      | .ok argument => (classifyAll rest).map (argument :: ·)

end CalcScript.CommandLine
