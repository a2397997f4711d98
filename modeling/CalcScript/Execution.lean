import CalcScript.Expression.Evaluate
import CalcScript.Statement.Basic

/-!
# Running statements

Each statement may write the store and may give one output line. An evaluation error or an unknown
variable becomes an output line and leaves the store as it was; only a number token that denotes no
number and a text that is no statement stop a run.
-/
namespace CalcScript

inductive Halt where
  | value (e : Token.ValueError)
  | unknownStatement (text : String)
  deriving DecidableEq, Repr

def Halt.message : Halt → String
  | .value e => e.message
  | .unknownStatement text => "Unexpected statement type: " ++ text

def bindingLine (name : String) (value : Float) : String :=
  name ++ " = " ++ Number.text value

def errorLine (message : String) : String :=
  "Error: " ++ message

/-- The line that a statement gives, if any, and the store after it. -/
def Statement.execute (store : Store) : Statement → Except Halt (Option String × Store)
  | .read name => .ok (none, store.set name 0)
  | .display name _ =>
    match store.get? name with
    | some x => .ok (some (bindingLine name x), store)
    | none => .ok (some (errorLine (EvalError.undefinedVariable name).message), store)
  | .assign name expression =>
    match evaluate store expression with
    | .ok x => .ok (none, store.set name x)
    | .error (.error e) => .ok (some (errorLine e.message), store)
    | .error (.value e) => .error (.value e)
  | .unknown text => .error (.unknownStatement text)

/-- The lines that statements give one after the other, and the store after the last. -/
def execute (store : Store) : List Statement → Except Halt (List String × Store)
  | [] => .ok ([], store)
  | s :: rest =>
    match s.execute store with
    | .error halt => .error halt
    | .ok (line, next) =>
      match execute next rest with
      | .error halt => .error halt
      | .ok (lines, last) => .ok (line.toList ++ lines, last)

structure TraceStep where
  statement : Statement
  line : Option String
  store : Store

def trace (store : Store) : List Statement → Except Halt (List TraceStep)
  | [] => .ok []
  | s :: rest =>
    match s.execute store with
    | .error halt => .error halt
    | .ok (line, next) => (trace next rest).map (⟨s, line, next⟩ :: ·)

end CalcScript
