import CalcScript.Expression.Evaluate
import CalcScript.Shell.Settings
import CalcScript.Statement.Parse

/-!
# Inspecting results

The result of each stage has a descriptive text that shows all its fields, and two results of one
stage can be compared: tokens, programs and errors field by field, numbers as numbers.
-/
namespace CalcScript

def commaJoined (parts : List String) : String :=
  ", ".intercalate parts

def Token.describe (t : Token) : String :=
  "Token(type=" ++ t.kind.name ++ ", lexeme=" ++ Text.quoted t.lexeme ++ ")"

def Token.describeAll (ts : List Token) : String :=
  "[" ++ commaJoined (ts.map Token.describe) ++ "]"

/-- A statement with its fields; a single token in its round brackets keeps a comma. -/
def Statement.describe : Statement → String
  | .read name => "Read(variable=" ++ Text.quoted name ++ ")"
  | .display name keyword =>
    "Display(variable=" ++ Text.quoted name ++ ", keyword=" ++ Text.quoted keyword ++ ")"
  | .assign name expression =>
    "Assignment(variable=" ++ Text.quoted name ++ ", expression=(" ++
      commaJoined (expression.map Token.describe) ++
      (if expression.length == 1 then ",))" else "))")
  | .unknown text => Text.quoted text

def ParseError.describe (e : ParseError) : String :=
  "ParseError(errmsg=" ++ Text.quoted e.fault.reason ++ ", tokens=" ++
    Token.describeAll e.tokens ++ ", error_token_idx=" ++ toString e.index ++ ")"

def EvalError.describe : EvalError → String
  | .undefinedVariable name => "UndefinedVariable(name=" ++ Text.quoted name ++ ")"
  | .divisionByZero => "DivisionByZero()"
  | .malformed m => "MalformedExpression(reason=" ++ Text.quoted m.reason ++ ")"

def describeBool (b : Bool) : String :=
  if b then "True" else "False"

def ShellSettings.describe (s : ShellSettings) : String :=
  "ShellConfig(prompt=" ++ Text.quoted s.prompt ++ ", exit_command=" ++ Text.quoted s.exitCommand ++
    ", farewell=" ++ Text.quoted s.farewell ++ ", keep_variables=" ++
    describeBool s.keepVariables ++ ", strict_tokens=" ++ describeBool s.strictTokens ++ ")"

/-- The stages whose results can be inspected. -/
inductive Stage where
  | tokens
  | program
  | value
  deriving DecidableEq, Repr

namespace Stage

/-- The descriptive text of a stage's result. -/
def describe (store : Store) (ts : List Token) : Stage → Except Token.ValueError String
  | .tokens => .ok (Token.describeAll ts)
  | .program =>
    match parse ts with
    | .ok statements => .ok ("[" ++ commaJoined (statements.map Statement.describe) ++ "]")
    | .error e => .ok e.describe
  | .value =>
    match evaluate store ts with
    | .ok x => .ok (Number.text x)
    | .error (.error e) => .ok e.describe
    | .error (.value e) => .error e

/-- Two token lists give equal results at a stage. -/
def agree (store : Store) (a b : List Token) : Stage → Except Token.ValueError Bool
  | .tokens => .ok (a == b)
  | .program =>
    match parse a, parse b with
    | .ok s, .ok t => .ok (s == t)
    | .error e, .error f => .ok (e == f)
    | _, _ => .ok false
  | .value =>
    match evaluate store a, evaluate store b with
    | .error (.value e), _ => .error e
    | _, .error (.value e) => .error e
    | .ok x, .ok y => .ok (x == y)
    | .error (.error e), .error (.error f) => .ok (e == f)
    | _, _ => .ok false

end Stage
end CalcScript
