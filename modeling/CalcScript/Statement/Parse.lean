import CalcScript.Statement.Basic
import CalcScript.Statement.Marked

/-!
# Reading a program

Statements are read one after the other. A declaration or display is a keyword and an identifier; an
assignment is an identifier, an equals sign and all tokens up to the next semicolon or the end, at
least one. A semicolon after a statement is optional. One fault refuses the whole program, and the
fault is located by the tokens that are left at it.
-/
namespace CalcScript

inductive ParseFault where
  | identifierExpected (found : Option TokenKind)
  | equalExpected (name : String)
  | expressionExpected (name : String)
  deriving DecidableEq, Repr

def ParseFault.reason : ParseFault → String
  | .identifierExpected none => "Expected IDENTIFIER, found end of input"
  | .identifierExpected (some kind) => "Expected IDENTIFIER, found " ++ kind.name
  | .equalExpected name => "Expected EQUAL after " ++ Text.quoted name
  | .expressionExpected name => "Expected expression in assignment to " ++ Text.quoted name

/-- The refusal of a program at one of its tokens, or at its end. -/
structure ParseError where
  fault : ParseFault
  tokens : List Token
  index : Nat
  deriving DecidableEq, Repr

def ParseError.message (e : ParseError) : String :=
  MarkedTokens.layout e.fault.reason e.tokens (MarkedTokens.column e.tokens e.index)

namespace Statement

/-- A fault together with the tokens from the faulty one on. -/
structure Refusal where
  fault : ParseFault
  rest : List Token
  deriving DecidableEq, Repr

/-- A token that is no semicolon belongs to the expression it follows. -/
def continues (t : Token) : Bool :=
  t.kind != .semicolon

def dropTerminator : List Token → List Token
  | [] => []
  | t :: rest => if continues t then t :: rest else rest

def takeIdentifier : List Token → Except Refusal (String × List Token)
  | [] => .error ⟨.identifierExpected none, []⟩
  | t :: rest =>
    if t.kind = .identifier then .ok (t.lexeme, rest)
    else .error ⟨.identifierExpected (some t.kind), t :: rest⟩

/-- The expression of an assignment, read after the equals sign. -/
def takeExpression (name : String) (ts : List Token) : Except Refusal (Statement × List Token) :=
  if (ts.takeWhile continues).isEmpty then .error ⟨.expressionExpected name, ts⟩
  else .ok (.assign name (ts.takeWhile continues), dropTerminator (ts.dropWhile continues))

def takeAssignment (ts : List Token) : Except Refusal (Statement × List Token) :=
  match takeIdentifier ts with
  | .error refusal => .error refusal
  | .ok (name, []) => .error ⟨.equalExpected name, []⟩
  | .ok (name, t :: rest) =>
    if t.kind = .equal then takeExpression name rest else .error ⟨.equalExpected name, t :: rest⟩

/-- A statement that a keyword begins: `make` forms it from the identifier. -/
def takeNamed (make : String → Statement) (ts : List Token) :
    Except Refusal (Statement × List Token) :=
  match takeIdentifier ts with
  | .error refusal => .error refusal
  | .ok (name, rest) => .ok (make name, dropTerminator rest)

/-- The statement that begins with `first`, and the tokens after it. -/
def take (first : Token) (rest : List Token) : Except Refusal (Statement × List Token) :=
  match first.kind with
  | .read => takeNamed .read rest
  | .display => takeNamed (.display · first.lexeme) rest
  | .print => takeNamed (.display · first.lexeme) rest
  | _ => takeAssignment (first :: rest)

theorem length_dropTerminator_le (ts : List Token) : (dropTerminator ts).length ≤ ts.length := by
  cases ts with
  | nil => simp [dropTerminator]
  | cons t rest =>
    simp only [dropTerminator]
    split <;> simp

theorem length_takeIdentifier {ts rest : List Token} {name : String}
    (h : takeIdentifier ts = .ok (name, rest)) : rest.length < ts.length := by
  cases ts with
  | nil => simp [takeIdentifier] at h
  | cons t tail =>
    simp only [takeIdentifier] at h
    split at h
    · obtain ⟨-, rfl⟩ := by simpa using h
      simp
    · simp at h

theorem length_takeNamed {make : String → Statement} {ts rest : List Token} {s : Statement}
    (h : takeNamed make ts = .ok (s, rest)) : rest.length < ts.length := by
  unfold takeNamed at h
  split at h
  · simp at h
  · next name tail heq =>
    obtain ⟨-, rfl⟩ := by simpa using h
    have := length_takeIdentifier heq
    have := length_dropTerminator_le tail
    omega

theorem length_takeAssignment {ts rest : List Token} {s : Statement}
    (h : takeAssignment ts = .ok (s, rest)) : rest.length < ts.length := by
  unfold takeAssignment at h
  split at h
  · simp at h
  · simp at h
  · next name t tail heq =>
    have hid := length_takeIdentifier heq
    split at h
    · unfold takeExpression at h
      split at h
      · simp at h
      · obtain ⟨-, rfl⟩ := by simpa using h
        have := length_dropTerminator_le (tail.dropWhile continues)
        have := (List.dropWhile_sublist continues (l := tail)).length_le
        simp only [List.length_cons] at hid
        omega
    · simp at h

theorem length_take {first : Token} {tail rest : List Token} {s : Statement}
    (h : take first tail = .ok (s, rest)) : rest.length ≤ tail.length := by
  unfold take at h
  split at h
  · have := length_takeNamed h; omega
  · have := length_takeNamed h; omega
  · have := length_takeNamed h; omega
  · have := length_takeAssignment h
    simp only [List.length_cons] at this
    omega

/-- The statements of a token list, or the first refusal. -/
def takeAll : List Token → Except Refusal (List Statement)
  | [] => .ok []
  | first :: tail =>
    match _h : take first tail with
    | .error refusal => .error refusal
    | .ok (s, rest) => (takeAll rest).map (s :: ·)
termination_by ts => ts.length
decreasing_by
  have := length_take _h
  simp only [List.length_cons]
  omega

@[simp] theorem takeAll_nil : takeAll [] = .ok [] := by
  rw [takeAll]

theorem takeAll_error {first : Token} {tail : List Token} {refusal : Refusal}
    (h : take first tail = .error refusal) : takeAll (first :: tail) = .error refusal := by
  rw [takeAll]
  split
  next heq => rw [h] at heq; cases heq; rfl
  next heq => rw [h] at heq; cases heq

theorem takeAll_ok {first : Token} {tail rest : List Token} {s : Statement}
    (h : take first tail = .ok (s, rest)) :
    takeAll (first :: tail) = (takeAll rest).map (s :: ·) := by
  rw [takeAll]
  split
  next heq => rw [h] at heq; cases heq
  next heq => rw [h] at heq; cases heq; rfl

end Statement

def parse (tokens : List Token) : Except ParseError (List Statement) :=
  match Statement.takeAll tokens with
  | .ok statements => .ok statements
  | .error refusal => .error ⟨refusal.fault, tokens, tokens.length - refusal.rest.length⟩

end CalcScript
