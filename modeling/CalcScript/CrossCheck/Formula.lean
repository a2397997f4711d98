import CalcScript.Token.Basic
import CalcScript.Expression.Operator

/-!
# Formulas

The usual grammar of arithmetic, with signs and brackets: a sum of products of factors, operators of
one level taken from the left, a sign binding tighter than any of them. A reader returns the tokens
that are left together with the fact that they are fewer.
-/
namespace CalcScript

/-- An arithmetic formula over whole and decimal literals. -/
inductive Formula where
  | whole (n : Nat)
  | decimal (x : Float)
  | negate (f : Formula)
  | binary (op : Operator) (left right : Formula)

namespace Formula

/-- The tokens left after a reader took at least one of `ts`. -/
abbrev Rest (ts : List Token) := { rest : List Token // rest.length < ts.length }

/-- A number token without a point is whole, one with a point is decimal. -/
def literal? (t : Token) : Option Formula :=
  if t.lexeme.toList.contains '.' then (Number.read? t.lexeme).map .decimal
  else some (.whole (Number.digitsValue t.lexeme.toList))

def operatorAt? (level : Nat) (t : Token) : Option Operator :=
  t.kind.operator?.filter (·.precedence == level)

mutual

/-- A literal, a signed factor or a sum in brackets. -/
def factor? (ts : List Token) : Option (Formula × Rest ts) :=
  match ts with
  | [] => none
  | t :: rest =>
    match t.kind with
    | .number => (literal? t).map fun f => (f, ⟨rest, by simp⟩)
    | .plus =>
      (factor? rest).map fun (f, r) =>
        (f, ⟨r.1, by have := r.2; simp only [List.length_cons]; omega⟩)
    | .minus =>
      (factor? rest).map fun (f, r) =>
        (.negate f, ⟨r.1, by have := r.2; simp only [List.length_cons]; omega⟩)
    | .bracketOpen =>
      match sum? rest with
      | some (f, ⟨close :: after, h⟩) =>
        if close.kind = .bracketClose then
          some (f, ⟨after, by simp only [List.length_cons] at h ⊢; omega⟩)
        else none
      | _ => none
    | _ => none
termination_by (ts.length, 0)

def product? (ts : List Token) : Option (Formula × Rest ts) :=
  match factor? ts with
  | none => none
  | some (f, r) =>
    let (g, q) := factors f r.1
    some (g, ⟨q.1, by have := r.2; have := q.2; omega⟩)
termination_by (ts.length, 2)

/-- The factors that follow `left`, as far as they go. -/
def factors (left : Formula) (ts : List Token) :
    Formula × { rest : List Token // rest.length ≤ ts.length } :=
  match ts with
  | [] => (left, ⟨[], by simp⟩)
  | t :: rest =>
    match operatorAt? 1 t with
    | none => (left, ⟨t :: rest, by simp⟩)
    | some op =>
      match factor? rest with
      | none => (left, ⟨t :: rest, by simp⟩)
      | some (f, r) =>
        let (g, q) := factors (.binary op left f) r.1
        (g, ⟨q.1, by have := r.2; have := q.2; simp only [List.length_cons]; omega⟩)
termination_by (ts.length, 1)

def sum? (ts : List Token) : Option (Formula × Rest ts) :=
  match product? ts with
  | none => none
  | some (f, r) =>
    let (g, q) := products f r.1
    some (g, ⟨q.1, by have := r.2; have := q.2; omega⟩)
termination_by (ts.length, 4)

/-- The products that follow `left`, as far as they go. -/
def products (left : Formula) (ts : List Token) :
    Formula × { rest : List Token // rest.length ≤ ts.length } :=
  match ts with
  | [] => (left, ⟨[], by simp⟩)
  | t :: rest =>
    match operatorAt? 0 t with
    | none => (left, ⟨t :: rest, by simp⟩)
    | some op =>
      match product? rest with
      | none => (left, ⟨t :: rest, by simp⟩)
      | some (f, r) =>
        let (g, q) := products (.binary op left f) r.1
        (g, ⟨q.1, by have := r.2; have := q.2; simp only [List.length_cons]; omega⟩)
termination_by (ts.length, 3)

end

def ofTokens? (ts : List Token) : Option Formula :=
  match sum? ts with
  | some (f, ⟨[], _⟩) => some f
  | _ => none

end Formula
end CalcScript
