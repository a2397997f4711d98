import CalcScript.CrossCheck.Reference
import CalcScript.CrossCheck.Sample
import CalcScript.Journal

/-!
# Comparing the evaluator with the reference

Two values differ when exactly one of them is missing, or when they are further apart than a
billionth, absolutely and relative to the larger.
-/
namespace CalcScript

/-- The evaluator's value of source text without variables. -/
def plainValue (code : String) : Option Float :=
  match evaluate Store.empty (Token.scan code) with
  | .ok x => some x
  | .error _ => none

def Journal.plainValue (code : String) : List JournalRecord :=
  scan false code ++ evaluate Store.empty (Token.scan code)

def tolerance : Float :=
  Number.ofDecimal false 1 (-9)

/-- Two doubles are close when they are equal, or finite and apart by no more than the tolerance,
taken absolutely or relative to either of them. -/
def isClose (a b : Float) : Bool :=
  a == b ||
    (!a.isInf && !b.isInf &&
      let gap := (b - a).abs
      decide (gap ≤ (tolerance * b).abs) || decide (gap ≤ (tolerance * a).abs) ||
        decide (gap ≤ tolerance))

def resultsDiffer : Option Float → Option Float → Bool
  | some a, some b => !isClose a b
  | none, none => false
  | _, _ => true

structure Comparison where
  reference : Option Float
  plain : Option Float

def compareValues (code : String) : Except ReferenceError Comparison :=
  (referenceValue code).map (⟨·, plainValue code⟩)

def Comparison.differ (c : Comparison) : Bool :=
  resultsDiffer c.reference c.plain

end CalcScript
