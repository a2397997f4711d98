import CalcScript.Proofs.Expression.Stacks

/-!
# Variables of an expression

The store comes into an evaluation at the identifiers of the expression and nowhere else. Stores
that agree on these give the same value or end in the same failure, and an expression that is
refused for an undefined variable is refused for one that the store does not hold.
-/
namespace CalcScript

def identifiers (ts : List Token) : List String :=
  (ts.filter (·.kind = .identifier)).map Token.lexeme

/-- Each of the names has the same value in both stores, or none in either. -/
def Store.AgreeOn (names : List String) (a b : Store) : Prop :=
  ∀ name ∈ names, a.get? name = b.get? name

variable {a b store : Store} {ts : List Token} {name : String}

theorem Store.AgreeOn.mono {names fewer : List String} (h : AgreeOn names a b)
    (hfewer : fewer ⊆ names) : AgreeOn fewer a b := by
  intro name hname
  exact h name (hfewer hname)

theorem Store.AgreeOn.set {names : List String} (h : AgreeOn names a b) (name : String)
    (x : Float) : AgreeOn names (a.set name x) (b.set name x) := by
  intro other hother
  rw [get?_set, get?_set]
  by_cases ho : other = name
  · rw [if_pos ho, if_pos ho]
  · rw [if_neg ho, if_neg ho]
    exact h other hother

namespace Stacks

/-! ### Stores that agree -/

theorem step_congr {t : Token} (h : t.kind = .identifier → a.get? t.lexeme = b.get? t.lexeme)
    (s : Stacks) : step a s t = step b s t := by
  cases hk : t.kind with
  | identifier => simp only [step, hk, h hk]
  | _ => simp only [step, hk]

theorem run_congr (h : Store.AgreeOn (identifiers ts) a b) (s : Stacks) :
    run a s ts = run b s ts := by
  induction ts generalizing s with
  | nil => rfl
  | cons t rest ih =>
    have hrest : Store.AgreeOn (identifiers rest) a b := by
      apply h.mono
      exact ((List.sublist_cons_self t rest).filter _).map _ |>.subset
    have hstep : step a s t = step b s t := by
      apply step_congr
      intro hk
      apply h
      simp [identifiers, hk]
    cases hs : step b s t with
    | ok s' => rw [run_cons (hstep.trans hs), run_cons hs, ih hrest]
    | error f => rw [run_cons_error (hstep.trans hs), run_cons_error hs]

/-! ### Undefined variables -/

theorem reduce_ne_undefinedVariable (op : PendingOperator) (operands : List Float) :
    reduce op operands ≠ .error (.undefinedVariable name) := by
  intro h
  rw [reduce.eq_def] at h
  split at h
  · next right left rest =>
    cases hx : op.operator.apply left right with
    | ok x => simp [hx] at h
    | error e =>
      rw [hx] at h
      cases h
      exact absurd (Operator.apply_eq_error hx) (by simp)
  · cases h

theorem reduceFrom_ne_undefinedVariable (level : Nat) (operands : List Float)
    (operators : List PendingOperator) :
    reduceFrom level operands operators ≠ .error (.undefinedVariable name) := by
  induction operators generalizing operands with
  | nil => simp [reduceFrom]
  | cons op rest ih =>
    rw [reduceFrom]
    by_cases hlevel : level ≤ op.operator.precedence
    · rw [if_pos hlevel]
      cases hr : reduce op operands with
      | ok operands' => exact ih operands'
      | error e =>
        intro h
        cases h
        exact reduce_ne_undefinedVariable op operands hr
    · rw [if_neg hlevel]
      simp

theorem get?_eq_none_of_step {s : Stacks} {t : Token}
    (h : step store s t = .error (.error (.undefinedVariable name))) :
    store.get? name = none := by
  rw [step] at h
  split at h
  · cases hv : t.value <;> simp [hv, Except.mapError, Except.map] at h
  · split at h
    · cases h
    · next hnone =>
      cases h
      exact hnone
  · cases h
  · cases h
  · split at h
    · next op hop =>
      have hreduce := pushOperator_error_cases (mapError_eq_error.mp h)
      exact absurd hreduce (reduceFrom_ne_undefinedVariable _ _ _)
    · cases h

theorem result_ne_undefinedVariable (s : Stacks) : s.result ≠ .error (.undefinedVariable name) := by
  intro h
  rw [result] at h
  split at h
  · cases h
  · cases h
  · next e he =>
    cases h
    exact reduceFrom_ne_undefinedVariable _ _ _ he

end Stacks

/-- An expression sees of the store only its own identifiers. -/
theorem evaluate_congr (h : Store.AgreeOn (identifiers ts) a b) :
    evaluate a ts = evaluate b ts := by
  have hrun := Stacks.run_congr h .empty
  rw [Stacks.run, Stacks.run] at hrun
  rw [evaluate, evaluate, hrun]

theorem get?_eq_none_of_evaluate
    (h : evaluate store ts = .error (.error (.undefinedVariable name))) :
    store.get? name = none := by
  cases hrun : Stacks.run store .empty ts with
  | ok s =>
    rw [evaluate_of_run hrun] at h
    exact absurd (mapError_eq_error.mp h) s.result_ne_undefinedVariable
  | error f =>
    rw [evaluate_of_run_error hrun] at h
    cases h
    obtain ⟨before, t, after, s, -, -, hstep⟩ := Stacks.run_error_cases hrun
    exact Stacks.get?_eq_none_of_step hstep

end CalcScript
