import CalcScript.Execution
import CalcScript.Proofs.Expression.Stacks
import CalcScript.Proofs.Number.Numeral
import CalcScript.Proofs.Statement.Scanned

/-!
# Runs

A statement either writes one variable and prints nothing, or prints one line and leaves the store
as it is. A run executes its statements one after the other, each in the store that the one before
left. Well-spelled statements hold no number that cannot be read, so a run of them never stops.
-/
namespace CalcScript

/-! ### Single statements -/

namespace Statement

/-- The statement writes the value under the name. -/
inductive Writes (store : Store) : Statement → String → Float → Prop where
  | read (name : String) : Writes store (.read name) name 0
  | assign {name : String} {expression : List Token} {x : Float}
      (h : evaluate store expression = .ok x) : Writes store (.assign name expression) name x

/-- The statement prints the line. -/
inductive Reports (store : Store) : Statement → String → Prop where
  | bound {name keyword : String} {x : Float} (h : store.get? name = some x) :
      Reports store (.display name keyword) (bindingLine name x)
  | unbound {name keyword : String} (h : store.get? name = none) :
      Reports store (.display name keyword) (errorLine (EvalError.undefinedVariable name).message)
  | failed {name : String} {expression : List Token} {e : EvalError}
      (h : evaluate store expression = .error (.error e)) :
      Reports store (.assign name expression) (errorLine e.message)

theorem Writes.execute_eq {store : Store} {s : Statement} {name : String} {x : Float}
    (h : s.Writes store name x) : s.execute store = .ok (none, store.set name x) := by
  cases h with
  | read name => rfl
  | assign h => rw [execute, h]

theorem Reports.execute_eq {store : Store} {s : Statement} {line : String}
    (h : s.Reports store line) : s.execute store = .ok (some line, store) := by
  cases h with
  | bound h => rw [execute, h]
  | unbound h => rw [execute, h]
  | failed h => rw [execute, h]

/-- All that a statement can do. -/
theorem execute_cases {store next : Store} {s : Statement} {line : Option String}
    (h : s.execute store = .ok (line, next)) :
    (∃ name x, s.Writes store name x ∧ line = none ∧ next = store.set name x) ∨
      ∃ message, s.Reports store message ∧ line = some message ∧ next = store := by
  cases s with
  | read name =>
    cases h
    exact .inl ⟨name, 0, .read name, rfl, rfl⟩
  | display name keyword =>
    right
    simp only [execute] at h
    split at h
    · next x hx =>
      cases h
      exact ⟨_, .bound hx, rfl, rfl⟩
    · next hx =>
      cases h
      exact ⟨_, .unbound hx, rfl, rfl⟩
  | assign name expression =>
    simp only [execute] at h
    split at h
    · next x hx =>
      cases h
      exact .inl ⟨name, x, .assign hx, rfl, rfl⟩
    · next e he =>
      cases h
      exact .inr ⟨_, .failed he, rfl, rfl⟩
    · cases h
  | unknown text => cases h

end Statement

/-! ### Readable expressions -/

def Token.IsReadable (t : Token) : Prop :=
  t.kind = .number → ∃ x, Number.read? t.lexeme = some x

theorem Token.Spelled.isReadable {t : Token} (h : t.Spelled) : t.IsReadable := by
  intro hkind
  unfold Spelled at h
  rw [hkind, TokenKind.spells_number_iff] at h
  exact Number.exists_read?_eq_some h

theorem mapError_error_ne_value {α : Type} (r : Except EvalError α) (e : Token.ValueError) :
    r.mapError EvalFailure.error ≠ .error (.value e) := by
  cases r <;> simp [Except.mapError]

theorem Stacks.step_ne_value {t : Token} (ht : t.IsReadable) (store : Store) (s : Stacks)
    (e : Token.ValueError) : step store s t ≠ .error (.value e) := by
  unfold step
  split
  · next hkind =>
    obtain ⟨x, hx⟩ := ht hkind
    simp [Token.value, hkind, hx, Except.mapError, Except.map]
  · split <;> simp
  · simp
  · simp
  · split
    · exact mapError_error_ne_value _ e
    · simp

theorem Stacks.run_ne_value {ts : List Token} (hts : ∀ t ∈ ts, t.IsReadable) (store : Store)
    (s : Stacks) (e : Token.ValueError) : run store s ts ≠ .error (.value e) := by
  induction ts generalizing s with
  | nil => simp
  | cons t rest ih =>
    obtain ⟨ht, hrest⟩ := List.forall_mem_cons.mp hts
    cases hstep : step store s t with
    | ok s' =>
      rw [run_cons hstep]
      exact ih hrest s'
    | error failure =>
      rw [run_cons_error hstep]
      intro hvalue
      cases hvalue
      exact step_ne_value ht store s e hstep

theorem evaluate_ne_value {ts : List Token} (hts : ∀ t ∈ ts, t.IsReadable) (store : Store)
    (e : Token.ValueError) : evaluate store ts ≠ .error (.value e) := by
  unfold evaluate
  split
  · exact mapError_error_ne_value _ e
  · next failure hfailure =>
    intro hvalue
    cases hvalue
    exact Stacks.run_ne_value hts store .empty e hfailure

theorem Statement.WellSpelled.exists_execute_eq_ok {s : Statement} (h : s.WellSpelled)
    (store : Store) : ∃ line next, s.execute store = .ok (line, next) := by
  cases s with
  | read name => exact ⟨_, _, rfl⟩
  | display name keyword =>
    simp only [execute]
    split <;> exact ⟨_, _, rfl⟩
  | assign name expression =>
    have hreadable : ∀ t ∈ expression, t.IsReadable := fun t ht => (h.2.2 t ht).1.isReadable
    simp only [execute]
    split
    · exact ⟨_, _, rfl⟩
    · exact ⟨_, _, rfl⟩
    · next e he => exact absurd he (evaluate_ne_value hreadable store e)
  | unknown text => exact h.elim

/-! ### Lists of statements -/

section
variable {store last : Store} {s : Statement} {rest : List Statement} {lines : List String}

theorem execute_cons_of_writes {name : String} {x : Float} (h : s.Writes store name x)
    (rest : List Statement) :
    execute store (s :: rest) = execute (store.set name x) rest := by
  rw [execute, h.execute_eq]
  dsimp only
  cases execute (store.set name x) rest <;> rfl

theorem execute_cons_of_reports {line : String} (h : s.Reports store line)
    (rest : List Statement) :
    execute store (s :: rest) = (execute store rest).map fun r => (line :: r.1, r.2) := by
  rw [execute, h.execute_eq]
  dsimp only
  cases execute store rest <;> rfl

/-- All that the first statement of a run can do. -/
theorem execute_cons_cases (h : execute store (s :: rest) = .ok (lines, last)) :
    (∃ name x, s.Writes store name x ∧ execute (store.set name x) rest = .ok (lines, last)) ∨
      ∃ line more, s.Reports store line ∧ lines = line :: more ∧
        execute store rest = .ok (more, last) := by
  rw [execute] at h
  split at h
  · cases h
  · next line next hs =>
    split at h
    · cases h
    · next more final hrest =>
      cases h
      rcases Statement.execute_cases hs with ⟨name, x, hw, rfl, rfl⟩ | ⟨message, hr, rfl, rfl⟩
      · exact .inl ⟨name, x, hw, hrest⟩
      · exact .inr ⟨message, more, hr, rfl, hrest⟩

end

/-- The steps run their statements in order, from one store to another. -/
inductive Executes : Store → List TraceStep → Store → Prop where
  | nil (store : Store) : Executes store [] store
  | writes {store last : Store} {s : Statement} {name : String} {x : Float} {rest : List TraceStep}
      (hs : s.Writes store name x) (hrest : Executes (store.set name x) rest last) :
      Executes store (⟨s, none, store.set name x⟩ :: rest) last
  | reports {store last : Store} {s : Statement} {line : String} {rest : List TraceStep}
      (hs : s.Reports store line) (hrest : Executes store rest last) :
      Executes store (⟨s, some line, store⟩ :: rest) last

/-- A run that ends has executed each of its statements, and its lines are theirs. -/
theorem execute_eq_ok_iff {store last : Store} {ss : List Statement} {lines : List String} :
    execute store ss = .ok (lines, last) ↔
      ∃ steps, Executes store steps last ∧ steps.map TraceStep.statement = ss ∧
        steps.filterMap TraceStep.line = lines := by
  constructor
  · intro h
    induction ss generalizing store lines with
    | nil =>
      cases h
      exact ⟨[], .nil _, rfl, rfl⟩
    | cons s rest ih =>
      rcases execute_cons_cases h with ⟨name, x, hs, hrest⟩ | ⟨line, more, hs, rfl, hrest⟩
      · obtain ⟨steps, hsteps, rfl, rfl⟩ := ih hrest
        exact ⟨_, .writes hs hsteps, rfl, rfl⟩
      · obtain ⟨steps, hsteps, rfl, rfl⟩ := ih hrest
        exact ⟨_, .reports hs hsteps, rfl, rfl⟩
  · rintro ⟨steps, hsteps, rfl, rfl⟩
    induction hsteps with
    | nil store => rfl
    | writes hs hrest ih =>
      rw [List.map_cons, execute_cons_of_writes hs, ih]
      rfl
    | reports hs hrest ih =>
      rw [List.map_cons, execute_cons_of_reports hs, ih]
      rfl

theorem Executes.append {store middle last : Store} {steps more : List TraceStep}
    (h : Executes store steps middle) (hmore : Executes middle more last) :
    Executes store (steps ++ more) last := by
  induction h with
  | nil store => exact hmore
  | writes hs hrest ih => exact .writes hs (ih hmore)
  | reports hs hrest ih => exact .reports hs (ih hmore)

theorem execute_append {store middle last : Store} {ss ts : List Statement}
    {lines more : List String} (hss : execute store ss = .ok (lines, middle))
    (hts : execute middle ts = .ok (more, last)) :
    execute store (ss ++ ts) = .ok (lines ++ more, last) := by
  obtain ⟨steps, hsteps, rfl, rfl⟩ := execute_eq_ok_iff.mp hss
  obtain ⟨rest, hrest, rfl, rfl⟩ := execute_eq_ok_iff.mp hts
  exact execute_eq_ok_iff.mpr
    ⟨steps ++ rest, hsteps.append hrest, List.map_append, List.filterMap_append⟩

theorem exists_execute_eq_ok {ss : List Statement} (h : ∀ s ∈ ss, s.WellSpelled) (store : Store) :
    ∃ lines last, execute store ss = .ok (lines, last) := by
  induction ss generalizing store with
  | nil => exact ⟨[], store, rfl⟩
  | cons s rest ih =>
    obtain ⟨hs, hrest⟩ := List.forall_mem_cons.mp h
    obtain ⟨line, next, hstep⟩ := hs.exists_execute_eq_ok store
    obtain ⟨lines, last, hlines⟩ := ih hrest next
    exact ⟨line.toList ++ lines, last, by simp [execute, hstep, hlines]⟩

end CalcScript
