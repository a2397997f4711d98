import CalcScript.Proofs.Execution.Runs

/-!
# Points of a run

A point of a run is a statement together with the store in which it starts. All that the statement
does can be read off its point: it writes a variable, or it reports the value of a variable or an
error. So the output of a run is the list of its reports, and the statements that report can be left
out: the others start in the same stores without them.
-/
namespace CalcScript

/-- A statement and the store in which it starts. -/
structure Point where
  store : Store
  statement : Statement

inductive Report where
  | binding (name : String) (value : Float)
  | error (e : EvalError)

def Report.line : Report → String
  | .binding name value => bindingLine name value
  | .error e => errorLine e.message

namespace Point

/-- What a statement writes: zero for a declaration, the value of the expression for an assignment
whose expression has one. -/
def write? (p : Point) : Option (String × Float) :=
  match p.statement with
  | .read name => some (name, 0)
  | .assign name expression =>
    match evaluate p.store expression with
    | .ok x => some (name, x)
    | .error _ => none
  | _ => none

/-- What a statement reports: a variable for a display, the error of the expression for an
assignment whose expression ends in one. -/
def report? (p : Point) : Option Report :=
  match p.statement with
  | .display name _ =>
    match p.store.get? name with
    | some x => some (.binding name x)
    | none => some (.error (.undefinedVariable name))
  | .assign _ expression =>
    match evaluate p.store expression with
    | .error (.error e) => some (.error e)
    | _ => none
  | _ => none

def isSilent (p : Point) : Bool :=
  p.report?.isNone

end Point

/-- The points of a run, up to the one at which it stops. -/
def points (store : Store) : List Statement → List Point
  | [] => []
  | s :: rest =>
    ⟨store, s⟩ ::
      match s.execute store with
      | .ok (_, next) => points next rest
      | .error _ => []

variable {store last : Store} {s : Statement} {rest ss : List Statement} {lines : List String}
  {name line : String} {x : Float}

/-! ### One statement at its point -/

namespace Statement

theorem Writes.write?_eq (h : s.Writes store name x) :
    Point.write? ⟨store, s⟩ = some (name, x) := by
  cases h with
  | read name => rfl
  | assign h => simp only [Point.write?, h]

theorem Writes.report?_eq (h : s.Writes store name x) : Point.report? ⟨store, s⟩ = none := by
  cases h with
  | read name => rfl
  | assign h => simp only [Point.report?, h]

theorem Reports.write?_eq (h : s.Reports store line) : Point.write? ⟨store, s⟩ = none := by
  cases h with
  | bound h => rfl
  | unbound h => rfl
  | failed h => simp only [Point.write?, h]

theorem Reports.exists_report?_eq (h : s.Reports store line) :
    ∃ r, Point.report? ⟨store, s⟩ = some r ∧ r.line = line := by
  cases h with
  | @bound name _ x h => exact ⟨.binding name x, by simp only [Point.report?, h], rfl⟩
  | @unbound name _ h =>
    exact ⟨.error (.undefinedVariable name), by simp only [Point.report?, h], rfl⟩
  | @failed _ _ e h => exact ⟨.error e, by simp only [Point.report?, h], rfl⟩

end Statement

theorem points_cons_of_writes (h : s.Writes store name x) (rest : List Statement) :
    points store (s :: rest) = ⟨store, s⟩ :: points (store.set name x) rest := by
  rw [points, h.execute_eq]

theorem points_cons_of_reports (h : s.Reports store line) (rest : List Statement) :
    points store (s :: rest) = ⟨store, s⟩ :: points store rest := by
  rw [points, h.execute_eq]

/-! ### The points of a whole run -/

/-- A statement starts in the store that the statements before it leave. -/
theorem getElem?_points {i : Nat} {p : Point} :
    (points store ss)[i]? = some p ↔
      ss[i]? = some p.statement ∧
        ∃ printed, execute store (ss.take i) = .ok (printed, p.store) := by
  induction ss generalizing store i with
  | nil => simp [points]
  | cons s rest ih =>
    cases i with
    | zero =>
      obtain ⟨start, statement⟩ := p
      simp [points, execute, and_comm]
    | succ i =>
      rw [points, List.getElem?_cons_succ, List.getElem?_cons_succ, List.take_succ_cons, execute]
      cases hs : s.execute store with
      | error halt => simp
      | ok result =>
        obtain ⟨line, next⟩ := result
        dsimp only
        rw [ih]
        cases hrest : execute next (rest.take i) with
        | error halt => simp
        | ok result =>
          obtain ⟨lines, final⟩ := result
          simp

theorem map_statement_points (h : execute store ss = .ok (lines, last)) :
    (points store ss).map Point.statement = ss := by
  induction ss generalizing store lines with
  | nil => rfl
  | cons s rest ih =>
    rcases execute_cons_cases h with ⟨name, x, hs, hrest⟩ | ⟨line, more, hs, rfl, hrest⟩
    · rw [points_cons_of_writes hs, List.map_cons, ih hrest]
    · rw [points_cons_of_reports hs, List.map_cons, ih hrest]

theorem lines_eq_map_line (h : execute store ss = .ok (lines, last)) :
    lines = ((points store ss).filterMap Point.report?).map Report.line := by
  induction ss generalizing store lines with
  | nil =>
    cases h
    rfl
  | cons s rest ih =>
    rcases execute_cons_cases h with ⟨name, x, hs, hrest⟩ | ⟨line, more, hs, rfl, hrest⟩
    · rw [points_cons_of_writes hs, List.filterMap_cons_none hs.report?_eq]
      exact ih hrest
    · obtain ⟨r, hr, hline⟩ := hs.exists_report?_eq
      rw [points_cons_of_reports hs, List.filterMap_cons_some hr, List.map_cons, hline,
        ← ih hrest]

/-- The statements that report nothing print nothing, and leave the store of the whole run. -/
theorem execute_filter_silent (h : execute store ss = .ok (lines, last)) :
    execute store (((points store ss).filter Point.isSilent).map Point.statement) =
      .ok ([], last) := by
  induction ss generalizing store lines with
  | nil =>
    cases h
    rfl
  | cons s rest ih =>
    rcases execute_cons_cases h with ⟨name, x, hs, hrest⟩ | ⟨line, more, hs, rfl, hrest⟩
    · have hsilent : Point.isSilent ⟨store, s⟩ = true := by simp [Point.isSilent, hs.report?_eq]
      rw [points_cons_of_writes hs, List.filter_cons_of_pos hsilent, List.map_cons,
        execute_cons_of_writes hs]
      exact ih hrest
    · obtain ⟨r, hr, -⟩ := hs.exists_report?_eq
      have hsilent : ¬ Point.isSilent ⟨store, s⟩ = true := by simp [Point.isSilent, hr]
      rw [points_cons_of_reports hs, List.filter_cons_of_neg hsilent]
      exact ih hrest

/-- The output of a run that does not stop is one line for each display and for each assignment
whose expression ends in an error where it stands, in the order of the statements. The other
statements alone, from the same store, print nothing and leave the same store. -/
theorem execute_without_reports (h : execute store ss = .ok (lines, last)) :
    (points store ss).map Point.statement = ss ∧
    (∀ i p, (points store ss)[i]? = some p ↔ ss[i]? = some p.statement ∧
      ∃ printed, execute store (ss.take i) = .ok (printed, p.store)) ∧
    lines = ((points store ss).filterMap Point.report?).map Report.line ∧
    execute store (((points store ss).filter Point.isSilent).map Point.statement) =
      .ok ([], last) :=
  ⟨map_statement_points h, fun _ _ => getElem?_points, lines_eq_map_line h,
    execute_filter_silent h⟩

/-- The assignment `y = x` fails before `x` is declared and is left out there, but not after. -/
theorem execute_without_reports_repeated :
    let x : Token := ⟨.identifier, "x"⟩
    let ss : List Statement := [.assign "y" [x], .read "x", .display "x" "Display",
      .assign "y" [x], .assign "x" [⟨.number, "1"⟩, ⟨.slash, "/"⟩, x]]
    let last := (Store.empty.set "x" 0).set "y" 0
    execute Store.empty ss =
        .ok (["Error: Undefined variable x", "x = 0.0", "Error: Division by zero"], last) ∧
      execute Store.empty [.read "x", .assign "y" [x]] = .ok ([], last) := by
  intro x ss last
  have h : execute Store.empty ss =
      .ok (["Error: Undefined variable x", "x = 0.0", "Error: Division by zero"], last) := by
    rfl
  have hsilent := (execute_without_reports h).2.2.2
  exact ⟨h, hsilent⟩

end CalcScript
