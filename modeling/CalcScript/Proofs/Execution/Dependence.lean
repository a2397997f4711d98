import CalcScript.Proofs.Execution.Writes

/-!
# What a run depends on

A run reads the identifiers of its expressions and the variables that it displays. Two runs of the
same statements from stores that agree on these names go in step: each statement prints, writes or
stops in the same way in both, and equal writes keep the agreement. Of the other names a run writes
some, and these agree as well when it is over; the rest stay as they were.
-/
namespace CalcScript
variable {a b store : Store} {s : Statement} {ss : List Statement}

namespace Statement

def reads : Statement → List String
  | .display name _ => [name]
  | .assign _ expression => identifiers expression
  | _ => []

/-- The name that a statement writes if it succeeds. -/
def target? : Statement → Option String
  | .read name => some name
  | .assign name _ => some name
  | _ => none

/-- A statement does the same in stores that agree on what it reads. -/
theorem execute_congr (h : Store.AgreeOn s.reads a b) :
    (∃ halt, s.execute a = .error halt ∧ s.execute b = .error halt) ∨
      (∃ name x, s.Writes a name x ∧ s.Writes b name x) ∨
      ∃ line, s.Reports a line ∧ s.Reports b line := by
  cases s with
  | read name => exact .inr (.inl ⟨name, 0, .read name, .read name⟩)
  | display name keyword =>
    have hname : a.get? name = b.get? name := h name List.mem_cons_self
    right
    right
    cases hb : b.get? name with
    | some x => exact ⟨_, .bound (hname.trans hb), .bound hb⟩
    | none => exact ⟨_, .unbound (hname.trans hb), .unbound hb⟩
  | assign name expression =>
    have hvalue : evaluate a expression = evaluate b expression := evaluate_congr h
    cases hb : evaluate b expression with
    | ok x => exact .inr (.inl ⟨name, x, .assign (hvalue.trans hb), .assign hb⟩)
    | error failure =>
      cases failure with
      | error e => exact .inr (.inr ⟨_, .failed (hvalue.trans hb), .failed hb⟩)
      | value e =>
        left
        exact ⟨.value e, by simp only [execute, hvalue.trans hb], by simp only [execute, hb]⟩
  | unknown text => exact .inl ⟨.unknownStatement text, rfl, rfl⟩

end Statement

/-- Two runs from stores that agree on all that the statements read stop in the same way, or print
the same lines and make the same writes. -/
theorem execute_in_step {names : List String} (h : Store.AgreeOn names a b)
    (hreads : ∀ s ∈ ss, s.reads ⊆ names) :
    (∃ halt, execute a ss = .error halt ∧ execute b ss = .error halt) ∨
      ∃ lines lastA lastB, execute a ss = .ok (lines, lastA) ∧ execute b ss = .ok (lines, lastB) ∧
        writes a ss = writes b ss := by
  induction ss generalizing a b with
  | nil => exact .inr ⟨[], a, b, rfl, rfl, rfl⟩
  | cons s rest ih =>
    obtain ⟨hs, hrest⟩ := List.forall_mem_cons.mp hreads
    rcases Statement.execute_congr (h.mono hs) with
      ⟨halt, ha, hb⟩ | ⟨name, x, ha, hb⟩ | ⟨line, ha, hb⟩
    · exact .inl ⟨halt, by simp only [execute, ha], by simp only [execute, hb]⟩
    · rw [execute_cons_of_writes ha, execute_cons_of_writes hb, writes_cons_of_writes ha,
        writes_cons_of_writes hb, List.cons_inj_right]
      exact ih (h.set name x) hrest
    · rw [execute_cons_of_reports ha, execute_cons_of_reports hb, writes_cons_of_reports ha,
        writes_cons_of_reports hb]
      rcases ih h hrest with ⟨halt, hha, hhb⟩ | ⟨lines, lastA, lastB, hla, hlb, hwrites⟩
      · exact .inl ⟨halt, by rw [hha]; rfl, by rw [hhb]; rfl⟩
      · exact .inr ⟨line :: lines, lastA, lastB, by rw [hla]; rfl, by rw [hlb]; rfl, hwrites⟩

/-! ### The stores after two runs -/

theorem Store.AgreeOn.setAll {names : List String} (h : AgreeOn names a b)
    (writes : List (String × Float)) : AgreeOn names (a.setAll writes) (b.setAll writes) := by
  intro name hname
  rw [get?_setAll, get?_setAll, h name hname]

theorem Store.agreeOn_setAll (a b : Store) (writes : List (String × Float)) :
    AgreeOn (writes.map Prod.fst) (a.setAll writes) (b.setAll writes) := by
  intro name hname
  have hsome : writes.reverse.lookup name ≠ none := by
    rw [Ne, lookup_eq_none_iff_not_mem, List.map_reverse, List.mem_reverse, not_not]
    exact hname
  obtain ⟨x, hx⟩ := Option.ne_none_iff_exists'.mp hsome
  rw [get?_setAll, get?_setAll, hx, Option.some_or, Option.some_or]

theorem mem_targets_of_mem_writes {name : String} (h : name ∈ (writes store ss).map Prod.fst) :
    name ∈ ss.filterMap Statement.target? := by
  obtain ⟨write, hwrite, rfl⟩ := List.mem_map.mp h
  obtain ⟨p, hp, hpwrite⟩ := List.mem_filterMap.mp hwrite
  obtain ⟨i, hi⟩ := List.mem_iff_getElem?.mp hp
  have hstatement := List.mem_of_getElem? (getElem?_points.mp hi).1
  apply List.mem_filterMap.mpr
  refine ⟨p.statement, hstatement, ?_⟩
  rw [Point.write?] at hpwrite
  split at hpwrite
  · next name hs =>
    cases hpwrite
    rw [hs]
    rfl
  · next name expression hs =>
    split at hpwrite
    · cases hpwrite
      rw [hs]
      rfl
    · cases hpwrite
  · cases hpwrite

/-- A run depends on the names that it reads only. From stores that agree on them it prints the same
lines or stops in the same way. If it does not stop, it makes the same writes, and the stores that
it leaves agree on the names read and on the names written. A name that no statement has as its
target keeps its value, or stays undefined. -/
theorem execute_depends_on_reads (h : Store.AgreeOn (ss.flatMap Statement.reads) a b) :
    (execute a ss).map Prod.fst = (execute b ss).map Prod.fst ∧
    ∀ lines lastA, execute a ss = .ok (lines, lastA) →
      ∃ lastB, execute b ss = .ok (lines, lastB) ∧ writes a ss = writes b ss ∧
        Store.AgreeOn (ss.flatMap Statement.reads) lastA lastB ∧
        Store.AgreeOn ((writes a ss).map Prod.fst) lastA lastB ∧
        ∀ name, name ∉ ss.filterMap Statement.target? →
          lastA.get? name = a.get? name ∧ lastB.get? name = b.get? name := by
  have hreads : ∀ s ∈ ss, s.reads ⊆ ss.flatMap Statement.reads :=
    fun s hs name hname => List.mem_flatMap.mpr ⟨s, hs, hname⟩
  rcases execute_in_step h hreads with ⟨halt, ha, hb⟩ | ⟨lines, lastA, lastB, ha, hb, hwrites⟩
  · refine ⟨by rw [ha, hb], fun lines lastA hok => ?_⟩
    rw [ha] at hok
    cases hok
  · refine ⟨by rw [ha, hb]; rfl, fun lines' lastA' hok => ?_⟩
    rw [ha] at hok
    cases hok
    have hlastA := eq_setAll_writes ha
    have hlastB := eq_setAll_writes hb
    rw [← hwrites] at hlastB
    subst hlastA hlastB
    refine ⟨_, hb, hwrites, h.setAll _, Store.agreeOn_setAll a b _, fun name hname => ?_⟩
    have hnot : name ∉ (writes a ss).map Prod.fst := fun hmem =>
      hname (mem_targets_of_mem_writes hmem)
    exact ⟨Store.get?_setAll_of_not_mem hnot a, Store.get?_setAll_of_not_mem hnot b⟩

/-- A variable `w` that one of two stores holds in front changes nothing: `z` is undefined in both,
and `y` gets the same value. -/
theorem execute_depends_on_reads_apart :
    let x : Token := ⟨.identifier, "x"⟩
    let ss : List Statement := [.assign "y" [x, ⟨.slash, "/"⟩, ⟨.identifier, "z"⟩],
      .display "x" "Print", .assign "y" [x]]
    let a := Store.empty.set "x" 1
    let b := (Store.empty.set "w" 7).set "x" 1
    Store.AgreeOn (ss.flatMap Statement.reads) a b ∧
      ∃ lastA lastB,
        execute a ss = .ok (["Error: Undefined variable z", "x = 1.0"], lastA) ∧
        execute b ss = .ok (["Error: Undefined variable z", "x = 1.0"], lastB) ∧
        lastA.get? "y" = lastB.get? "y" ∧ lastA.get? "w" = none ∧ lastB.get? "w" = some 7 := by
  intro x ss a b
  have hagree : Store.AgreeOn (ss.flatMap Statement.reads) a b := by
    intro name hname
    change name ∈ ["x", "z", "x", "x"] at hname
    simp only [List.mem_cons, List.not_mem_nil, or_false] at hname
    rcases hname with rfl | rfl | rfl | rfl <;> rfl
  have ha : execute a ss = .ok (["Error: Undefined variable z", "x = 1.0"], a.set "y" 1) := rfl
  obtain ⟨lastB, hb, -, -, hwritten, hkept⟩ := (execute_depends_on_reads hagree).2 _ _ ha
  obtain ⟨hwA, hwB⟩ := hkept "w" (by decide)
  exact ⟨hagree, a.set "y" 1, lastB, ha, hb, hwritten "y" List.mem_cons_self, hwA, hwB⟩

end CalcScript
