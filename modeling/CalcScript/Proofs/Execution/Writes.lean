import CalcScript.Proofs.Execution.Points
import CalcScript.Proofs.Expression.Variables

/-!
# What a run writes

A run changes the store by the writes of its statements, one after the other, and by nothing else. A
name keeps the place of its first write and has the value of its last one. No statement takes a name
out of the store, so a variable that is defined at some point of a run is defined at all later ones.
-/
namespace CalcScript

/-! ### Writes in sequence -/

theorem lookup_eq_none_iff_not_mem {entries : List (String × Float)} {name : String} :
    entries.lookup name = none ↔ name ∉ entries.map Prod.fst := by
  rw [List.lookup_eq_none_iff]
  constructor
  · intro h hname
    obtain ⟨entry, hentry, rfl⟩ := List.mem_map.mp hname
    simpa using h entry hentry
  · intro h entry hentry
    rw [bne_iff_ne]
    rintro rfl
    exact h (List.mem_map_of_mem hentry)

namespace Store

def setAll (s : Store) (writes : List (String × Float)) : Store :=
  writes.foldl (fun s write => s.set write.1 write.2) s

@[simp] theorem setAll_nil (s : Store) : s.setAll [] = s := rfl

@[simp] theorem setAll_cons (s : Store) (name : String) (x : Float)
    (writes : List (String × Float)) :
    s.setAll ((name, x) :: writes) = (s.set name x).setAll writes := rfl

theorem get?_setAll (s : Store) (writes : List (String × Float)) (name : String) :
    (s.setAll writes).get? name = (writes.reverse.lookup name).or (s.get? name) := by
  induction writes generalizing s with
  | nil => simp
  | cons write rest ih =>
    obtain ⟨written, x⟩ := write
    have hfirst : (s.set written x).get? name =
        ([(written, x)].lookup name).or (s.get? name) := by
      rw [get?_set]
      by_cases hname : name = written
      · simp [hname]
      · have hb : (name == written) = false := by simpa using hname
        simp [List.lookup_cons, hname, hb]
    rw [setAll_cons, ih, hfirst, List.reverse_cons, List.lookup_append, Option.or_assoc]

/-- Names that are not there are appended in the order of their first writes. -/
theorem keys_setAll (s : Store) (writes : List (String × Float)) :
    (s.setAll writes).keys =
      s.keys ++ ((writes.map Prod.fst).filter (· ∉ s.keys)).eraseDups := by
  induction writes generalizing s with
  | nil => simp
  | cons write rest ih =>
    obtain ⟨name, x⟩ := write
    rw [setAll_cons, ih, keys_set]
    by_cases hname : name ∈ s.keys
    · simp [hname]
    · -- The name is put behind the others now, and its later writes no longer count as first.
      have hlater : (rest.map Prod.fst).filter (· ∉ s.keys ++ [name]) =
          ((rest.map Prod.fst).filter (· ∉ s.keys)).filter (fun other => !other == name) := by
        rw [List.filter_filter]
        apply List.filter_congr
        intro other _
        by_cases ho : other = name <;> simp [ho, hname]
      rw [if_neg hname, hlater, List.map_cons,
        List.filter_cons_of_pos (by simpa using hname), List.eraseDups_cons, List.append_assoc]
      rfl

theorem get?_eq_none_iff {s : Store} {name : String} : s.get? name = none ↔ name ∉ s.keys :=
  lookup_eq_none_iff_not_mem

theorem get?_setAll_of_not_mem {writes : List (String × Float)} {name : String}
    (h : name ∉ writes.map Prod.fst) (s : Store) : (s.setAll writes).get? name = s.get? name := by
  have hnone : writes.reverse.lookup name = none := by
    rw [lookup_eq_none_iff_not_mem, List.map_reverse, List.mem_reverse]
    exact h
  rw [get?_setAll, hnone, Option.none_or]

end Store

/-! ### The writes of a run -/

/-- The writes of a run, in order. -/
def writes (store : Store) (ss : List Statement) : List (String × Float) :=
  (points store ss).filterMap Point.write?

variable {store next last : Store} {s : Statement} {ss : List Statement} {lines : List String}
  {name : String} {x : Float} {p : Point}

theorem writes_cons_of_writes (h : s.Writes store name x) (rest : List Statement) :
    writes store (s :: rest) = (name, x) :: writes (store.set name x) rest := by
  rw [writes, points_cons_of_writes h, List.filterMap_cons_some h.write?_eq]
  rfl

theorem writes_cons_of_reports {line : String} (h : s.Reports store line)
    (rest : List Statement) : writes store (s :: rest) = writes store rest := by
  rw [writes, points_cons_of_reports h, List.filterMap_cons_none h.write?_eq]
  rfl

/-- A run leaves the store in which its writes were made. -/
theorem eq_setAll_writes (h : execute store ss = .ok (lines, last)) :
    last = store.setAll (writes store ss) := by
  induction ss generalizing store lines with
  | nil =>
    cases h
    rfl
  | cons s rest ih =>
    rcases execute_cons_cases h with ⟨name, x, hs, hrest⟩ | ⟨line, more, hs, rfl, hrest⟩
    · rw [writes_cons_of_writes hs, Store.setAll_cons]
      exact ih hrest
    · rw [writes_cons_of_reports hs]
      exact ih hrest

/-! ### Names that stay -/

theorem keys_subset_of_execute {line : Option String} (h : s.execute store = .ok (line, next)) :
    store.keys ⊆ next.keys := by
  rcases Statement.execute_cases h with ⟨name, x, -, -, rfl⟩ | ⟨message, -, -, rfl⟩
  · rw [Store.keys_set]
    split
    · exact List.Subset.refl _
    · exact List.subset_append_left _ _
  · exact List.Subset.refl _

theorem keys_subset_of_mem_points (h : p ∈ points store ss) : store.keys ⊆ p.store.keys := by
  induction ss generalizing store with
  | nil => cases h
  | cons s rest ih =>
    rw [points, List.mem_cons] at h
    rcases h with rfl | h
    · exact List.Subset.refl _
    · split at h
      · next line next hs => exact List.Subset.trans (keys_subset_of_execute hs) (ih h)
      · cases h

theorem exists_points_eq {after : List Point} (h : p :: after <:+ points store ss) :
    ∃ rest, points p.store rest = p :: after := by
  induction ss generalizing store with
  | nil => simp [points] at h
  | cons s rest ih =>
    rw [points, List.suffix_cons_iff] at h
    rcases h with h | h
    · have hp : p = ⟨store, s⟩ := (List.cons.inj h).1
      subst hp
      exact ⟨s :: rest, by rw [points, h]⟩
    · split at h
      · exact ih h
      · simp at h

theorem Point.report?_ne_undefinedVariable (h : name ∈ p.store.keys) :
    p.report? ≠ some (.error (.undefinedVariable name)) := by
  intro hreport
  have hnone : p.store.get? name = none := by
    rw [report?] at hreport
    split at hreport
    · split at hreport
      · cases hreport
      · next hget =>
        cases hreport
        exact hget
    · split at hreport
      · next he =>
        cases hreport
        exact get?_eq_none_of_evaluate he
      · cases hreport
    · cases hreport
  exact Store.get?_eq_none_iff.mp hnone h

/-- A run that does not stop appends the names that it writes to those of the store, in the order of
their first writes and each once. A name has the value of its last write, or the one it had before.
A variable that is defined at a point of the run is not reported as undefined there or later. -/
theorem execute_appends_names (h : execute store ss = .ok (lines, last)) :
    last.keys =
      store.keys ++ (((writes store ss).map Prod.fst).filter (· ∉ store.keys)).eraseDups ∧
    (∀ name, last.get? name = ((writes store ss).reverse.lookup name).or (store.get? name)) ∧
    ∀ p after, p :: after <:+ points store ss → ∀ name ∈ p.store.keys, ∀ q ∈ p :: after,
      q.report? ≠ some (.error (.undefinedVariable name)) := by
  have hlast := eq_setAll_writes h
  refine ⟨?_, fun name => ?_, fun p after hafter name hname q hq => ?_⟩
  · rw [hlast, Store.keys_setAll]
  · rw [hlast, Store.get?_setAll]
  · obtain ⟨rest, hrest⟩ := exists_points_eq hafter
    rw [← hrest] at hq
    exact Point.report?_ne_undefinedVariable (keys_subset_of_mem_points hq hname)

/-- The names `c` and `a` are appended in this order although `c` is written last, and the failed
assignment to `a` leaves its zero. -/
theorem execute_appends_names_rewritten :
    let store := Store.empty.set "b" 5
    let ss : List Statement := [.assign "c" [⟨.number, "2"⟩], .read "a",
      .assign "b" [⟨.identifier, "c"⟩], .assign "a" [⟨.identifier, "d"⟩],
      .assign "c" [⟨.identifier, "a"⟩]]
    ∃ last, execute store ss = .ok (["Error: Undefined variable d"], last) ∧
      last.keys = ["b", "c", "a"] ∧ last.get? "b" = some 2 ∧ last.get? "c" = some 0 ∧
      last.get? "a" = some 0 := by
  intro store ss
  have h : execute store ss = .ok (["Error: Undefined variable d"],
      ((store.set "c" 0).set "a" 0).set "b" 2) := rfl
  obtain ⟨hkeys, hvalues, -⟩ := execute_appends_names h
  exact ⟨_, h, hkeys, hvalues "b", hvalues "c", hvalues "a"⟩

end CalcScript
