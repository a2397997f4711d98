import CalcScript.Number.Layout
import CalcScript.Text.Quoted

/-!
# The variable store

A store is a list of names with their values, in the order in which the names were first written.
Writing a name that is there keeps its place, writing a new one appends it, and no name occurs
twice.
-/
namespace CalcScript
namespace Store

/-- The entries after one write. -/
def put (name : String) (value : Float) : List (String × Float) → List (String × Float)
  | [] => [(name, value)]
  | (key, old) :: rest =>
    if key = name then (key, value) :: rest else (key, old) :: put name value rest

theorem keys_put (name : String) (value : Float) (entries : List (String × Float)) :
    (put name value entries).map Prod.fst =
      if name ∈ entries.map Prod.fst then entries.map Prod.fst
      else entries.map Prod.fst ++ [name] := by
  induction entries with
  | nil => simp [put]
  | cons entry rest ih =>
    obtain ⟨key, old⟩ := entry
    by_cases hk : key = name
    · simp [put, hk]
    · have hk' : ¬ name = key := fun h => hk h.symm
      by_cases hm : name ∈ rest.map Prod.fst
      · rw [if_pos hm] at ih
        simp only [put, if_neg hk, List.map_cons, ih]
        rw [if_pos (List.mem_cons_of_mem _ hm)]
      · rw [if_neg hm] at ih
        simp only [put, if_neg hk, List.map_cons, ih]
        rw [if_neg (by simpa [hk'] using hm)]
        rfl

theorem nodup_put {entries : List (String × Float)} (name : String) (value : Float)
    (h : (entries.map Prod.fst).Nodup) : ((put name value entries).map Prod.fst).Nodup := by
  rw [keys_put]
  split
  · exact h
  · next hm =>
    rw [List.nodup_append]
    refine ⟨h, by simp, ?_⟩
    intro a ha b hb hab
    simp only [List.mem_singleton] at hb
    exact hm (hb ▸ hab ▸ ha)

theorem lookup_put (name other : String) (value : Float) (entries : List (String × Float)) :
    (put name value entries).lookup other =
      if other = name then some value else entries.lookup other := by
  induction entries with
  | nil =>
    by_cases ho : other = name
    · simp [put, ho]
    · have hb : (other == name) = false := by simpa using ho
      simp [put, List.lookup_cons, ho, hb]
  | cons entry rest ih =>
    obtain ⟨key, old⟩ := entry
    by_cases ho : other = key
    · subst ho
      by_cases hk : other = name <;> simp [put, hk]
    · have hb : (other == key) = false := by simpa using ho
      by_cases hk : key = name
      · subst hk
        simp [put, List.lookup_cons, ho, hb]
      · simp [put, hk, List.lookup_cons, hb, ih]

end Store

/-- Names with their values, in the order of first writing. -/
structure Store where
  entries : List (String × Float)
  nodup_keys : (entries.map Prod.fst).Nodup

namespace Store

def empty : Store :=
  ⟨[], by simp⟩

instance : Inhabited Store := ⟨empty⟩

def keys (s : Store) : List String :=
  s.entries.map Prod.fst

def get? (s : Store) (name : String) : Option Float :=
  s.entries.lookup name

def set (s : Store) (name : String) (value : Float) : Store :=
  ⟨put name value s.entries, nodup_put name value s.nodup_keys⟩

def erase (s : Store) (name : String) : Store :=
  ⟨s.entries.filter (·.1 != name), s.nodup_keys.sublist (List.filter_sublist.map Prod.fst)⟩

/-- The store that writing the entries one after the other gives. -/
def ofList (entries : List (String × Float)) : Store :=
  entries.foldl (fun s entry => s.set entry.1 entry.2) empty

/-- The store in braces, names quoted. -/
def text (s : Store) : String :=
  "\x7b" ++ ", ".intercalate (s.entries.map fun e => Text.quoted e.1 ++ ": " ++ Number.text e.2) ++
    "\x7d"

@[ext] theorem ext {s t : Store} (h : s.entries = t.entries) : s = t := by
  cases s
  cases t
  cases h
  rfl

@[simp] theorem get?_empty (name : String) : empty.get? name = none := rfl

theorem get?_set (s : Store) (name other : String) (value : Float) :
    (s.set name value).get? other = if other = name then some value else s.get? other :=
  lookup_put name other value s.entries

theorem keys_set (s : Store) (name : String) (value : Float) :
    (s.set name value).keys = if name ∈ s.keys then s.keys else s.keys ++ [name] :=
  keys_put name value s.entries

end Store
end CalcScript
