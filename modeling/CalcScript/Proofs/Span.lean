import Mathlib.Data.List.TakeWhile

/-!
# Spans

The span of a class is the longest run of its members at the start of a list. A run of members
before a list that does not begin with one is the whole span.
-/
namespace CalcScript
variable {α : Type} {p : α → Bool} {l after : List α}

/-- The list does not begin with a member of the class. -/
def Avoids (p : α → Bool) (l : List α) : Prop :=
  ∀ a ∈ l.head?, p a = false

@[simp] theorem avoids_nil (p : α → Bool) : Avoids p [] := by
  intro a ha
  cases ha

@[simp] theorem avoids_cons_iff {a : α} {rest : List α} : Avoids p (a :: rest) ↔ p a = false := by
  constructor
  · intro h
    exact h a rfl
  · intro h b hb
    cases hb
    exact h

theorem avoids_dropWhile (p : α → Bool) (l : List α) : Avoids p (l.dropWhile p) := by
  intro a ha
  have hnot := List.head?_dropWhile_not p l
  rw [Option.mem_def.mp ha] at hnot
  exact hnot

theorem Avoids.append_cons {a : α} (h : Avoids p l) (ha : p a = false) :
    Avoids p (l ++ a :: after) := by
  cases l with
  | nil => exact avoids_cons_iff.mpr ha
  | cons b rest => exact avoids_cons_iff.mpr (avoids_cons_iff.mp h)

theorem Avoids.takeWhile_append (h : Avoids p after) (hl : ∀ a ∈ l, p a = true) :
    (l ++ after).takeWhile p = l := by
  rw [List.takeWhile_append_of_pos hl]
  cases after with
  | nil => simp
  | cons a rest => simp [avoids_cons_iff.mp h]

theorem Avoids.dropWhile_append (h : Avoids p after) (hl : ∀ a ∈ l, p a = true) :
    (l ++ after).dropWhile p = after := by
  rw [List.dropWhile_append_of_pos hl]
  cases after with
  | nil => rfl
  | cons a rest => simp [avoids_cons_iff.mp h]

end CalcScript
