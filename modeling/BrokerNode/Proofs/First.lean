/-
BrokerNode/Proofs/First.lean

The first element of a list that has a property.

Checks are made in an order, lines are followed in one, and folders lie around each other: what counts is
the first of them with some property.  `IsFirst` says so by what stands before the element.
-/

namespace BrokerNode

/-- The first element of a list that has a property. -/
def IsFirst {α : Type} (P : α → Prop) (xs : List α) (x : α) : Prop :=
  ∃ before behind, xs = before ++ x :: behind ∧ P x ∧ ∀ y ∈ before, ¬P y

namespace IsFirst

variable {α : Type} {P : α → Prop} {x y : α} {xs : List α}

theorem cons_iff : IsFirst P (y :: xs) x ↔ (P y ∧ x = y) ∨ (¬P y ∧ IsFirst P xs x) := by
  constructor
  · rintro ⟨before, behind, hxs, hx, hbefore⟩
    cases before with
    | nil =>
      obtain ⟨rfl, -⟩ := List.cons.inj hxs
      exact Or.inl ⟨hx, rfl⟩
    | cons z before =>
      obtain ⟨rfl, hrest⟩ := List.cons.inj hxs
      obtain ⟨hy, hbefore⟩ := List.forall_mem_cons.mp hbefore
      exact Or.inr ⟨hy, before, behind, hrest, hx, hbefore⟩
  · rintro (⟨hy, rfl⟩ | ⟨hy, before, behind, rfl, hx, hbefore⟩)
    · exact ⟨[], xs, rfl, hy, by simp⟩
    · exact ⟨y :: before, behind, rfl, hx, List.forall_mem_cons.mpr ⟨hy, hbefore⟩⟩

theorem not_nil : ¬IsFirst P [] x := by
  rintro ⟨before, behind, hxs, -⟩
  simp at hxs

/-- A list has no element with a property, or a first one. -/
theorem none_or_exists (P : α → Prop) (xs : List α) :
    (∀ y ∈ xs, ¬P y) ∨ ∃ x, IsFirst P xs x := by
  induction xs with
  | nil => exact Or.inl (by simp)
  | cons y xs ih =>
    by_cases hy : P y
    · exact Or.inr ⟨y, cons_iff.mpr (Or.inl ⟨hy, rfl⟩)⟩
    · rcases ih with hall | ⟨x, hx⟩
      · exact Or.inl (List.forall_mem_cons.mpr ⟨hy, hall⟩)
      · exact Or.inr ⟨x, cons_iff.mpr (Or.inr ⟨hy, hx⟩)⟩

/-- It is the one that is found. -/
theorem find?_eq {p : α → Bool} (h : IsFirst (fun y => p y = true) xs x) : xs.find? p = some x := by
  obtain ⟨before, behind, hxs, hx, hbefore⟩ := h
  refine List.find?_eq_some_iff_append.mpr ⟨hx, before, behind, hxs, ?_⟩
  intro y hy
  simpa using hbefore y hy

end IsFirst

end BrokerNode
