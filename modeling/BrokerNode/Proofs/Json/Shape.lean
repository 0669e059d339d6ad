/-
BrokerNode/Proofs/Json/Shape.lean

The shape of JSON values: how deeply lists and objects are nested, and properties that hold of every
value inside a value.

Two properties of the second kind matter to reading and writing.  A value is `Ordered` when every
object in it has its names in strictly ascending order, which is how readers build objects.  And a
value has only whole numbers (`allWhole`) when every number in it is whole.  Both are `Everywhere` of
a property of single values, so the lemmas about lists and objects are stated once.

`Json.rec_on_parts` is the induction over values: to prove something of a list or an object one may
assume it of the values in it.
-/
import BrokerNode.Json.Basic
import Mathlib.Data.String.Basic

namespace BrokerNode.Json

/-! ### Induction over values -/

/-- Induction over values, with lists and objects reduced to the values in them. -/
@[elab_as_elim]
theorem rec_on_parts {P : Json → Prop} (null : P .null) (bool : ∀ b, P (.bool b))
    (number : ∀ n, P (.number n)) (string : ∀ s, P (.string s))
    (list : ∀ xs, (∀ x ∈ xs, P x) → P (.list xs))
    (object : ∀ ms, (∀ m ∈ ms, P m.2) → P (.object ms)) (v : Json) : P v := by
  refine @Json.rec P (fun xs => ∀ x ∈ xs, P x) (fun ms => ∀ m ∈ ms, P m.2) (fun m => P m.2)
    null bool number string list object ?_ ?_ ?_ ?_ ?_ v
  · -- no elements
    intro x hx
    cases hx
  · -- an element in front
    intro x xs hx hxs y hy
    rcases List.mem_cons.mp hy with rfl | hy
    · exact hx
    · exact hxs y hy
  · -- no members
    intro m hm
    cases hm
  · -- a member in front
    intro m ms hm hms k hk
    rcases List.mem_cons.mp hk with rfl | hk
    · exact hm
    · exact hms k hk
  · intro _ v hv
    exact hv

/-! ### Depth -/

mutual

/-- How many lists and objects are nested in a value, one inside the other. -/
def depth : Json → Nat
  | .list xs => depthOfElements xs + 1
  | .object ms => depthOfMembers ms + 1
  | _ => 0

/-- The greatest depth in a list. -/
def depthOfElements : List Json → Nat
  | [] => 0
  | x :: xs => max (depth x) (depthOfElements xs)

/-- The greatest depth among members. -/
def depthOfMembers : List (String × Json) → Nat
  | [] => 0
  | (_, x) :: ms => max (depth x) (depthOfMembers ms)

end

theorem depthOfElements_le_iff {xs : List Json} {n : Nat} :
    depthOfElements xs ≤ n ↔ ∀ x ∈ xs, x.depth ≤ n := by
  induction xs with
  | nil => simp [depthOfElements]
  | cons x xs ih => simp [depthOfElements, ih]

theorem depthOfMembers_le_iff {ms : List (String × Json)} {n : Nat} :
    depthOfMembers ms ≤ n ↔ ∀ m ∈ ms, m.2.depth ≤ n := by
  induction ms with
  | nil => simp [depthOfMembers]
  | cons m ms ih => simp [depthOfMembers, ih]

theorem depth_list_le_iff {xs : List Json} {n : Nat} :
    (Json.list xs).depth ≤ n + 1 ↔ ∀ x ∈ xs, x.depth ≤ n := by
  rw [depth, Nat.add_le_add_iff_right, depthOfElements_le_iff]

theorem depth_object_le_iff {ms : List (String × Json)} {n : Nat} :
    (Json.object ms).depth ≤ n + 1 ↔ ∀ m ∈ ms, m.2.depth ≤ n := by
  rw [depth, Nat.add_le_add_iff_right, depthOfMembers_le_iff]

/-! ### Properties of every value inside a value -/

mutual

/-- Every value inside a value, itself included, has a property. -/
def Everywhere (p : Json → Prop) : Json → Prop
  | .list xs => p (.list xs) ∧ EverywhereInElements p xs
  | .object ms => p (.object ms) ∧ EverywhereInMembers p ms
  | v => p v

/-- Every value inside the elements of a list has a property. -/
def EverywhereInElements (p : Json → Prop) : List Json → Prop
  | [] => True
  | x :: xs => Everywhere p x ∧ EverywhereInElements p xs

/-- Every value inside the members of an object has a property. -/
def EverywhereInMembers (p : Json → Prop) : List (String × Json) → Prop
  | [] => True
  | (_, x) :: ms => Everywhere p x ∧ EverywhereInMembers p ms

end

section Everywhere

variable {p q : Json → Prop}

theorem everywhereInElements_iff {xs : List Json} :
    EverywhereInElements p xs ↔ ∀ x ∈ xs, Everywhere p x := by
  induction xs with
  | nil => simp [EverywhereInElements]
  | cons x xs ih => simp [EverywhereInElements, ih]

theorem everywhereInMembers_iff {ms : List (String × Json)} :
    EverywhereInMembers p ms ↔ ∀ m ∈ ms, Everywhere p m.2 := by
  induction ms with
  | nil => simp [EverywhereInMembers]
  | cons m ms ih => simp [EverywhereInMembers, ih]

theorem everywhere_list_iff {xs : List Json} :
    Everywhere p (.list xs) ↔ p (.list xs) ∧ ∀ x ∈ xs, Everywhere p x := by
  rw [Everywhere, everywhereInElements_iff]

theorem everywhere_object_iff {ms : List (String × Json)} :
    Everywhere p (.object ms) ↔ p (.object ms) ∧ ∀ m ∈ ms, Everywhere p m.2 := by
  rw [Everywhere, everywhereInMembers_iff]

@[simp] theorem everywhere_null : Everywhere p .null ↔ p .null := by
  rw [Everywhere] <;> simp

@[simp] theorem everywhere_bool {b : Bool} : Everywhere p (.bool b) ↔ p (.bool b) := by
  rw [Everywhere] <;> simp

@[simp] theorem everywhere_number {n : Number} : Everywhere p (.number n) ↔ p (.number n) := by
  rw [Everywhere] <;> simp

@[simp] theorem everywhere_string {s : String} : Everywhere p (.string s) ↔ p (.string s) := by
  rw [Everywhere] <;> simp

/-- A weaker property holds everywhere, too. -/
theorem Everywhere.mono (h : ∀ v, p v → q v) {v : Json} (hv : Everywhere p v) :
    Everywhere q v := by
  induction v using rec_on_parts with
  | null => exact everywhere_null.mpr (h _ (everywhere_null.mp hv))
  | bool b => exact everywhere_bool.mpr (h _ (everywhere_bool.mp hv))
  | number n => exact everywhere_number.mpr (h _ (everywhere_number.mp hv))
  | string s => exact everywhere_string.mpr (h _ (everywhere_string.mp hv))
  | list xs ih =>
    rw [everywhere_list_iff] at hv ⊢
    exact ⟨h _ hv.1, fun x hx => ih x hx (hv.2 x hx)⟩
  | object ms ih =>
    rw [everywhere_object_iff] at hv ⊢
    exact ⟨h _ hv.1, fun m hm => ih m hm (hv.2 m hm)⟩

end Everywhere

/-! ### Order -/

/-- The names of the members of an object are in strictly ascending order. -/
def HasSortedNames : Json → Prop
  | .object ms => (ms.map Prod.fst).Pairwise (· < ·)
  | _ => True

/-- Every object inside a value has its names in strictly ascending order. -/
def Ordered (v : Json) : Prop := Everywhere HasSortedNames v

/-- Whether a value, when it is a number, has a property that numbers may have. -/
def IfNumber (p : Number → Prop) : Json → Prop
  | .number n => p n
  | _ => True

/-- Putting a member behind names that are all smaller appends it. -/
theorem insert_eq_append {name : String} {value : Json} {ms : List (String × Json)}
    (h : ∀ k ∈ ms.map Prod.fst, k < name) : insert name value ms = ms ++ [(name, value)] := by
  induction ms with
  | nil => rfl
  | cons m ms ih =>
    obtain ⟨k, v⟩ := m
    have hk : k < name := h k (by simp)
    have hms : insert name value ms = ms ++ [(name, value)] :=
      ih fun l hl => h l (by simp at hl ⊢; exact Or.inr hl)
    simp [insert, hms, not_lt_of_gt hk, ne_of_gt hk]

theorem mem_insert {name : String} {value : Json} {ms : List (String × Json)}
    {m : String × Json} (h : m ∈ insert name value ms) : m = (name, value) ∨ m ∈ ms := by
  induction ms with
  | nil => simpa [insert] using h
  | cons n ms ih =>
    obtain ⟨k, v⟩ := n
    simp only [insert] at h
    split at h
    · -- in front of all others
      simpa using h
    · split at h
      · -- in place of the first
        rcases List.mem_cons.mp h with h | h
        · exact Or.inl h
        · exact Or.inr (List.mem_cons_of_mem _ h)
      · -- further behind
        rcases List.mem_cons.mp h with rfl | h
        · exact Or.inr (by simp)
        · rcases ih h with h | h
          · exact Or.inl h
          · exact Or.inr (List.mem_cons_of_mem _ h)

/-- Inserting keeps the names in strictly ascending order. -/
theorem sorted_insert {name : String} {value : Json} {ms : List (String × Json)}
    (h : (ms.map Prod.fst).Pairwise (· < ·)) :
    ((insert name value ms).map Prod.fst).Pairwise (· < ·) := by
  induction ms with
  | nil => simp [insert]
  | cons m ms ih =>
    obtain ⟨k, v⟩ := m
    rw [List.map_cons, List.pairwise_cons] at h
    obtain ⟨hk, hms⟩ := h
    simp only [insert]
    split
    · next hlt =>
      rw [List.map_cons, List.map_cons, List.pairwise_cons, List.pairwise_cons]
      refine ⟨?_, hk, hms⟩
      intro l hl
      rcases List.mem_cons.mp hl with rfl | hl
      · exact hlt
      · exact lt_trans hlt (hk l hl)
    · split
      · next heq =>
        subst heq
        exact List.pairwise_cons.mpr ⟨hk, hms⟩
      · next hlt hne =>
        -- the first name stays first: it is smaller than the new one as well
        rw [List.map_cons, List.pairwise_cons]
        refine ⟨?_, ih hms⟩
        intro l hl
        obtain ⟨n, hn, rfl⟩ := List.mem_map.mp hl
        rcases mem_insert hn with rfl | hn
        · exact lt_of_le_of_ne (not_lt.mp hlt) (Ne.symm hne)
        · exact hk n.1 (List.mem_map_of_mem hn)

/-! ### Whole numbers -/

/-- A value has only whole numbers exactly when each number inside it is whole. -/
theorem allWhole_iff {v : Json} :
    v.allWhole = true ↔ Everywhere (IfNumber fun n => n.isWhole = true) v := by
  induction v using rec_on_parts with
  | null => simp [allWhole, IfNumber]
  | bool b => simp [allWhole, IfNumber]
  | number n => simp [allWhole, IfNumber]
  | string s => simp [allWhole, IfNumber]
  | list xs ih =>
    rw [everywhere_list_iff, allWhole]
    simp only [IfNumber, true_and]
    induction xs with
    | nil => simp [allWholeElements]
    | cons x xs ihxs =>
      simp only [allWholeElements, Bool.and_eq_true, List.forall_mem_cons]
      rw [ih x (by simp), ihxs fun y hy => ih y (by simp [hy])]
  | object ms ih =>
    rw [everywhere_object_iff, allWhole]
    simp only [IfNumber, true_and]
    induction ms with
    | nil => simp [allWholeMembers]
    | cons m ms ihms =>
      obtain ⟨k, x⟩ := m
      simp only [allWholeMembers, Bool.and_eq_true, List.forall_mem_cons]
      rw [ih (k, x) (by simp), ihms fun y hy => ih y (by simp [hy])]

end BrokerNode.Json
