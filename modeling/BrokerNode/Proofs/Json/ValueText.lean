/-
BrokerNode/Proofs/Json/ValueText.lean

Values and their texts.

What is read from the text of a value is found by recursion on the value (`reread`): lists and objects
use up the nesting that is allowed, numbers are read back one by one, and all else stays as it is.  The
reader does exactly this, whatever stands behind the text as long as it cannot go on a number
(`read_write`).  Hence a value is read back as itself exactly when it is not nested too deeply and all
its numbers are stable (`reread_eq_some_iff`).

In the other direction every value that is read is ordered and no deeper than was allowed
(`ordered_of_read`, `depth_le_of_read`).
-/
import BrokerNode.Json.Value
import BrokerNode.Json.Writer
import BrokerNode.Proofs.Json.ItemsText
import BrokerNode.Proofs.Json.NumberText
import BrokerNode.Proofs.Json.Shape

namespace BrokerNode.Json

/-! ### What a value is read back as -/

mutual

/-- What a value is read back as from its text, with at most `nesting` lists and objects open at a
time, if it is read at all. -/
def reread (nesting : Nat) : Json → Option Json
  | .null => some .null
  | .bool b => some (.bool b)
  | .number n => n.reread.map .number
  | .string s => some (.string s)
  | .list xs =>
    match nesting with
    | 0 => none
    | inner + 1 => (rereadElements inner xs).map .list
  | .object ms =>
    match nesting with
    | 0 => none
    | inner + 1 => (rereadMembers inner ms).map .object

/-- What the elements of a list are read back as. -/
def rereadElements (nesting : Nat) : List Json → Option (List Json)
  | [] => some []
  | x :: xs => do return (← reread nesting x) :: (← rereadElements nesting xs)

/-- What the members of an object are read back as. -/
def rereadMembers (nesting : Nat) : List (String × Json) → Option (List (String × Json))
  | [] => some []
  | (k, x) :: ms => do return (k, ← reread nesting x) :: (← rereadMembers nesting ms)

end

theorem rereadElements_eq_mapM (nesting : Nat) (xs : List Json) :
    rereadElements nesting xs = xs.mapM (reread nesting) := by
  induction xs with
  | nil => rfl
  | cons x xs ih =>
    rw [rereadElements, List.mapM_cons, ih]

theorem rereadMembers_eq_mapM (nesting : Nat) (ms : List (String × Json)) :
    rereadMembers nesting ms = ms.mapM fun m => (reread nesting m.2).map (Prod.mk m.1) := by
  induction ms with
  | nil => rfl
  | cons m ms ih =>
    rw [rereadMembers, List.mapM_cons, ih]
    cases reread nesting m.2 <;> rfl

/-! ### First characters -/

/-- Whether a number may start with a character. -/
def OpensNumber (c : Char) : Prop := c = '-' ∨ c.isDigit = true

instance : DecidablePred OpensNumber := fun c => inferInstanceAs (Decidable (c = '-' ∨ _))

theorem OpensNumber.ne {c d : Char} (hc : OpensNumber c) (hd : ¬OpensNumber d) : c ≠ d := by
  rintro rfl
  exact hd hc

theorem OpensNumber.isBlank_eq {c : Char} (hc : OpensNumber c) : isBlank c = false := by
  simp only [isBlank, Bool.or_eq_false_iff, beq_eq_false_iff_ne]
  exact ⟨⟨⟨hc.ne (by decide), hc.ne (by decide)⟩, hc.ne (by decide)⟩, hc.ne (by decide)⟩

/-- The text of a value starts with a character that is no blank and closes nothing. -/
theorem exists_cons_write (v : Json) :
    ∃ c cs, write v = c :: cs ∧ isBlank c = false ∧ c ≠ ']' ∧ (v ≠ .null → c ≠ 'n') := by
  cases v with
  | null => exact ⟨'n', _, rfl, by decide, by decide, fun h => absurd rfl h⟩
  | bool b => cases b <;> exact ⟨_, _, rfl, by decide, by decide, fun _ => by decide⟩
  | number n =>
    obtain ⟨c, cs, heq, hc⟩ := n.exists_cons_write
    have hc : OpensNumber c := hc
    exact ⟨c, cs, by rw [write, heq], hc.isBlank_eq, hc.ne (by decide),
      fun _ => hc.ne (by decide)⟩
  | string s => exact ⟨'"', _, rfl, by decide, by decide, fun _ => by decide⟩
  | list xs => exact ⟨'[', _, by rw [write], by decide, by decide, fun _ => by decide⟩
  | object ms => exact ⟨'{', _, by rw [write], by decide, by decide, fun _ => by decide⟩

/-! ### Reading what was written -/

/-- The reader of the values inside a list or an object, if any may be opened. -/
def innerValue : Nat → Option (Reader Json)
  | 0 => none
  | nesting + 1 => some (value nesting)

theorem value_read (nesting : Nat) : (value nesting).read = readValue (innerValue nesting) := by
  cases nesting <;> rfl

section ReadValue

variable {inner : Option (Reader Json)}

theorem readValue_list (rd : Reader Json) (s : List Char) :
    (readValue (some rd) ('[' :: s)).toOption =
      (elements rd true s).toOption.map fun p => (.list p.1, p.2) := by
  have hblank : skipBlanks ('[' :: s) = '[' :: s := rfl
  simp only [readValue, hblank]
  cases elements rd true s <;> rfl

theorem readValue_object (rd : Reader Json) (s : List Char) :
    (readValue (some rd) ('{' :: s)).toOption =
      (members (addMember rd) true [] s).toOption.map fun p => (.object p.1, p.2) := by
  have hblank : skipBlanks ('{' :: s) = '{' :: s := rfl
  simp only [readValue, hblank]
  cases members (addMember rd) true [] s <;> rfl

theorem readValue_string (text : String) (s : List Char) :
    readValue inner (StringLiteral.write text ++ s) = .ok (.string text, s) := by
  have hblank : ∀ r, skipBlanks ('"' :: r) = '"' :: r := fun _ => rfl
  rw [StringLiteral.write_append]
  simp only [readValue, hblank, StringLiteral.rest_write]
  rfl

theorem readValue_number (n : Number) {s : List Char} (hs : Delimits s) :
    (readValue inner (n.write ++ s)).toOption = n.reread.map fun m => (.number m, s) := by
  have hread := n.read_write hs
  obtain ⟨c, cs, heq, hc⟩ := n.exists_cons_write
  have hopens : OpensNumber c := hc
  have hne : ∀ {d}, ¬OpensNumber d → c ≠ d := hopens.ne
  rw [heq, List.cons_append] at hread ⊢
  -- no other kind of value starts with that character
  have hvalue : (readValue inner (c :: (cs ++ s))).toOption =
      (NumberLiteral.read.read (c :: (cs ++ s))).toOption.map fun p => (.number p.1, p.2) := by
    simp only [readValue, skipBlanks_cons hopens.isBlank_eq, if_pos hc,
      if_neg (hne (d := '[') (by decide)), if_neg (hne (d := '{') (by decide)),
      if_neg (hne (d := '"') (by decide)), if_neg (hne (d := 'n') (by decide)),
      if_neg (hne (d := 't') (by decide)), if_neg (hne (d := 'f') (by decide))]
    cases NumberLiteral.read.read (c :: (cs ++ s)) <;> rfl
  rw [hvalue, hread, Option.map_map]
  rfl

end ReadValue

/-- What is read from the text of an ordered value, whatever stands behind it. -/
theorem read_write {v : Json} (hv : v.Ordered) (nesting : Nat) {s : List Char}
    (hs : Delimits s) :
    ((value nesting).read (write v ++ s)).toOption = (v.reread nesting).map fun w => (w, s) := by
  induction v using rec_on_parts generalizing nesting s with
  | null =>
    rw [value_read]
    rfl
  | bool b =>
    rw [value_read]
    cases b <;> rfl
  | number n =>
    rw [value_read, write, readValue_number n hs, reread, Option.map_map]
    rfl
  | string text =>
    rw [value_read, write, readValue_string]
    rfl
  | list xs ih =>
    obtain ⟨-, hxs⟩ := everywhere_list_iff.mp hv
    rw [value_read, write, List.cons_append, List.append_assoc]
    cases nesting with
    | zero => rfl
    | succ nesting =>
      -- the loop over elements, with the hypothesis for each of them
      have hstart : ∀ x ∈ xs, ∃ c cs, write x = c :: cs ∧ isBlank c = false ∧ c ≠ ']' := by
        intro x hx
        obtain ⟨c, cs, heq, hb, hc, -⟩ := exists_cons_write x
        exact ⟨c, cs, heq, hb, hc⟩
      have hread : ∀ x ∈ xs, ∀ s, Delimits s →
          ((value nesting).read (write x ++ s)).toOption =
            (reread nesting x).map fun w => (w, s) :=
        fun x hx s hs => ih x hx (hxs x hx) nesting hs
      have hall := elements_written hstart hread true s
      rw [innerValue, readValue_list]
      show ((elements (value nesting) true (listed true (writeElements xs) ++ ']' :: s)).toOption.map
        fun p => (Json.list p.1, p.2)) = _
      rw [hall, reread, rereadElements_eq_mapM, Option.map_map, Option.map_map]
      rfl
  | object ms ih =>
    obtain ⟨hsorted, hms⟩ := everywhere_object_iff.mp hv
    rw [value_read, write, List.cons_append, List.append_assoc]
    cases nesting with
    | zero => rfl
    | succ nesting =>
      -- in an ordered object each member is added behind all those before it
      have hstep : ∀ done, ∀ m ∈ ms, (∀ k ∈ done.map Prod.fst, k < m.1) →
          addMember (value nesting) done m.1 =
            .ok ((value nesting).map fun w => done ++ [(m.1, w)]) := by
        intro done m hm hlt
        rw [addMember]
        simp only [insert_eq_append hlt]
      have hread : ∀ m ∈ ms, ∀ s, Delimits s →
          ((value nesting).read (write m.2 ++ s)).toOption =
            (reread nesting m.2).map fun w => (w, s) :=
        fun m hm s hs => ih m hm (hms m hm) nesting hs
      have hall := members_written hstep hread true [] hsorted s
      rw [innerValue, readValue_object]
      show ((members (addMember (value nesting)) true []
        (listed true (writeMembers ms) ++ '}' :: s)).toOption.map
          fun p => (Json.object p.1, p.2)) = _
      rw [hall, reread, rereadMembers_eq_mapM, Option.map_map, Option.map_map]
      rfl

/-! ### Values read back as themselves -/

theorem mapM_eq_some_map_iff {α β : Type} {f : α → Option β} {g : α → β} {xs : List α} :
    xs.mapM f = some (xs.map g) ↔ ∀ x ∈ xs, f x = some (g x) := by
  induction xs with
  | nil => simp
  | cons x xs ih =>
    rw [List.mapM_cons, List.forall_mem_cons, ← ih]
    cases f x with
    | none => simp
    | some y => cases xs.mapM f <;> simp

theorem mapM_eq_some_self_iff {α : Type} {f : α → Option α} {xs : List α} :
    xs.mapM f = some xs ↔ ∀ x ∈ xs, f x = some x := by
  have h : xs.mapM f = some (xs.map id) ↔ ∀ x ∈ xs, f x = some (id x) := mapM_eq_some_map_iff
  rwa [List.map_id] at h

/-- A value is read back as itself exactly when it is not nested too deeply and all its numbers are
stable. -/
theorem reread_eq_some_iff {nesting : Nat} {v : Json} :
    v.reread nesting = some v ↔ v.depth ≤ nesting ∧ Everywhere (IfNumber Number.IsStable) v := by
  induction v using rec_on_parts generalizing nesting with
  | null => simp [reread, depth, IfNumber]
  | bool b => simp [reread, depth, IfNumber]
  | number n => simp [reread, depth, IfNumber, Number.IsStable]
  | string s => simp [reread, depth, IfNumber]
  | list xs ih =>
    cases nesting with
    | zero => simp [reread, depth]
    | succ nesting =>
      rw [depth_list_le_iff, everywhere_list_iff, reread, rereadElements_eq_mapM]
      simp only [IfNumber, true_and]
      constructor
      · intro h
        have hall : xs.mapM (reread nesting) = some xs := by simpa using h
        rw [mapM_eq_some_self_iff] at hall
        exact ⟨fun x hx => ((ih x hx).mp (hall x hx)).1, fun x hx => ((ih x hx).mp (hall x hx)).2⟩
      · rintro ⟨hd, hs⟩
        have hall : xs.mapM (reread nesting) = some xs :=
          mapM_eq_some_self_iff.mpr fun x hx => (ih x hx).mpr ⟨hd x hx, hs x hx⟩
        rw [hall]
        rfl
  | object ms ih =>
    -- the hypothesis, for members instead of values
    have hself : ∀ m ∈ ms, ∀ n, (reread n m.2).map (Prod.mk m.1) = some m ↔
        m.2.depth ≤ n ∧ Everywhere (IfNumber Number.IsStable) m.2 := by
      intro m hm n
      rw [← ih m hm]
      cases reread n m.2 <;> simp [Prod.ext_iff]
    cases nesting with
    | zero => simp [reread, depth]
    | succ nesting =>
      rw [depth_object_le_iff, everywhere_object_iff, reread, rereadMembers_eq_mapM]
      simp only [IfNumber, true_and]
      constructor
      · intro h
        have hall : (ms.mapM fun m => (reread nesting m.2).map (Prod.mk m.1)) = some ms := by
          simpa using h
        rw [mapM_eq_some_self_iff] at hall
        exact ⟨fun m hm => ((hself m hm _).mp (hall m hm)).1,
          fun m hm => ((hself m hm _).mp (hall m hm)).2⟩
      · rintro ⟨hd, hs⟩
        have hall : (ms.mapM fun m => (reread nesting m.2).map (Prod.mk m.1)) = some ms :=
          mapM_eq_some_self_iff.mpr fun m hm => (hself m hm _).mpr ⟨hd m hm, hs m hm⟩
        rw [hall]
        rfl

/-! ### What is read -/

theorem ordered_of_leaf {v : Json} (hl : ∀ xs, v ≠ .list xs) (ho : ∀ ms, v ≠ .object ms) :
    v.Ordered := by
  cases v with
  | list xs => exact absurd rfl (hl xs)
  | object ms => exact absurd rfl (ho ms)
  | null => exact everywhere_null.mpr trivial
  | bool b => exact everywhere_bool.mpr trivial
  | number n => exact everywhere_number.mpr trivial
  | string s => exact everywhere_string.mpr trivial

theorem depth_of_leaf {v : Json} (hl : ∀ xs, v ≠ .list xs) (ho : ∀ ms, v ≠ .object ms) :
    v.depth = 0 := by
  cases v with
  | list xs => exact absurd rfl (hl xs)
  | object ms => exact absurd rfl (ho ms)
  | null | bool b | number n | string s => rfl

theorem value_of_map_word {α : Type} {w s r : List Char} {a b : α}
    (h : (word w s).map (fun t => (a, t)) = .ok (b, r)) : b = a := by
  cases hw : word w s with
  | error e =>
    rw [hw] at h
    cases h
  | ok t =>
    rw [hw] at h
    cases h
    rfl

/-- What the reader of values yields is a list of values that were read, an object that was put
together from such values, or a value without parts. -/
theorem readValue_cases {P : Json → Prop} {inner : Option (Reader Json)}
    (leaf : ∀ v, (∀ xs, v ≠ .list xs) → (∀ ms, v ≠ .object ms) → P v)
    (list : ∀ rd ∈ inner, ∀ xs s r, elements rd true s = .ok (xs, r) → P (.list xs))
    (object : ∀ rd ∈ inner, ∀ ms s r, members (addMember rd) true [] s = .ok (ms, r) →
      P (.object ms))
    {s r : List Char} {v : Json} (h : readValue inner s = .ok (v, r)) : P v := by
  unfold readValue at h
  split at h
  · cases h
  · next c t ht =>
    split at h
    · -- a list
      split at h
      · cases h
      · next rd =>
        split at h
        · next xs u hu =>
          cases h
          exact list rd rfl _ _ _ hu
        · cases h
    split at h
    · -- an object
      split at h
      · cases h
      · next rd =>
        split at h
        · next ms u hu =>
          cases h
          exact object rd rfl _ _ _ hu
        · cases h
    split at h
    · -- a text
      split at h
      · cases h
        exact leaf _ (by simp) (by simp)
      · cases h
    -- the three words
    split at h
    · rw [value_of_map_word h]
      exact leaf _ (by simp) (by simp)
    split at h
    · rw [value_of_map_word h]
      exact leaf _ (by simp) (by simp)
    split at h
    · rw [value_of_map_word h]
      exact leaf _ (by simp) (by simp)
    split at h
    · -- a number
      split at h
      · cases h
        exact leaf _ (by simp) (by simp)
      · cases h
    · cases h

/-- Members that are added keep their names in order. -/
theorem sorted_of_members {rd : Reader Json} {s r : List Char} {ms : List (String × Json)}
    (h : members (addMember rd) true [] s = .ok (ms, r)) :
    (ms.map Prod.fst).Pairwise (· < ·) := by
  refine members_invariant (p := fun ms => (ms.map Prod.fst).Pairwise (· < ·)) ?_ .nil h
  intro done name member hdone hm s done' r hr
  cases hm
  obtain ⟨w, -, rfl⟩ := Reader.read_map.mp hr
  exact sorted_insert hdone

/-- Every member that is added has a property that all values have which are read. -/
theorem forall_of_members {rd : Reader Json} {P : Json → Prop}
    (hrd : ∀ s w r, rd.read s = .ok (w, r) → P w) {s r : List Char} {ms : List (String × Json)}
    (h : members (addMember rd) true [] s = .ok (ms, r)) : ∀ m ∈ ms, P m.2 := by
  refine members_invariant (p := fun ms => ∀ m ∈ ms, P m.2) ?_ (by simp) h
  intro done name member hdone hm s done' r hr m hmem
  cases hm
  obtain ⟨w, hw, rfl⟩ := Reader.read_map.mp hr
  rcases mem_insert hmem with rfl | hmem
  · exact hrd _ _ _ hw
  · exact hdone m hmem

/-- Every value that is read is ordered. -/
theorem ordered_of_read {nesting : Nat} {s r : List Char} {v : Json}
    (h : (value nesting).read s = .ok (v, r)) : v.Ordered := by
  induction nesting generalizing s r v with
  | zero =>
    rw [value_read, innerValue] at h
    refine readValue_cases ?_ ?_ ?_ h
    · exact fun v hl ho => ordered_of_leaf hl ho
    · intro rd hrd
      cases hrd
    · intro rd hrd
      cases hrd
  | succ nesting ih =>
    rw [value_read, innerValue] at h
    refine readValue_cases ?_ ?_ ?_ h
    · exact fun v hl ho => ordered_of_leaf hl ho
    · intro rd hrd xs s r hxs
      cases hrd
      exact everywhere_list_iff.mpr ⟨trivial, elements_all (fun _ _ _ => ih) hxs⟩
    · intro rd hrd ms s r hms
      cases hrd
      exact everywhere_object_iff.mpr
        ⟨sorted_of_members hms, forall_of_members (fun _ _ _ => ih) hms⟩

/-- Every value that is read is no deeper than was allowed. -/
theorem depth_le_of_read {nesting : Nat} {s r : List Char} {v : Json}
    (h : (value nesting).read s = .ok (v, r)) : v.depth ≤ nesting := by
  induction nesting generalizing s r v with
  | zero =>
    rw [value_read, innerValue] at h
    refine readValue_cases (P := fun v => v.depth ≤ 0) ?_ ?_ ?_ h
    · exact fun v hl ho => (depth_of_leaf hl ho).le
    · intro rd hrd
      cases hrd
    · intro rd hrd
      cases hrd
  | succ nesting ih =>
    rw [value_read, innerValue] at h
    refine readValue_cases (P := fun v => v.depth ≤ nesting + 1) ?_ ?_ ?_ h
    · exact fun v hl ho => (depth_of_leaf hl ho).le.trans (Nat.zero_le _)
    · intro rd hrd xs s r hxs
      cases hrd
      exact depth_list_le_iff.mpr (elements_all (fun _ _ _ => ih) hxs)
    · intro rd hrd ms s r hms
      cases hrd
      exact depth_object_le_iff.mpr (forall_of_members (fun _ _ _ => ih) hms)

end BrokerNode.Json
