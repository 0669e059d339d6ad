/-
BrokerNode/Proofs/Json/Unambiguous.lean

The texts of different values differ.

Texts of values are unambiguous in a stronger sense: where one stands in front of something that
delimits it, the whole text tells which value it is and where it ends (`write_unique`).  That is proved
by induction on the value, without regard to how deeply it is nested.  The first character tells what
form of text it is (`formOf_write`), strings and numbers are told by what is read from their texts, and
the items of lists and objects by the commas and the closing mark (`listed_unique`).

Numbers must be read back as themselves for this, as whole numbers are.
-/
import BrokerNode.Json.Writer
import BrokerNode.Proofs.Json.ValueText

namespace BrokerNode.Json

/-! ### Forms of texts -/

/-- The forms that texts of values have. -/
inductive Form where
  | null
  | bool
  | number
  | string
  | list
  | object

/-- The form of the text of a value. -/
def form : Json → Form
  | .null => .null
  | .bool _ => .bool
  | .number _ => .number
  | .string _ => .string
  | .list _ => .list
  | .object _ => .object

/-- The form of the texts that start with a character. -/
def formOf (c : Char) : Form :=
  if c = 'n' then .null
  else if c = 't' ∨ c = 'f' then .bool
  else if c = '"' then .string
  else if c = '[' then .list
  else if c = '{' then .object
  else .number

theorem OpensNumber.formOf_eq {c : Char} (hc : OpensNumber c) : formOf c = .number := by
  have hne : ∀ {d}, ¬OpensNumber d → c ≠ d := hc.ne
  rw [formOf, if_neg (hne (by decide)), if_neg, if_neg (hne (by decide)), if_neg (hne (by decide)),
    if_neg (hne (by decide))]
  rintro (rfl | rfl)
  · exact absurd hc (by decide)
  · exact absurd hc (by decide)

/-- The first character of a text tells its form. -/
theorem formOf_write (v : Json) (s : List Char) :
    (write v ++ s).head?.map formOf = some v.form := by
  cases v with
  | null => rfl
  | bool b => cases b <;> rfl
  | number n =>
    obtain ⟨c, cs, heq, hc⟩ := n.exists_cons_write
    rw [write, heq]
    exact congrArg some (OpensNumber.formOf_eq hc)
  | string text => rfl
  | list xs => rw [write]; rfl
  | object ms => rw [write]; rfl

theorem form_eq_of_write {v w : Json} {s t : List Char} (h : write v ++ s = write w ++ t) :
    v.form = w.form := by
  have hv := formOf_write v s
  rw [h, formOf_write] at hv
  exact (Option.some.inj hv).symm

/-! ### Strings and numbers -/

theorem StringLiteral.write_unique {a b : String} {s t : List Char}
    (h : write a ++ s = write b ++ t) : a = b ∧ s = t := by
  rw [write_append, write_append] at h
  have hread := congrArg rest.read (List.tail_eq_of_cons_eq h)
  rw [rest_write, rest_write] at hread
  cases hread
  exact ⟨rfl, rfl⟩

theorem Number.write_unique {m n : Number} (hm : m.IsStable) (hn : n.IsStable) {s t : List Char}
    (hs : Delimits s) (ht : Delimits t) (h : m.write ++ s = n.write ++ t) : m = n ∧ s = t := by
  have hread := m.read_write hs
  rw [h, n.read_write ht, hm, hn] at hread
  cases hread
  exact ⟨rfl, rfl⟩

/-! ### Items -/

/-- Items whose texts are told apart make up lists that are told apart, by a closing mark with which no
item starts. -/
theorem listed_unique {α : Type} {text : α → List Char} {mark : Char} (hcomma : mark ≠ ',')
    (hmark : ∀ s, Delimits (mark :: s)) {xs ys : List α}
    (hstart : ∀ x, ∃ c cs, text x = c :: cs ∧ c ≠ mark)
    (hunique : ∀ x ∈ xs, ∀ y ∈ ys, ∀ s t, Delimits s → Delimits t →
      text x ++ s = text y ++ t → x = y ∧ s = t)
    (first : Bool) {s t : List Char}
    (h : listed first (xs.map text) ++ mark :: s = listed first (ys.map text) ++ mark :: t) :
    xs = ys ∧ s = t := by
  -- an item in front is not the mark
  have hfront : ∀ (first : Bool) x us (s t : List Char),
      listed first (text x :: us) ++ s ≠ mark :: t := by
    intro first x us s t heq
    obtain ⟨c, cs, hc, hne⟩ := hstart x
    rw [listed_cons, hc] at heq
    cases first with
    | true => exact hne (List.cons.inj heq).1
    | false => exact hcomma (List.cons.inj heq).1.symm
  induction xs generalizing ys first with
  | nil =>
    cases ys with
    | nil =>
      rw [List.map_nil, listed_nil] at h
      exact ⟨rfl, (List.cons.inj h).2⟩
    | cons y ys =>
      rw [List.map_nil, listed_nil] at h
      exact absurd h.symm (hfront first y (ys.map text) _ _)
  | cons x xs ih =>
    cases ys with
    | nil =>
      rw [List.map_nil, listed_nil] at h
      exact absurd h (hfront first x (xs.map text) _ _)
    | cons y ys =>
      simp only [List.map_cons, listed_cons, List.append_assoc, List.append_cancel_left_eq] at h
      obtain ⟨rfl, hrest⟩ := hunique x (List.mem_cons_self ..) y (List.mem_cons_self ..) _ _
        (delimits_listed _ (hmark s)) (delimits_listed _ (hmark t)) h
      obtain ⟨rfl, rfl⟩ := ih
        (fun x hx y hy => hunique x (List.mem_cons_of_mem _ hx) y (List.mem_cons_of_mem _ hy))
        false hrest
      exact ⟨rfl, rfl⟩

theorem writeElements_eq_map (xs : List Json) : writeElements xs = xs.map write := by
  induction xs with
  | nil => rfl
  | cons x xs ih => rw [writeElements, ih, List.map_cons]

theorem writeMembers_eq_map (ms : List (String × Json)) :
    writeMembers ms = ms.map fun m => writeMember m.1 (write m.2) := by
  induction ms with
  | nil => rfl
  | cons m ms ih => rw [writeMembers, ih, List.map_cons]

theorem writeMember_unique {m n : String × Json} {s t : List Char}
    (hvalue : write m.2 ++ s = write n.2 ++ t → m.2 = n.2 ∧ s = t)
    (h : writeMember m.1 (write m.2) ++ s = writeMember n.1 (write n.2) ++ t) : m = n ∧ s = t := by
  rw [writeMember, writeMember, List.append_assoc, List.append_assoc] at h
  obtain ⟨hname, h⟩ := StringLiteral.write_unique h
  obtain ⟨hval, rfl⟩ := hvalue (List.cons.inj h).2
  exact ⟨Prod.ext hname hval, rfl⟩

/-! ### Values -/

/-- A text that starts with the text of a value and goes on with something that delimits it does so for
no other value and at no other place. -/
theorem write_unique {v w : Json} (hv : Everywhere (IfNumber Number.IsStable) v)
    (hw : Everywhere (IfNumber Number.IsStable) w) {s t : List Char} (hs : Delimits s)
    (ht : Delimits t) (h : write v ++ s = write w ++ t) : v = w ∧ s = t := by
  induction v using rec_on_parts generalizing w s t with
  -- in each case the other value has the same form, as the texts start with the same character
  | null =>
    cases w with
    | null => exact ⟨rfl, List.append_cancel_left h⟩
    | _ => cases form_eq_of_write h
  | bool a =>
    cases w with
    | bool b =>
      cases a <;> cases b
      · exact ⟨rfl, List.append_cancel_left h⟩
      · cases h
      · cases h
      · exact ⟨rfl, List.append_cancel_left h⟩
    | _ => cases form_eq_of_write h
  | number m =>
    cases w with
    | number n =>
      obtain ⟨rfl, rfl⟩ :=
        Number.write_unique (everywhere_number.mp hv) (everywhere_number.mp hw) hs ht h
      exact ⟨rfl, rfl⟩
    | _ => cases form_eq_of_write h
  | string a =>
    cases w with
    | string b =>
      obtain ⟨rfl, rfl⟩ := StringLiteral.write_unique h
      exact ⟨rfl, rfl⟩
    | _ => cases form_eq_of_write h
  | list xs ih =>
    cases w with
    | list ys =>
      obtain ⟨-, hxs⟩ := everywhere_list_iff.mp hv
      obtain ⟨-, hys⟩ := everywhere_list_iff.mp hw
      rw [write, write, writeElements_eq_map, writeElements_eq_map, List.cons_append,
        List.cons_append, List.append_assoc, List.append_assoc] at h
      -- no element starts with the closing mark
      have hstart : ∀ x, ∃ c cs, write x = c :: cs ∧ c ≠ ']' := by
        intro x
        obtain ⟨c, cs, heq, -, hc, -⟩ := exists_cons_write x
        exact ⟨c, cs, heq, hc⟩
      obtain ⟨rfl, rfl⟩ := listed_unique (by decide) delimits_bracket hstart
        (fun x hx y hy s t hs ht => ih x hx (hxs x hx) (hys y hy) hs ht) true (List.cons.inj h).2
      exact ⟨rfl, rfl⟩
    | _ => cases form_eq_of_write h
  | object ms ih =>
    cases w with
    | object ns =>
      obtain ⟨-, hms⟩ := everywhere_object_iff.mp hv
      obtain ⟨-, hns⟩ := everywhere_object_iff.mp hw
      rw [write, write, writeMembers_eq_map, writeMembers_eq_map, List.cons_append,
        List.cons_append, List.append_assoc, List.append_assoc] at h
      have hstart : ∀ m : String × Json, ∃ c cs, writeMember m.1 (write m.2) = c :: cs ∧ c ≠ '}' :=
        fun m => ⟨'"', _, rfl, by decide⟩
      obtain ⟨rfl, rfl⟩ := listed_unique (by decide) delimits_brace hstart
        (fun m hm n hn s t hs ht => writeMember_unique (ih m hm (hms m hm) (hns n hn) hs ht))
        true (List.cons.inj h).2
      exact ⟨rfl, rfl⟩
    | _ => cases form_eq_of_write h

end BrokerNode.Json
