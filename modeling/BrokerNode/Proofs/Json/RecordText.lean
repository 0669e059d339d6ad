/-
BrokerNode/Proofs/Json/RecordText.lean

Records and their texts.

A record is written as an object of the fields that are present.  Read as a record again, such an
object gives each field what the field's reader makes of its text (`readRecord_written`), and nothing
is read into a record that its field reader did not yield (`exists_given`).

Records whose fields may hold any value or be absent are the ones that matter here.  What a record
shape must provide for them is collected in `Carries`.  Such a record is read back from its own text as
itself when every value in it is (`Carries.readRecord_self`), and is not even read back as the same
otherwise (`Carries.reread_eq_self`).
-/
import BrokerNode.Json.Record
import BrokerNode.Proofs.Json.Sameness

namespace BrokerNode.Json

/-! ### Whole documents -/

/-- A document that is read up to blanks at its end. -/
theorem toOption_document_of_blank {α : Type} {rd : Reader α} {text r : List Char} {x : Option α}
    (hr : skipBlanks r = []) (h : (rd.read text).toOption = x.map fun a => (a, r)) :
    (document rd text).toOption = x := by
  unfold document
  cases hd : rd.read text with
  | error e =>
    rw [hd] at h
    cases x with
    | none => rfl
    | some a => cases h
  | ok p =>
    rw [hd] at h
    cases x with
    | none => cases h
    | some a =>
      cases h
      dsimp only
      rw [hr]
      rfl

/-- A document that is read up to its end. -/
theorem toOption_document {α : Type} {rd : Reader α} {text : List Char} {x : Option α}
    (h : (rd.read text).toOption = x.map fun a => (a, [])) :
    (document rd text).toOption = x :=
  toOption_document_of_blank rfl h

theorem eq_ok_of_toOption {ε α : Type} {x : Except ε α} {a : α} (h : x.toOption = some a) :
    x = .ok a := by
  cases x with
  | error e => cases h
  | ok b =>
    cases h
    rfl

theorem exists_of_any_toOption {ε α : Type} {x : Except ε α} {P : α → Bool}
    (h : x.toOption.any P = true) : ∃ a, x = .ok a ∧ P a = true := by
  cases x with
  | error e => cases h
  | ok a => exact ⟨a, rfl, h⟩

theorem read_of_document {α : Type} {rd : Reader α} {text : List Char} {a : α}
    (h : document rd text = .ok a) : ∃ r, rd.read text = .ok (a, r) := by
  unfold document at h
  split at h
  · cases h
  · next b r hr =>
    split at h
    · cases h
      exact ⟨r, hr⟩
    · cases h

/-! ### The fields that are given -/

section Lookup

variable {α : Type}

theorem mem_of_lookup {given : Fields α} {name : String} {a : α}
    (h : given.lookup name = some a) : (name, a) ∈ given := by
  obtain ⟨before, behind, rfl, -⟩ := List.lookup_eq_some_iff.mp h
  simp

theorem lookup_of_mem {given : Fields α} {name : String} {a : α}
    (hnodup : (given.map Prod.fst).Nodup) (h : (name, a) ∈ given) :
    given.lookup name = some a := by
  induction given with
  | nil => cases h
  | cons g given ih =>
    obtain ⟨k, b⟩ := g
    rw [List.map_cons, List.nodup_cons] at hnodup
    rcases List.mem_cons.mp h with heq | hmem
    · cases heq
      exact List.lookup_cons_self
    · -- names do not repeat, so it is not the first one as well
      have hne : name ≠ k := by
        rintro rfl
        exact hnodup.1 (List.mem_map.mpr ⟨_, hmem, rfl⟩)
      rw [List.lookup_cons, beq_false_of_ne hne]
      exact ih hnodup.2 hmem

/-- Looking a name up among the members that were read, or reading the member of that name. -/
theorem lookup_mapM {f : Json → Option α} {ms : List (String × Json)} {given : Fields α}
    (h : (ms.mapM fun m => (f m.2).map (Prod.mk m.1)) = some given) (name : String) :
    given.lookup name = (ms.lookup name).bind f := by
  induction ms generalizing given with
  | nil =>
    cases h
    rfl
  | cons m ms ih =>
    obtain ⟨k, x⟩ := m
    rw [List.mapM_cons] at h
    obtain ⟨g, hg, h⟩ := Option.bind_eq_some_iff.mp h
    obtain ⟨rest, hrest, h⟩ := Option.bind_eq_some_iff.mp h
    obtain ⟨a, ha, rfl⟩ := Option.map_eq_some_iff.mp hg
    cases h
    rw [List.lookup_cons, List.lookup_cons]
    cases name == k with
    | true => exact ha.symm
    | false => exact ih hrest

end Lookup

namespace RecordShape

variable {α β : Type} {shape : RecordShape α β}

/-! ### Reading an object that was written -/

theorem toOption_finish (form : RecordForm) (given : Fields α) (s : List Char) :
    (shape.finish form given s).toOption = (shape.build form given).toOption.map fun b => (b, s) := by
  rw [RecordShape.finish]
  cases shape.build form given <;> rfl

/-- What a record is read as from the text of an object, `f` being what a field is read as. -/
theorem readRecord_written {f : Json → Option α} {ms : List (String × Json)}
    (hnames : ∀ m ∈ ms, m.1 ∈ shape.names) (hnodup : (ms.map Prod.fst).Nodup)
    (hread : ∀ m ∈ ms, ∀ s, Delimits s →
      (shape.field.read (Json.write m.2 ++ s)).toOption = (f m.2).map fun a => (a, s))
    (s : List Char) :
    (shape.readRecord (Json.write (.object ms) ++ s)).toOption =
      (ms.mapM fun m => (f m.2).map (Prod.mk m.1)).bind fun given =>
        (shape.build .object given).toOption.map fun b => (b, s) := by
  have hstep : ∀ done : Fields α, ∀ m ∈ ms, (∀ k ∈ done.map Prod.fst, k ≠ m.1) →
      shape.member done m.1 = .ok (shape.field.map fun a => done ++ [(m.1, a)]) := by
    intro done m hm hnew
    have hlookup : done.lookup m.1 = none := by
      rw [List.lookup_eq_none_iff]
      intro g hg
      simpa using (hnew _ (List.mem_map_of_mem hg)).symm
    rw [RecordShape.member, if_pos (hnames m hm), hlookup]
    rfl
  have hall := members_written hstep hread true [] hnodup s
  have hrecord : ∀ t, (shape.readRecord ('{' :: t)).toOption =
      (members shape.member true [] t).toOption.bind fun p =>
        (shape.build .object p.1).toOption.map fun b => (b, p.2) := by
    intro t
    have hblank : skipBlanks ('{' :: t) = '{' :: t := rfl
    simp only [RecordShape.readRecord, hblank, if_true]
    cases members shape.member true [] t with
    | error e => rfl
    | ok p => exact toOption_finish .object p.1 p.2
  rw [Json.write, List.cons_append, List.append_assoc, hrecord]
  show (members shape.member true [] (listed true (writeMembers ms) ++ '}' :: s)).toOption.bind _ = _
  rw [hall, Option.bind_map]
  rfl

/-! ### What is read into a record -/

theorem inOrder_all {field : Reader α} {P : α → Prop}
    (hfield : ∀ s a r, field.read s = .ok (a, r) → P a) {names : List String} {first : Bool}
    {s r : List Char} {given : Fields α} (h : inOrder field names first s = .ok (given, r)) :
    ∀ g ∈ given, P g.2 := by
  induction names generalizing first s given r with
  | nil =>
    cases he : listEnd s with
    | error e =>
      rw [inOrder, he] at h
      cases h
    | ok t =>
      rw [inOrder, he] at h
      cases h
      intro g hg
      cases hg
  | cons name names ih =>
    rw [inOrder] at h
    split at h
    · cases h
    · cases h
      intro g hg
      cases hg
    · split at h
      · cases h
      · next a u hu =>
        split at h
        · next given' v hv =>
          cases h
          rw [List.forall_mem_cons]
          exact ⟨hfield _ _ _ hu, ih hv⟩
        · cases h

theorem members_all {P : α → Prop} (hfield : ∀ s a r, shape.field.read s = .ok (a, r) → P a)
    {s r : List Char} {given : Fields α}
    (h : members shape.member true [] s = .ok (given, r)) : ∀ g ∈ given, P g.2 := by
  refine members_invariant (p := fun given : Fields α => ∀ g ∈ given, P g.2) ?_ (by simp) h
  intro done name member hdone hm s done' r hr
  rw [RecordShape.member] at hm
  split at hm
  · -- a field of the record
    split at hm
    · cases hm
    · cases hm
      obtain ⟨a, ha, rfl⟩ := Reader.read_map.mp hr
      intro g hg
      rcases List.mem_append.mp hg with hg | hg
      · exact hdone g hg
      · rw [List.mem_singleton.mp hg]
        exact hfield _ _ _ ha
  · -- a member that is passed over
    cases hm
    obtain ⟨u, -, rfl⟩ := Reader.read_map.mp hr
    exact hdone

/-- A record that is read is built from fields that the reader of fields yields. -/
theorem exists_given {P : α → Prop} (hfield : ∀ s a r, shape.field.read s = .ok (a, r) → P a)
    {s r : List Char} {b : β} (h : shape.readRecord s = .ok (b, r)) :
    ∃ form given, shape.build form given = .ok b ∧ ∀ g ∈ given, P g.2 := by
  have hfinish : ∀ {form given t}, shape.finish form given t = .ok (b, r) →
      shape.build form given = .ok b := by
    intro form given t h
    rw [RecordShape.finish] at h
    split at h
    · next hb =>
      cases h
      exact hb
    · cases h
  unfold readRecord at h
  split at h
  · cases h
  split at h
  · split at h
    · next given t hgiven => exact ⟨.object, given, hfinish h, members_all hfield hgiven⟩
    · cases h
  split at h
  · split at h
    · next given t hgiven => exact ⟨.list, given, hfinish h, inOrder_all hfield hgiven⟩
    · cases h
  split at h <;> cases h

end RecordShape

/-! ### Fields that may be absent -/

/-- What a field that may be absent is read back as, once its text is there. -/
def rereadPresent (nesting : Nat) : Json → Option (Option Json)
  | .null => some none
  | v => (v.reread nesting).map some

theorem rereadPresent_eq {nesting : Nat} {v : Json} (hv : v ≠ .null) :
    v.rereadPresent nesting = (v.reread nesting).map some := by
  rw [rereadPresent]
  exact hv

/-- A text that does not start with an n holds a value. -/
theorem optional_read_cons {rd : Reader Json} {c : Char} (hblank : isBlank c = false)
    (hn : c ≠ 'n') (s : List Char) :
    (optional rd).read (c :: s) = (rd.map some).read (c :: s) := by
  simp only [optional, skipBlanks_cons hblank]
  split
  · next r heq =>
    cases heq
    exact absurd rfl hn
  · rfl

theorem optional_read_write {v : Json} (hv : v.Ordered) (nesting : Nat) {s : List Char}
    (hs : Delimits s) :
    ((optional (value nesting)).read (write v ++ s)).toOption =
      (v.rereadPresent nesting).map fun w => (w, s) := by
  by_cases hnull : v = .null
  · subst hnull
    rfl
  · obtain ⟨c, cs, heq, hblank, -, hn⟩ := exists_cons_write v
    have hread : ((optional (value nesting)).read (write v ++ s)).toOption =
        (((value nesting).map some).read (write v ++ s)).toOption := by
      rw [heq, List.cons_append, optional_read_cons hblank (hn hnull)]
    rw [hread, toOption_read_map, read_write hv nesting hs, rereadPresent_eq hnull,
      Option.map_map, Option.map_map]
    rfl

theorem null_of_read {inner : Option (Reader Json)} {s r : List Char}
    (h : readValue inner s = .ok (.null, r)) : ∃ t, skipBlanks s = 'n' :: t := by
  unfold readValue at h
  split at h
  · cases h
  · next c t ht =>
    split at h
    · split at h
      · cases h
      · split at h <;> cases h
    split at h
    · split at h
      · cases h
      · split at h <;> cases h
    split at h
    · split at h <;> cases h
    split at h
    · next hc => exact ⟨t, by rw [ht, hc]⟩
    split at h
    · cases value_of_map_word h
    split at h
    · cases value_of_map_word h
    split at h
    · split at h <;> cases h
    · cases h

/-- What a reader of values yields for a field: a value other than null, ordered, and no deeper than
was allowed. -/
def IsFieldValue (nesting : Nat) (v : Json) : Prop :=
  v ≠ .null ∧ v.Ordered ∧ v.depth ≤ nesting

theorem isFieldValue_of_read {nesting : Nat} {s r : List Char} {w : Option Json}
    (h : (optional (value nesting)).read s = .ok (w, r)) : ∀ v ∈ w, IsFieldValue nesting v := by
  simp only [optional] at h
  split at h
  · rw [value_of_map_word h]
    intro v hv
    cases hv
  · next hn =>
    obtain ⟨v, hv, rfl⟩ := Reader.read_map.mp h
    intro v' hv'
    obtain rfl := Option.mem_some_iff.mp hv'
    refine ⟨?_, ordered_of_read hv, depth_le_of_read hv⟩
    rintro rfl
    rw [value_read] at hv
    obtain ⟨t, ht⟩ := null_of_read hv
    exact hn t ht

/-! ### The fields that are present -/

/-- The fields that are present, as members of an object. -/
def present (fields : Fields (Option Json)) : List (String × Json) :=
  fields.filterMap fun (name, v) => v.map (Prod.mk name)

theorem mem_present {fields : Fields (Option Json)} {m : String × Json} :
    m ∈ present fields ↔ (m.1, some m.2) ∈ fields := by
  obtain ⟨name, x⟩ := m
  simp [present]

/-- Fields are written as the object of those that are present. -/
theorem writeFields_eq (fields : Fields (Option Json)) :
    writeFields fields = write (.object (present fields)) := by
  have hmembers : (fields.filterMap fun (name, v) => v.map fun x => writeMember name (write x)) =
      writeMembers (present fields) := by
    induction fields with
    | nil => rfl
    | cons field fields ih =>
      obtain ⟨name, v⟩ := field
      cases v with
      | none => exact ih
      | some x => exact congrArg (writeMember name (write x) :: ·) ih
  rw [writeFields, hmembers, write]

theorem names_present_sublist (fields : Fields (Option Json)) :
    ((present fields).map Prod.fst).Sublist (fields.map Prod.fst) := by
  induction fields with
  | nil => exact List.Sublist.slnil
  | cons field fields ih =>
    obtain ⟨name, v⟩ := field
    cases v with
    | none => exact ih.cons name
    | some x => exact ih.cons_cons name

/-- A name among the present fields. -/
theorem lookup_present {fields : Fields (Option Json)} (hnodup : (fields.map Prod.fst).Nodup)
    {name : String} {v : Option Json} (h : (name, v) ∈ fields) :
    (present fields).lookup name = v := by
  have hpresent : ((present fields).map Prod.fst).Nodup :=
    (names_present_sublist fields).nodup hnodup
  cases v with
  | some x => exact lookup_of_mem hpresent (mem_present.mpr h)
  | none =>
    -- a present field of that name would be a second one
    cases hl : (present fields).lookup name with
    | none => rfl
    | some x =>
      have hx := lookup_of_mem hnodup (mem_present.mp (mem_of_lookup hl))
      rw [lookup_of_mem hnodup h] at hx
      cases hx

/-- What fields are read back as from the text of the object that they are written as. -/
def rereadFields (nesting : Nat) (fields : Fields (Option Json)) : Option (Fields (Option Json)) :=
  (present fields).mapM fun m => (m.2.rereadPresent nesting).map (Prod.mk m.1)

/-- When all values are read back as themselves, the fields keep their values. -/
theorem rereadFields_self {nesting : Nat} {fields : Fields (Option Json)}
    (hnodup : (fields.map Prod.fst).Nodup) (hnull : ∀ f ∈ fields, ∀ v ∈ f.2, v ≠ .null)
    (hself : ∀ f ∈ fields, ∀ v ∈ f.2, v.reread nesting = some v) :
    ∃ given, rereadFields nesting fields = some given ∧
      ∀ f ∈ fields, given.value? f.1 = f.2 := by
  have hpresent : ∀ f ∈ fields, ∀ v ∈ f.2, v.rereadPresent nesting = some (some v) := by
    intro f hf v hv
    rw [rereadPresent_eq (hnull f hf v hv), hself f hf v hv]
    rfl
  have hgiven : rereadFields nesting fields =
      some ((present fields).map fun m => (m.1, some m.2)) := by
    refine mapM_eq_some_map_iff.mpr ?_
    intro m hm
    rw [hpresent _ (mem_present.mp hm) m.2 rfl]
    rfl
  refine ⟨_, hgiven, ?_⟩
  rintro ⟨name, v⟩ hf
  have hlookup := lookup_mapM hgiven name
  rw [lookup_present hnodup hf] at hlookup
  rw [Fields.value?, hlookup]
  cases v with
  | none => rfl
  | some x =>
    rw [Option.bind_some, hpresent _ hf x rfl]
    rfl

/-- When fields are read back with the same values, all values are read back as themselves. -/
theorem reread_eq_self_of_fields {nesting : Nat} {fields given : Fields (Option Json)}
    (hnodup : (fields.map Prod.fst).Nodup) (hnull : ∀ f ∈ fields, ∀ v ∈ f.2, v ≠ .null)
    (h : rereadFields nesting fields = some given)
    (hsame : ∀ f ∈ fields, (given.value? f.1 == f.2) = true) :
    ∀ f ∈ fields, ∀ v ∈ f.2, v.reread nesting = some v := by
  rintro ⟨name, w⟩ hf v hv
  obtain rfl := Option.mem_def.mp hv
  have hvalue := hsame (name, some v) hf
  have hlookup := lookup_mapM h name
  rw [lookup_present hnodup hf, Option.bind_some, rereadPresent_eq (hnull _ hf v rfl)] at hlookup
  rw [Fields.value?, hlookup] at hvalue
  cases hr : v.reread nesting with
  | none =>
    rw [hr] at hvalue
    cases hvalue
  | some w =>
    rw [hr] at hvalue
    rw [← hr]
    exact reread_eq_self_of_same hr hvalue

/-! ### Records of fields that may be absent -/

variable {β : Type}

/-- A record shape whose fields may hold any value or be absent, read with at most `nesting` lists and
objects open at a time, and whose records are nothing but their fields. -/
structure RecordShape.Carries (shape : RecordShape (Option Json) β) (nesting : Nat)
    (fields : β → Fields (Option Json)) : Prop where
  field_eq : shape.field = optional (value nesting)
  nodup : shape.names.Nodup
  names_eq : ∀ b, (fields b).map Prod.fst = shape.names
  injective : Function.Injective fields
  build_ok : ∀ form given, ∃ b, shape.build form given = .ok b ∧
    fields b = shape.names.map fun name => (name, given.value? name)

namespace RecordShape.Carries

variable {shape : RecordShape (Option Json) β} {nesting : Nat} {fields : β → Fields (Option Json)}

theorem nodup_fields (hc : shape.Carries nesting fields) (b : β) :
    ((fields b).map Prod.fst).Nodup := by
  rw [hc.names_eq]
  exact hc.nodup

/-- The values of a record that was read. -/
theorem isFieldValue (hc : shape.Carries nesting fields) {s r : List Char} {b : β}
    (h : shape.readRecord s = .ok (b, r)) :
    ∀ f ∈ fields b, ∀ v ∈ f.2, IsFieldValue nesting v := by
  have hfield : ∀ s w r, shape.field.read s = .ok (w, r) → ∀ v ∈ w, IsFieldValue nesting v := by
    intro s w r hw
    rw [hc.field_eq] at hw
    exact isFieldValue_of_read hw
  obtain ⟨form, given, hbuild, hall⟩ := exists_given hfield h
  obtain ⟨b', hb', hvalues⟩ := hc.build_ok form given
  rw [hbuild] at hb'
  cases hb'
  intro f hf v hv
  rw [hvalues] at hf
  obtain ⟨name, -, rfl⟩ := List.mem_map.mp hf
  rw [Fields.value?] at hv
  cases hl : given.lookup name with
  | none =>
    rw [hl] at hv
    cases hv
  | some w =>
    rw [hl] at hv
    exact hall _ (mem_of_lookup hl) v hv

/-- What is read from the text of a record. -/
theorem readRecord_writeFields (hc : shape.Carries nesting fields) {b : β}
    (hordered : ∀ f ∈ fields b, ∀ v ∈ f.2, v.Ordered) (s : List Char) :
    (shape.readRecord (writeFields (fields b) ++ s)).toOption =
      (rereadFields nesting (fields b)).bind fun given =>
        (shape.build .object given).toOption.map fun b => (b, s) := by
  rw [writeFields_eq]
  refine readRecord_written ?_ ((names_present_sublist _).nodup (hc.nodup_fields b)) ?_ s
  · intro m hm
    rw [← hc.names_eq b]
    exact List.mem_map_of_mem (mem_present.mp hm)
  · intro m hm s hs
    rw [hc.field_eq]
    exact optional_read_write (hordered _ (mem_present.mp hm) _ rfl) nesting hs

/-- A record whose values are all read back as themselves is read back as itself. -/
theorem readRecord_self (hc : shape.Carries nesting fields) {b : β}
    (hvalues : ∀ f ∈ fields b, ∀ v ∈ f.2, v ≠ .null ∧ v.Ordered)
    (hself : ∀ f ∈ fields b, ∀ v ∈ f.2, v.reread nesting = some v) (s : List Char) :
    (shape.readRecord (writeFields (fields b) ++ s)).toOption = some (b, s) := by
  obtain ⟨given, hgiven, hsame⟩ :=
    rereadFields_self (hc.nodup_fields b) (fun f hf v hv => (hvalues f hf v hv).1) hself
  obtain ⟨b', hb', hfields⟩ := hc.build_ok .object given
  -- what was given for the fields is what they had
  have heq : fields b' = fields b := by
    rw [hfields, ← hc.names_eq b, List.map_map]
    conv_rhs => rw [← List.map_id (fields b)]
    exact List.map_congr_left fun f hf => Prod.ext rfl (hsame f hf)
  rw [hc.readRecord_writeFields (fun f hf v hv => (hvalues f hf v hv).2), hgiven, Option.bind_some,
    hb', hc.injective heq]
  rfl

/-- The text of a record whose values are all read back as themselves is a document of the record. -/
theorem document_self (hc : shape.Carries nesting fields) {b : β}
    (hvalues : ∀ f ∈ fields b, ∀ v ∈ f.2, v ≠ .null ∧ v.Ordered)
    (hself : ∀ f ∈ fields b, ∀ v ∈ f.2, v.reread nesting = some v) :
    document shape.reader (writeFields (fields b)) = .ok b := by
  have hread := hc.readRecord_self hvalues hself []
  rw [List.append_nil] at hread
  exact eq_ok_of_toOption (toOption_document hread)

/-- A record from some document, with no other numbers than those that are read back as themselves, is
read from its own text, too. -/
theorem document_written (hc : shape.Carries nesting fields) {text : List Char} {b : β}
    (h : document shape.reader text = .ok b)
    (hstable : ∀ f ∈ fields b, ∀ v ∈ f.2, Everywhere (IfNumber Number.IsStable) v) :
    document shape.reader (writeFields (fields b)) = .ok b := by
  obtain ⟨r, hr⟩ := read_of_document h
  have hvalues := hc.isFieldValue hr
  refine hc.document_self ?_ ?_
  · intro f hf v hv
    exact ⟨(hvalues f hf v hv).1, (hvalues f hf v hv).2.1⟩
  · intro f hf v hv
    exact reread_eq_some_iff.mpr ⟨(hvalues f hf v hv).2.2, hstable f hf v hv⟩

/-- When the same record is read back, all its values are read back as themselves. -/
theorem reread_eq_self (hc : shape.Carries nesting fields) {b b' : β}
    (hvalues : ∀ f ∈ fields b, ∀ v ∈ f.2, v ≠ .null ∧ v.Ordered) {s r : List Char}
    (h : (shape.readRecord (writeFields (fields b) ++ s)).toOption = some (b', r))
    (hsame : ((fields b').map Prod.snd == (fields b).map Prod.snd) = true) :
    ∀ f ∈ fields b, ∀ v ∈ f.2, v.reread nesting = some v := by
  rw [hc.readRecord_writeFields (fun f hf v hv => (hvalues f hf v hv).2)] at h
  obtain ⟨given, hgiven, h⟩ := Option.bind_eq_some_iff.mp h
  obtain ⟨b'', hb'', hfields⟩ := hc.build_ok .object given
  rw [hb''] at h
  cases h
  refine reread_eq_self_of_fields (hc.nodup_fields b) (fun f hf v hv => (hvalues f hf v hv).1)
    hgiven ?_
  rw [hfields, ← hc.names_eq b, List.map_map, List.map_map] at hsame
  generalize fields b = fs at hsame
  induction fs with
  | nil => simp
  | cons f fs ih =>
    rw [List.map_cons, List.map_cons, List.cons_beq_cons, Bool.and_eq_true] at hsame
    rw [List.forall_mem_cons]
    exact ⟨hsame.1, ih hsame.2⟩

end RecordShape.Carries

end BrokerNode.Json
