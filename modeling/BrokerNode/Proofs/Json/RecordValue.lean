/-
BrokerNode/Proofs/Json/RecordValue.lean

Records against values.

A document that is read as a value may be read as a record, too.  The two readers go over the same
items, but where the reader of values keeps every item the reader of records looks at its name or its
place: it refuses a name of its own that comes again, passes over the names that it does not know, and
refuses an element beyond its last field.  So what a record is read as is a function of the value and,
for an object, of the names as they are written.

For an object this is a fold over the members (`foldlM_give`), for a list it goes by position
(`toOption_inOrder`).  The main statement is `RecordShape.Carries.agrees`: reading as a record and
reading as a value agree in the sense of `Agrees`.
-/
import BrokerNode.Proofs.Json.Written

namespace BrokerNode.Json

namespace RecordShape

variable {β : Type}

/-! ### Fields that are given by members -/

/-- The fields that are given after one more member, unless its field was given before. -/
def give (shape : RecordShape (Option Json) β) (given : Fields (Option Json)) (m : String × Json) :
    Option (Fields (Option Json)) :=
  if m.1 ∈ shape.names then
    if (given.lookup m.1).isSome then none else some (given ++ [(m.1, m.2.filling)])
  else some given

/-- The fields of a shape that members give, if no name of the shape comes again. -/
def givenBy (shape : RecordShape (Option Json) β) (written : Fields Json) : Fields (Option Json) :=
  shape.known (written.map fun m => (m.1, m.2.filling))

section Given

variable {shape : RecordShape (Option Json) β} {k : String}

theorem givenBy_cons_of_mem (hk : k ∈ shape.names) (v : Json) (written : Fields Json) :
    shape.givenBy ((k, v) :: written) = (k, v.filling) :: shape.givenBy written := by
  simp [givenBy, known, hk]

theorem givenBy_cons_of_notMem (hk : k ∉ shape.names) (v : Json) (written : Fields Json) :
    shape.givenBy ((k, v) :: written) = shape.givenBy written := by
  simp [givenBy, known, hk]

end Given

/-- With a new name, none comes again. -/
theorem count_append_new {α : Type} {given : Fields α} {k : String} (hnew : k ∉ given.map Prod.fst)
    (a : α) {name : String} (h : (given.map Prod.fst).count name ≤ 1) :
    ((given ++ [(k, a)]).map Prod.fst).count name ≤ 1 := by
  rw [List.map_append, List.count_append]
  by_cases hne : name = k
  · subst hne
    simp [List.count_eq_zero.mpr hnew]
  · simpa [List.count_cons, Ne.symm hne] using h

/-- Members are taken one after the other just when no name of the shape comes again. -/
theorem foldlM_give {shape : RecordShape (Option Json) β} {given : Fields (Option Json)}
    (written : Fields Json) (hgiven : ∀ name ∈ shape.names, (given.map Prod.fst).count name ≤ 1) :
    written.foldlM shape.give given =
      if ∀ name ∈ shape.names, (given.map Prod.fst ++ written.map Prod.fst).count name ≤ 1 then
        some (given ++ shape.givenBy written)
      else none := by
  induction written generalizing given with
  | nil =>
    rw [if_pos (by simpa using hgiven)]
    simp [givenBy, known]
  | cons m written ih =>
    obtain ⟨k, v⟩ := m
    rw [List.foldlM_cons, give]
    dsimp only
    by_cases hk : k ∈ shape.names
    · rw [if_pos hk]
      by_cases hl : (given.lookup k).isSome
      · -- the field was given before, so its name comes again
        have hmem : k ∈ given.map Prod.fst := by
          by_contra hnot
          rw [lookup_eq_none_iff_notMem.mpr hnot] at hl
          cases hl
        have htwice : ¬∀ name ∈ shape.names,
            (given.map Prod.fst ++ k :: written.map Prod.fst).count name ≤ 1 := by
          intro h
          have hcount := h k hk
          have hone := List.one_le_count_iff.mpr hmem
          rw [List.count_append, List.count_cons_self] at hcount
          omega
        rw [if_pos hl, List.map_cons, if_neg htwice]
        rfl
      · -- a new field: it stands among the given ones from here on
        have hnew : k ∉ given.map Prod.fst := by
          rw [← lookup_eq_none_iff_notMem]
          exact Option.not_isSome_iff_eq_none.mp hl
        rw [if_neg hl]
        refine (ih fun name hname => count_append_new hnew v.filling (hgiven name hname)).trans ?_
        rw [List.map_append, List.append_assoc, List.append_assoc, givenBy_cons_of_mem hk]
        rfl
    · -- a member that the shape does not know
      have hcount : ∀ name ∈ shape.names,
          (given.map Prod.fst ++ ((k, v) :: written).map Prod.fst).count name =
            (given.map Prod.fst ++ written.map Prod.fst).count name := by
        intro name hname
        have hne : k ≠ name := by
          rintro rfl
          exact hk hname
        rw [List.map_cons, List.count_append, List.count_cons_of_ne hne, List.count_append]
      rw [if_neg hk]
      refine (ih hgiven).trans ?_
      rw [givenBy_cons_of_notMem hk]
      refine if_congr ?_ rfl rfl
      exact forall₂_congr fun name hname => by rw [hcount name hname]

/-! ### Elements by their places -/

/-- Whether there is an element is seen from the bracket that ends a list. -/
theorem exists_skipBlanks {first more : Bool} {s r : List Char}
    (h : nextElement first s = .ok (more, r)) :
    ∃ c t, skipBlanks s = c :: t ∧ if more then c ≠ ']' else c = ']' ∧ t = r := by
  cases hs : skipBlanks s with
  | nil =>
    rw [nextElement, hs] at h
    cases h
  | cons c t =>
    refine ⟨c, t, rfl, ?_⟩
    rw [nextElement, hs] at h
    dsimp only at h
    by_cases hc : c = ']'
    · rw [if_pos hc] at h
      cases h
      exact ⟨hc, rfl⟩
    · rw [if_neg hc] at h
      -- of the other cases only those that go on to an element are left
      have hmore : more = true := by
        split at h
        · cases h
          rfl
        split at h
        · split at h
          · cases h
          split at h
          · cases h
          · cases h
            rfl
        · cases h
      rw [hmore]
      exact hc

theorem listEnd_of_end {first : Bool} {s r : List Char} (h : nextElement first s = .ok (false, r)) :
    listEnd s = .ok r := by
  obtain ⟨c, t, hs, rfl, rfl⟩ := exists_skipBlanks h
  simp [listEnd, hs]

theorem listEnd_of_element {first : Bool} {s r : List Char}
    (h : nextElement first s = .ok (true, r)) : (listEnd s).toOption = none := by
  obtain ⟨c, t, hs, hc⟩ := exists_skipBlanks h
  rw [listEnd, hs]
  dsimp only
  rw [if_neg hc]
  -- a comma and what follows it end no list of fields, and nothing else does
  split
  · split <;> rfl
  · rfl

/-- One round over the elements where a field is due. -/
theorem toOption_inOrder_cons {α : Type} {field : Reader α} {first : Bool} {s t : List Char}
    (h : nextElement first s = .ok (true, t)) (name : String) (names : List String) :
    (inOrder field (name :: names) first s).toOption = (field.read t).toOption.bind fun p =>
      (inOrder field names false p.2).toOption.map fun q => ((name, p.1) :: q.1, q.2) := by
  rw [inOrder, h]
  dsimp only
  cases field.read t with
  | error e => rfl
  | ok p =>
    show _ = (inOrder field names false p.2).toOption.map fun q => ((name, p.1) :: q.1, q.2)
    dsimp only
    cases inOrder field names false p.2 <;> rfl

/-- What the elements of a list are read as where fields are due, `f` being what a value is read as
there: the fields in their order, unless there are too many elements. -/
theorem toOption_inOrder {α : Type} {rd : Reader Json} {field : Reader α} {f : Json → α}
    (hfield : ∀ s v r, rd.read s = .ok (v, r) → field.read s = .ok (f v, r)) {first : Bool}
    {s r : List Char} {xs : List Json} (h : elements rd first s = .ok (xs, r)) (names : List String) :
    (inOrder field names first s).toOption =
      if xs.length ≤ names.length then some (names.zip (xs.map f), r) else none := by
  fun_induction elements rd first s generalizing xs r names with
  | case1 => cases h
  | case2 first s t ht =>
    cases h
    cases names with
    | nil =>
      rw [inOrder, listEnd_of_end ht]
      rfl
    | cons name names =>
      rw [inOrder, ht]
      rfl
  | case3 => cases h
  | case4 first s t ht v u hu xs' w hw ih =>
    cases h
    cases names with
    | nil =>
      have hend := listEnd_of_element ht
      rw [inOrder]
      cases he : listEnd s with
      | error e => rfl
      | ok r =>
        rw [he] at hend
        cases hend
    | cons name names =>
      rw [toOption_inOrder_cons ht, hfield _ _ _ hu]
      show ((inOrder field names false u).toOption.map fun q => ((name, f v) :: q.1, q.2)) = _
      rw [ih hw, apply_ite (Option.map _), List.length_cons, List.length_cons]
      exact if_congr Nat.succ_le_succ_iff.symm rfl rfl
  | case5 => cases h

/-! ### Whole records -/

section Records

variable {shape : RecordShape (Option Json) β} {nesting : Nat} {s t r : List Char}

/-- What a record is read as from an object whose members can be read. -/
theorem toOption_readRecord_object (hfield : shape.field = optional (value nesting))
    (hs : skipBlanks s = '{' :: t) {written : Fields Json}
    (h : members (keepMember (value nesting)) true [] t = .ok (written, r)) :
    (shape.readRecord s).toOption =
      (if ∀ name ∈ shape.names, (written.map Prod.fst).count name ≤ 1 then
        (shape.build .object (shape.givenBy written)).toOption
      else none).map fun b => (b, r) := by
  have hstep : ∀ (given : Fields (Option Json)) name s v r, (value nesting).read s = .ok (v, r) →
      ((shape.member given name).toOption.bind fun member => (member.read s).toOption) =
        (shape.give given (name, v)).map fun given' => (given', r) := by
    intro given name s v r hv
    rw [RecordShape.member, give]
    split
    · split
      · rfl
      · show ((shape.field.map fun a => given ++ [(name, a)]).read s).toOption = _
        rw [toOption_read_map, hfield, optional_of_read hv]
        rfl
    · show ((skip.map fun _ => given).read s).toOption = _
      rw [toOption_read_map, skip_of_passedOver (passedOver_value nesting) hv]
      rfl
  obtain ⟨written', hfinal, hall⟩ := members_of_written hstep h
  obtain rfl : written = written' := hfinal
  have hgiven := hall []
  rw [foldlM_give written (by simp)] at hgiven
  have hrecord : (shape.readRecord s).toOption =
      (members shape.member true [] t).toOption.bind fun p =>
        (shape.build .object p.1).toOption.map fun b => (b, p.2) := by
    simp only [RecordShape.readRecord, hs, if_true]
    cases members shape.member true [] t with
    | error e => rfl
    | ok p => exact toOption_finish .object p.1 p.2
  rw [hrecord, hgiven]
  simp only [List.map_nil, List.nil_append]
  split <;> rfl

/-- What a record is read as from a list whose elements can be read. -/
theorem toOption_readRecord_list (hfield : shape.field = optional (value nesting))
    (hs : skipBlanks s = '[' :: t) {xs : List Json}
    (h : elements (value nesting) true t = .ok (xs, r)) :
    (shape.readRecord s).toOption =
      (if xs.length ≤ shape.names.length then
        (shape.build .list (shape.names.zip (xs.map filling))).toOption
      else none).map fun b => (b, r) := by
  have hfill : ∀ s v r, (value nesting).read s = .ok (v, r) →
      shape.field.read s = .ok (v.filling, r) := by
    intro s v r hv
    rw [hfield]
    exact optional_of_read hv
  have hgiven := toOption_inOrder hfill h shape.names
  have hrecord : (shape.readRecord s).toOption =
      (inOrder shape.field shape.names true t).toOption.bind fun p =>
        (shape.build .list p.1).toOption.map fun b => (b, p.2) := by
    have hne : '[' ≠ '{' := by decide
    simp only [RecordShape.readRecord, hs, if_neg hne, if_true]
    cases inOrder shape.field shape.names true t with
    | error e => rfl
    | ok p => exact toOption_finish .list p.1 p.2
  rw [hrecord, hgiven]
  split <;> rfl

/-- No record is read where neither an object nor a list starts. -/
theorem toOption_readRecord_scalar {c : Char} (hs : skipBlanks s = c :: t) (hobject : c ≠ '{')
    (hlist : c ≠ '[') : (shape.readRecord s).toOption = none := by
  simp only [RecordShape.readRecord, hs, if_neg hobject, if_neg hlist]
  cases (value 0).read (c :: t) <;> rfl

end Records

end RecordShape

/-! ### Agreement -/

/-- Reading records of some kind agrees on a document with reading it as a value `v`, `names` being
the names of the fields in the order of their declaration. -/
structure Agrees {β : Type} (read : String → Except LocatedFault β) (names : List String)
    (fields : β → Fields (Option Json)) (text : String) (v : Json) : Prop where
  -- An object is a record unless the name of a field is written twice, and each field holds what the
  -- member of its name is.
  object : ∀ ms, v = .object ms → ∃ written, written? text.toList = some written ∧
    written.foldl place [] = ms ∧
    ((∃ b, read text = .ok b) ↔ ∀ name ∈ names, (written.map Prod.fst).count name ≤ 1) ∧
    ∀ b, read text = .ok b → ∀ f ∈ fields b, f.2 = (ms.lookup f.1).bind filling
  -- A list is a record unless it has more elements than there are fields, and each field holds what
  -- the element in its place is.
  list : ∀ xs, v = .list xs →
    ((∃ b, read text = .ok b) ↔ xs.length ≤ names.length) ∧
    ∀ b, read text = .ok b → ∀ (i : Nat) f, (fields b)[i]? = some f → f.2 = xs[i]?.bind filling
  scalar : (∀ ms, v ≠ .object ms) → (∀ xs, v ≠ .list xs) → ∀ b, read text ≠ .ok b
  notNull : ∀ b, read text = .ok b → ∀ f ∈ fields b, f.2 ≠ some .null
  -- Another document that is an object, too, gives the same record if it has the same members of the
  -- names of fields.
  unique : ∀ text' ms ms', v = .object ms → parse text' = .ok (.object ms') →
    (∀ name ∈ names, (ms.lookup name).bind filling = (ms'.lookup name).bind filling) →
    ∀ b b', read text = .ok b → read text' = .ok b' → b = b'

namespace RecordShape.Carries

variable {β : Type} {shape : RecordShape (Option Json) β} {fields : β → Fields (Option Json)}
  {text : String}

/-- A record from the document of an object: it is there unless a name comes again, and its fields
hold what the members are. -/
theorem document_object (hc : shape.Carries (maxNesting - 1) fields) {ms : List (String × Json)}
    (h : parse text = .ok (.object ms)) :
    ∃ written, written? text.toList = some written ∧ written.foldl place [] = ms ∧
      ((∀ name ∈ shape.names, (written.map Prod.fst).count name ≤ 1) →
        ∃ b, document shape.reader text.toList = .ok b ∧
          fields b = shape.names.map fun name => (name, (ms.lookup name).bind filling)) ∧
      ((∃ b, document shape.reader text.toList = .ok b) →
        ∀ name ∈ shape.names, (written.map Prod.fst).count name ≤ 1) := by
  obtain ⟨r, hread, hblank⟩ := readAs_of_parse h
  cases hread with
  | scalar _ _ _ hv => exact absurd rfl (hv ms)
  | @object rd t _ hrd hs hms =>
    cases hrd
    obtain ⟨written, hwritten, hplaced⟩ := exists_written hms
    obtain ⟨b, hb, hfields⟩ := hc.build_ok .object (shape.givenBy written)
    have hrecord : (shape.reader.read text.toList).toOption = _ :=
      toOption_readRecord_object hc.field_eq hs hwritten
    have hdocument := toOption_document_of_blank hblank hrecord
    rw [hb] at hdocument
    refine ⟨written, ?_, hplaced, ?_, ?_⟩
    · simp only [written?, hs, hwritten]
      rfl
    · intro honce
      rw [if_pos honce] at hdocument
      refine ⟨b, eq_ok_of_toOption hdocument, ?_⟩
      rw [hfields]
      refine List.map_congr_left fun name hname => Prod.ext rfl ?_
      -- what is given for a field is the member of its name, which is written once at most
      rw [Fields.value?, givenBy, lookup_known hname, lookup_map_snd, ← hplaced,
        lookup_foldl_place (honce name hname)]
      cases written.lookup name <;> rfl
    · rintro ⟨b', hb'⟩
      by_contra htwice
      rw [if_neg htwice, hb'] at hdocument
      cases hdocument

/-- A record from the document of a list: it is there unless there are too many elements, and its
fields hold what the elements are. -/
theorem document_list (hc : shape.Carries (maxNesting - 1) fields) {xs : List Json}
    (h : parse text = .ok (.list xs)) :
    (xs.length ≤ shape.names.length → ∃ b, document shape.reader text.toList = .ok b ∧
      ∀ (i : Nat) f, (fields b)[i]? = some f → f.2 = xs[i]?.bind filling) ∧
    ((∃ b, document shape.reader text.toList = .ok b) → xs.length ≤ shape.names.length) := by
  obtain ⟨r, hread, hblank⟩ := readAs_of_parse h
  cases hread with
  | scalar _ _ _ _ hv => exact absurd rfl (hv xs)
  | @list rd t _ hrd hs hxs =>
    cases hrd
    obtain ⟨b, hb, hfields⟩ := hc.build_ok .list (shape.names.zip (xs.map filling))
    have hrecord : (shape.reader.read text.toList).toOption = _ :=
      toOption_readRecord_list hc.field_eq hs hxs
    have hdocument := toOption_document_of_blank hblank hrecord
    rw [hb] at hdocument
    refine ⟨?_, ?_⟩
    · intro hle
      rw [if_pos hle] at hdocument
      refine ⟨b, eq_ok_of_toOption hdocument, ?_⟩
      intro i f hf
      rw [hfields, List.getElem?_map, Option.map_eq_some_iff] at hf
      obtain ⟨name, hname, rfl⟩ := hf
      show Fields.value? _ name = _
      rw [Fields.value?, lookup_zip hc.nodup _ hname, List.getElem?_map]
      cases xs[i]? <;> rfl
    · rintro ⟨b', hb'⟩
      by_contra hlt
      rw [if_neg hlt, hb'] at hdocument
      cases hdocument

/-- Reading records of a shape whose fields may hold any value or be absent agrees with reading
values. -/
theorem agrees (hc : shape.Carries (maxNesting - 1) fields) {v : Json} (h : parse text = .ok v) :
    Agrees (fun text => document shape.reader text.toList) shape.names fields text v where
  object ms hv := by
    subst hv
    obtain ⟨written, hwritten, hplaced, honce, htwice⟩ := hc.document_object h
    refine ⟨written, hwritten, hplaced, ⟨htwice, fun hn => ?_⟩, ?_⟩
    · obtain ⟨b, hb, -⟩ := honce hn
      exact ⟨b, hb⟩
    · intro b hb f hf
      obtain ⟨b', hb', hfields⟩ := honce (htwice ⟨b, hb⟩)
      cases hb.symm.trans hb'
      rw [hfields] at hf
      obtain ⟨name, -, rfl⟩ := List.mem_map.mp hf
      rfl
  list xs hv := by
    subst hv
    obtain ⟨hfew, hmany⟩ := hc.document_list h
    refine ⟨⟨hmany, fun hle => ?_⟩, ?_⟩
    · obtain ⟨b, hb, -⟩ := hfew hle
      exact ⟨b, hb⟩
    · intro b hb
      obtain ⟨b', hb', hfields⟩ := hfew (hmany ⟨b, hb⟩)
      cases hb.symm.trans hb'
      exact hfields
  scalar hobject hlist b hb := by
    obtain ⟨r, hread, hblank⟩ := readAs_of_parse h
    cases hread with
    | object => exact hobject _ rfl
    | list => exact hlist _ rfl
    | scalar hs ho hl =>
      obtain ⟨r', hr'⟩ := read_of_document hb
      have hnone : (shape.readRecord text.toList).toOption = none :=
        toOption_readRecord_scalar hs ho hl
      have hr' : shape.readRecord text.toList = .ok (b, r') := hr'
      rw [hr'] at hnone
      cases hnone
  notNull b hb f hf hnull := by
    obtain ⟨r, hr⟩ := read_of_document hb
    exact (hc.isFieldValue hr f hf _ hnull).1 rfl
  unique text' ms ms' hv h' hsame b b' hb hb' := by
    subst hv
    obtain ⟨_, -, -, honce, htwice⟩ := hc.document_object h
    obtain ⟨_, -, -, honce', htwice'⟩ := hc.document_object h'
    obtain ⟨c, hcb, hfields⟩ := honce (htwice ⟨b, hb⟩)
    obtain ⟨c', hcb', hfields'⟩ := honce' (htwice' ⟨b', hb'⟩)
    cases hb.symm.trans hcb
    cases hb'.symm.trans hcb'
    refine hc.injective ?_
    rw [hfields, hfields']
    exact List.map_congr_left fun name hname => Prod.ext rfl (hsame name hname)

end RecordShape.Carries

end BrokerNode.Json
