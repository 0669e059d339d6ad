/-
BrokerNode/Proofs/Narrowing.lean

One document, read as two records.

A record shape that knows only some of another one's fields reads the same objects: where the wider
shape reads a field that the narrower one does not know, the narrower one passes over the value, and
neither takes more characters off than the other.  So the two loops over the members go in step
(`members_simulated`), and what the narrower one is given is what the wider one is given, less the
fields that it does not know (`Narrows.readRecord`).

The payload of a definition is such a shape: `payload_of_definition` says that the document of a
definition, written as an object, is a document of its payload.
-/
import BrokerNode.Proofs.Documents
import BrokerNode.Proofs.Json.PassedOver

namespace BrokerNode

namespace Json

/-! ### Two loops over the same members -/

/-- Two loops over the same members whose steps match end in states that match. -/
theorem members_simulated {σ τ : Type} {R : σ → τ → Prop}
    {step : σ → String → Except Cause (Reader σ)} {step' : τ → String → Except Cause (Reader τ)}
    (hstep : ∀ a b name member, R a b → step a name = .ok member →
      ∃ member', step' b name = .ok member' ∧ ∀ s a' r, member.read s = .ok (a', r) →
        ∃ b', member'.read s = .ok (b', r) ∧ R a' b')
    {first : Bool} {a final : σ} {b : τ} {s r : List Char} (hR : R a b)
    (h : members step first a s = .ok (final, r)) :
    ∃ final', members step' first b s = .ok (final', r) ∧ R final final' := by
  fun_induction members step first a s generalizing b with
  | case1 => cases h
  | case2 first a s t ht =>
    cases h
    exact ⟨b, members_of_end ht b, hR⟩
  | case3 => cases h
  | case4 => cases h
  | case5 => cases h
  | case6 => cases h
  | case7 first a s r₀ h₀ name r₁ hn member hs r₂ hc a' r₃ hm ih =>
    -- both loops take the same member off, and go on at the same place
    obtain ⟨member', hs', hread⟩ := hstep a b name member hR hs
    obtain ⟨b', hm', hR'⟩ := hread r₂ a' r₃ hm
    rw [members_round h₀ hn hs' hc, hm']
    exact ih hR' h

/-! ### Shapes that know fewer fields -/

namespace RecordShape

variable {α β γ : Type}

/-- A shape that knows some of another one's fields, and reads them in the same way. -/
structure Narrows (narrow : RecordShape α β) (wide : RecordShape α γ) : Prop where
  names_subset : ∀ name ∈ narrow.names, name ∈ wide.names
  field_eq : narrow.field = wide.field
  passedOver : wide.field.PassedOver

/-- The fields that a shape knows among those that were given. -/
def known (shape : RecordShape α β) (given : Fields α) : Fields α :=
  given.filter fun g => g.1 ∈ shape.names

section Known

variable {shape : RecordShape α β} {given : Fields α} {name : String}

theorem known_append_of_mem (h : name ∈ shape.names) (a : α) :
    shape.known (given ++ [(name, a)]) = shape.known given ++ [(name, a)] := by
  simp [known, h]

theorem known_append_of_notMem (h : name ∉ shape.names) (a : α) :
    shape.known (given ++ [(name, a)]) = shape.known given := by
  simp [known, h]

/-- A field that a shape knows is found among the known fields as among all. -/
theorem lookup_known (h : name ∈ shape.names) :
    (shape.known given).lookup name = given.lookup name := by
  induction given with
  | nil => rfl
  | cons g given ih =>
    obtain ⟨k, a⟩ := g
    by_cases hk : k ∈ shape.names
    · have hknown : shape.known ((k, a) :: given) = (k, a) :: shape.known given := by
        simp [known, hk]
      rw [hknown, List.lookup_cons, List.lookup_cons, ih]
    · -- the name that is looked up is known, so it is not this one
      have hne : name ≠ k := by
        rintro rfl
        exact hk h
      have hknown : shape.known ((k, a) :: given) = shape.known given := by
        simp [known, hk]
      rw [hknown, ih, List.lookup_cons, beq_false_of_ne hne]

end Known

namespace Narrows

variable {narrow : RecordShape α β} {wide : RecordShape α γ}

/-- Where the wider shape accepts a member, so does the narrower one, and takes as much off. -/
theorem member (h : narrow.Narrows wide) (given given' : Fields α) (name : String)
    (reader : Reader (Fields α)) (hgiven : given' = narrow.known given)
    (hm : wide.member given name = .ok reader) :
    ∃ reader', narrow.member given' name = .ok reader' ∧
      ∀ s next r, reader.read s = .ok (next, r) →
        ∃ next', reader'.read s = .ok (next', r) ∧ next' = narrow.known next := by
  subst hgiven
  rw [RecordShape.member] at hm
  by_cases hname : name ∈ narrow.names
  · -- both know the field
    rw [if_pos (h.names_subset name hname)] at hm
    split at hm
    · cases hm
    · next hnew =>
      cases hm
      refine ⟨narrow.field.map fun a => narrow.known given ++ [(name, a)], ?_, ?_⟩
      · rw [RecordShape.member, if_pos hname, lookup_known hname, if_neg hnew]
      · intro s next r hr
        obtain ⟨a, ha, rfl⟩ := Reader.read_map.mp hr
        refine ⟨_, Reader.read_map.mpr ⟨a, ?_, rfl⟩, (known_append_of_mem hname a).symm⟩
        rw [h.field_eq]
        exact ha
  · refine ⟨skip.map fun _ => narrow.known given, ?_, ?_⟩
    · rw [RecordShape.member, if_neg hname]
    · intro s next r hr
      split at hm
      · -- only the wider shape knows the field
        split at hm
        · cases hm
        · cases hm
          obtain ⟨a, ha, rfl⟩ := Reader.read_map.mp hr
          refine ⟨_, Reader.read_map.mpr ⟨(), skip_of_passedOver h.passedOver ha, rfl⟩, ?_⟩
          rw [known_append_of_notMem hname]
      · -- neither does
        cases hm
        obtain ⟨u, hu, rfl⟩ := Reader.read_map.mp hr
        exact ⟨_, Reader.read_map.mpr ⟨u, hu, rfl⟩, rfl⟩

/-- An object that the wider shape reads is read by the narrower one, up to the same place, from the
fields that it knows. -/
theorem readRecord (h : narrow.Narrows wide) {s t r : List Char} {b : γ}
    (hobject : skipBlanks s = '{' :: t) (hr : wide.readRecord s = .ok (b, r)) :
    ∃ given, wide.build .object given = .ok b ∧
      narrow.readRecord s = narrow.finish .object (narrow.known given) r := by
  simp only [RecordShape.readRecord, hobject, if_true] at hr ⊢
  split at hr
  · next given u hu =>
    obtain ⟨given', hgiven', rfl⟩ := members_simulated (b := []) h.member rfl hu
    obtain rfl := rest_of_finish hr
    refine ⟨given, ?_, ?_⟩
    · rw [RecordShape.finish] at hr
      split at hr
      · next hb =>
        cases hr
        exact hb
      · cases hr
    · rw [hgiven']
  · cases hr

end Narrows

end RecordShape

end Json

open Json

/-! ### The payload of a definition -/

/-- The shape of payloads knows eight of the eleven fields of a definition. -/
theorem Payload.narrows_definition :
    (Payload.shape (maxNesting - 1)).Narrows Definition.shape where
  names_subset _ hname := Definition.mem_names_of_payload hname
  field_eq := rfl
  passedOver := passedOver_optional (passedOver_value _)

/-- A payload is built from the fields that it knows. -/
theorem Payload.ofFields_known (nesting : Nat) (given : Fields (Option Json)) :
    ofFields ((shape nesting).known given) = ofFields given := by
  have hvalue : ∀ name ∈ names, Fields.value? ((shape nesting).known given) name = given.value? name := by
    intro name hname
    rw [Fields.value?, RecordShape.lookup_known hname, Fields.value?]
  rw [ofFields, ofFields]
  congr 1 <;> exact hvalue _ (by decide)

/-- A document of a definition that is written as an object is a document of its payload: whatever
else stands in it, the payload that is read from it is the one of the definition. -/
theorem payload_of_definition {text : String} {d : Definition}
    (hobject : (skipBlanks text.toList).head? = some '{') (h : Definition.parse text = .ok d) :
    Payload.parse text = .ok d.payload := by
  obtain ⟨t, ht⟩ := List.head?_eq_some_iff.mp hobject
  rw [Definition.parse, document] at h
  rw [Payload.parse, document]
  split at h
  · cases h
  · next d' r hr =>
    obtain ⟨given, hbuild, hread⟩ := Payload.narrows_definition.readRecord ht hr
    cases hbuild
    have hpayload : (Payload.shape (maxNesting - 1)).reader.read text.toList =
        .ok ((Definition.ofFields given).payload, r) := by
      refine hread.trans ?_
      rw [Definition.payload_ofFields]
      show Except.ok (Payload.ofFields _, r) = _
      rw [Payload.ofFields_known]
    rw [hpayload]
    -- both end at the same place, so what is behind it is the same
    split at h
    · next hend =>
      cases h
      dsimp only
      rw [hend]
    · cases h

/-- A document of a definition with its members out of order, an escape in the name of one, a null,
and, as the id, a list that holds an object. -/
def scatteredDocument : String :=
  " \x7b\"p\\u006frt\" : 1883,\n\"id\":[\x7b\"db\":1e5\x7d,\"\\ud83d\\ude00\"]," ++
    "\"host\":null,\"z\":-0, \"b_type\":\"mqtt\"\x7d "

theorem payload_of_definition_scattered :
    (skipBlanks scatteredDocument.toList).head? = some '{' ∧
      ∃ d, Definition.parse scatteredDocument = .ok d ∧
        Payload.parse scatteredDocument = .ok d.payload := by
  have hobject : (skipBlanks scatteredDocument.toList).head? = some '{' := by decide +kernel
  obtain ⟨d, hd, -⟩ := exists_of_any_toOption (x := Definition.parse scatteredDocument)
    (P := fun d => d.id.isSome) (by decide +kernel)
  exact ⟨hobject, d, hd, payload_of_definition hobject hd⟩

end BrokerNode
