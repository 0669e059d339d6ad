/-
BrokerNode/Proofs/Bodies.lean

The bodies that definitions are published as.

The body of a definition is the text of its payload in an envelope.  As texts of values are
unambiguous, the body tells which fields are present and what they hold, and so it tells the payload
(`body_eq_iff_payload_eq`).  Nothing else of the definition is in it.
-/
import BrokerNode.Proofs.Documents
import BrokerNode.Proofs.Json.Unambiguous

namespace BrokerNode

namespace Json

/-- Fields of different names are those that are present, found by their names. -/
theorem fields_eq_map_lookup {fields : Fields (Option Json)}
    (hnodup : (fields.map Prod.fst).Nodup) :
    fields = (fields.map Prod.fst).map fun name => (name, (present fields).lookup name) := by
  rw [List.map_map]
  conv_lhs => rw [← List.map_id fields]
  refine List.map_congr_left fun f hf => ?_
  exact Prod.ext rfl (lookup_present hnodup hf).symm

/-- Fields of the same names differ in those that are present. -/
theorem present_injective {fields given : Fields (Option Json)}
    (hnames : fields.map Prod.fst = given.map Prod.fst) (hnodup : (fields.map Prod.fst).Nodup)
    (h : present fields = present given) : fields = given := by
  rw [fields_eq_map_lookup hnodup, h, hnames, ← fields_eq_map_lookup (hnames ▸ hnodup)]

end Json

open Json

namespace Payload

theorem present_injective {p q : Payload} (h : present p.fields = present q.fields) : p = q := by
  have hcarries := carries 0
  have hnames : p.fields.map Prod.fst = q.fields.map Prod.fst :=
    (hcarries.names_eq p).trans (hcarries.names_eq q).symm
  exact hcarries.injective (Json.present_injective hnames (hcarries.nodup_fields p) h)

theorem same_iff_eq {p q : Payload} (hp : p.allWhole = true) : p.same q = true ↔ p = q := by
  constructor
  · intro h
    have hvalues := eq_of_same_values (List.all_eq_true.mp hp) h
    exact (carries 0).injective (congrArg names.zip hvalues)
  · rintro rfl
    exact p.same_self (stable_of_allWhole hp)

end Payload

/-- The value whose text an envelope is written as. -/
theorem Envelope.stable_of_allWhole {e : Envelope} (h : e.allWhole = true) :
    Everywhere (IfNumber Number.IsStable)
      (.object [(fieldName, .object (present e.payload.fields))]) := by
  have hpayload : Everywhere (IfNumber Number.IsStable) (.object (present e.payload.fields)) := by
    refine everywhere_object_iff.mpr ⟨trivial, fun m hm => ?_⟩
    exact Payload.stable_of_allWhole h _ (mem_present.mp hm) _ rfl
  refine everywhere_object_iff.mpr ⟨trivial, fun m hm => ?_⟩
  obtain rfl := List.mem_singleton.mp hm
  exact hpayload

/-- Envelopes without doubles that have the same body are equal. -/
theorem Envelope.body_injective {e f : Envelope} (he : e.allWhole = true) (hf : f.allWhole = true)
    (h : e.body = f.body) : e = f := by
  have hwrite : e.write = f.write := String.ofList_injective h
  rw [write_eq, write_eq] at hwrite
  obtain ⟨hvalue, -⟩ := write_unique (stable_of_allWhole he) (stable_of_allWhole hf) delimits_nil
    delimits_nil (congrArg (· ++ []) hwrite)
  have hpresent : present e.payload.fields = present f.payload.fields := by
    simpa using hvalue
  obtain ⟨p⟩ := e
  obtain ⟨q⟩ := f
  exact congrArg mk (Payload.present_injective hpresent)

/-- Two definitions whose payloads hold no doubles are published as the same bytes exactly when they
have the same payload. -/
theorem body_eq_iff_payload_eq {d e : Definition} (hd : d.payload.allWhole = true)
    (he : e.payload.allWhole = true) :
    ((Envelope.ofDefinition d).body.toUTF8 = (Envelope.ofDefinition e).body.toUTF8 ↔
      d.payload = e.payload) ∧
    (d.payload.same e.payload = true ↔ d.payload = e.payload) := by
  refine ⟨⟨?_, ?_⟩, Payload.same_iff_eq hd⟩
  · intro h
    have hbody : (Envelope.ofDefinition d).body = (Envelope.ofDefinition e).body :=
      String.toByteArray_inj.mp h
    exact congrArg Envelope.payload (Envelope.body_injective
      (e := .ofDefinition d) (f := .ofDefinition e) hd he hbody)
  · intro h
    rw [Envelope.ofDefinition, h]
    rfl

/-- A definition with an id and some values as its port and its database. -/
def idWithPortAndDb (id : String) (port db : Option Json) : Definition where
  id := some (.string id)
  port := port
  db := db

/-- The id is not in the body; a number is not a text there, and `null` is not absence. -/
theorem body_eq_iff_payload_eq_few :
    let one : Json := .number (.whole 1 (by decide))
    (idWithPortAndDb "a" one (some .null)).payload.allWhole = true ∧
      (idWithPortAndDb "b" one (some .null)).payload.allWhole = true ∧
      (idWithPortAndDb "a" one none).payload.allWhole = true ∧
      (idWithPortAndDb "a" (some (.string "1")) (some .null)).payload.allWhole = true ∧
      (Envelope.ofDefinition (idWithPortAndDb "a" one (some .null))).body.toUTF8 =
        (Envelope.ofDefinition (idWithPortAndDb "b" one (some .null))).body.toUTF8 ∧
      (Envelope.ofDefinition (idWithPortAndDb "a" one (some .null))).body.toUTF8 ≠
        (Envelope.ofDefinition (idWithPortAndDb "a" one none)).body.toUTF8 ∧
      (Envelope.ofDefinition (idWithPortAndDb "a" one (some .null))).body.toUTF8 ≠
        (Envelope.ofDefinition (idWithPortAndDb "a" (some (.string "1")) (some .null))).body.toUTF8 := by
  refine ⟨rfl, rfl, rfl, rfl, ?_, ?_, ?_⟩
  · exact (body_eq_iff_payload_eq rfl rfl).1.mpr rfl
  · rw [ne_eq, (body_eq_iff_payload_eq rfl rfl).1]
    intro h
    cases congrArg Payload.db h
  · rw [ne_eq, (body_eq_iff_payload_eq rfl rfl).1]
    intro h
    cases congrArg Payload.port h

end BrokerNode
