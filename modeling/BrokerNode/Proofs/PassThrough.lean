/-
BrokerNode/Proofs/PassThrough.lean

From the file of a definition to the consumer of its message.

The body that is sent for a definition has one more object around each value than the definition's own
document, and every double in it has gone through its own text once more.  So a value that the file
could just hold may be too deep for the body, and a double may come out of it as another.  These are
the only two things that can happen (`payload_passes_through`), and both do happen
(`not_always_passed_through`).
-/
import BrokerNode.Endpoint.Validation
import BrokerNode.Proofs.Documents
import BrokerNode.Proofs.Folder

namespace BrokerNode

open Json

/-- Every value in a payload may be nested in an envelope, and every number in it is read back as
itself. -/
def Payload.FitsEnvelope (p : Payload) : Prop :=
  ∀ v ∈ p.values, ∀ x ∈ v, x.depth ≤ Envelope.nesting ∧ x.Everywhere (IfNumber Number.IsStable)

/-- A payload fits when all its values are read back as themselves. -/
theorem Payload.fitsEnvelope_iff {p : Payload} :
    p.FitsEnvelope ↔ ∀ f ∈ p.fields, ∀ x ∈ f.2, x.reread Envelope.nesting = some x := by
  rw [FitsEnvelope, forall_values_iff (P := fun v => ∀ x ∈ v, _ ∧ Everywhere _ x)]
  simp only [reread_eq_some_iff]

/-- The definition in a file was read from its text. -/
theorem Definition.parse_of_ofFile {content : Folder.FileResult} {d : Definition}
    (h : ofFile content = .ok d) : ∃ text, parse text = .ok d := by
  obtain ⟨text, -, hparse⟩ := ofFile_eq_ok_iff.mp h
  exact ⟨text, hparse⟩

/-- The values in the payload of a definition that was read from a document. -/
theorem Definition.isFieldValue_payload {text : String} {d : Definition} (h : parse text = .ok d) :
    ∀ f ∈ d.payload.fields, ∀ v ∈ f.2, v ≠ .null ∧ v.Ordered := by
  obtain ⟨r, hr⟩ := read_of_document h
  have hvalues := Definition.carries.isFieldValue hr
  intro f hf v hv
  obtain ⟨hnull, hordered, -⟩ := hvalues f (mem_fields_of_payload hf) v hv
  exact ⟨hnull, hordered⟩

/-- The body that is sent for a definition from a file is read value by value, and as an envelope with
the same payload exactly when the payload fits; then the payload is equal, and so is the endpoint that
it describes, or the reason why it describes none. -/
theorem payload_passes_through {content : Folder.FileResult} {d : Definition}
    (h : Definition.ofFile content = .ok d) :
    (Envelope.parse (Envelope.ofDefinition d).body).toOption =
        (d.payload.reread Envelope.nesting).map Envelope.mk ∧
    ((∃ e, Envelope.parse (Envelope.ofDefinition d).body = .ok e ∧
        e.payload.same d.payload = true) ↔ d.payload.FitsEnvelope) ∧
    (d.payload.FitsEnvelope →
      ∃ e, Envelope.parse (Envelope.ofDefinition d).body = .ok e ∧ e.payload = d.payload ∧
        Endpoint.ofPayload e.payload = Endpoint.ofPayload d.payload) := by
  obtain ⟨text, htext⟩ := Definition.parse_of_ofFile h
  have hvalues := Definition.isFieldValue_payload htext
  have hbody := Envelope.toOption_parse_body (e := Envelope.ofDefinition d)
    fun f hf v hv => (hvalues f hf v hv).2
  have hfits : d.payload.FitsEnvelope →
      Envelope.parse (Envelope.ofDefinition d).body = .ok (Envelope.ofDefinition d) := by
    intro hfits
    exact Envelope.parse_body hvalues (Payload.fitsEnvelope_iff.mp hfits)
  refine ⟨hbody, ⟨?_, ?_⟩, ?_⟩
  · -- the same payload is read only if every value in it is read back as itself
    rintro ⟨e, he, hsame⟩
    rw [he] at hbody
    obtain ⟨p, hp, rfl⟩ := Option.map_eq_some_iff.mp hbody.symm
    rw [Payload.fitsEnvelope_iff]
    exact Payload.reread_eq_self hvalues hp hsame
  · intro hf
    refine ⟨_, hfits hf, Payload.same_self d.payload ?_⟩
    rw [Payload.fitsEnvelope_iff] at hf
    exact fun f hmem v hv => (reread_eq_some_iff.mp (hf f hmem v hv)).2
  · intro hf
    exact ⟨_, hfits hf, rfl, rfl⟩

/-- A file whose payload has doubles in it that are read back as themselves. -/
def steadyFile : Folder.FileResult :=
  .ok "\x7b\"name\":0.5,\"host\":\" h \",\"port\":1883,\"b_type\":\"mqtt\",\"db\":[[-0.0]]\x7d".toUTF8

theorem payload_passes_through_steady :
    ∃ d, Definition.ofFile steadyFile = .ok d ∧ d.payload.FitsEnvelope ∧
      ∃ e, Envelope.parse (Envelope.ofDefinition d).body = .ok e ∧ e.payload = d.payload ∧
        Endpoint.ofPayload e.payload = Endpoint.ofPayload d.payload := by
  obtain ⟨d, hd, hread⟩ := exists_of_any_toOption (x := Definition.ofFile steadyFile)
    (P := fun d => (Envelope.parse (Envelope.ofDefinition d).body).toOption.any
      fun e => e.payload.same d.payload) (by decide +kernel)
  obtain ⟨-, hiff, hthrough⟩ := payload_passes_through hd
  have hfits : d.payload.FitsEnvelope := hiff.mp (exists_of_any_toOption hread)
  exact ⟨d, hd, hfits, hthrough hfits⟩

/-! ### Payloads that do not pass -/

/-- Lists in lists, `n` inside the outermost one. -/
def listsInList : Nat → Json
  | 0 => .list []
  | n + 1 => .list [listsInList n]

theorem reread_listsInList (n : Nat) :
    (listsInList n).reread (n + 1) = some (listsInList n) ∧ (listsInList n).reread n = none := by
  induction n with
  | zero => exact ⟨rfl, rfl⟩
  | succ n ih => simp [listsInList, reread, rereadElements, ih]

theorem ordered_listsInList (n : Nat) : (listsInList n).Ordered := by
  induction n with
  | zero => exact everywhere_list_iff.mpr ⟨trivial, by simp⟩
  | succ n ih =>
    refine everywhere_list_iff.mpr ⟨trivial, ?_⟩
    intro v hv
    rw [List.mem_singleton.mp hv]
    exact ih

theorem listsInList_ne_null (n : Nat) : listsInList n ≠ .null := by
  cases n <;> simp [listsInList]

/-- A definition with nothing but a database. -/
def Definition.ofDb (v : Json) : Definition := { db := some v }

section OfDb

variable {v : Json}

theorem Definition.eq_of_mem_ofDb {f : String × Option Json} (hf : f ∈ (ofDb v).fields) {w : Json}
    (hw : w ∈ f.2) : w = v := by
  have hfields : ∀ f ∈ (ofDb v).fields, f.2 = none ∨ f.2 = some v := by
    simp [ofDb, fields, names, values]
  rcases hfields f hf with hnone | hsome
  · rw [hnone] at hw
    cases hw
  · rw [hsome] at hw
    exact (Option.mem_some_iff.mp hw).symm

/-- The text of such a definition is read as the definition if its database is read back. -/
theorem Definition.parse_render_ofDb (hnull : v ≠ .null) (hordered : v.Ordered)
    (hself : v.reread (maxNesting - 1) = some v) : parse (ofDb v).render = .ok (ofDb v) := by
  rw [parse, render, String.toList_ofList]
  refine carries.document_self ?_ ?_
  · intro f hf w hw
    rw [eq_of_mem_ofDb hf hw]
    exact ⟨hnull, hordered⟩
  · intro f hf w hw
    rw [eq_of_mem_ofDb hf hw]
    exact hself

/-- The body for such a definition is not read if its database cannot be read inside an envelope. -/
theorem Envelope.parse_body_ofDb (hordered : v.Ordered) (hnone : v.reread nesting = none)
    (hnull : v ≠ .null) (e : Envelope) : parse (ofDefinition (.ofDb v)).body ≠ .ok e := by
  intro he
  have hbody := toOption_parse_body (e := ofDefinition (.ofDb v)) ?_
  · have hreread : Payload.reread nesting (ofDefinition (.ofDb v)).payload = none := by
      show Option.map _ (List.mapM _ [("db", v)]) = none
      rw [List.mapM_cons, rereadPresent_eq hnull, hnone]
      rfl
    rw [he, hreread] at hbody
    cases hbody
  · intro f hf w hw
    rw [Definition.eq_of_mem_ofDb (Definition.mem_fields_of_payload hf) hw]
    exact hordered

end OfDb

/-- A file with the text of a definition gives the definition, if the text does. -/
theorem Definition.ofFile_toUTF8 {text : String} {d : Definition} (h : parse text = .ok d) :
    ofFile (.ok text.toUTF8) = .ok d :=
  ofFile_eq_ok_iff.mpr ⟨text, rfl, h⟩

/-- A file with a double that is written as 6.340657561990001e-18, which is read as the next greater
double. -/
def driftingFile : Folder.FileResult := .ok "\x7b\"db\":6.34065756199e-18\x7d".toUTF8

/-- A file whose database has as many lists in lists as a document of definitions may have. -/
def deepFile : Folder.FileResult :=
  .ok (Definition.ofDb (listsInList Envelope.nesting)).render.toUTF8

/-- A body may be read as an envelope with another payload, and it may not be read at all. -/
theorem not_always_passed_through :
    (∃ d e, Definition.ofFile driftingFile = .ok d ∧
      Envelope.parse (Envelope.ofDefinition d).body = .ok e ∧ e.payload.same d.payload = false) ∧
    ∃ d, Definition.ofFile deepFile = .ok d ∧
      ∀ e, Envelope.parse (Envelope.ofDefinition d).body ≠ .ok e := by
  refine ⟨?_, ?_⟩
  · -- a double that comes out as its neighbour
    obtain ⟨d, hd, hread⟩ := exists_of_any_toOption (x := Definition.ofFile driftingFile)
      (P := fun d => (Envelope.parse (Envelope.ofDefinition d).body).toOption.any
        fun e => !e.payload.same d.payload) (by decide +kernel)
    obtain ⟨e, he, hsame⟩ := exists_of_any_toOption hread
    exact ⟨d, e, hd, he, by simpa using hsame⟩
  · -- lists that the file can just hold, one level deeper in the body
    have hnull := listsInList_ne_null Envelope.nesting
    have hordered := ordered_listsInList Envelope.nesting
    obtain ⟨hself, hnone⟩ := reread_listsInList Envelope.nesting
    exact ⟨_, Definition.ofFile_toUTF8 (Definition.parse_render_ofDb hnull hordered hself),
      Envelope.parse_body_ofDb hordered hnone hnull⟩

end BrokerNode
