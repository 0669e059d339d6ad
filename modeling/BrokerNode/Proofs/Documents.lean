/-
BrokerNode/Proofs/Documents.lean

The documents of definitions, payloads and envelopes.

Each of the three is read from a document and written as one.  What is read from the text of a payload
is found field by field (`Payload.reread`); what is read from the body of an envelope is the payload
that its reader makes of the one member (`Envelope.toOption_parse_body`).

The main statement, `documents_read_again`, is about documents without doubles: whatever form such a
document had, the text that is written for what was read from it gives the same again.
-/
import BrokerNode.Definition.File
import BrokerNode.Envelope
import BrokerNode.Proofs.Json.RecordText

namespace BrokerNode

open Json

/-! ### Payloads -/

namespace Payload

/-- Whether no number in a payload is a double. -/
def allWhole (p : Payload) : Bool := p.values.all fun v => v.all Json.allWhole

theorem carries (nesting : Nat) : (shape nesting).Carries nesting fields where
  field_eq := rfl
  nodup := show names.Nodup by decide
  names_eq p := rfl
  injective p q h := by
    obtain ⟨_, _, _, _, _, _, _, _⟩ := p
    obtain ⟨_, _, _, _, _, _, _, _⟩ := q
    simp only [fields, names, values, List.zip_cons_cons, List.cons.injEq, Prod.mk.injEq] at h
    simp_all
  build_ok form given := ⟨ofFields given, rfl, rfl⟩

theorem forall_values_iff {p : Payload} {P : Option Json → Prop} :
    (∀ v ∈ p.values, P v) ↔ ∀ f ∈ p.fields, P f.2 :=
  List.forall_mem_map (l := p.fields) (f := Prod.snd) (P := P)

theorem stable_of_allWhole {p : Payload} (h : p.allWhole = true) :
    ∀ f ∈ p.fields, ∀ v ∈ f.2, Everywhere (IfNumber Number.IsStable) v := by
  rw [allWhole, List.all_eq_true, forall_values_iff] at h
  intro f hf v hv
  have hall := h f hf
  rw [Option.mem_def.mp hv] at hall
  exact Json.stable_of_allWhole hall

theorem same_self (p : Payload)
    (h : ∀ f ∈ p.fields, ∀ v ∈ f.2, Everywhere (IfNumber Number.IsStable) v) :
    p.same p = true :=
  same_self_of_stable
    (forall_values_iff (P := fun v => ∀ x ∈ v, Everywhere (IfNumber Number.IsStable) x).mpr h)

/-- What a payload is read back as from its text, if it is read at all. -/
def reread (nesting : Nat) (p : Payload) : Option Payload :=
  (rereadFields nesting p.fields).map ofFields

theorem readRecord_write (nesting : Nat) {p : Payload}
    (h : ∀ f ∈ p.fields, ∀ v ∈ f.2, v.Ordered) (s : List Char) :
    ((shape nesting).readRecord (p.write ++ s)).toOption =
      (p.reread nesting).map fun q => (q, s) := by
  rw [write, (carries nesting).readRecord_writeFields h, reread]
  cases rereadFields nesting p.fields <;> rfl

theorem reread_self {nesting : Nat} {p : Payload}
    (hvalues : ∀ f ∈ p.fields, ∀ v ∈ f.2, v ≠ .null ∧ v.Ordered)
    (hself : ∀ f ∈ p.fields, ∀ v ∈ f.2, v.reread nesting = some v) : p.reread nesting = some p := by
  have hread := (carries nesting).readRecord_self hvalues hself []
  have hwrite := readRecord_write nesting (fun f hf v hv => (hvalues f hf v hv).2) []
  rw [write, hread] at hwrite
  cases hp : p.reread nesting with
  | none =>
    rw [hp] at hwrite
    cases hwrite
  | some q =>
    rw [hp] at hwrite
    cases hwrite
    rfl

/-- When the same payload is read back, all its values are read back as themselves. -/
theorem reread_eq_self {nesting : Nat} {p q : Payload}
    (hvalues : ∀ f ∈ p.fields, ∀ v ∈ f.2, v ≠ .null ∧ v.Ordered)
    (h : p.reread nesting = some q) (hsame : q.same p = true) :
    ∀ f ∈ p.fields, ∀ v ∈ f.2, v.reread nesting = some v := by
  have hwrite := readRecord_write nesting (fun f hf v hv => (hvalues f hf v hv).2) []
  rw [h] at hwrite
  exact (carries nesting).reread_eq_self hvalues hwrite hsame

end Payload

/-! ### Definitions -/

namespace Definition

/-- Whether no number in a definition is a double. -/
def allWhole (d : Definition) : Bool := d.values.all fun v => v.all Json.allWhole

theorem carries : shape.Carries (maxNesting - 1) fields where
  field_eq := rfl
  nodup := by decide
  names_eq d := rfl
  injective d e h := by
    obtain ⟨_, _, _, _, _, _, _, _, _, _, _⟩ := d
    obtain ⟨_, _, _, _, _, _, _, _, _, _, _⟩ := e
    simp only [fields, names, values, List.zip_cons_cons, List.cons.injEq, Prod.mk.injEq] at h
    simp_all
  build_ok form given := ⟨ofFields given, rfl, rfl⟩

theorem forall_values_iff {d : Definition} {P : Option Json → Prop} :
    (∀ v ∈ d.values, P v) ↔ ∀ f ∈ d.fields, P f.2 :=
  List.forall_mem_map (l := d.fields) (f := Prod.snd) (P := P)

theorem stable_of_allWhole {d : Definition} (h : d.allWhole = true) :
    ∀ f ∈ d.fields, ∀ v ∈ f.2, Everywhere (IfNumber Number.IsStable) v := by
  rw [allWhole, List.all_eq_true, forall_values_iff] at h
  intro f hf v hv
  have hall := h f hf
  rw [Option.mem_def.mp hv] at hall
  exact Json.stable_of_allWhole hall

theorem same_self (d : Definition)
    (h : ∀ f ∈ d.fields, ∀ v ∈ f.2, Everywhere (IfNumber Number.IsStable) v) :
    d.same d = true :=
  same_self_of_stable
    (forall_values_iff (P := fun v => ∀ x ∈ v, Everywhere (IfNumber Number.IsStable) x).mpr h)

end Definition

/-! ### Envelopes -/

namespace Envelope

/-- How deeply a value in an envelope may be nested: the envelope and its payload are two objects
around it. -/
def nesting : Nat := maxNesting - 2

/-- Whether no number in an envelope is a double. -/
def allWhole (e : Envelope) : Bool := e.payload.allWhole

theorem write_eq (e : Envelope) :
    e.write = Json.write (.object [(fieldName, .object (present e.payload.fields))]) := by
  rw [write, Payload.write, writeFields_eq]
  rfl

/-- What is read from the body of an envelope. -/
theorem toOption_parse_body {e : Envelope}
    (h : ∀ f ∈ e.payload.fields, ∀ v ∈ f.2, v.Ordered) :
    (parse e.body).toOption = (e.payload.reread nesting).map Envelope.mk := by
  have hnames : ∀ m ∈ [(fieldName, Json.object (present e.payload.fields))],
      m.1 ∈ shape.names := by
    simp [shape]
  have hfield : ∀ m ∈ [(fieldName, Json.object (present e.payload.fields))], ∀ s, Delimits s →
      (shape.field.read (Json.write m.2 ++ s)).toOption =
        (e.payload.reread nesting).map fun p => (p, s) := by
    intro m hm s _
    obtain rfl := List.mem_singleton.mp hm
    have hpayload := Payload.readRecord_write nesting h s
    rwa [Payload.write, writeFields_eq] at hpayload
  have hread := RecordShape.readRecord_written (f := fun _ => e.payload.reread nesting) hnames
    (List.nodup_singleton _) hfield []
  rw [← write_eq, List.append_nil] at hread
  rw [parse, body, String.toList_ofList]
  apply toOption_document
  refine hread.trans ?_
  cases e.payload.reread nesting <;> rfl

/-- A payload whose values are all read back as themselves reaches the reader of the body. -/
theorem parse_body {e : Envelope} (hvalues : ∀ f ∈ e.payload.fields, ∀ v ∈ f.2, v ≠ .null ∧ v.Ordered)
    (hself : ∀ f ∈ e.payload.fields, ∀ v ∈ f.2, v.reread nesting = some v) :
    parse e.body = .ok e := by
  have hreread := Payload.reread_self hvalues hself
  have hparse := toOption_parse_body fun f hf v hv => (hvalues f hf v hv).2
  rw [hreread] at hparse
  exact eq_ok_of_toOption hparse

/-- The values of an envelope that was read. -/
theorem isFieldValue {text : String} {e : Envelope} (h : parse text = .ok e) :
    ∀ f ∈ e.payload.fields, ∀ v ∈ f.2, IsFieldValue nesting v := by
  obtain ⟨r, hr⟩ := read_of_document h
  have hfield : ∀ s p r, shape.field.read s = .ok (p, r) →
      ∀ f ∈ p.fields, ∀ v ∈ f.2, IsFieldValue nesting v :=
    fun s p r hp => (Payload.carries nesting).isFieldValue hp
  obtain ⟨form, given, hbuild, hall⟩ := RecordShape.exists_given hfield hr
  cases hl : given.lookup fieldName with
  | none =>
    -- without its one field there is no envelope, in either form
    cases form <;>
      · simp only [shape, ofFields, hl] at hbuild
        cases hbuild
  | some p =>
    simp only [shape, ofFields, hl] at hbuild
    cases hbuild
    exact hall _ (mem_of_lookup hl)

end Envelope

/-! ### Documents that are written and read again -/

/-- When a definition, a payload or an envelope without doubles is read from some document, the text
that is written for it is read as an equal one, for which the same text is written. -/
theorem documents_read_again (text : String) :
    (∀ d, Definition.parse text = .ok d → d.allWhole = true →
      ∃ d', Definition.parse d.render = .ok d' ∧ d' = d ∧ d'.same d = true ∧
        d'.render = d.render) ∧
    (∀ p, Payload.parse text = .ok p → p.allWhole = true →
      ∃ p', Payload.parse p.render = .ok p' ∧ p' = p ∧ p'.same p = true ∧
        p'.render = p.render) ∧
    (∀ e, Envelope.parse text = .ok e → e.allWhole = true →
      ∃ e', Envelope.parse e.body = .ok e' ∧ e' = e ∧ e'.same e = true ∧ e'.body = e.body) := by
  refine ⟨?_, ?_, ?_⟩
  · intro d hd hwhole
    have hstable := Definition.stable_of_allWhole hwhole
    refine ⟨d, ?_, rfl, d.same_self hstable, rfl⟩
    rw [Definition.parse, Definition.render, String.toList_ofList]
    exact Definition.carries.document_written hd hstable
  · intro p hp hwhole
    have hstable := Payload.stable_of_allWhole hwhole
    refine ⟨p, ?_, rfl, p.same_self hstable, rfl⟩
    rw [Payload.parse, Payload.render, String.toList_ofList]
    exact (Payload.carries _).document_written hp hstable
  · intro e he hwhole
    have hstable := Payload.stable_of_allWhole hwhole
    have hvalues := Envelope.isFieldValue he
    refine ⟨e, ?_, rfl, e.payload.same_self hstable, rfl⟩
    refine Envelope.parse_body (fun f hf v hv => ⟨(hvalues f hf v hv).1, (hvalues f hf v hv).2.1⟩) ?_
    intro f hf v hv
    exact reread_eq_some_iff.mpr ⟨(hvalues f hf v hv).2.2, hstable f hf v hv⟩

/-- A text that is read as all three: a list with one object in it, which has escapes, names out of
order, a repeated name and a null. -/
def mixedDocument : String :=
  "[ \x7b\"db\":\x7b\"b\":[-1,\x7b\x7d],\"a\":18446744073709551615,\"b\":[]\x7d,\n" ++
    "\"host\":\"\\ud83d\\ude00\\n\", \"port\":null\x7d ]"

theorem documents_read_again_mixed :
    ∃ d p e, Definition.parse mixedDocument = .ok d ∧ d.allWhole = true ∧
      Payload.parse mixedDocument = .ok p ∧ p.allWhole = true ∧
      Envelope.parse mixedDocument = .ok e ∧ e.allWhole = true ∧
      (∃ d', Definition.parse d.render = .ok d' ∧ d' = d) ∧
      (∃ p', Payload.parse p.render = .ok p' ∧ p' = p) ∧
      ∃ e', Envelope.parse e.body = .ok e' ∧ e' = e := by
  obtain ⟨d, hd, hdw⟩ := exists_of_any_toOption
    (x := Definition.parse mixedDocument) (P := Definition.allWhole) (by decide +kernel)
  obtain ⟨p, hp, hpw⟩ := exists_of_any_toOption
    (x := Payload.parse mixedDocument) (P := Payload.allWhole) (by decide +kernel)
  obtain ⟨e, he, hew⟩ := exists_of_any_toOption
    (x := Envelope.parse mixedDocument) (P := Envelope.allWhole) (by decide +kernel)
  obtain ⟨hdefinition, hpayload, henvelope⟩ := documents_read_again mixedDocument
  obtain ⟨d', hd', rfl, -, -⟩ := hdefinition d hd hdw
  obtain ⟨p', hp', rfl, -, -⟩ := hpayload p hp hpw
  obtain ⟨e', he', rfl, -, -⟩ := henvelope e he hew
  exact ⟨d', p', e', hd, hdw, hp, hpw, he, hew, ⟨d', hd', rfl⟩, ⟨p', hp', rfl⟩, e', he', rfl⟩

end BrokerNode
