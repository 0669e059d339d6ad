/-
BrokerNode/Proofs/Agreement.lean

Definitions and payloads against the values of their documents.

A document of a definition or of a payload is a JSON document like any other.  The main statement,
`records_agree_with_value`, says what each of the two is read as when the document is read as a value:
a record with the members of the names of its fields, or with the elements in their places, and no
record at all when a name of its own is written twice, when there are more elements than fields, or when
the value is neither an object nor a list.
-/
import BrokerNode.Proofs.Json.RecordValue

namespace BrokerNode

open Json

/-- A document that is read as a value is read as a definition, and as a payload, just as the value
says. -/
theorem records_agree_with_value {text : String} {v : Json} (h : Json.parse text = .ok v) :
    Agrees Definition.parse Definition.names Definition.fields text v ∧
      Agrees Payload.parse Payload.names Payload.fields text v :=
  ⟨Definition.carries.agrees h, (Payload.carries _).agrees h⟩

/-- An object with a name that only definitions know, written twice, an escape in another name, a null
and a name that neither knows. -/
def twiceFiled : String :=
  "\x7b\"z\":1, \"p\\u006frt\" : \"1883\",\"x\":[],\"host\":null,\"z\":null\x7d"

/-- Whether a value is an object with a port in it, and a host that is null. -/
def hasPortOnly : Json → Bool
  | .object ms =>
    match ms.lookup "port", ms.lookup "host" with
    | some (.string s), some .null => s == "1883"
    | _, _ => false
  | _ => false

theorem eq_object_of_hasPortOnly {v : Json} (h : hasPortOnly v = true) :
    ∃ ms, v = .object ms ∧ ms.lookup "port" = some (.string "1883") ∧
      ms.lookup "host" = some .null := by
  unfold hasPortOnly at h
  split at h
  · next ms =>
    split at h
    · next s hport hhost => exact ⟨ms, rfl, by rw [hport, eq_of_beq h], hhost⟩
    · cases h
  · cases h

/-- It is no definition, but it is a payload. -/
theorem records_agree_with_value_twiceFiled :
    ∃ v, Json.parse twiceFiled = .ok v ∧ (∀ d, Definition.parse twiceFiled ≠ .ok d) ∧
      ∃ p, Payload.parse twiceFiled = .ok p ∧ p.port = some (.string "1883") ∧ p.host = none := by
  obtain ⟨v, hv, hobject⟩ := exists_of_any_toOption (x := Json.parse twiceFiled)
    (P := hasPortOnly) (by decide +kernel)
  obtain ⟨ms, rfl, hport, hhost⟩ := eq_object_of_hasPortOnly hobject
  obtain ⟨hdefinition, hpayload⟩ := records_agree_with_value hv
  have hnames : (written? twiceFiled.toList).map (·.map Prod.fst) =
      some ["z", "port", "x", "host", "z"] := by decide +kernel
  refine ⟨_, hv, ?_, ?_⟩
  · -- a definition has a field that is written twice
    obtain ⟨written, hwritten, -, hiff, -⟩ := hdefinition.object ms rfl
    rw [hwritten, Option.map_some, Option.some.injEq] at hnames
    rw [hnames] at hiff
    intro d hd
    have htwice := hiff.mp ⟨d, hd⟩ "z" (by decide)
    exact absurd htwice (by decide)
  · obtain ⟨written, hwritten, -, hiff, hfields⟩ := hpayload.object ms rfl
    rw [hwritten, Option.map_some, Option.some.injEq] at hnames
    rw [hnames] at hiff
    obtain ⟨p, hp⟩ := hiff.mpr (by decide)
    refine ⟨p, hp, ?_, ?_⟩
    · have hfield := hfields p hp ("port", p.port)
        (by simp [Payload.fields, Payload.names, Payload.values])
      simpa [hport, filling] using hfield
    · have hfield := hfields p hp ("host", p.host)
        (by simp [Payload.fields, Payload.names, Payload.values])
      simpa [hhost, filling] using hfield

end BrokerNode
