/-
BrokerNode/Envelope.lean

The message that a broker node emits: an envelope around its payload.

In a document the payload is the one field of a record, and it must be there.
-/
import BrokerNode.Definition

namespace BrokerNode

/-- The message that a broker node emits. -/
structure Envelope where
  payload : Payload

namespace Envelope

/-- The envelope for a definition: its payload as it is. -/
def ofDefinition (d : Definition) : Envelope := ⟨d.payload⟩

/-- The name of the one field. -/
def fieldName : String := "payload"

/-- The envelope with the fields that a document gives. -/
def ofFields (form : Json.RecordForm) (given : Json.Fields Payload) : Except Json.Cause Envelope :=
  match given.lookup fieldName, form with
  | some p, _ => .ok ⟨p⟩
  | none, .object => .error (.missingField fieldName)
  | none, .list => .error (.invalidLength given.length "struct Envelope with 1 element")

/-- How an envelope is read: its payload is one level down. -/
def shape : Json.RecordShape Payload Envelope where
  title := "struct Envelope"
  names := [fieldName]
  field := (Payload.shape (Json.maxNesting - 2)).reader
  build := ofFields

/-- Reads an envelope from a document. -/
def parse (text : String) : Except Json.LocatedFault Envelope :=
  Json.document shape.reader text.toList

/-- The text of an envelope. -/
def write (e : Envelope) : List Char :=
  '{' :: (Json.writeMember fieldName e.payload.write ++ ['}'])

/-- The body of the message: the text of the envelope. -/
def body (e : Envelope) : String := String.ofList e.write

/-- Sameness of envelopes. -/
def same (e f : Envelope) : Bool := e.payload.same f.payload

/-- How an envelope is shown. -/
def shown (e : Envelope) : Text.Shown := .record "Envelope" [("payload", e.payload.shown)]

end Envelope

end BrokerNode
