/-
BrokerNode/Payload.lean

The payload that a broker node emits: the connection parameters of a broker endpoint.

Every field may hold any JSON value or be absent, and is carried as it is; nothing is checked here.
A field that is given as `null` counts as absent, and an absent field is not written.  The password
is never shown.
-/
import BrokerNode.Json.Record
import BrokerNode.Json.Shown
import BrokerNode.Json.Writer
import BrokerNode.Kind

namespace BrokerNode

/-- The connection parameters of a broker endpoint, as they were deployed. -/
structure Payload where
  name : Option Json := none
  host : Option Json := none
  port : Option Json := none
  brokerType : Option Json := none
  username : Option Json := none
  password : Option Json := none
  db : Option Json := none
  exchange : Option Json := none

namespace Payload

/-- The names of the fields in a document, in the order of their declaration. -/
def names : List String :=
  ["name", "host", "port", "b_type", "username", "password", "db", "exchange"]

/-- The values of the fields, in the order of their declaration. -/
def values (p : Payload) : List (Option Json) :=
  [p.name, p.host, p.port, p.brokerType, p.username, p.password, p.db, p.exchange]

/-- The fields with their names. -/
def fields (p : Payload) : List (String × Option Json) := names.zip p.values

/-- The payload with the fields that a document gives. -/
def ofFields (given : Json.Fields (Option Json)) : Payload where
  name := given.value? "name"
  host := given.value? "host"
  port := given.value? "port"
  brokerType := given.value? "b_type"
  username := given.value? "username"
  password := given.value? "password"
  db := given.value? "db"
  exchange := given.value? "exchange"

/-- How a payload is read, its values with at most `nesting` lists and objects open at a time. -/
def shape (nesting : Nat) : Json.RecordShape (Option Json) Payload where
  title := "struct BrokerConfig"
  names := names
  field := Json.optional (Json.value nesting)
  build _ given := .ok (ofFields given)

/-- Reads a payload from a document. -/
def parse (text : String) : Except Json.LocatedFault Payload :=
  Json.document (shape (Json.maxNesting - 1)).reader text.toList

/-- The text of a payload. -/
def write (p : Payload) : List Char := Json.writeFields p.fields

/-- The text of a payload, as a string. -/
def render (p : Payload) : String := String.ofList p.write

/-- The kind that the payload names, if it names one. -/
def kind? (p : Payload) : Option Kind :=
  p.brokerType.bind fun v => v.string?.bind fun s => (Kind.parse s).toOption

/-- Sameness of payloads, field by field. -/
def same (p q : Payload) : Bool := p.values == q.values

/-- The mark in the place of a password. -/
def mask : Text.Shown := .text "***"

/-- How a payload is shown: a password that is present is masked. -/
def shown (p : Payload) : Text.Shown :=
  .record "BrokerConfig" [
    ("name", Json.shownField p.name),
    ("host", Json.shownField p.host),
    ("port", Json.shownField p.port),
    ("broker_type", Json.shownField p.brokerType),
    ("username", Json.shownField p.username),
    ("password", .option (fun _ => mask) p.password),
    ("db", Json.shownField p.db),
    ("exchange", Json.shownField p.exchange)]

end Payload

end BrokerNode
