/-
BrokerNode/Definition.lean

The definition of a broker node, as it was deployed.

A definition has the connection parameters of a broker endpoint and three fields more, which are the
deploying host's own bookkeeping: an id, a type and the flow that the node belongs to.  In a document all
eleven stand side by side.  The payload of a definition is a copy of its connection parameters, made field
by field; their names in a document are the same there (`names_eq`, `values_eq`).
-/
import BrokerNode.Payload

namespace BrokerNode

/-- The definition of a broker node.  Its type and the kind of its broker are `type` and `b_type` in a
document. -/
structure Definition where
  id : Option Json := none
  nodeType : Option Json := none
  z : Option Json := none
  name : Option Json := none
  host : Option Json := none
  port : Option Json := none
  brokerType : Option Json := none
  username : Option Json := none
  password : Option Json := none
  db : Option Json := none
  exchange : Option Json := none

namespace Definition

/-- The names of the fields in a document, in the order of their declaration. -/
def names : List String :=
  ["id", "type", "z", "name", "host", "port", "b_type", "username", "password", "db", "exchange"]

/-- The values of the fields, in the order of their declaration. -/
def values (d : Definition) : List (Option Json) :=
  [d.id, d.nodeType, d.z, d.name, d.host, d.port, d.brokerType, d.username, d.password, d.db,
    d.exchange]

/-- The fields with their names. -/
def fields (d : Definition) : List (String × Option Json) := names.zip d.values

/-- The definition with the fields that a document gives. -/
def ofFields (given : Json.Fields (Option Json)) : Definition where
  id := given.value? "id"
  nodeType := given.value? "type"
  z := given.value? "z"
  name := given.value? "name"
  host := given.value? "host"
  port := given.value? "port"
  brokerType := given.value? "b_type"
  username := given.value? "username"
  password := given.value? "password"
  db := given.value? "db"
  exchange := given.value? "exchange"

/-- The connection parameters of a definition, copied as they are. -/
def payload (d : Definition) : Payload where
  name := d.name
  host := d.host
  port := d.port
  brokerType := d.brokerType
  username := d.username
  password := d.password
  db := d.db
  exchange := d.exchange

/-- How a definition is read. -/
def shape : Json.RecordShape (Option Json) Definition where
  title := "struct NodeConfig"
  names := names
  field := Json.optional (Json.value (Json.maxNesting - 1))
  build _ given := .ok (ofFields given)

/-- Reads a definition from a document. -/
def parse (text : String) : Except Json.LocatedFault Definition :=
  Json.document shape.reader text.toList

/-- The text of a definition. -/
def write (d : Definition) : List Char := Json.writeFields d.fields

/-- The text of a definition, as a string. -/
def render (d : Definition) : String := String.ofList d.write

/-- Sameness of definitions, field by field. -/
def same (d e : Definition) : Bool := d.values == e.values

/-- How a definition is shown. -/
def shown (d : Definition) : Text.Shown :=
  .record "NodeConfig" [
    ("id", Json.shownField d.id),
    ("node_type", Json.shownField d.nodeType),
    ("z", Json.shownField d.z),
    ("name", Json.shownField d.name),
    ("host", Json.shownField d.host),
    ("port", Json.shownField d.port),
    ("b_type", Json.shownField d.brokerType),
    ("username", Json.shownField d.username),
    ("password", Json.shownField d.password),
    ("db", Json.shownField d.db),
    ("exchange", Json.shownField d.exchange)]

/-! ### The connection parameters of a definition -/

/-- A connection parameter has the same name in a definition and in a payload. -/
theorem names_eq : names = ["id", "type", "z"] ++ Payload.names := rfl

/-- The payload holds the values that the definition holds. -/
theorem values_eq (d : Definition) : d.values = [d.id, d.nodeType, d.z] ++ d.payload.values := rfl

/-- The fields of the payload are the last ones of the definition. -/
theorem fields_eq (d : Definition) :
    d.fields = [("id", d.id), ("type", d.nodeType), ("z", d.z)] ++ d.payload.fields := by
  have hlength : ["id", "type", "z"].length = [d.id, d.nodeType, d.z].length := rfl
  rw [fields, names_eq, values_eq, List.zip_append hlength, Payload.fields]
  rfl

/-- The members of a document give the same to both. -/
theorem payload_ofFields (given : Json.Fields (Option Json)) :
    (ofFields given).payload = .ofFields given :=
  rfl

theorem mem_names_of_payload {name : String} (h : name ∈ Payload.names) : name ∈ names := by
  rw [names_eq]
  exact List.mem_append_right _ h

theorem mem_fields_of_payload {d : Definition} {f : String × Option Json}
    (h : f ∈ d.payload.fields) : f ∈ d.fields := by
  rw [fields_eq]
  exact List.mem_append_right _ h

end Definition

end BrokerNode
