/-
BrokerNode/Endpoint/Validation.lean

From a payload to an endpoint.  This is the one place where the fields of a payload are checked.

The checks come in a fixed order and the first that fails gives the reason: the kind, the host, the
port, and for AMQP and Redis the database.  Host, port and the database of Redis may have blanks
around them; the virtual host, the exchange and the credentials are taken as they are.  A port or a
database may be a number or its decimal text; it is unset when it is absent or blank.
-/
import BrokerNode.Endpoint.Basic
import BrokerNode.Payload
import BrokerNode.Text.Numeral

namespace BrokerNode.Endpoint

/-- Why a payload does not describe an endpoint. -/
inductive Refusal where
  | unknownKind (text : String)
  | missingHost
  | invalidPort (text : String)
  | invalidDb (text : String)
deriving DecidableEq, Repr

/-- The words for a refusal. -/
def Refusal.message : Refusal → String
  | .unknownKind text => "Unknown broker type: " ++ text
  | .missingHost => "Broker host is missing or not a string."
  | .invalidPort text => "Invalid broker port: " ++ text
  | .invalidDb text => "Invalid database selector: " ++ text

/-! ### The fields -/

/-- A text without the blanks around it. -/
def trimmed (s : String) : List Char := Text.trim s.toList

/-- The text of the value of a field, empty if the field is absent. -/
def fieldText (v : Option Json) : String := (v.map Json.render).getD ""

/-- Whether a field is absent or a string of blanks only. -/
def isUnset : Option Json → Bool
  | none => true
  | some (.string s) => (trimmed s).isEmpty
  | some _ => false

/-- The number up to `bound` that a value gives: as a whole number, or as a string with its numeral,
blanks around it aside. -/
def number? (bound : Nat) : Json → Option Nat
  | .string s => Text.Numeral.value? bound (trimmed s)
  | .number (.whole n _) => if 0 ≤ n ∧ n ≤ bound then some n.toNat else none
  | _ => none

/-- The text that the reason names when the kind is not known. -/
def kindText : Option Json → String
  | none => "<absent>"
  | some (.string s) => s
  | some v => v.render

/-- The kind of a payload. -/
def kindOf (p : Payload) : Except Refusal Kind :=
  match p.kind? with
  | some k => .ok k
  | none => .error (.unknownKind (kindText p.brokerType))

/-- The host of a payload. -/
def hostOf (v : Option Json) : Except Refusal String :=
  match v with
  | some (.string s) =>
    if (trimmed s).isEmpty then .error .missingHost else .ok (String.ofList (trimmed s))
  | _ => .error .missingHost

/-- The port of a payload, if it is set. -/
def portOf (v : Option Json) : Except Refusal (Option UInt16) :=
  if isUnset v then .ok none
  else
    match v.bind (number? 65535) with
    | some n => if 0 < n then .ok (some n.toUInt16) else .error (.invalidPort (fieldText v))
    | none => .error (.invalidPort (fieldText v))

/-- The virtual host of a payload: the root if it is absent or empty, the text of a number. -/
def vhostOf : Option Json → Except Refusal String
  | none => .ok "/"
  | some (.string s) => .ok (if s.isEmpty then "/" else s)
  | some (.number n) => .ok (Json.render (.number n))
  | some v => .error (.invalidDb v.render)

/-- The database of a payload: the first one if it is unset. -/
def dbOf (v : Option Json) : Except Refusal UInt32 :=
  if isUnset v then .ok 0
  else
    match v.bind (number? 4294967295) with
    | some n => .ok n.toUInt32
    | none => .error (.invalidDb (fieldText v))

/-- The text of a field, empty if it is not a string. -/
def textOf (v : Option Json) : String := (v.bind Json.string?).getD ""

/-- The endpoint that a payload describes, or why it describes none. -/
def ofPayload (p : Payload) : Except Refusal Endpoint := do
  let kind ← kindOf p
  let host ← hostOf p.host
  let port ← portOf p.port
  let server : Server :=
    ⟨host, port.getD kind.defaultPort, Credentials.ofParts (textOf p.username) (textOf p.password)⟩
  match kind with
  | .mqtt => return .mqtt server
  | .amqp => return .amqp server (← vhostOf p.db) (textOf p.exchange)
  | .redis => return .redis server (← dbOf p.db)

/-! ### The way back -/

/-- The payload that describes an endpoint, and nothing but it. -/
def toPayload (e : Endpoint) : Payload :=
  let base : Payload :=
    { host := some (.string e.server.host)
      port := some (.number (.ofUInt64 e.server.port.toUInt64))
      brokerType := some (.string e.kind.name)
      username := e.server.credentials.map fun c => .string c.username
      password := e.server.credentials.map fun c => .string c.password }
  match e with
  | .mqtt _ => base
  | .amqp _ vhost exchange =>
    { base with db := some (.string vhost), exchange := some (.string exchange) }
  | .redis _ db => { base with db := some (.number (.ofUInt64 db.toUInt64)) }

end BrokerNode.Endpoint
