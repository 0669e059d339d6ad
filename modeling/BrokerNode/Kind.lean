/-
BrokerNode/Kind.lean

The kinds of broker that an endpoint can belong to.

A kind is named by its lower-case name.  Blanks around the name and the case of ASCII letters do not
matter; letters outside ASCII are taken as they are.
-/
import BrokerNode.Text.Blank

namespace BrokerNode

/-- The kind of a broker. -/
inductive Kind where
  | mqtt
  | amqp
  | redis
deriving DecidableEq, Repr

namespace Kind

/-- The name of a kind. -/
def name : Kind → String
  | .mqtt => "mqtt"
  | .amqp => "amqp"
  | .redis => "redis"

/-- The port that a broker of this kind listens on by default. -/
def defaultPort : Kind → UInt16
  | .mqtt => 1883
  | .amqp => 5672
  | .redis => 6379

/-- A text in the spelling that decides about its kind: without the blanks around it, in lower case. -/
def spelling (s : String) : String := String.ofList ((Text.trim s.toList).map Char.toLower)

/-- The kind with the given name. -/
def ofName? (name : String) : Option Kind :=
  if name = "mqtt" then some .mqtt
  else if name = "amqp" then some .amqp
  else if name = "redis" then some .redis
  else none

/-- A text that names no kind, in the spelling that decides about it. -/
structure Unknown where
  text : String
deriving DecidableEq, Repr

/-- The words for a text that names no kind. -/
def Unknown.message (e : Unknown) : String := "unknown broker type '" ++ e.text ++ "'"

/-- The kind that a text names. -/
def parse (s : String) : Except Unknown Kind :=
  match ofName? (spelling s) with
  | some k => .ok k
  | none => .error ⟨spelling s⟩

theorem ofName?_name (k : Kind) : ofName? k.name = some k := by
  cases k <;> rfl

end Kind

end BrokerNode
