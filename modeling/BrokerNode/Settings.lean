/-
BrokerNode/Settings.lean

The settings of the service, and how they are found in variables.

Three variables are needed, the others have defaults.  The checks come in a fixed order and the
first that fails gives the problem: the three that are needed, the port, the retain flag, the time
limit, and last the range of the time limit.

The variables are those of the environment of the process, topped up from an environment file.
-/
import BrokerNode.Endpoint.Basic
import BrokerNode.Environment
import BrokerNode.Text.Numeral
import BrokerNode.Topic

namespace BrokerNode

/-- The settings of the service. -/
structure Settings where
  definitionPath : String
  host : String
  port : UInt16
  username : String
  password : String
  retain : Bool
  timeLimit : Nat
  topic : String
deriving DecidableEq, Repr

namespace Settings

/-- Why variables do not give settings. -/
inductive Problem where
  | missing (name : String)
  | invalidPort
  | invalidRetain
  | invalidTimeLimit
  | timeLimitOutOfRange
deriving DecidableEq, Repr

/-- The shortest time limit, in milliseconds. -/
def minTimeLimit : Nat := 100

/-- The longest time limit, in milliseconds. -/
def maxTimeLimit : Nat := 1000000

/-- The words for a problem. -/
def Problem.message : Problem → String
  | .missing name => "Environment variable " ++ name ++ " is missing or invalid."
  | .invalidPort => "Parsing error: MQTT_PORT must be a valid number"
  | .invalidRetain => "Parsing error: MQTT_RETAIN must be true or false"
  | .invalidTimeLimit => "Parsing error: MQTT_PUBLISH_TIMEOUT_MS must be a valid number"
  | .timeLimitOutOfRange =>
    "Parsing error: MQTT_PUBLISH_TIMEOUT_MS must be between " ++ toString minTimeLimit ++ " and " ++
      toString maxTimeLimit ++ " ms"

/-- A truth value in words. -/
def flag? (s : String) : Option Bool :=
  if s = "true" then some true else if s = "false" then some false else none

/-- A variable that is needed. -/
def required (lookup : String → Option String) (name : String) : Except Problem String :=
  match lookup name with
  | some v => .ok v
  | none => .error (.missing name)

/-- A value that was read, or the problem that it was not. -/
def orProblem {α : Type} (e : Problem) : Option α → Except Problem α
  | some a => .ok a
  | none => .error e

/-- The topic that the variables ask for. -/
def topicOf (lookup : String → Option String) : String :=
  Topic.join ((lookup "MQTT_ROOT_TOPIC").getD "ha_auto")
    ((lookup "MQTT_OUTPUT_TOPIC").getD "broker")

/-- The settings that variables give. -/
def ofVariables (lookup : String → Option String) : Except Problem Settings := do
  let definitionPath ← required lookup "NODE_CONFIG_PATH"
  let host ← required lookup "MQTT_HOST"
  let port ← required lookup "MQTT_PORT"
  let port ← orProblem .invalidPort (Text.Numeral.value? 65535 port.toList)
  let retain ← orProblem .invalidRetain (flag? ((lookup "MQTT_RETAIN").getD "true"))
  let timeLimit ← orProblem .invalidTimeLimit
    (Text.Numeral.value? 18446744073709551615 ((lookup "MQTT_PUBLISH_TIMEOUT_MS").getD "5000").toList)
  if minTimeLimit ≤ timeLimit ∧ timeLimit ≤ maxTimeLimit then
    return {
      definitionPath, host, port := port.toUInt16
      username := (lookup "MQTT_USERNAME").getD ""
      password := (lookup "MQTT_PASSWORD").getD ""
      retain, timeLimit
      topic := topicOf lookup }
  else throw .timeLimitOutOfRange

/-- The settings that an environment gives once it is topped up from an environment file. -/
def ofEnvironment (env : Environment) (dotenv : Option ByteArray) :
    Except Environment.Fault (Except Problem Settings) :=
  (env.topUp dotenv).map fun env => ofVariables env.value?

/-- Where the broker is reached, and as whom. -/
def server (s : Settings) : Server := ⟨s.host, s.port, Credentials.ofParts s.username s.password⟩

open Text (Shown)

/-- How settings are shown. -/
def shown (s : Settings) : Shown :=
  .record "Config" [
    ("node_config_path", .text s.definitionPath),
    ("mqtt_host", .text s.host),
    ("mqtt_port", .nat s.port.toNat),
    ("mqtt_username", .text s.username),
    ("mqtt_password", .text s.password),
    ("mqtt_retain", .bool s.retain),
    ("mqtt_publish_timeout_ms", .nat s.timeLimit),
    ("output_topic", .text s.topic)]

end Settings

end BrokerNode
