/-
BrokerNode/Service.lean

The service: one broker node, deployed once on an MQTT topic.

A run finds the settings, loads the definition of the node, deploys the node on an outbox, waits until
the broker has acknowledged the envelope, and takes leave.  The first of these that fails ends the run
with its problem; how taking leave ends does not matter any more.  A run whose environment file asks for
what an environment cannot hold is broken off before it starts, without a word in the log.
-/
import BrokerNode.Definition.File
import BrokerNode.Environment
import BrokerNode.Mqtt.Session
import BrokerNode.Settings
import BrokerNode.Uuid

namespace BrokerNode.Service

/-- Why a run fails. -/
inductive Problem where
  | settings (p : Settings.Problem)
  | definition (p : Definition.LoadProblem)
  | output (f : Mqtt.Outbox.Failure)
  | connection (f : Mqtt.Failure)
  | timeLimit (limit : Nat)

/-- The words for a problem. -/
def Problem.message : Problem → String
  | .settings p => "Configuration error: " ++ p.message
  | .definition p => "Configuration error: " ++ p.message
  | .output f => "Output error: " ++ f.message
  | .connection f => "MQTT connection error: " ++ f.message
  | .timeLimit limit =>
    "Broker did not acknowledge the envelope within " ++ String.ofList (Text.duration limit)

/-- The problem that waiting for the delivery ends with. -/
def Problem.ofUndelivered (limit : Nat) : Mqtt.Session.Undelivered → Problem
  | .failed f => .connection f
  | .timeLimit => .timeLimit limit

/-- The name under which the service introduces itself. -/
def clientId (id : Uuid) : String := "broker_node_" ++ id.render

/-- What chance and the surroundings contribute to a run. -/
structure Circumstances where
  nodeId : Uuid
  clientId : Uuid
  network : Mqtt.Network
  delivery : List Mqtt.Turn
  leave : List Mqtt.Turn

/-- A line of the service itself. -/
def line (level : Log.Level) (message : String) : Log.Line := ⟨level, .service, message⟩

/-! ### The start -/

/-- A session for settings, with nothing in its outbox. -/
def connect (s : Settings) (c : Circumstances) : Mqtt.Session :=
  .start (Mqtt.Options.ofServer (clientId c.clientId) s.server).connect c.network
    (.empty s.topic s.retain)

/-- What the start of a run gives: the settings, a deployed node, and a session with the envelope of
the node in its outbox. -/
structure Started where
  settings : Settings
  node : Node
  session : Mqtt.Session

/-- Deploys a node for settings. -/
def deploy (s : Settings) (d : Definition) (c : Circumstances) : Except Problem Started × Log :=
  let sent := (connect s c).deploy c.nodeId.render d
  let log := Mqtt.Outbox.announcement s.server :: sent.log
  match sent.outcome with
  | .error f => (.error (.output f), log)
  | .ok node => (.ok ⟨s, node, sent.state⟩, log)

/-- Starts the service with the settings that variables give; `read` gives what there is at a path. -/
def start (lookup : String → Option String) (read : String → Folder.FileResult)
    (c : Circumstances) : Except Problem Started × Log :=
  match Settings.ofVariables lookup with
  | .error p => (.error (.settings p), [])
  | .ok s =>
    match Definition.ofFile (read s.definitionPath) with
    | .error p => (.error (.definition p), [])
    | .ok d =>
      let (outcome, log) := deploy s d c
      (outcome, line .info ("Loaded broker node definition from " ++ s.definitionPath) :: log)

/-! ### The run -/

/-- How a run ends. -/
inductive Ending where
  | delivered
  | failed (p : Problem)
  | brokenOff (f : Environment.Fault)

/-- The exit code for an ending. -/
def Ending.exitCode : Ending → UInt8
  | .delivered => 0
  | .failed _ => 1
  | .brokenOff _ => 101

/-- What a run leaves behind. -/
structure Run where
  ending : Ending
  log : Log
  traffic : List (List Mqtt.Traffic)

/-- The exit code of a run. -/
def Run.exitCode (r : Run) : UInt8 := r.ending.exitCode

/-- A run that failed: the problem is its last line. -/
def Run.failed (p : Problem) (log : Log) (traffic : List (List Mqtt.Traffic)) : Run where
  ending := .failed p
  log := log ++ [line .error p.message]
  traffic := traffic

/-- Waits for the delivery of what is in the outbox, and takes leave. -/
def deliver (limit : Nat) (s : Mqtt.Session) (c : Circumstances) : Run :=
  match s.await limit c.delivery with
  | (.error u, s, log) => .failed (.ofUndelivered limit u) log s.traffic
  | (.ok (), s, log) =>
    let delivered := line .info ("Envelope delivered to '" ++ s.outbox.topic ++ "'")
    let (_, s, log') := s.shutdown limit c.leave
    { ending := .delivered, log := log ++ delivered :: log', traffic := s.traffic }

/-- Runs the service in an environment; `dotenv` is the environment file, and `read` gives what there
is at a path. -/
def run (env : Environment) (dotenv : Option ByteArray) (read : String → Folder.FileResult)
    (c : Circumstances) : Run :=
  match env.topUp dotenv with
  | .error f => { ending := .brokenOff f, log := [], traffic := [] }
  | .ok env =>
    match start env.value? read c with
    | (.error p, log) => .failed p log []
    | (.ok started, log) =>
      let deployed := line .info ("Broker node " ++ started.node.id ++ " instantiated")
      let r := deliver started.settings.timeLimit started.session c
      { r with log := log ++ deployed :: r.log }

end BrokerNode.Service
