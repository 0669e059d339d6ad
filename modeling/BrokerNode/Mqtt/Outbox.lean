/-
BrokerNode/Mqtt/Outbox.lean

The outbox of a publisher: requests that wait until a session carries them out.

An outbox belongs to one topic.  Sending an envelope puts a publication behind the requests that wait;
it goes to the broker when a session takes it off the other end, oldest first.  An outbox holds a
fixed number of requests and refuses more, it refuses a topic that cannot be published on, and it
refuses everything once nobody is there to take requests off.
-/
import BrokerNode.Mqtt.Packet
import BrokerNode.Node
import BrokerNode.Topic

namespace BrokerNode.Mqtt

/-- Something that a session is asked to do. -/
inductive Request where
  | publish (id : Option UInt16) (p : Publication)
  | release (id : UInt16)
  | disconnect
deriving DecidableEq, Repr

/-! ### The queue -/

/-- The requests on their way to a session. -/
inductive Queue where
  | connected (waiting : List Request)
  | disconnected
deriving DecidableEq, Repr

namespace Queue

/-- How many requests can wait. -/
def capacity : Nat := 10

/-- The requests that wait. -/
def waiting : Queue → List Request
  | .connected waiting => waiting
  | .disconnected => []

/-- Puts a request behind those that wait, if there is a place for it. -/
def push? (r : Request) : Queue → Option Queue
  | .connected waiting => if waiting.length < capacity then some (.connected (waiting ++ [r])) else none
  | .disconnected => none

/-- The queue after everything that waits was taken out. -/
def drained : Queue → Queue
  | .connected _ => .connected []
  | .disconnected => .disconnected

end Queue

/-! ### The outbox -/

/-- The outbox of a publisher. -/
structure Outbox where
  topic : String
  retain : Bool
  queue : Queue
deriving DecidableEq, Repr

namespace Outbox

/-- A new outbox. -/
def empty (topic : String) (retain : Bool) : Outbox := ⟨topic, retain, .connected []⟩

/-- The line that announces the configuration of a server. -/
def announcement (s : Server) : Log.Line where
  level := .debug
  source := .publisher
  message := "Configuring MQTT broker at " ++ s.host ++ ":" ++ toString s.port.toNat ++ "..."

/-- The refusal of a request. -/
inductive Refusal where
  | notQueued
deriving DecidableEq, Repr

/-- The words for a refusal. -/
def Refusal.message : Refusal → String
  | .notQueued => "Failed to send mqtt requests to eventloop"

/-- The failure to send an envelope. -/
inductive Failure where
  | refused (r : Refusal)
deriving DecidableEq, Repr

/-- The words for a failure. -/
def Failure.message : Failure → String
  | .refused r => "Failed to publish envelope: " ++ r.message

/-- The publication of an envelope. -/
def publication (o : Outbox) (e : Envelope) : Publication := ⟨o.topic, .atLeastOnce, o.retain, e.body⟩

/-- Puts a request into the outbox. -/
def put (o : Outbox) (r : Request) : Except Refusal Outbox :=
  match o.queue.push? r with
  | some queue => .ok { o with queue }
  | none => .error .notQueued

/-- Puts the publication of an envelope into the outbox. -/
def publish (o : Outbox) (e : Envelope) : Except Refusal Outbox :=
  if Topic.isPublishable o.topic then o.put (.publish none (o.publication e)) else .error .notQueued

/-- The line that says that an envelope is in the outbox. -/
def queuedLine (o : Outbox) : Log.Line where
  level := .info
  source := .publisher
  message := "Envelope queued for '" ++ o.topic ++ "'"

/-- The wire into an outbox. -/
def wire : Wire Outbox Failure where
  send o e :=
    match o.publish e with
    | .ok o' => { outcome := .ok (), state := o', log := [o.queuedLine] }
    | .error r => { outcome := .error (.refused r), state := o }

/-! ### Using an outbox -/

/-- What can be done with an outbox that no session takes requests from. -/
inductive Action where
  | send (e : Envelope)
  | deploy (fresh : String) (d : Definition)
  | disconnect
  | drain
  | close

/-- What came of an action. -/
inductive Outcome where
  | done
  | deployed (node : Node)
  | failed (f : Failure)
  | refused (r : Refusal)
  | drained (waiting : Option (List Request))

/-- Performs an action.  Returns what came of it, the outbox afterwards and the log lines. -/
def perform (o : Outbox) : Action → Outcome × Outbox × Log
  | .send e =>
    let sent := wire.send o e
    match sent.outcome with
    | .ok () => (.done, sent.state, sent.log)
    | .error f => (.failed f, sent.state, sent.log)
  | .deploy fresh d =>
    let sent := Node.deploy fresh d wire o
    match sent.outcome with
    | .ok node => (.deployed node, sent.state, sent.log)
    | .error f => (.failed f, sent.state, sent.log)
  | .disconnect =>
    match o.put .disconnect with
    | .ok o' => (.done, o', [])
    | .error r => (.refused r, o, [])
  | .drain =>
    match o.queue with
    | .connected waiting => (.drained (some waiting), { o with queue := o.queue.drained }, [])
    | .disconnected => (.drained none, o, [])
  | .close => (.done, { o with queue := .disconnected }, [])

/-- Performs actions one after the other. -/
def run (o : Outbox) : List Action → List (Outcome × Log) × Outbox
  | [] => ([], o)
  | a :: actions =>
    let (outcome, o', log) := perform o a
    let (outcomes, o'') := run o' actions
    ((outcome, log) :: outcomes, o'')

end Outbox

end BrokerNode.Mqtt
