/-
BrokerNode/Mqtt/Session.lean

Sessions: an outbox, what the client remembers, and the connection to the broker.

Nothing happens in a session by itself.  When it is polled it does the next thing that can be done and
reports it as an event: it connects if there is no connection, hands out an event that is left from
before, carries out a request, reads a burst of packets, or shows that it is there.  Which of the last
three comes first, and how many packets have arrived by then, is up to chance, and so is when the system
reports an error on the connection or refuses what is to be sent; a poll is told by its turn.

A list of turns stands for what happens within a time limit, and the limit is over at its end.  How
many of them are signs of life is left open as well: one is due each time the seconds of the
introduction have passed on a connection, whatever else passes there.

When a poll fails, the connection is given up, and what was not confirmed is asked for again, together
with the requests that wait in the outbox.  The next poll connects anew.  A sign of life makes it fail
if the one before was not answered, or if a publication is held back for too long.
-/
import BrokerNode.Mqtt.Broker
import BrokerNode.Mqtt.Flight
import BrokerNode.Text.Duration

namespace BrokerNode.Mqtt

/-- Why a poll fails: an error on the way to a connection, a broker that does not answer the
introduction or answers it with something else, or a breach on the connection. -/
inductive Failure where
  | io (e : IoError)
  | silent
  | refused (code : ConnectCode)
  | notAnswered (p : Incoming)
  | breach (b : Breach)
deriving DecidableEq, Repr

/-- An answer to the introduction that is no packet. -/
def Failure.ofGarble (g : Garble) : Failure := .io (.unnumbered "InvalidData" g.message)

/-- The words for a failure. -/
def Failure.message : Failure → String
  | .io e => "I/O: " ++ e.message
  | .silent => "Network timeout"
  | .refused code => "Connection refused, return code: `" ++ code.name ++ "`"
  | .notAnswered p => "Expected ConnAck packet, received: " ++ p.shown.plain
  | .breach b => "Mqtt state: " ++ b.message

open Text (Shown)

/-- How a failure is shown. -/
def Failure.shown : Failure → Shown
  | .io e => .named "Io" [e.shown]
  | .silent => .word "NetworkTimeout"
  | .refused code => .named "ConnectionRefused" [.word code.name]
  | .notAnswered p => .named "NotConnAck" [p.shown]
  | .breach b => .named "MqttState" [b.shown]

/-- What happens in a poll once there is a connection and no event is left from before: the next request
is carried out, the packets that have arrived are read (`count` at most), the client shows that it is
there, or the system reports an error.  The packets to be sent at the end of it may meet with a refusal
of the system. -/
inductive Turn where
  | request (refusal : Option IoError := none)
  | read (count : Nat) (refusal : Option IoError := none)
  | ping (refusal : Option IoError := none)
  | error (e : IoError)
deriving DecidableEq, Repr

/-- Requests and bursts of ten packets in turn, `rounds` times. -/
def Turn.alternating (rounds : Nat) : List Turn :=
  (List.replicate rounds [.request, .read 10]).flatten

/-- What comes of waiting for the answer to an introduction. -/
def Turn.answer (t : Turn) (c : Connection) : Connection.Reading :=
  match t with
  | .error e => .failed e
  | _ => c.read

/-- A packet that answers an introduction was read. -/
theorem Turn.read_of_answer {t : Turn} {p : Incoming} {c c' : Connection}
    (h : t.answer c = .packet p c') : c.read = .packet p c' := by
  cases t with
  | error e => cases h
  | request refusal | read count refusal | ping refusal => exact h

/-- What a poll reports. -/
inductive Report where
  | event (e : Event)
  | failed (f : Failure)
  | idle
  | unanswered

/-- A session. -/
structure Session where
  connect : Connect
  network : Network
  outbox : Outbox
  pending : List Request := []
  flight : Flight := {}
  connection : Option Connection := none
  past : List (List Traffic) := []

namespace Session

/-- A new session. -/
def start (connect : Connect) (network : Network) (outbox : Outbox) : Session :=
  { connect, network, outbox }

/-- The traffic on all connections, oldest first. -/
def traffic (s : Session) : List (List Traffic) :=
  s.past ++ (s.connection.map Connection.traffic).toList

/-! ### Polling -/

/-- Gives a connection up: what was not confirmed, and what waits in the outbox, is asked for again. -/
def abandon (s : Session) (c : Connection) : Session :=
  { s with
    outbox := { s.outbox with queue := s.outbox.queue.drained }
    pending := s.pending ++ s.flight.requests ++ s.outbox.queue.waiting
    flight := s.flight.afterLoss
    connection := none
    past := s.past ++ [c.traffic] }

/-- Connects, and waits for the answer to the introduction. -/
def establish (s : Session) (t : Turn) : Report × Session :=
  match s.network with
  | .failing e => (.failed (.io e), s)
  | .mute => (.unanswered, s)
  | .broker scripts =>
    let (script, network) := Network.next scripts
    let c := (Connection.fresh script).write (.connect s.connect)
    let without (c : Connection) : Session := { s with network, past := s.past ++ [c.traffic] }
    match t.answer c with
    | .packet (.connAck known .accepted) c =>
      (.event (.incoming (.connAck known .accepted)), { s with network, connection := some c })
    | .packet (.connAck _ code) c => (.failed (.refused code), without c)
    | .packet p c => (.failed (.notAnswered p), without c)
    | .garbled g => (.failed (.ofGarble g), without c)
    | .failed e => (.failed (.io e), without c)
    | .nothing => (.unanswered, without c)

/-- Hands out the oldest event that is left. -/
def report (s : Session) : Report × Session :=
  match s.flight.events with
  | e :: events => (.event e, { s with flight := { s.flight with events } })
  | [] => (.idle, s)

/-- Whether a request may be taken from the outbox: not when too much is unconfirmed, nor when a
publication is held back. -/
def isFree (s : Session) : Bool := s.flight.due < Flight.maxNumber && s.flight.heldBack.isNone

/-- Takes the next request. -/
def nextRequest? (s : Session) : Option (Request × Session) :=
  match s.pending with
  | r :: pending => some (r, { s with pending })
  | [] =>
    if s.isFree then
      match s.outbox.queue.waiting with
      | r :: waiting => some (r, { s with outbox := { s.outbox with queue := .connected waiting } })
      | [] => none
    else none

/-- Ends a step: its packets are sent, or the connection is given up, for a breach or because the system
refuses them. -/
def conclude (s : Session) (c : Connection) (refusal : Option IoError) :
    Except Breach (List Packet) → Report × Session
  | .error b => (.failed (.breach b), s.abandon c)
  | .ok packets =>
    match refusal, packets with
    | some e, _ :: _ => (.failed (.io e), s.abandon (c.loseAll packets))
    | _, _ => { s with connection := some (c.writeAll packets) }.report

/-- How a step ends, with the report and the session behind it. -/
inductive Concluded (s : Session) (c : Connection) :
    Except Breach (List Packet) → Report × Session → Prop where
  | breach (b : Breach) : Concluded s c (.error b) (.failed (.breach b), s.abandon c)
  | refused (packets : List Packet) (e : IoError) :
    Concluded s c (.ok packets) (.failed (.io e), s.abandon (c.loseAll packets))
  | sent (packets : List Packet) :
    Concluded s c (.ok packets) { s with connection := some (c.writeAll packets) }.report

theorem concluded (s : Session) (c : Connection) (refusal : Option IoError)
    (result : Except Breach (List Packet)) :
    Concluded s c result (s.conclude c refusal result) := by
  cases result with
  | error b => exact .breach b
  | ok packets =>
    cases refusal with
    | none => exact .sent packets
    | some e =>
      -- where there is nothing to send there is nothing to refuse
      cases packets with
      | nil => exact .sent []
      | cons packet packets => exact .refused _ e

/-- Carries out the next request. -/
def carryOut (s : Session) (c : Connection) (refusal : Option IoError) : Report × Session :=
  match s.nextRequest? with
  | none => (.idle, s)
  | some (r, s) =>
    let (result, flight) := s.flight.send r
    { s with flight }.conclude c refusal (result.map Option.toList)

/-- Shows that the client is there. -/
def ping (s : Session) (c : Connection) (refusal : Option IoError) : Report × Session :=
  let (result, flight) := s.flight.ping
  { s with flight }.conclude c refusal (result.map Option.toList)

/-- Takes in at most `count` packets.  Returns the packets to answer with, or the breach, what the client
remembers afterwards and the connection. -/
def takeIn : Nat → Flight → Connection → Except Breach (List Packet) × Flight × Connection
  | 0, f, c => (.ok [], f, c)
  | count + 1, f, c =>
    match c.read with
    | .nothing | .failed _ => (.ok [], f, c)
    | .garbled g => (.error (.garbled g), f, c)
    | .packet p c =>
      match f.receive p with
      | (.error b, f) => (.error b, f, c)
      | (.ok packet, f) =>
        let (result, f, c) := takeIn count f c
        (result.map (packet.toList ++ ·), f, c)

/-- The largest burst. -/
def maxBurst : Nat := 10

/-- Takes in a burst.  The end of the connection is met only where there is no packet before it. -/
def takeBurst (count : Nat) (f : Flight) (c : Connection) :
    Except Breach (List Packet) × Flight × Connection :=
  match c.read with
  | .failed e => (.error (.io e), f, c)
  | _ => takeIn (min count maxBurst) f c

/-- Reads a burst of packets, and then sends the answers to them. -/
def readBurst (s : Session) (c : Connection) (count : Nat) (refusal : Option IoError) :
    Report × Session :=
  let (result, flight, c) := takeBurst count s.flight c
  { s with flight }.conclude c refusal result

/-- Polls a session. -/
def poll (s : Session) (t : Turn) : Report × Session :=
  match s.connection with
  | none => s.establish t
  | some c =>
    if s.flight.events.isEmpty then
      match t with
      | .request refusal => s.carryOut c refusal
      | .read count refusal => s.readBurst c count refusal
      | .ping refusal => s.ping c refusal
      | .error e => s.conclude c none (.error (.io e))
    else s.report

/-! ### Waiting for the delivery -/

/-- How long a broker may take to answer an introduction, in milliseconds. -/
def answerLimit : Nat := 5000

/-- Whether a limit is over before a broker has taken too long to answer an introduction.  When both
are over at the same time it is up to chance which is noticed: the limit, if it leaves no more turns. -/
def isOverBeforeAnswer (limit : Nat) (turns : List Turn) : Bool :=
  limit < answerLimit || limit = answerLimit && turns.isEmpty

/-- A line about the session. -/
def line (level : Log.Level) (message : String) : Log.Line := ⟨level, .session, message⟩

/-- The line about an event. -/
def eventLine : Event → Log.Line
  | .incoming (.connAck _ _) => line .info "Connected to MQTT broker."
  | .incoming (.receipt .acknowledged id) =>
    line .debug ("Broker acknowledged packet " ++ toString id.toNat)
  | .outgoing (.publish id) => line .debug ("Outgoing publish " ++ toString id.toNat)
  | e => line .debug ("Unhandled event: " ++ e.shown.plain)

/-- Whether an event is the acknowledgement that is waited for. -/
def isDelivery : Event → Bool
  | .incoming (.receipt .acknowledged _) => true
  | _ => false

/-- Why waiting for the delivery ends without it. -/
inductive Undelivered where
  | failed (f : Failure)
  | timeLimit
deriving DecidableEq, Repr

/-- Polls until something is acknowledged, a poll fails or the limit is over.  A broker that does not
answer the introduction makes the poll fail, unless the limit is over by then. -/
def await (limit : Nat) : List Turn → Session → Except Undelivered Unit × Session × Log
  | [], s => (.error .timeLimit, s, [])
  | t :: turns, s =>
    match s.poll t with
    | (.event e, s) =>
      if isDelivery e then (.ok (), s, [eventLine e])
      else
        let (outcome, s, log) := await limit turns s
        (outcome, s, eventLine e :: log)
    | (.failed f, s) => (.error (.failed f), s, [])
    | (.idle, s) => await limit turns s
    | (.unanswered, s) =>
      (.error (if isOverBeforeAnswer limit turns then .timeLimit else .failed .silent), s, [])

/-! ### Taking leave -/

/-- How taking leave ends. -/
inductive Leave where
  | done
  | timeLimit
  | stuck
deriving DecidableEq, Repr

/-- The line about a failure while the leave is to be sent. -/
def lossLine (f : Failure) : Log.Line := line .debug ("Event loop closed: " ++ f.shown.plain)

/-- Polls until the leave is sent, a poll fails or the limit is over. -/
def flush (limit : Nat) : List Turn → Session → Leave × Session × Log
  | [], s => (.timeLimit, s, [])
  | t :: turns, s =>
    match s.poll t with
    | (.event (.outgoing .disconnect), s) => (.done, s, [])
    | (.event _, s) => flush limit turns s
    | (.failed f, s) => (.done, s, [lossLine f])
    | (.idle, s) => flush limit turns s
    | (.unanswered, s) =>
      if isOverBeforeAnswer limit turns then (.timeLimit, s, []) else (.done, s, [lossLine .silent])

/-- The line about how taking leave ended. -/
def leaveLine (limit : Nat) : Leave → Log
  | .done => [line .info "Disconnected from MQTT broker."]
  | .timeLimit =>
    [line .warn ("Disconnect was not flushed within " ++ String.ofList (Text.duration limit))]
  | .stuck => []

/-- Asks for the leave and polls until it is sent.  The request waits for its place in the outbox
before the limit starts. -/
def shutdown (limit : Nat) (turns : List Turn) (s : Session) : Leave × Session × Log :=
  match s.outbox.put .disconnect with
  | .error _ => (.stuck, s, [])
  | .ok outbox =>
    let (leave, s, log) := flush limit turns { s with outbox }
    (leave, s, log ++ leaveLine limit leave)

/-! ### Using a session -/

/-- What can be done with a session. -/
inductive Action where
  | deploy (fresh : String) (d : Definition)
  | await (limit : Nat) (turns : List Turn)
  | shutdown (limit : Nat) (turns : List Turn)

/-- What came of an action. -/
inductive Outcome where
  | deployed (node : Node)
  | notDeployed (f : Outbox.Failure)
  | delivered
  | undelivered (u : Undelivered)
  | left (l : Leave)

/-- Deploys a node on the outbox of a session. -/
def deploy (fresh : String) (d : Definition) (s : Session) : Sent Node Session Outbox.Failure :=
  let sent := Node.deploy fresh d Outbox.wire s.outbox
  { outcome := sent.outcome, state := { s with outbox := sent.state }, log := sent.log }

/-- Performs an action.  Returns what came of it, the session afterwards and the log lines. -/
def perform (s : Session) : Action → Outcome × Session × Log
  | .deploy fresh d =>
    let sent := s.deploy fresh d
    match sent.outcome with
    | .ok node => (.deployed node, sent.state, sent.log)
    | .error f => (.notDeployed f, sent.state, sent.log)
  | .await limit turns =>
    match await limit turns s with
    | (.ok (), s, log) => (.delivered, s, log)
    | (.error u, s, log) => (.undelivered u, s, log)
  | .shutdown limit turns =>
    let (leave, s, log) := shutdown limit turns s
    (.left leave, s, log)

/-- Performs actions one after the other, up to one that does not end. -/
def run (s : Session) : List Action → List (Outcome × Log) × Session
  | [] => ([], s)
  | a :: actions =>
    match perform s a with
    | (.left .stuck, s, log) => ([(.left .stuck, log)], s)
    | (outcome, s, log) =>
      let (outcomes, s) := run s actions
      ((outcome, log) :: outcomes, s)

end Session

end BrokerNode.Mqtt
