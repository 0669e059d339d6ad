/-
BrokerNode/Mqtt/Flight.lean

What a client remembers between its packets and the broker's answers.

Every publication above level 0 gets a number, from one to `maxNumber` and round again, and is
remembered until its confirmation comes.  If the next number is still in use, the publication is held
back until that number is confirmed.  Each packet that is sent or accepted leaves an event, and the
events are taken off in that order.

A sign of life must be answered before the next one is due, and a publication may not be held back over
two of them.

When the connection is lost, what was not confirmed becomes requests again: the publications with
their numbers, starting behind the number that was confirmed last, then the numbers to be given up.
Events and a publication that was held back stay, and signs of life start anew.
-/
import BrokerNode.Mqtt.Frame
import BrokerNode.Mqtt.IoError
import BrokerNode.Mqtt.Outbox

namespace BrokerNode.Mqtt

/-- Something that a client has sent, or meant to send. -/
inductive Outgoing where
  | publish (id : UInt16)
  | receipt (r : Receipt) (id : UInt16)
  | heldBack (id : UInt16)
  | ping
  | disconnect
deriving DecidableEq, Repr

/-- Something that happened in a client. -/
inductive Event where
  | incoming (p : Incoming)
  | outgoing (o : Outgoing)
deriving DecidableEq, Repr

/-- Why a client gives its connection up. -/
inductive Breach where
  | tooLarge (size : Nat)
  | unsolicited (id : UInt16)
  | unexpected
  | garbled (g : Garble)
  | io (e : IoError)
  | pingUnanswered
  | heldBackTooLong
deriving DecidableEq, Repr

/-- The largest packet that is sent. -/
def maxPacketSize : Nat := 10240

/-- The words for a breach. -/
def Breach.message : Breach → String
  | .tooLarge size =>
    "Cannot send packet of size '" ++ toString size ++
      "'. It's greater than the broker's maximum packet size of: '" ++ toString maxPacketSize ++ "'"
  | .unsolicited id => "Received unsolicited ack pkid: " ++ toString id.toNat
  | .unexpected => "Received a wrong packet while waiting for another packet"
  | .garbled g => "Mqtt serialization/deserialization error: " ++ g.message
  | .io e => "Io error: " ++ e.shown.plain
  | .pingUnanswered => "Last pingreq isn't acked"
  | .heldBackTooLong => "Timeout while waiting to resolve collision"

/-- What a client remembers. -/
structure Flight where
  -- the number that was given out last, zero at the start of a round
  lastNumber : Nat := 0
  lastAcknowledged : Nat := 0
  -- how many confirmations are due
  due : Nat := 0
  unconfirmed : List (UInt16 × Publication) := []
  -- the numbers that were given up, until the broker says so too
  released : List UInt16 := []
  -- the numbers of publications of the broker that it has not given up
  received : List UInt16 := []
  heldBack : Option (UInt16 × Publication) := none
  -- whether the last sign of life was not answered yet
  pingOpen : Bool := false
  -- how many signs of life were due since a publication is held back
  heldBackPings : Nat := 0
  events : List Event := []

namespace Flight

/-- The largest number, which is also how many publications may be unconfirmed. -/
def maxNumber : Nat := 100

/-- Whether a number belongs to a publication that was not confirmed. -/
def isUnconfirmed (f : Flight) (id : UInt16) : Bool := (f.unconfirmed.lookup id).isSome

/-- Leaves an event. -/
def note (f : Flight) (e : Event) : Flight := { f with events := f.events ++ [e] }

/-- The next number. -/
def nextNumber (f : Flight) : UInt16 × Flight :=
  let n := f.lastNumber + 1
  (n.toUInt16, { f with lastNumber := if n = maxNumber then 0 else n })

/-- Remembers a publication under its number. -/
def remember (f : Flight) (id : UInt16) (p : Publication) : Flight :=
  { f with unconfirmed := f.unconfirmed ++ [(id, p)], due := f.due + 1 }

/-- Forgets the publication of a number. -/
def forget (f : Flight) (id : UInt16) : Flight :=
  { f with unconfirmed := f.unconfirmed.filter fun e => e.1 != id }

/-! ### Sending -/

/-- The number for a publication: the one it had, or the next. -/
def numberFor (f : Flight) : Option UInt16 → UInt16 × Flight
  | some id => (id, f)
  | none => f.nextNumber

/-- Sends a publication, or holds it back. -/
def sendPublication (f : Flight) (id : Option UInt16) (p : Publication) : Option Packet × Flight :=
  if p.qos = .atMostOnce then (some (.publish 0 p), f.note (.outgoing (.publish 0)))
  else
    let (n, f) := f.numberFor id
    if f.isUnconfirmed n then
      (none, { f with heldBack := some (n, p) }.note (.outgoing (.heldBack n)))
    else (some (.publish n p), (f.remember n p).note (.outgoing (.publish n)))

/-- Carries a request out: the packet to send, if there is one, or the breach. -/
def send (f : Flight) : Request → Except Breach (Option Packet) × Flight
  | .publish id p =>
    if maxPacketSize < p.size id.isSome then (.error (.tooLarge (p.size id.isSome)), f)
    else
      let (packet, f) := f.sendPublication id p
      (.ok packet, f)
  | .release id =>
    (.ok (some (.receipt .released id)),
      { f with released := f.released.insert id, due := f.due + 1 }.note
        (.outgoing (.receipt .released id)))
  | .disconnect => (.ok (some .disconnect), f.note (.outgoing .disconnect))

/-- Which sign of life finds a publication held back for too long. -/
def maxHeldBackPings : Nat := 2

/-- Counts a sign of life that is due while a publication is held back. -/
def countPing (f : Flight) : Flight :=
  if f.heldBack.isSome then { f with heldBackPings := f.heldBackPings + 1 } else f

/-- Shows that the client is there, unless the broker has left too much open. -/
def ping (f : Flight) : Except Breach (Option Packet) × Flight :=
  let f := f.countPing
  if f.heldBack.isSome ∧ maxHeldBackPings ≤ f.heldBackPings then (.error .heldBackTooLong, f)
  else if f.pingOpen then (.error .pingUnanswered, f)
  else (.ok (some .ping), { f with pingOpen := true }.note (.outgoing .ping))

/-! ### Receiving -/

/-- The publication that was held back for a number, taken off. -/
def takeHeldBack (f : Flight) (id : UInt16) : Option (UInt16 × Publication) × Flight :=
  match f.heldBack with
  | some (n, p) =>
    if n = id then (some (n, p), { f with heldBack := none, heldBackPings := 0 }) else (none, f)
  | none => (none, f)

/-- An acknowledgement of a publication. -/
def acknowledge (f : Flight) (id : UInt16) : Except Breach (Option Packet) × Flight :=
  if maxNumber < id.toNat then (.error (.unsolicited id), f)
  else
    let f := { f with lastAcknowledged := id.toNat }
    if f.isUnconfirmed id then
      let f := { f.forget id with due := f.due - 1 }
      match f.takeHeldBack id with
      | (some (n, p), f) => (.ok (some (.publish n p)), (f.remember n p).note (.outgoing (.publish n)))
      | (none, f) => (.ok none, f)
    else (.error (.unsolicited id), f)

/-- The first step of the confirmation at level 2. -/
def arrive (f : Flight) (id : UInt16) : Except Breach (Option Packet) × Flight :=
  if f.isUnconfirmed id then
    let f := { f.forget id with released := f.released.insert id }
    (.ok (some (.receipt .released id)), f.note (.outgoing (.receipt .released id)))
  else (.error (.unsolicited id), f)

/-- The broker gives up the number of a publication of its own. -/
def release (f : Flight) (id : UInt16) : Except Breach (Option Packet) × Flight :=
  if id ∈ f.received then
    let f := { f with received := f.received.erase id }
    (.ok (some (.receipt .completed id)), f.note (.outgoing (.receipt .completed id)))
  else (.error (.unsolicited id), f)

/-- The last step of the confirmation at level 2. -/
def complete (f : Flight) (id : UInt16) : Except Breach (Option Packet) × Flight :=
  if id ∈ f.released then
    let f := { f with released := f.released.erase id, due := f.due - 1 }
    match f.takeHeldBack id with
    | (some (n, p), f) => (.ok (some (.publish n p)), f.note (.outgoing (.publish n)))
    | (none, f) => (.ok none, f)
  else (.error (.unsolicited id), f)

/-- A publication of the broker. -/
def welcome (f : Flight) (id : UInt16) : Qos → Option Packet × Flight
  | .atMostOnce => (none, f)
  | .atLeastOnce =>
    (some (.receipt .acknowledged id), f.note (.outgoing (.receipt .acknowledged id)))
  | .exactlyOnce =>
    (some (.receipt .received id),
      { f with received := f.received.insert id }.note (.outgoing (.receipt .received id)))

/-- What a packet of the broker calls for: the packet to answer with, if there is one, or the
breach. -/
def answer (f : Flight) : Incoming → Except Breach (Option Packet) × Flight
  | .pingResponse => (.ok none, { f with pingOpen := false })
  | .subAck _ _ | .unsubAck _ => (.ok none, f)
  | .publish id _ qos _ _ =>
    let (packet, f) := f.welcome id qos
    (.ok packet, f)
  | .receipt .acknowledged id => f.acknowledge id
  | .receipt .received id => f.arrive id
  | .receipt .released id => f.release id
  | .receipt .completed id => f.complete id
  | .connAck _ _ | .misplaced _ => (.error .unexpected, f)

/-- Takes in a packet of the broker; it leaves an event if it is accepted. -/
def receive (f : Flight) (p : Incoming) : Except Breach (Option Packet) × Flight :=
  match f.answer p with
  | (.ok packet, f) => (.ok packet, f.note (.incoming p))
  | (.error b, f) => (.error b, f)

/-! ### Losing the connection -/

/-- The numbers in the order in which their publications are asked for again. -/
def numbersBehind (last : Nat) : List UInt16 :=
  let numbers := (List.range (maxNumber + 1)).map Nat.toUInt16
  numbers.drop (last + 1) ++ numbers.take (last + 1)

/-- Everything that is not confirmed, as requests. -/
def requests (f : Flight) : List Request :=
  (numbersBehind f.lastAcknowledged).filterMap
      (fun id => (f.unconfirmed.lookup id).map (.publish (some id))) ++
    ((numbersBehind maxNumber).filter (· ∈ f.released)).map .release

/-- What is remembered beyond the connection. -/
def afterLoss (f : Flight) : Flight :=
  { f with
    due := 0, unconfirmed := [], released := [], received := [], pingOpen := false
    heldBackPings := 0 }

end Flight

/-! ### How events and breaches are shown -/

open Text (Shown)

/-- How something sent is shown. -/
def Outgoing.shown : Outgoing → Shown
  | .publish id => .named "Publish" [.nat id.toNat]
  | .receipt r id => .named r.name [.nat id.toNat]
  | .heldBack id => .named "AwaitAck" [.nat id.toNat]
  | .ping => .word "PingReq"
  | .disconnect => .word "Disconnect"

/-- How an event is shown. -/
def Event.shown : Event → Shown
  | .incoming p => .named "Incoming" [p.shown]
  | .outgoing o => .named "Outgoing" [o.shown]

/-- How a breach is shown. -/
def Breach.shown : Breach → Shown
  | .tooLarge size =>
    .record "OutgoingPacketTooLarge" [("pkt_size", .nat size), ("max", .nat maxPacketSize)]
  | .unsolicited id => .named "Unsolicited" [.nat id.toNat]
  | .unexpected => .word "WrongPacket"
  | .garbled g => .named "Deserialization" [g.shown]
  | .io e => .named "Io" [e.shown]
  | .pingUnanswered => .word "AwaitPingResp"
  | .heldBackTooLong => .word "CollisionTimeout"

end BrokerNode.Mqtt
