/-
BrokerNode/Mqtt/Broker.lean

Brokers that follow a script, and connections to them.

A script says for each connection, and on it for each packet that the broker receives, how the broker
replies.  For a packet that the script does not mention there is no reply; a connection that it does
not mention is closed after its first packet.  What the broker sends is on its way until the client
reads it, also when the connection has been closed behind it.

The broker takes up at once whatever is sent to it.  What is written behind the end of a connection is
lost, without a word or because the system refuses it; otherwise the end is found out by reading.

A connection keeps its traffic: the packets that were sent, those that were lost, and those that were
read.
-/
import BrokerNode.Mqtt.Frame
import BrokerNode.Mqtt.IoError

namespace BrokerNode.Mqtt

/-- One reply of a broker. -/
inductive Reply where
  | bytes (b : List UInt8)
  | connAck (code : UInt8)
  | pubAck (id : Option UInt16)
  | close
deriving DecidableEq, Repr

/-- What a broker does on one connection: its replies to each packet. -/
abbrev Script := List (List Reply)

/-- What there is at the address of a broker: nothing, as the system says; something that never takes a
connection up; or a broker, with what it does on the connections to come. -/
inductive Network where
  | failing (e : IoError)
  | mute
  | broker (scripts : List Script)
deriving DecidableEq, Repr

/-- A packet on a connection, as the client sees it. -/
inductive Traffic where
  | sent (p : Packet)
  | lost (p : Packet)
  | read (p : Incoming)
deriving DecidableEq, Repr

/-- A connection to a broker. -/
structure Connection where
  script : Script
  unread : List UInt8 := []
  closed : Bool := false
  traffic : List Traffic := []
deriving DecidableEq, Repr

/-- The number of a packet, zero if it has none. -/
def Packet.number : Packet → UInt16
  | .publish id _ => id
  | .receipt _ id => id
  | .connect _ | .ping | .disconnect => 0

/-- The packets of some traffic that the broker received. -/
def Traffic.received (traffic : List Traffic) : List Packet :=
  traffic.filterMap fun
    | .sent p => some p
    | _ => none

namespace Reply

/-- The bytes of replies to a packet of the given number, and whether the connection is closed behind
them. -/
def transmission (number : UInt16) : List Reply → List UInt8 × Bool
  | [] => ([], false)
  | .close :: _ => ([], true)
  | .bytes b :: replies => ((b ++ (transmission number replies).1), (transmission number replies).2)
  | .connAck code :: replies =>
    (Frame.connAckBytes code ++ (transmission number replies).1, (transmission number replies).2)
  | .pubAck id :: replies =>
    (Frame.pubAckBytes (id.getD number) ++ (transmission number replies).1,
      (transmission number replies).2)

end Reply

namespace Network

/-- The script of the next connection, and what there is at the address behind it. -/
def next (scripts : List Script) : Script × Network :=
  match scripts with
  | script :: scripts => (script, .broker scripts)
  | [] => ([[.close]], .broker [])

end Network

namespace Connection

/-- A new connection. -/
def fresh (script : Script) : Connection := { script }

/-- Sends a packet. -/
def write (c : Connection) (p : Packet) : Connection :=
  if c.closed then { c with traffic := c.traffic ++ [.lost p] }
  else
    let (bytes, closed) := Reply.transmission p.number (c.script.head?.getD [])
    { script := c.script.tail
      unread := c.unread ++ bytes
      closed
      traffic := c.traffic ++ [.sent p] }

/-- Sends packets, one after the other. -/
def writeAll (c : Connection) (packets : List Packet) : Connection := packets.foldl write c

/-- Packets that the system refuses are lost. -/
def loseAll (c : Connection) (packets : List Packet) : Connection :=
  { c with traffic := c.traffic ++ packets.map .lost }

/-- What reading a packet off a connection gives. -/
inductive Reading where
  | nothing
  | garbled (g : Garble)
  | failed (e : IoError)
  | packet (p : Incoming) (c : Connection)

/-- Reads a packet. -/
def read (c : Connection) : Reading :=
  match Frame.read c.unread with
  | .complete p rest => .packet p { c with unread := rest, traffic := c.traffic ++ [.read p] }
  | .garbled g => .garbled g
  | .incomplete => if c.closed then .failed (.ended !c.unread.isEmpty) else .nothing

end Connection

end BrokerNode.Mqtt
