/-
BrokerNode/Channel.lean

Channels: wires to a consumer in the same process.

A channel keeps envelopes in the order in which they were sent, as many as there are, until the
consumer takes them.  Once the consumer is gone, so is everything that still waited, and nothing can
be sent any more.

A bench is a channel in use: nodes are deployed on it or on other wires, the consumer takes envelopes
and goes, and a new channel may take its place.
-/
import BrokerNode.Node

namespace BrokerNode

/-- A channel. -/
inductive Channel where
  | connected (waiting : List Envelope)
  | disconnected

namespace Channel

/-- A new channel. -/
def empty : Channel := .connected []

/-- The failure of a wire whose consumer is gone. -/
inductive Failure where
  | disconnected
deriving DecidableEq, Repr

/-- The words for a failure. -/
def Failure.message : Failure → String
  | .disconnected => "Downstream receiver is gone."

/-- The wire into a channel. -/
def wire : Wire Channel Failure where
  send
    | .connected waiting, e => { outcome := .ok (), state := .connected (waiting ++ [e]) }
    | .disconnected, _ => { outcome := .error .disconnected, state := .disconnected }

/-- The envelopes that wait, if the consumer is there. -/
def waiting? : Channel → Option (List Envelope)
  | .connected waiting => some waiting
  | .disconnected => none

/-- What the consumer finds when it looks for an envelope. -/
inductive Delivery where
  | envelope (e : Envelope)
  | nothing
  | noConsumer

/-- Takes the oldest envelope that waits. -/
def receive : Channel → Delivery × Channel
  | .connected (e :: waiting) => (.envelope e, .connected waiting)
  | .connected [] => (.nothing, .connected [])
  | .disconnected => (.noConsumer, .disconnected)

end Channel

/-! ### Benches -/

/-- What a node's output is connected to on a bench. -/
inductive Bench.Outlet where
  | channel
  | collecting
  | broken (failure : String)

/-- What can be done on a bench. -/
inductive Bench.Action where
  | deploy (fresh : String) (d : Definition) (outlet : Bench.Outlet)
  | receive
  | close
  | reopen

/-- Why a deployment on a bench failed. -/
inductive Bench.Failure where
  | channel (f : Channel.Failure)
  | broken (failure : String) (attempts : Nat)

/-- What came of an action on a bench. -/
inductive Bench.Outcome where
  | deployed (node : Node) (collected : Option (List Envelope))
  | failed (f : Bench.Failure)
  | received (d : Channel.Delivery)
  | done

namespace Bench

/-- Performs an action.  Returns what came of it, the channel afterwards and the log lines. -/
def perform (c : Channel) : Action → Outcome × Channel × Log
  | .deploy fresh d .channel =>
    let sent := Node.deploy fresh d Channel.wire c
    match sent.outcome with
    | .ok node => (.deployed node none, sent.state, sent.log)
    | .error f => (.failed (.channel f), sent.state, sent.log)
  | .deploy fresh d .collecting =>
    let sent := Node.deploy fresh d Wire.collecting []
    match sent.outcome with
    | .ok node => (.deployed node (some sent.state), c, sent.log)
    | .error f => nomatch f
  | .deploy fresh d (.broken failure) =>
    let sent := Node.deploy fresh d (Wire.broken failure) 0
    match sent.outcome with
    | .ok node => (.deployed node none, c, sent.log)
    | .error f => (.failed (.broken f sent.state), c, sent.log)
  | .receive => let (d, c') := c.receive; (.received d, c', [])
  | .close => (.done, .disconnected, [])
  | .reopen => (.done, .empty, [])

/-- Performs actions one after the other. -/
def run (c : Channel) : List Action → List (Outcome × Log) × Channel
  | [] => ([], c)
  | a :: actions =>
    let (outcome, c', log) := perform c a
    let (outcomes, c'') := run c' actions
    ((outcome, log) :: outcomes, c'')

end Bench

end BrokerNode
