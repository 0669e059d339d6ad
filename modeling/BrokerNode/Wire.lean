/-
BrokerNode/Wire.lean

Wires: what the output of a node can be connected to.

A wire takes one envelope at a time.  Sending may change the state behind the wire and may fail, and
it may write log lines; the outcome says all three.  Two wires are defined here that need nothing
else: one that collects what is sent, and one that is broken and counts the attempts.
-/
import BrokerNode.Envelope
import BrokerNode.Log

namespace BrokerNode

/-- What became of sending something: success or failure, the state behind the wire afterwards and
the log lines that were written. -/
structure Sent (α σ ε : Type) where
  outcome : Except ε α
  state : σ
  log : Log := []

/-- A wire: how an envelope is sent, given the state behind it. -/
structure Wire (σ ε : Type) where
  send : σ → Envelope → Sent Unit σ ε

namespace Wire

/-- A wire that collects envelopes and never fails. -/
def collecting : Wire (List Envelope) Empty where
  send collected e := { outcome := .ok (), state := collected ++ [e] }

/-- A wire that always fails in the same way; its state counts the attempts. -/
def broken {ε : Type} (failure : ε) : Wire Nat ε where
  send attempts _ := { outcome := .error failure, state := attempts + 1 }

end Wire

end BrokerNode
