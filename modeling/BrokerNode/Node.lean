/-
BrokerNode/Node.lean

Deployed broker nodes.

Deploying a node is all that it ever does: the payload of its definition is put into an envelope and
sent once, over the wire that the node's output is connected to.  Nothing is checked, so a half-filled
definition gives a half-filled payload.  If the wire fails, its failure is returned as it is and there
is no node.
-/
import BrokerNode.Wire

namespace BrokerNode

/-- A deployed node. -/
structure Node where
  id : String
  name : Option String
deriving DecidableEq, Repr

namespace Node

/-- The id of a node: a string as it is, any other value as its text, and without a value the fresh
id. -/
def idOf (fresh : String) : Option Json → String
  | none => fresh
  | some (.string s) => s
  | some v => v.render

/-- The node that a definition describes. -/
def ofDefinition (fresh : String) (d : Definition) : Node where
  id := idOf fresh d.id
  name := d.payload.name.bind Json.string?

/-- The line that announces what a node emits; passwords are masked in it. -/
def announcement (n : Node) (p : Payload) : Log.Line where
  level := .debug
  source := .emitter
  message :=
    "Broker node " ++ n.id ++ " (" ++ n.name.getD "unnamed" ++ ") emitting " ++ p.shown.plain

/-- Deploys the node that a definition describes: sends its envelope over a wire.  `fresh` is the id
that the node gets if its definition has none. -/
def deploy {σ ε : Type} (fresh : String) (d : Definition) (wire : Wire σ ε) (state : σ) :
    Sent Node σ ε :=
  let node := ofDefinition fresh d
  let sent := wire.send state (.ofDefinition d)
  { outcome := sent.outcome.map fun _ => node
    state := sent.state
    log := node.announcement d.payload :: sent.log }

end Node

end BrokerNode
