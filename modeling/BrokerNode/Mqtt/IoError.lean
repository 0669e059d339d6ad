/-
BrokerNode/Mqtt/IoError.lean

Errors of the system on the way to a broker.

Some have a number that the system gave them; the others are made up on this side of it, as when a
name is not found or a connection ends.
-/
import BrokerNode.Text.Shown

namespace BrokerNode.Mqtt

/-- An error of the system, with the name of its kind and its words. -/
inductive IoError where
  | numbered (number : Nat) (kind message : String)
  | unnumbered (kind message : String)
deriving DecidableEq, Repr

namespace IoError

/-- The words for an error. -/
def message : IoError → String
  | .numbered number _ message => message ++ " (os error " ++ toString number ++ ")"
  | .unnumbered _ message => message

open Text (Shown)

/-- How an error is shown. -/
def shown : IoError → Shown
  | .numbered number kind message =>
    .record "Os" [("code", .nat number), ("kind", .word kind), ("message", .text message)]
  | .unnumbered kind message => .record "Custom" [("kind", .word kind), ("error", .text message)]

/-- No way leads to the address. -/
def unreachable : IoError := .numbered 101 "NetworkUnreachable" "Network is unreachable"

/-- Nobody listens at the address. -/
def deserted : IoError := .numbered 111 "ConnectionRefused" "Connection refused"

/-- The end of a connection; whether it came within a packet. -/
def ended (within : Bool) : IoError :=
  if within then .unnumbered "ConnectionReset" "connection reset by peer"
  else .unnumbered "ConnectionAborted" "connection closed by peer"

end IoError

end BrokerNode.Mqtt
