/-
BrokerNode/Text/Terminal.lean

Text on its way to a terminal.

A terminal takes some control characters for commands, or for the start of one: bell, backspace, form
feed, escape and delete, and all those from 128 to 159.  They are written by their numbers, so that
a message cannot give commands.  Every other character stays as it is, line feed and tab included.
-/
import BrokerNode.Text.Quoted

namespace BrokerNode.Text.Terminal

/-- The number of a character below 256, in two lower-case hexadecimal digits. -/
def byByte (c : Char) : List Char :=
  ['\\', 'x', Nat.digitChar (c.toNat / 16), Nat.digitChar (c.toNat % 16)]

/-- A command character of ASCII. -/
def isCommand (c : Char) : Bool :=
  c == '\x07' || c == '\x08' || c == '\x0c' || c == '\x1b' || c == '\x7f'

/-- A control character beyond ASCII. -/
def isHighControl (c : Char) : Bool := 0x80 ≤ c.toNat && c.toNat ≤ 0x9F

/-- A character as it is sent to a terminal. -/
def escape (c : Char) : List Char :=
  if isCommand c then byByte c
  else if isHighControl c then Quoted.byNumber c
  else [c]

/-- A text as it is sent to a terminal. -/
def disarmed (s : String) : String := String.ofList (s.toList.flatMap escape)

end BrokerNode.Text.Terminal
