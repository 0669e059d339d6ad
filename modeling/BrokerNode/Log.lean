/-
BrokerNode/Log.lean

Log lines.  A line has a level, the part of the program that writes it, and a message.

What is printed of a line is disarmed: a message cannot give commands to a terminal.
-/
import BrokerNode.Text.Terminal

namespace BrokerNode

/-- How important a log line is. -/
inductive Log.Level where
  | error
  | warn
  | info
  | debug
deriving DecidableEq, Repr

/-- The part of the program that writes a log line. -/
inductive Log.Source where
  | service
  | emitter
  | publisher
  | session
deriving DecidableEq, Repr

/-- A log line. -/
structure Log.Line where
  level : Log.Level
  source : Log.Source
  message : String
deriving DecidableEq, Repr

/-- Log lines in the order in which they are written. -/
abbrev Log := List Log.Line

namespace Log

/-- The name of a level. -/
def Level.name : Level → String
  | .error => "ERROR"
  | .warn => "WARN"
  | .info => "INFO"
  | .debug => "DEBUG"

/-- Whether a level is above that of details. -/
def Level.isOrdinary (l : Level) : Bool := l != .debug

/-- The name under which a part of the program writes. -/
def Source.name : Source → String
  | .service => "BrokerFlux"
  | .emitter => "broker_flux::emitter"
  | .publisher => "broker_flux::mqtt_output"
  | .session => "broker_flux::service_utils"

/-- A log line as text. -/
def Line.render (l : Line) : String := l.level.name ++ " " ++ l.source.name ++ ": " ++ l.message

/-- A log line as it is printed. -/
def Line.printed (l : Line) : String := { l with message := Text.Terminal.disarmed l.message }.render

/-- The lines above the level of details. -/
def ordinary (log : Log) : Log := log.filter (·.level.isOrdinary)

end Log

end BrokerNode
