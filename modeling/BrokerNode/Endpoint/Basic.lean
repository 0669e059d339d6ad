/-
BrokerNode/Endpoint/Basic.lean

Typed connection parameters, as a consumer of an envelope uses them.

Every endpoint has a host, a port and, if both parts are known, credentials.  An AMQP endpoint also
has a virtual host and an exchange, a Redis endpoint a database.  The password is never shown.
-/
import BrokerNode.Kind
import BrokerNode.Text.Shown

namespace BrokerNode

/-- A name and a password to log in with. -/
structure Credentials where
  username : String
  password : String
deriving DecidableEq, Repr

/-- Where a broker is reached, and as whom. -/
structure Server where
  host : String
  port : UInt16
  credentials : Option Credentials
deriving DecidableEq, Repr

/-- The connection parameters of a broker, by its kind. -/
inductive Endpoint where
  | mqtt (server : Server)
  | amqp (server : Server) (vhost exchange : String)
  | redis (server : Server) (db : UInt32)
deriving DecidableEq, Repr

open Text (Shown)

namespace Credentials

/-- The credentials of which both parts are given and neither is empty. -/
def ofParts (username password : String) : Option Credentials :=
  if username.isEmpty || password.isEmpty then none else some ⟨username, password⟩

/-- How credentials are shown: the password is masked. -/
def shown (c : Credentials) : Shown :=
  .record "Credentials" [("username", .text c.username), ("password", .text "***")]

end Credentials

namespace Server

/-- How the host and the port are shown, as fields. -/
def shownAddress (s : Server) : List (String × Shown) :=
  [("host", .text s.host), ("port", .nat s.port.toNat)]

/-- How the credentials are shown, as a field. -/
def shownCredentials (s : Server) : String × Shown :=
  ("credentials", .option Credentials.shown s.credentials)

end Server

namespace Endpoint

/-- The kind of the broker. -/
def kind : Endpoint → Kind
  | .mqtt _ => .mqtt
  | .amqp _ _ _ => .amqp
  | .redis _ _ => .redis

/-- Where the broker is reached, and as whom. -/
def server : Endpoint → Server
  | .mqtt s => s
  | .amqp s _ _ => s
  | .redis s _ => s

/-- How an endpoint is shown. -/
def shown : Endpoint → Shown
  | .mqtt s => .named "Mqtt" [.record "MqttParams" (s.shownAddress ++ [s.shownCredentials])]
  | .amqp s vhost exchange =>
    .named "Amqp" [.record "AmqpParams" (s.shownAddress ++
      [("vhost", .text vhost), ("exchange", .text exchange), s.shownCredentials])]
  | .redis s db =>
    .named "Redis" [.record "RedisParams" (s.shownAddress ++
      [("db", .nat db.toNat), s.shownCredentials])]

end Endpoint

end BrokerNode
