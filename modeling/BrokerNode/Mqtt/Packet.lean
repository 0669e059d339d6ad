/-
BrokerNode/Mqtt/Packet.lean

The packets that a client and a broker exchange.

A client introduces itself, publishes, confirms, shows that it is there and takes its leave; only these
packets are sent here.  What a broker sends is wider: besides its answers it may send packets that only
clients should send.
-/
import BrokerNode.Endpoint.Basic

namespace BrokerNode.Mqtt

/-- How often a publication is to be delivered: levels 0, 1 and 2. -/
inductive Qos where
  | atMostOnce
  | atLeastOnce
  | exactlyOnce
deriving DecidableEq, Repr

/-- Something to be published. -/
structure Publication where
  topic : String
  qos : Qos
  retain : Bool
  body : String
deriving DecidableEq, Repr

/-- What a broker is to publish when a client is lost. -/
structure Will where
  topic : String
  message : List UInt8
  qos : Qos
  retain : Bool
deriving DecidableEq, Repr

/-- How a client introduces itself: under which name and in which version of the protocol, after how
many seconds it shows that it is there, whether the broker is to forget what it knows of the client,
what becomes of it when it is lost, and who it is. -/
structure Connect where
  clientId : String
  level : Nat := 4
  keepAlive : Nat := 10
  cleanSession : Bool := true
  will : Option Will := none
  username : Option String := none
  password : Option String := none
deriving DecidableEq, Repr

/-- Where a client connects to, and how it is to introduce itself. -/
structure Options where
  host : String
  port : UInt16
  clientId : String
  keepAlive : Nat
  cleanSession : Bool
  credentials : Option Credentials
deriving DecidableEq, Repr

namespace Options

/-- The options of a client of the given name for a server. -/
def ofServer (clientId : String) (s : Server) : Options where
  host := s.host
  port := s.port
  clientId := clientId
  keepAlive := 10
  cleanSession := true
  credentials := s.credentials

/-- A text, unless it is empty. -/
def unlessEmpty (s : String) : Option String := if s.isEmpty then none else some s

/-- The introduction.  A name or a password that is empty is left out of it. -/
def connect (o : Options) : Connect where
  clientId := o.clientId
  keepAlive := o.keepAlive
  cleanSession := o.cleanSession
  username := o.credentials.bind fun c => unlessEmpty c.username
  password := o.credentials.bind fun c => unlessEmpty c.password

end Options

/-- The confirmations of a publication: the only one at level 1, and the three steps at level 2. -/
inductive Receipt where
  | acknowledged
  | received
  | released
  | completed
deriving DecidableEq, Repr

/-- A packet that a client sends. -/
inductive Packet where
  | connect (c : Connect)
  | publish (id : UInt16) (p : Publication)
  | receipt (r : Receipt) (id : UInt16)
  | ping
  | disconnect
deriving DecidableEq, Repr

/-- A broker's answer to an introduction. -/
inductive ConnectCode where
  | accepted
  | protocolVersion
  | clientId
  | unavailable
  | credentials
  | notAuthorized
deriving DecidableEq, Repr

/-- A broker's answer to one part of a subscription. -/
inductive SubscribeCode where
  | granted (qos : Qos)
  | failure
deriving DecidableEq, Repr

/-- The packets that only clients should send. -/
inductive ClientPacket where
  | connect (c : Connect)
  | subscribe (id : UInt16) (filters : List (String × Qos))
  | unsubscribe (id : UInt16) (topics : List String)
  | ping
  | disconnect
deriving DecidableEq, Repr

/-- A packet that a broker sends. -/
inductive Incoming where
  | connAck (known : Bool) (code : ConnectCode)
  | publish (id : UInt16) (topic : String) (qos : Qos) (retain : Bool) (payload : List UInt8)
  | receipt (r : Receipt) (id : UInt16)
  | subAck (id : UInt16) (codes : List SubscribeCode)
  | unsubAck (id : UInt16)
  | pingResponse
  | misplaced (p : ClientPacket)
deriving DecidableEq, Repr

/-! ### Sizes -/

/-- How many bytes the length of the rest of a packet takes. -/
def lengthBytes (n : Nat) : Nat :=
  if n < 128 then 1 else if n < 16384 then 2 else if n < 2097152 then 3 else 4

/-- The size of a packet whose rest behind the length has `n` bytes. -/
def packetSize (n : Nat) : Nat := 1 + lengthBytes n + n

/-- The size of a publication as a packet, with or without a number. -/
def Publication.size (p : Publication) (numbered : Bool) : Nat :=
  packetSize (2 + p.topic.utf8ByteSize + p.body.utf8ByteSize + (if numbered then 2 else 0))

/-! ### How packets are shown -/

open Text (Shown)

/-- The name of a level. -/
def Qos.name : Qos → String
  | .atMostOnce => "AtMostOnce"
  | .atLeastOnce => "AtLeastOnce"
  | .exactlyOnce => "ExactlyOnce"

/-- The number of a level. -/
def Qos.level : Qos → Nat
  | .atMostOnce => 0
  | .atLeastOnce => 1
  | .exactlyOnce => 2

/-- The name of a confirmation. -/
def Receipt.name : Receipt → String
  | .acknowledged => "PubAck"
  | .received => "PubRec"
  | .released => "PubRel"
  | .completed => "PubComp"

/-- The name of an answer to an introduction. -/
def ConnectCode.name : ConnectCode → String
  | .accepted => "Success"
  | .protocolVersion => "RefusedProtocolVersion"
  | .clientId => "BadClientId"
  | .unavailable => "ServiceUnavailable"
  | .credentials => "BadUserNamePassword"
  | .notAuthorized => "NotAuthorized"

/-- The name of an answer to a subscription. -/
def SubscribeCode.shown : SubscribeCode → Shown
  | .granted qos => .named "Success" [.word qos.name]
  | .failure => .word "Failure"

/-- A packet of the given name that holds nothing but a number. -/
def shownNumbered (name : String) (id : UInt16) : Shown :=
  .named name [.record name [("pkid", .nat id.toNat)]]

/-- A byte of a message as it is shown. -/
def shownByte (b : UInt8) : List Char :=
  match b.toNat with
  | 0 => ['\\', '0']
  | 9 => ['\\', 't']
  | 10 => ['\\', 'n']
  | 13 => ['\\', 'r']
  | 34 => ['\\', '"']
  | 92 => ['\\', '\\']
  | n =>
    if 0x20 ≤ n ∧ n < 0x7f then [Char.ofNat n]
    else ['\\', 'x', (n / 16).digitChar, (n % 16).digitChar]

/-- How a message is shown. -/
def shownBytes (bytes : List UInt8) : Shown :=
  .word (String.ofList (['b', '"'] ++ bytes.flatMap shownByte ++ ['"']))

/-- How a will is shown. -/
def Will.shown (w : Will) : Shown :=
  .record "LastWill" [("topic", .text w.topic), ("message", shownBytes w.message),
    ("qos", .word w.qos.name), ("retain", .bool w.retain)]

/-- How it is shown who a client is. -/
def Connect.shownLogin (c : Connect) : Shown :=
  let username := c.username.getD ""
  let password := c.password.getD ""
  if username.isEmpty && password.isEmpty then .word "None"
  else
    .named "Some" [.record "Login" [("username", .text username), ("password", .text password)]]

/-- How an introduction is shown. -/
def Connect.shown (c : Connect) : Shown :=
  .record "Connect" [("protocol", .word ("V" ++ toString c.level)), ("keep_alive", .nat c.keepAlive),
    ("client_id", .text c.clientId), ("clean_session", .bool c.cleanSession),
    ("last_will", .option Will.shown c.will), ("login", c.shownLogin)]

/-- How a part of a subscription is shown. -/
def shownFilter (f : String × Qos) : Shown := .word ("Filter = " ++ f.1 ++ ", Qos = " ++ f.2.name)

/-- How a packet that only a client should send is shown. -/
def ClientPacket.shown : ClientPacket → Shown
  | .connect c => .named "Connect" [c.shown]
  | .subscribe id filters =>
    .named "Subscribe" [.word ("Filters = " ++ (Shown.list "" (filters.map shownFilter)).plain ++
      ", Packet id = " ++ toString id.toNat)]
  | .unsubscribe id topics =>
    .named "Unsubscribe" [.record "Unsubscribe" [("pkid", .nat id.toNat),
      ("topics", .list "" (topics.map Shown.text))]]
  | .ping => .word "PingReq"
  | .disconnect => .word "Disconnect"

/-- How a packet from a broker is shown. -/
def Incoming.shown : Incoming → Shown
  | .connAck known code =>
    .named "ConnAck" [.record "ConnAck" [("session_present", .bool known), ("code", .word code.name)]]
  | .publish id topic qos retain payload =>
    .named "Publish" [.word ("Topic = " ++ topic ++ ", Qos = " ++ qos.name ++ ", Retain = " ++
      toString retain ++ ", Pkid = " ++ toString id.toNat ++ ", Payload Size = " ++
      toString payload.length)]
  | .receipt r id => shownNumbered r.name id
  | .subAck id codes =>
    .named "SubAck" [.record "SubAck" [("pkid", .nat id.toNat),
      ("return_codes", .list "" (codes.map SubscribeCode.shown))]]
  | .unsubAck id => shownNumbered "UnsubAck" id
  | .pingResponse => .word "PingResp"
  | .misplaced p => p.shown

end BrokerNode.Mqtt
