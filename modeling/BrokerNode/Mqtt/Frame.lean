/-
BrokerNode/Mqtt/Frame.lean

Packets as bytes.

A packet starts with a byte for its type and its flags, then says how many bytes follow, in up to
four bytes with seven bits each, lowest first.  Bytes are read as soon as the packet is complete;
until then there is nothing to say about it, except that its length may be malformed or too large.

Texts and messages start with their length in two bytes.  A packet that only a client should send is
read like any other, so that it can be shown; it may be malformed, too.
-/
import BrokerNode.Mqtt.Packet

namespace BrokerNode.Mqtt

/-- Why bytes are no packet. -/
inductive Garble where
  | payloadRequired
  | packetType (n : Nat)
  | protocolName
  | protocolLevel (n : Nat)
  | connectFlags
  | connectCode (n : Nat)
  | qos (n : Nat)
  | subscribeCode (n : Nat)
  | noFilter
  | zeroId
  | payloadSize
  | tooLarge (n : Nat)
  | notText
  | beyondEnd (n : Nat)
  | tooShort
  | malformedLength
deriving DecidableEq, Repr

/-- The words for why bytes are no packet. -/
def Garble.message : Garble → String
  | .payloadRequired => "Payload required"
  | .packetType n => "Invalid packet type: " ++ toString n
  | .protocolName => "Invalid protocol"
  | .protocolLevel n => "Invalid protocol level: " ++ toString n
  | .connectFlags => "Incorrect packet format"
  | .connectCode n => "Invalid Connect return code: " ++ toString n
  | .qos n => "Invalid QoS level: " ++ toString n
  | .subscribeCode n => "Invalid subscribe reason code: " ++ toString n
  | .noFilter => "A Subscribe packet must contain atleast one filter"
  | .zeroId => "Packet id Zero"
  | .payloadSize => "Payload size is incorrect"
  | .tooLarge n => "payload size limit exceeded: " ++ toString n
  | .notText => "Topic is not UTF-8"
  | .beyondEnd n => "Promised boundary crossed: " ++ toString n
  | .tooShort => "Malformed packet"
  | .malformedLength => "Malformed remaining length"

open Text (Shown)

/-- How it is shown why bytes are no packet. -/
def Garble.shown : Garble → Shown
  | .payloadRequired => .word "PayloadRequired"
  | .packetType n => .named "InvalidPacketType" [.nat n]
  | .protocolName => .word "InvalidProtocol"
  | .protocolLevel n => .named "InvalidProtocolLevel" [.nat n]
  | .connectFlags => .word "IncorrectPacketFormat"
  | .connectCode n => .named "InvalidConnectReturnCode" [.nat n]
  | .qos n => .named "InvalidQoS" [.nat n]
  | .subscribeCode n => .named "InvalidSubscribeReasonCode" [.nat n]
  | .noFilter => .word "EmptySubscription"
  | .zeroId => .word "PacketIdZero"
  | .payloadSize => .word "PayloadSizeIncorrect"
  | .tooLarge n => .named "PayloadSizeLimitExceeded" [.nat n]
  | .notText => .word "TopicNotUtf8"
  | .beyondEnd n => .named "BoundaryCrossed" [.nat n]
  | .tooShort => .word "MalformedPacket"
  | .malformedLength => .word "MalformedRemainingLength"

/-- What bytes start with. -/
inductive Frame where
  | incomplete
  | garbled (g : Garble)
  | complete (p : Incoming) (rest : List UInt8)
deriving DecidableEq, Repr

namespace Frame

/-! ### Reading -/

/-- The largest rest of a packet that is accepted. -/
def maxLength : Nat := 10240

/-- The length at the start of bytes, of which `digits` bytes of weight below `weight` were read, with
the bytes behind it.  Without a result there are too few bytes. -/
def length? (digits weight : Nat) : List UInt8 → Except Garble (Option (Nat × List UInt8))
  | [] => .ok none
  | b :: bytes =>
    let value := b.toNat % 128 * weight
    if b.toNat < 128 then .ok (some (value, bytes))
    else if digits = 3 then .error .malformedLength
    else
      match length? (digits + 1) (weight * 128) bytes with
      | .ok (some (n, rest)) => .ok (some (value + n, rest))
      | r => r

/-- The first byte, and the bytes behind it. -/
def byte? : List UInt8 → Except Garble (UInt8 × List UInt8)
  | b :: bytes => .ok (b, bytes)
  | [] => .error .tooShort

/-- The number of two bytes, the upper one first. -/
def number (high low : UInt8) : UInt16 := (high.toNat * 256 + low.toNat).toUInt16

/-- The number at the start of bytes, and the bytes behind it. -/
def number? : List UInt8 → Except Garble (UInt16 × List UInt8)
  | high :: low :: bytes => .ok (number high low, bytes)
  | _ => .error .tooShort

/-- The message at the start of bytes, behind its length, and the bytes behind it. -/
def message? (bytes : List UInt8) : Except Garble (List UInt8 × List UInt8) := do
  let (size, rest) ← number? bytes
  if rest.length < size.toNat then throw (.beyondEnd size.toNat)
  return rest.splitAt size.toNat

/-- The text at the start of bytes, behind its length, and the bytes behind it. -/
def text? (bytes : List UInt8) : Except Garble (String × List UInt8) := do
  let (text, rest) ← message? bytes
  match String.fromUTF8? ⟨text.toArray⟩ with
  | some text => return (text, rest)
  | none => throw .notText

/-- The answer to an introduction with the given number. -/
def connectCode? (n : UInt8) : Except Garble ConnectCode :=
  match n.toNat with
  | 0 => .ok .accepted
  | 1 => .ok .protocolVersion
  | 2 => .ok .clientId
  | 3 => .ok .unavailable
  | 4 => .ok .credentials
  | 5 => .ok .notAuthorized
  | n => .error (.connectCode n)

/-- The level with the given number. -/
def qos? : Nat → Except Garble Qos
  | 0 => .ok .atMostOnce
  | 1 => .ok .atLeastOnce
  | 2 => .ok .exactlyOnce
  | n => .error (.qos n)

/-- The answer to a part of a subscription with the given number. -/
def subscribeCode? (n : UInt8) : Except Garble SubscribeCode :=
  match n.toNat with
  | 0 => .ok (.granted .atMostOnce)
  | 1 => .ok (.granted .atLeastOnce)
  | 2 => .ok (.granted .exactlyOnce)
  | 128 => .ok .failure
  | n => .error (.subscribeCode n)

/-- The answer to an introduction. -/
def connAck? : List UInt8 → Except Garble Incoming
  | flags :: code :: _ => (connectCode? code).map (.connAck (flags.toNat % 2 == 1))
  | _ => .error .tooShort

/-- A publication whose flags are given. -/
def publish? (flags : Nat) (body : List UInt8) : Except Garble Incoming := do
  let qos ← qos? (flags / 2 % 4)
  let (topic, rest) ← text? body
  let (id, payload) ← if qos = .atMostOnce then .ok (0, rest) else number? rest
  if qos ≠ .atMostOnce ∧ id = 0 then throw .zeroId
  return .publish id topic qos (flags % 2 == 1) payload

/-- The answer to a subscription. -/
def subAck? (body : List UInt8) : Except Garble Incoming := do
  let (id, codes) ← number? body
  if codes.isEmpty then throw .tooShort
  return .subAck id (← codes.mapM subscribeCode?)

/-- The answer to the end of a subscription. -/
def unsubAck? (body : List UInt8) : Except Garble Incoming :=
  if body.length = 2 then (number? body).map fun (id, _) => .unsubAck id else .error .payloadSize

/-- A confirmation. -/
def receipt? (r : Receipt) (body : List UInt8) : Except Garble Incoming :=
  (number? body).map fun (id, _) => .receipt r id

/-! #### Packets that only clients should send -/

/-- The level of a protocol. -/
def level? (n : UInt8) : Except Garble Nat :=
  if n = 4 ∨ n = 5 then .ok n.toNat else .error (.protocolLevel n.toNat)

/-- The will in an introduction, if its flags say that there is one. -/
def will? (flags : Nat) (bytes : List UInt8) : Except Garble (Option Will × List UInt8) := do
  if flags / 4 % 2 = 0 then
    if flags / 8 % 8 = 0 then return (none, bytes) else throw .connectFlags
  let (topic, rest) ← text? bytes
  let (message, rest) ← message? rest
  let qos ← qos? (flags / 8 % 4)
  return (some ⟨topic, message, qos, flags / 32 % 2 == 1⟩, rest)

/-- A text, if there is one. -/
def optionalText? (present : Bool) (bytes : List UInt8) :
    Except Garble (Option String × List UInt8) :=
  if present then (text? bytes).map fun (text, rest) => (some text, rest) else .ok (none, bytes)

/-- An introduction. -/
def connect? (body : List UInt8) : Except Garble Connect := do
  let (name, rest) ← text? body
  let (level, rest) ← byte? rest
  if name ≠ "MQTT" then throw .protocolName
  let level ← level? level
  let (flags, rest) ← byte? rest
  let flags := flags.toNat
  let (keepAlive, rest) ← number? rest
  let (clientId, rest) ← text? rest
  let (will, rest) ← will? flags rest
  let (username, rest) ← optionalText? (flags / 128 % 2 == 1) rest
  let (password, _) ← optionalText? (flags / 64 % 2 == 1) rest
  return {
    clientId, level, keepAlive := keepAlive.toNat, cleanSession := flags / 2 % 2 == 1, will,
    username, password }

/-- A part of a subscription, and the bytes behind it. -/
def filter? (bytes : List UInt8) : Except Garble ((String × Qos) × List UInt8) := do
  let (topic, rest) ← text? bytes
  let (options, rest) ← byte? rest
  let qos ← qos? (options.toNat % 4)
  return ((topic, qos), rest)

/-- Parts up to the end of bytes.  Every part takes some of them, so `fuel` is enough that is not less
than their number. -/
def parts? {α : Type} (part? : List UInt8 → Except Garble (α × List UInt8)) :
    Nat → List UInt8 → Except Garble (List α)
  | 0, _ => .ok []
  | _ + 1, [] => .ok []
  | fuel + 1, b :: bytes => do
    let (part, rest) ← part? (b :: bytes)
    let parts ← parts? part? fuel rest
    return part :: parts

/-- The parts of a subscription. -/
def filters? (bytes : List UInt8) : Except Garble (List (String × Qos)) :=
  parts? filter? bytes.length bytes

/-- The topics at the end of a subscription. -/
def topics? (bytes : List UInt8) : Except Garble (List String) := parts? text? bytes.length bytes

/-- A subscription. -/
def subscribe? (body : List UInt8) : Except Garble ClientPacket := do
  let (id, rest) ← number? body
  let filters ← filters? rest
  if filters.isEmpty then throw .noFilter
  return .subscribe id filters

/-- The end of a subscription. -/
def unsubscribe? (body : List UInt8) : Except Garble ClientPacket := do
  let (id, rest) ← number? body
  return .unsubscribe id (← topics? rest)

/-! #### Packets of all types -/

/-- A packet with something behind its length. -/
def body? (type flags : Nat) (body : List UInt8) : Except Garble Incoming :=
  match type with
  | 1 => (connect? body).map fun c => .misplaced (.connect c)
  | 2 => connAck? body
  | 3 => publish? flags body
  | 4 => receipt? .acknowledged body
  | 5 => receipt? .received body
  | 6 => receipt? .released body
  | 7 => receipt? .completed body
  | 8 => (subscribe? body).map .misplaced
  | 9 => subAck? body
  | 10 => (unsubscribe? body).map .misplaced
  | 11 => unsubAck? body
  | 12 => .ok (.misplaced .ping)
  | 13 => .ok .pingResponse
  | 14 => .ok (.misplaced .disconnect)
  | n => .error (.packetType n)

/-- A packet with nothing behind its length. -/
def empty? (type : Nat) : Except Garble Incoming :=
  match type with
  | 12 => .ok (.misplaced .ping)
  | 13 => .ok .pingResponse
  | 14 => .ok (.misplaced .disconnect)
  | n => .error (if n = 0 ∨ n = 15 then .packetType n else .payloadRequired)

/-- The packet that a first byte and the bytes behind the length make up. -/
def packet? (first : UInt8) (body : List UInt8) : Except Garble Incoming :=
  if body.isEmpty then empty? (first.toNat / 16) else body? (first.toNat / 16) (first.toNat % 16) body

/-- Reads the start of bytes. -/
def read : List UInt8 → Frame
  | [] => .incomplete
  | first :: bytes =>
    match length? 0 1 bytes with
    | .error g => .garbled g
    | .ok none => .incomplete
    | .ok (some (n, rest)) =>
      if maxLength < n then .garbled (.tooLarge n)
      else if rest.length < n then .incomplete
      else
        match packet? first (rest.take n) with
        | .error g => .garbled g
        | .ok p => .complete p (rest.drop n)

/-! ### Writing -/

/-- The two bytes of a number. -/
def ofNumber (n : UInt16) : List UInt8 := [(n.toNat / 256).toUInt8, (n.toNat % 256).toUInt8]

/-- The bytes of an answer to an introduction, with any code. -/
def connAckBytes (code : UInt8) : List UInt8 := [0x20, 2, 0, code]

/-- The bytes of an acknowledgement. -/
def pubAckBytes (id : UInt16) : List UInt8 := [0x40, 2] ++ ofNumber id

/-- A message behind its length.  Of a length that is too large for its two bytes only the lower part is
written. -/
def ofMessage (m : List UInt8) : List UInt8 := ofNumber m.length.toUInt16 ++ m

/-- A text behind its length. -/
def ofText (s : String) : List UInt8 := ofMessage s.toUTF8.data.toList

/-- The text that may be there. -/
def ofOptionalText (s : Option String) : List UInt8 := (s.map ofText).getD []

/-- The flags of a will. -/
def willFlags : Option Will → Nat
  | some w => 4 + 8 * w.qos.level + 32 * w.retain.toNat
  | none => 0

/-- A will. -/
def ofWill : Option Will → List UInt8
  | some w => ofText w.topic ++ ofMessage w.message
  | none => []

/-- The flags of an introduction. -/
def connectFlags (c : Connect) : UInt8 :=
  (2 * c.cleanSession.toNat + willFlags c.will + 64 * c.password.isSome.toNat +
    128 * c.username.isSome.toNat).toUInt8

/-- The bytes of an introduction behind its length. -/
def connectBody (c : Connect) : List UInt8 :=
  ofText "MQTT" ++ [c.level.toUInt8, connectFlags c] ++ ofNumber c.keepAlive.toUInt16 ++
    ofText c.clientId ++ ofWill c.will ++ ofOptionalText c.username ++ ofOptionalText c.password

end Frame

end BrokerNode.Mqtt
