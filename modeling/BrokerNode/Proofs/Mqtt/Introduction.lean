/-
BrokerNode/Proofs/Mqtt/Introduction.lean

Introductions as bytes.

A text whose length fits into two bytes is read back from its bytes (`Frame.text?_ofText`), whatever
stands behind them.  So is an introduction that is made of such texts (`Frame.connect?_connectBody`): its
flags say which of its parts are there, and the parts follow in a fixed order.  No bytes are read as an
introduction under a longer name (`Frame.utf8ByteSize_of_connect?`).

The parts of a subscription, and the topics at its end, are read one after the other up to the end of the
bytes (`Frame.filters?_cons`, `Frame.topics?_cons`): each part takes some of them, so as many steps are
enough as there are bytes.
-/
import BrokerNode.Mqtt.Frame
import BrokerNode.Proofs.Text.Bytes

namespace BrokerNode.Mqtt

namespace Frame

variable {α : Type}

/-! ### Numbers and texts -/

theorem number?_ofNumber (n : UInt16) (rest : List UInt8) :
    number? (ofNumber n ++ rest) = .ok (n, rest) := by
  have hn : n.toNat < 65536 := n.toNat_lt
  have hnumber : number (n.toNat / 256).toUInt8 (n.toNat % 256).toUInt8 = n := by
    rw [number, ← UInt16.toNat_inj]
    simp only [UInt8.toNat_ofNat', Nat.toUInt8, Nat.toUInt16, UInt16.toNat_ofNat']
    omega
  show Except.ok (number _ _, rest) = _
  rw [hnumber]

/-- The largest size of a text or a message. -/
def maxTextSize : Nat := 65535

theorem message?_ofMessage {m : List UInt8} (h : m.length ≤ maxTextSize) (rest : List UInt8) :
    message? (ofMessage m ++ rest) = .ok (m, rest) := by
  have hsize : m.length.toUInt16.toNat = m.length :=
    Nat.mod_eq_of_lt (Nat.lt_succ_of_le h)
  have hroom : ¬(m ++ rest).length < m.length := by
    rw [List.length_append]
    omega
  rw [message?, ofMessage, List.append_assoc, number?_ofNumber]
  simp only [bind, Except.bind, hsize, if_neg hroom, pure, Except.pure, List.splitAt_eq,
    List.take_left', List.drop_left']

theorem text?_ofText {s : String} (h : s.utf8ByteSize ≤ maxTextSize) (rest : List UInt8) :
    text? (ofText s ++ rest) = .ok (s, rest) := by
  have hlength : s.toUTF8.data.toList.length ≤ maxTextSize := h
  have htext : String.fromUTF8? ⟨s.toUTF8.data.toList.toArray⟩ = some s :=
    Text.fromUTF8?_eq_some_iff.mpr rfl
  rw [text?, ofText, message?_ofMessage hlength]
  simp only [bind, Except.bind, htext, pure, Except.pure]

theorem optionalText?_ofOptionalText {s : Option String}
    (h : ∀ t ∈ s, t.utf8ByteSize ≤ maxTextSize) (rest : List UInt8) :
    optionalText? s.isSome (ofOptionalText s ++ rest) = .ok (s, rest) := by
  cases s with
  | none => rfl
  | some s =>
    have htext := text?_ofText (h s rfl) rest
    show (text? (ofText s ++ rest)).map _ = _
    rw [htext]
    rfl

/-! ### What is read -/

theorem exists_of_bind_eq_ok {ε β : Type} {x : Except ε α} {f : α → Except ε β} {b : β}
    (h : x >>= f = .ok b) : ∃ a, x = .ok a ∧ f a = .ok b := by
  cases x with
  | error e => cases h
  | ok a => exact ⟨a, rfl, h⟩

/-- A number takes two bytes. -/
theorem length_of_number? {bytes rest : List UInt8} {n : UInt16}
    (h : number? bytes = .ok (n, rest)) : bytes.length = rest.length + 2 := by
  rw [number?.eq_def] at h
  split at h
  · cases h
    rfl
  · cases h

/-- A message takes the bytes of its length besides its own, and is as long as two bytes can say at
most. -/
theorem length_of_message? {bytes m rest : List UInt8} (h : message? bytes = .ok (m, rest)) :
    m.length ≤ maxTextSize ∧ bytes.length = m.length + rest.length + 2 := by
  obtain ⟨⟨size, behind⟩, hnumber, h⟩ := exists_of_bind_eq_ok h
  have hlength := length_of_number? hnumber
  dsimp only at h
  split at h
  · cases h
  · next hroom =>
    rw [List.splitAt_eq] at h
    cases h
    have hsize := size.toNat_lt
    rw [List.length_take, List.length_drop, maxTextSize]
    omega

theorem length_of_text? {bytes rest : List UInt8} {s : String} (h : text? bytes = .ok (s, rest)) :
    s.utf8ByteSize ≤ maxTextSize ∧ rest.length < bytes.length := by
  obtain ⟨⟨m, behind⟩, hmessage, h⟩ := exists_of_bind_eq_ok h
  obtain ⟨hsize, hlength⟩ := length_of_message? hmessage
  dsimp only at h
  split at h
  · next t ht =>
    cases h
    have hbytes := Text.fromUTF8?_eq_some_iff.mp ht
    have hs : s.utf8ByteSize = m.length := congrArg ByteArray.size hbytes.symm
    exact ⟨hs ▸ hsize, by omega⟩
  · cases h

theorem length_of_filter? {bytes rest : List UInt8} {f : String × Qos}
    (h : filter? bytes = .ok (f, rest)) : rest.length < bytes.length := by
  obtain ⟨⟨topic, behind⟩, htext, h⟩ := exists_of_bind_eq_ok h
  obtain ⟨⟨options, behind'⟩, hbyte, h⟩ := exists_of_bind_eq_ok h
  obtain ⟨qos, -, h⟩ := exists_of_bind_eq_ok h
  cases h
  have hlength := (length_of_text? htext).2
  cases behind with
  | nil => cases hbyte
  | cons b behind =>
    cases hbyte
    exact Nat.lt_of_succ_lt hlength

/-- Parts are read up to the end of the bytes: more steps than there are bytes change nothing. -/
theorem parts?_of_length_le {part? : List UInt8 → Except Garble (α × List UInt8)}
    (hpart : ∀ {bytes a rest}, part? bytes = .ok (a, rest) → rest.length < bytes.length) {fuel : Nat}
    {bytes : List UInt8} (h : bytes.length ≤ fuel) :
    parts? part? fuel bytes = parts? part? bytes.length bytes := by
  induction fuel using Nat.strongRecOn generalizing bytes with
  | ind fuel ih =>
    cases bytes with
    | nil => cases fuel <;> rfl
    | cons b bytes =>
      cases fuel with
      | zero => cases h
      | succ fuel =>
        have hle : bytes.length ≤ fuel := Nat.le_of_succ_le_succ h
        rw [List.length_cons, parts?, parts?]
        cases hp : part? (b :: bytes) with
        | error g => rfl
        | ok x =>
          obtain ⟨a, rest⟩ := x
          have hrest : rest.length ≤ bytes.length := Nat.le_of_lt_succ (hpart hp)
          -- the rest is read alike whichever number of steps is left
          have hsame : parts? part? fuel rest = parts? part? bytes.length rest := by
            rw [ih fuel (Nat.lt_succ_self _) (Nat.le_trans hrest hle)]
            exact (ih bytes.length (Nat.lt_succ_of_le hle) hrest).symm
          show (parts? part? fuel rest >>= _) = (parts? part? bytes.length rest >>= _)
          rw [hsame]

/-- Parts are read one after the other, without a bound. -/
theorem parts?_cons {part? : List UInt8 → Except Garble (α × List UInt8)}
    (hpart : ∀ {bytes a rest}, part? bytes = .ok (a, rest) → rest.length < bytes.length) (b : UInt8)
    (bytes : List UInt8) :
    parts? part? (b :: bytes).length (b :: bytes) = do
      let (a, rest) ← part? (b :: bytes)
      let parts ← parts? part? rest.length rest
      return a :: parts := by
  rw [List.length_cons, parts?]
  cases hp : part? (b :: bytes) with
  | error g => rfl
  | ok x =>
    have hsame := parts?_of_length_le hpart (Nat.le_of_lt_succ (hpart hp))
    show (parts? part? bytes.length x.2 >>= _) = (parts? part? x.2.length x.2 >>= _)
    rw [hsame]

/-- The parts of a subscription. -/
theorem filters?_cons (b : UInt8) (bytes : List UInt8) :
    filters? (b :: bytes) = do
      let (f, rest) ← filter? (b :: bytes)
      return f :: (← filters? rest) :=
  parts?_cons length_of_filter? b bytes

/-- The topics at the end of a subscription. -/
theorem topics?_cons (b : UInt8) (bytes : List UInt8) :
    topics? (b :: bytes) = do
      let (topic, rest) ← text? (b :: bytes)
      return topic :: (← topics? rest) :=
  parts?_cons (fun h => (length_of_text? h).2) b bytes

/-- No bytes are read as an introduction under a name that is longer than two bytes can say. -/
theorem utf8ByteSize_of_connect? {body : List UInt8} {c : Connect} (h : connect? body = .ok c) :
    c.clientId.utf8ByteSize ≤ maxTextSize := by
  rw [connect?] at h
  obtain ⟨⟨name, rest⟩, -, h⟩ := exists_of_bind_eq_ok h
  obtain ⟨⟨level, rest⟩, -, h⟩ := exists_of_bind_eq_ok h
  dsimp only at h
  split at h
  · cases h
  obtain ⟨level, -, h⟩ := exists_of_bind_eq_ok h
  obtain ⟨⟨flags, rest⟩, -, h⟩ := exists_of_bind_eq_ok h
  obtain ⟨⟨keepAlive, rest⟩, -, h⟩ := exists_of_bind_eq_ok h
  obtain ⟨⟨clientId, rest⟩, hclientId, h⟩ := exists_of_bind_eq_ok h
  obtain ⟨⟨will, rest⟩, -, h⟩ := exists_of_bind_eq_ok h
  obtain ⟨⟨username, rest⟩, -, h⟩ := exists_of_bind_eq_ok h
  obtain ⟨⟨password, rest⟩, -, h⟩ := exists_of_bind_eq_ok h
  cases h
  exact (length_of_text? hclientId).1

/-! ### Introductions -/

/-- An introduction is one that bytes can be written for: its numbers and the sizes of its texts fit into
their places. -/
structure Fits (c : Connect) : Prop where
  level : c.level = 4 ∨ c.level = 5
  keepAlive : c.keepAlive < 65536
  clientId : c.clientId.utf8ByteSize ≤ maxTextSize
  will : ∀ w ∈ c.will, w.topic.utf8ByteSize ≤ maxTextSize ∧ w.message.length ≤ maxTextSize
  username : ∀ s ∈ c.username, s.utf8ByteSize ≤ maxTextSize
  password : ∀ s ∈ c.password, s.utf8ByteSize ≤ maxTextSize

theorem level_lt (q : Qos) : q.level < 3 := by
  cases q <;> decide

theorem qos?_level (q : Qos) : qos? q.level = .ok q := by
  cases q <;> rfl

/-- The flags of a will, taken apart. -/
theorem willFlags_some (w : Will) :
    willFlags (some w) / 4 % 2 = 1 ∧ willFlags (some w) / 8 % 4 = w.qos.level ∧
      willFlags (some w) / 32 = w.retain.toNat := by
  have hlevel := level_lt w.qos
  have hretain := w.retain.toNat_lt
  rw [willFlags]
  omega

theorem willFlags_lt (w : Option Will) : willFlags w < 64 ∧ willFlags w % 4 = 0 := by
  cases w with
  | none => decide
  | some w =>
    have hlevel := level_lt w.qos
    have hretain := w.retain.toNat_lt
    rw [willFlags]
    omega

theorem beq_one {n : Nat} {b : Bool} (h : n = b.toNat) : (n == 1) = b := by
  subst h
  cases b <;> rfl

/-- The flags of an introduction, taken apart. -/
structure Flags (c : Connect) (flags : Nat) : Prop where
  cleanSession : (flags / 2 % 2 == 1) = c.cleanSession
  will : flags / 4 % 16 = willFlags c.will / 4
  password : (flags / 64 % 2 == 1) = c.password.isSome
  username : (flags / 128 % 2 == 1) = c.username.isSome

theorem flags_connectFlags (c : Connect) : Flags c (connectFlags c).toNat := by
  obtain ⟨hwill, hlow⟩ := willFlags_lt c.will
  have hclean := c.cleanSession.toNat_lt
  have hpassword := c.password.isSome.toNat_lt
  have husername := c.username.isSome.toNat_lt
  have hflags : (connectFlags c).toNat = 2 * c.cleanSession.toNat + willFlags c.will +
      64 * c.password.isSome.toNat + 128 * c.username.isSome.toNat :=
    Nat.mod_eq_of_lt (by omega)
  rw [hflags]
  exact ⟨beq_one (by omega), by omega, beq_one (by omega), beq_one (by omega)⟩

/-- A will is read back when the flags are those of the introduction that it belongs to. -/
theorem will?_ofWill {c : Connect} {flags : Nat} (hflags : Flags c flags)
    (h : ∀ w ∈ c.will, w.topic.utf8ByteSize ≤ maxTextSize ∧ w.message.length ≤ maxTextSize)
    (rest : List UInt8) : will? flags (ofWill c.will ++ rest) = .ok (c.will, rest) := by
  have hwill := hflags.will
  cases hc : c.will with
  | none =>
    rw [hc, willFlags] at hwill
    rw [will?, if_pos (by omega), if_pos (by omega)]
    rfl
  | some w =>
    obtain ⟨htopic, hmessage⟩ := h w hc
    obtain ⟨hpresent, hqos, hretain⟩ := willFlags_some w
    have hsmall := willFlags_lt (some w)
    rw [hc] at hwill
    have hlevel : flags / 8 % 4 = w.qos.level := by omega
    have hkept : flags / 32 % 2 = w.retain.toNat := by omega
    rw [will?, if_neg (by omega), ofWill, List.append_assoc, text?_ofText htopic]
    simp only [bind, Except.bind, message?_ofMessage hmessage, hlevel, qos?_level,
      beq_one hkept, pure, Except.pure]

/-- An introduction is read back from its bytes. -/
theorem connect?_connectBody {c : Connect} (h : Fits c) : connect? (connectBody c) = .ok c := by
  have hflags := flags_connectFlags c
  have hlevel : level? c.level.toUInt8 = .ok c.level := by
    rcases h.level with hl | hl
    · rw [hl]; rfl
    · rw [hl]; rfl
  have hkeepAlive : c.keepAlive.toUInt16.toNat = c.keepAlive := Nat.mod_eq_of_lt h.keepAlive
  have hname := text?_ofText (s := "MQTT") (by decide)
  have hpassword := optionalText?_ofOptionalText h.password []
  rw [List.append_nil] at hpassword
  simp only [connect?, connectBody, List.append_assoc, hname, bind, Except.bind, List.cons_append,
    List.nil_append, byte?, hlevel, number?_ofNumber, text?_ofText h.clientId,
    will?_ofWill hflags h.will, hflags.username, hflags.password, hflags.cleanSession,
    optionalText?_ofOptionalText h.username, hpassword, hkeepAlive, pure, Except.pure]
  rfl

end Frame

end BrokerNode.Mqtt
