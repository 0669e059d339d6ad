/-
BrokerNode/Proofs/Endpoint/NormalForm.lean

Endpoints are normal forms of payloads.

The validation takes off the blanks around the host, puts in the default port, the root as virtual host
and the first database, and drops credentials of which a part is missing.  There is nothing of that kind
left to do for an endpoint that it made (`IsNormal`), so the payload that is rebuilt from the endpoint
describes the very same endpoint (`ofPayload_toPayload`).  It does not matter whether its numbers are
written as numbers or as texts, nor whether it has been sent in an envelope before.
-/
import BrokerNode.Proofs.Documents
import BrokerNode.Proofs.Endpoint.Checks

namespace BrokerNode

open Json (Number)

/-! ### Values that are read back as themselves -/

/-- A value that is a text or a whole number. -/
def Json.IsPlain (v : Json) : Prop :=
  (∃ s, v = .string s) ∨ ∃ n bounds, v = .number (.whole n bounds)

namespace Json.IsPlain

variable {v : Json}

theorem ne_null (h : v.IsPlain) : v ≠ .null := by
  rcases h with ⟨s, rfl⟩ | ⟨n, bounds, rfl⟩ <;> simp

theorem ordered (h : v.IsPlain) : v.Ordered := by
  apply ordered_of_leaf
  · rcases h with ⟨s, rfl⟩ | ⟨n, bounds, rfl⟩ <;> simp
  · rcases h with ⟨s, rfl⟩ | ⟨n, bounds, rfl⟩ <;> simp

theorem reread (h : v.IsPlain) (nesting : Nat) : v.reread nesting = some v := by
  rcases h with ⟨s, rfl⟩ | ⟨n, bounds, rfl⟩
  · rw [Json.reread]
  · have hself : (Number.whole n bounds).reread = some (.whole n bounds) := Number.isStable_whole bounds
    rw [Json.reread, hself]
    rfl

end Json.IsPlain

/-- A payload of plain values is found in the body that it is sent as. -/
theorem Envelope.parse_body_of_isPlain {p : Payload} (h : ∀ v ∈ p.values, ∀ x ∈ v, x.IsPlain) :
    parse (mk p).body = .ok ⟨p⟩ := by
  rw [Payload.forall_values_iff (P := fun v => ∀ x ∈ v, x.IsPlain)] at h
  apply parse_body
  · intro f hf v hv
    exact ⟨(h f hf v hv).ne_null, (h f hf v hv).ordered⟩
  · intro f hf v hv
    exact (h f hf v hv).reread nesting

/-- The name of a kind is in the spelling that decides. -/
theorem Kind.spelling_name (k : Kind) : spelling k.name = k.name := by
  cases k <;> rfl

namespace Endpoint

/-! ### Numbers in fields -/

theorem GivesNumber.isPlain {x : Json} {n : Nat} (h : GivesNumber (some x) n) : x.IsPlain := by
  rcases h with ⟨bounds, hx⟩ | ⟨s, hx, -⟩
  · cases hx
    exact Or.inr ⟨_, bounds, rfl⟩
  · cases hx
    exact Or.inl ⟨s, rfl⟩

theorem givesNumber_ofUInt64 (n : UInt64) :
    GivesNumber (some (.number (.ofUInt64 n))) n.toNat := Or.inl ⟨_, rfl⟩

/-- The decimal text of a number gives it. -/
theorem givesNumber_write (n : Nat) :
    GivesNumber (some (.string (String.ofList (Text.Numeral.write n)))) n := by
  apply givesNumber_of_isNumeralOf
  rw [String.toList_ofList, isNumeralOf_iff, Text.Numeral.digits_write]
  exact ⟨Text.Numeral.isNumeral_write n, Nat.ofDigitChars_ten_toDigits⟩

/-! ### Normal endpoints -/

/-- An endpoint that the validation has nothing to take off from, to fill in or to drop. -/
structure IsNormal (e : Endpoint) : Prop where
  trim_host : Text.trim e.server.host.toList = e.server.host.toList
  host_ne_empty : e.server.host ≠ ""
  port_pos : 1 ≤ e.server.port.toNat
  credentials : ∀ c, e.server.credentials = some c → c.username ≠ "" ∧ c.password ≠ ""
  vhost_ne_empty : ∀ s vhost exchange, e = .amqp s vhost exchange → vhost ≠ ""

/-- An endpoint that a payload describes is as the payload describes it. -/
theorem exists_describes_of_ok {p : Payload} {e : Endpoint} (h : ofPayload p = .ok e) :
    ∃ k, Describes p k e := by
  rcases all_pass_or_firstFailing (checks p) with hall | ⟨r, hr⟩
  · obtain ⟨k, e', -, hok, hdescribes⟩ := ofPayload_of_all_pass hall
    rw [h] at hok
    cases hok
    exact ⟨k, hdescribes⟩
  · rw [ofPayload_of_firstFailing hr] at h
    cases h

/-- The validation makes normal endpoints. -/
theorem isNormal_of_ok {p : Payload} {e : Endpoint} (h : ofPayload p = .ok e) : e.IsNormal := by
  obtain ⟨k, hd⟩ := exists_describes_of_ok h
  refine ⟨?_, hd.host_ne_empty, hd.port_pos, ?_, ?_⟩
  · obtain ⟨s, -, hhost⟩ := hd.host
    rw [hhost, String.toList_ofList, Text.trim_trim]
  · intro c hc
    obtain ⟨-, husername, -, hpassword⟩ := (hd.credentials c).mp hc
    exact ⟨husername, hpassword⟩
  · intro s vhost exchange he
    exact (hd.amqp s vhost exchange he).1.ne_empty

/-! ### Rebuilt payloads -/

/-- The payload that is rebuilt from an endpoint, with these values as its port and, for Redis, as its
database. -/
def withNumbers (e : Endpoint) (port db : Json) : Payload :=
  match e with
  | .redis _ _ => { e.toPayload with port := some port, db := some db }
  | _ => { e.toPayload with port := some port }

/-- The numbers of an endpoint, each written as a number or as a numeral. -/
structure WritesNumbers (e : Endpoint) (port db : Json) : Prop where
  port : GivesNumber (some port) e.server.port.toNat
  db : ∀ s n, e = .redis s n → GivesNumber (some db) n.toNat

/-- The numbers of a rebuilt payload are numbers. -/
theorem exists_toPayload_eq_withNumbers (e : Endpoint) :
    ∃ port db, e.WritesNumbers port db ∧ e.toPayload = e.withNumbers port db := by
  have hport := givesNumber_ofUInt64 e.server.port.toUInt64
  rw [UInt16.toNat_toUInt64] at hport
  cases e with
  | mqtt s => exact ⟨_, .null, ⟨hport, by simp⟩, rfl⟩
  | amqp s vhost exchange => exact ⟨_, .null, ⟨hport, by simp⟩, rfl⟩
  | redis s db =>
    refine ⟨_, .number (.ofUInt64 db.toUInt64), ⟨hport, ?_⟩, rfl⟩
    intro s' db' he
    cases he
    have hdb := givesNumber_ofUInt64 db.toUInt64
    rwa [UInt32.toNat_toUInt64] at hdb

section Rebuilt

variable {e : Endpoint} {port db : Json}

/-- All values in a rebuilt payload are plain. -/
theorem isPlain_withNumbers (h : e.WritesNumbers port db) :
    ∀ v ∈ (e.withNumbers port db).values, ∀ x ∈ v, x.IsPlain := by
  have htext : ∀ s : String, (Json.string s).IsPlain := fun s => Or.inl ⟨s, rfl⟩
  have hport := h.port.isPlain
  cases e with
  | mqtt s => simp [Payload.values, withNumbers, toPayload, htext, hport]
  | amqp s vhost exchange => simp [Payload.values, withNumbers, toPayload, htext, hport]
  | redis s n =>
    have hdb := (h.db s n rfl).isPlain
    simp [Payload.values, withNumbers, toPayload, htext, hport, hdb]

theorem namesKind_withNumbers (e : Endpoint) (port db : Json) :
    NamesKind (e.withNumbers port db).brokerType e.kind := by
  refine ⟨e.kind.name, ?_, e.kind.spelling_name⟩
  cases e <;> rfl

theorem hostOf_withNumbers (h : e.IsNormal) (port db : Json) :
    hostOf (e.withNumbers port db).host = .ok e.server.host := by
  have hhost : (e.withNumbers port db).host = some (.string e.server.host) := by
    cases e <;> rfl
  have hne : ¬e.server.host.toList.isEmpty = true := by
    simpa using h.host_ne_empty
  rw [hhost, hostOf, trimmed, h.trim_host, if_neg hne, String.ofList_toList]

theorem serverOf_withNumbers (h : e.IsNormal) (port db : Json) :
    serverOf (e.withNumbers port db) e.kind e.server.host (some e.server.port) = e.server := by
  have husername : (e.withNumbers port db).username =
      e.server.credentials.map fun c => .string c.username := by
    cases e <;> rfl
  have hpassword : (e.withNumbers port db).password =
      e.server.credentials.map fun c => .string c.password := by
    cases e <;> rfl
  have hcredentials : Credentials.ofParts (textOf (e.withNumbers port db).username)
      (textOf (e.withNumbers port db).password) = e.server.credentials := by
    rw [husername, hpassword]
    cases hc : e.server.credentials with
    | none => rfl
    | some c =>
      obtain ⟨hu, hp⟩ := h.credentials c hc
      exact credentials_eq_some_iff.mpr ⟨rfl, hu, rfl, hp⟩
  rw [serverOf, hcredentials]
  rfl

/-- A normal endpoint is described by the payload that is rebuilt from it. -/
theorem ofPayload_withNumbers (h : e.IsNormal) (hnumbers : e.WritesNumbers port db) :
    ofPayload (e.withNumbers port db) = .ok e := by
  have hkind := kindOf_of_namesKind (namesKind_withNumbers e port db)
  have hhost := hostOf_withNumbers h port db
  have hport : portOf (e.withNumbers port db).port = .ok (some e.server.port) := by
    have hfield : (e.withNumbers port db).port = some port := by
      cases e <;> rfl
    rw [hfield]
    exact portOf_of_givesNumber hnumbers.port h.port_pos
  have hserver := serverOf_withNumbers h port db
  cases e with
  | mqtt s =>
    rw [ofPayload_mqtt hkind hhost hport]
    exact congrArg (fun s => Except.ok (mqtt s)) hserver
  | amqp s vhost exchange =>
    have hvhost : vhostOf (some (.string vhost)) = .ok vhost := by
      have hne : ¬vhost.isEmpty = true := by
        simpa using h.vhost_ne_empty s vhost exchange rfl
      rw [vhostOf, if_neg hne]
    rw [ofPayload_amqp hkind hhost hport]
    show (vhostOf (some (.string vhost))).map _ = _
    rw [hvhost]
    exact congrArg (fun s => Except.ok (amqp s vhost exchange)) hserver
  | redis s n =>
    rw [ofPayload_redis hkind hhost hport]
    show (dbOf (some db)).map _ = _
    rw [dbOf_of_givesNumber (hnumbers.db s n rfl)]
    exact congrArg (fun s => Except.ok (redis s n)) hserver

/-- The normal endpoints are those that some payload describes. -/
theorem isNormal_iff_exists_payload : e.IsNormal ↔ ∃ p, ofPayload p = .ok e := by
  constructor
  · intro h
    obtain ⟨port, db, hnumbers, -⟩ := exists_toPayload_eq_withNumbers e
    exact ⟨_, ofPayload_withNumbers h hnumbers⟩
  · rintro ⟨p, hp⟩
    exact isNormal_of_ok hp

end Rebuilt

/-- The payload that is rebuilt from the endpoint of a payload describes the same endpoint, before and
after it is sent in an envelope, and still does with its numbers written in another way. -/
theorem ofPayload_toPayload {p : Payload} {e : Endpoint} (h : ofPayload p = .ok e) :
    (ofPayload e.toPayload = .ok e ∧
      ∃ f, Envelope.parse (Envelope.mk e.toPayload).body = .ok f ∧ ofPayload f.payload = .ok e) ∧
    ∀ port db, e.WritesNumbers port db → ofPayload (e.withNumbers port db) = .ok e ∧
      ∃ f, Envelope.parse (Envelope.mk (e.withNumbers port db)).body = .ok f ∧
        ofPayload f.payload = .ok e := by
  have hrewritten : ∀ port db, e.WritesNumbers port db → ofPayload (e.withNumbers port db) = .ok e ∧
      ∃ f, Envelope.parse (Envelope.mk (e.withNumbers port db)).body = .ok f ∧
        ofPayload f.payload = .ok e := by
    intro port db hnumbers
    have hok := ofPayload_withNumbers (isNormal_of_ok h) hnumbers
    exact ⟨hok, _, Envelope.parse_body_of_isPlain (isPlain_withNumbers hnumbers), hok⟩
  refine ⟨?_, hrewritten⟩
  obtain ⟨port, db, hnumbers, hsame⟩ := exists_toPayload_eq_withNumbers e
  rw [hsame]
  exact hrewritten port db hnumbers

/-- A payload for Redis with blanks, signs and zeros, and with an exchange that Redis does not have. -/
def unkemptPayload : Payload where
  host := some (.string " h\t")
  port := some (.string "+06380")
  brokerType := some (.string " Redis")
  username := some (.string "u")
  password := some (.string " ")
  db := some (.string "007 ")
  exchange := some (.string "x")

theorem ofPayload_toPayload_unkempt :
    let e : Endpoint := .redis ⟨"h", 6380, some ⟨"u", " "⟩⟩ 7
    ofPayload unkemptPayload = .ok e ∧ ofPayload e.toPayload = .ok e ∧
      ofPayload (e.withNumbers (.string "6380") (.string "7")) = .ok e ∧
      ∃ f, Envelope.parse (Envelope.mk (e.withNumbers (.string "6380") (.string "7"))).body = .ok f ∧
        ofPayload f.payload = .ok e := by
  intro e
  have he : ofPayload unkemptPayload = .ok e := rfl
  obtain ⟨⟨hsame, -⟩, hrewritten⟩ := ofPayload_toPayload he
  have hnumbers : e.WritesNumbers (.string "6380") (.string "7") := by
    refine ⟨givesNumber_write 6380, ?_⟩
    intro s db hdb
    obtain ⟨-, rfl⟩ := Endpoint.redis.inj hdb
    exact givesNumber_write 7
  exact ⟨he, hsame, hrewritten _ _ hnumbers⟩

end Endpoint

end BrokerNode
