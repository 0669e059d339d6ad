/-
BrokerNode/Proofs/Endpoint/Spelling.lean

The spelling of a payload does not matter.

Blanks around the kind, the host, the port and the database of Redis are not looked at, nor is the case
of the letters of the kind.  So two payloads that are told apart by these only describe the same endpoint,
or neither describes any and for the same reason (`ofPayload_alike`); the words for the reason may quote
the field as it is written.

The validation is a sequence of steps, each of which reads one field.  What holds of two runs of each step
holds of two runs of all of them (`Alike.bind`).
-/
import BrokerNode.Proofs.Endpoint.Checks

namespace BrokerNode

/-! ### The name of a kind -/

namespace Kind

/-- A text with blanks put around another and the case of some of its letters changed. -/
def IsRespelled (s t : List Char) : Prop := ∃ u, Text.IsRecased s u ∧ Text.IsPadded u t

theorem spelling_of_isRespelled {s t : String} (h : IsRespelled s.toList t.toList) :
    spelling t = spelling s := by
  obtain ⟨u, hcase, hpad⟩ := h
  rw [spelling, spelling, Text.trim_of_isPadded hpad, Text.map_toLower_trim,
    Text.map_toLower_of_isRecased hcase, ← Text.map_toLower_trim]

theorem parse_of_isRespelled {s t : String} (h : IsRespelled s.toList t.toList) :
    parse t = parse s := by
  rw [parse, parse, spelling_of_isRespelled h]

end Kind

namespace Endpoint

/-! ### Outcomes -/

/-- Refusals for the same reason, whatever their texts are. -/
inductive Refusal.Alike : Refusal → Refusal → Prop where
  | unknownKind (s t : String) : Refusal.Alike (.unknownKind s) (.unknownKind t)
  | missingHost : Refusal.Alike .missingHost .missingHost
  | invalidPort (s t : String) : Refusal.Alike (.invalidPort s) (.invalidPort t)
  | invalidDb (s t : String) : Refusal.Alike (.invalidDb s) (.invalidDb t)

theorem Refusal.Alike.refl (r : Refusal) : r.Alike r := by
  cases r
  · apply Refusal.Alike.unknownKind
  · apply Refusal.Alike.missingHost
  · apply Refusal.Alike.invalidPort
  · apply Refusal.Alike.invalidDb

/-- The same result, or refusals for the same reason. -/
inductive Alike {α : Type} : Except Refusal α → Except Refusal α → Prop where
  | ok (a : α) : Alike (.ok a) (.ok a)
  | error {r r' : Refusal} (h : r.Alike r') : Alike (.error r) (.error r')

namespace Alike

variable {α β : Type} {x y : Except Refusal α}

theorem refl (x : Except Refusal α) : Alike x x := by
  cases x with
  | ok a => exact .ok a
  | error r => exact .error (.refl r)

/-- When a step gives alike outcomes, and what follows does for every result of it, both together do. -/
theorem bind {f g : α → Except Refusal β} (hxy : Alike x y) (hfg : ∀ a, x = .ok a → Alike (f a) (g a)) :
    Alike (x.bind f) (y.bind g) := by
  cases hxy with
  | ok a => exact hfg a rfl
  | error h => exact .error h

theorem map (f : α → β) (hxy : Alike x y) : Alike (x.map f) (y.map f) := by
  cases hxy with
  | ok a => exact .ok (f a)
  | error h => exact .error h

end Alike

/-! ### Fields in another spelling -/

/-- A field that is the same as another, or a text in its place that is related to its text. -/
inductive InText (R : List Char → List Char → Prop) : Option Json → Option Json → Prop where
  | same (v : Option Json) : InText R v v
  | text {s t : String} (h : R s.toList t.toList) : InText R (some (.string s)) (some (.string t))

section Fields

variable {v w : Option Json}

theorem isUnset_eq (h : InText Text.IsPadded v w) : isUnset w = isUnset v := by
  cases h with
  | same => rfl
  | text hpad =>
    rw [isUnset, isUnset, trimmed, trimmed, Text.trim_of_isPadded hpad]

theorem number?_eq (bound : Nat) (h : InText Text.IsPadded v w) :
    w.bind (number? bound) = v.bind (number? bound) := by
  cases h with
  | same => rfl
  | text hpad =>
    rw [Option.bind_some, Option.bind_some, number?, number?, trimmed, trimmed,
      Text.trim_of_isPadded hpad]

theorem hostOf_eq (h : InText Text.IsPadded v w) : hostOf w = hostOf v := by
  cases h with
  | same => rfl
  | text hpad =>
    rw [hostOf, hostOf, trimmed, trimmed, Text.trim_of_isPadded hpad]

/-- Of a port only matters whether it is unset, and its number. -/
theorem portOf_alike_of_eq (hunset : isUnset w = isUnset v)
    (hnumber : w.bind (number? 65535) = v.bind (number? 65535)) : Alike (portOf v) (portOf w) := by
  rw [portOf, portOf, hunset, hnumber]
  split
  · exact .refl _
  split
  · split
    · exact .refl _
    · exact .error (.invalidPort _ _)
  · exact .error (.invalidPort _ _)

theorem portOf_alike (h : InText Text.IsPadded v w) : Alike (portOf v) (portOf w) :=
  portOf_alike_of_eq (isUnset_eq h) (number?_eq 65535 h)

/-- So it is of a database of Redis. -/
theorem dbOf_alike_of_eq (hunset : isUnset w = isUnset v)
    (hnumber : w.bind (number? 4294967295) = v.bind (number? 4294967295)) :
    Alike (dbOf v) (dbOf w) := by
  rw [dbOf, dbOf, hunset, hnumber]
  split
  · exact .refl _
  split
  · exact .refl _
  · exact .error (.invalidDb _ _)

theorem dbOf_alike (h : InText Text.IsPadded v w) : Alike (dbOf v) (dbOf w) :=
  dbOf_alike_of_eq (isUnset_eq h) (number?_eq 4294967295 h)

theorem kind?_eq {p q : Payload} (h : InText Kind.IsRespelled p.brokerType q.brokerType) :
    q.kind? = p.kind? := by
  rw [Payload.kind?, Payload.kind?]
  generalize p.brokerType = v at h
  generalize q.brokerType = w at h
  cases h with
  | same => rfl
  | text hspell =>
    simp only [Option.bind_some, Json.string?, Kind.parse_of_isRespelled hspell]

theorem kindOf_alike {p q : Payload} (h : InText Kind.IsRespelled p.brokerType q.brokerType) :
    Alike (kindOf p) (kindOf q) := by
  rw [kindOf, kindOf, kind?_eq h]
  split
  · exact .refl _
  · exact .error (.unknownKind _ _)

end Fields

/-! ### The steps of the validation -/

/-- The endpoint of a kind at a server, with what else the payload says about it. -/
def endpointAt (p : Payload) (server : Server) : Kind → Except Refusal Endpoint
  | .mqtt => .ok (.mqtt server)
  | .amqp => (vhostOf p.db).map fun vhost => .amqp server vhost (textOf p.exchange)
  | .redis => (dbOf p.db).map fun db => .redis server db

/-- The validation, step by step. -/
theorem ofPayload_eq_bind (p : Payload) :
    ofPayload p = (kindOf p).bind fun k => (hostOf p.host).bind fun host =>
      (portOf p.port).bind fun port => endpointAt p (serverOf p k host port) k := by
  cases hk : kindOf p with
  | error r =>
    rw [ofPayload, hk]
    rfl
  | ok k =>
    cases hh : hostOf p.host with
    | error r =>
      rw [ofPayload, hk, hh]
      rfl
    | ok host =>
      cases hp : portOf p.port with
      | error r =>
        rw [ofPayload, hk, hh, hp]
        rfl
      | ok port =>
        cases k with
        | mqtt => rw [ofPayload_mqtt hk hh hp]; rfl
        | amqp => rw [ofPayload_amqp hk hh hp]; rfl
        | redis => rw [ofPayload_redis hk hh hp]; rfl

/-! ### Payloads in another spelling -/

/-- A payload in another spelling: blanks may have been put around its kind, its host, its port and the
database of Redis where these are texts, and the case of the letters of the kind may have been changed.
Nothing else has. -/
structure Respelled (p q : Payload) : Prop where
  brokerType : InText Kind.IsRespelled p.brokerType q.brokerType
  host : InText Text.IsPadded p.host q.host
  port : InText Text.IsPadded p.port q.port
  db : NamesKind p.brokerType .redis → InText Text.IsPadded p.db q.db
  db_eq : ¬NamesKind p.brokerType .redis → q.db = p.db
  name_eq : q.name = p.name
  username_eq : q.username = p.username
  password_eq : q.password = p.password
  exchange_eq : q.exchange = p.exchange

variable {p q : Payload}

theorem Respelled.serverOf_eq (h : Respelled p q) (k : Kind) (host : String) (port : Option UInt16) :
    serverOf q k host port = serverOf p k host port := by
  rw [serverOf, serverOf, h.username_eq, h.password_eq]

/-- The last step depends on the kind that the payload names. -/
theorem Respelled.endpointAt_alike (h : Respelled p q) {k : Kind} (hk : NamesKind p.brokerType k)
    (server : Server) : Alike (endpointAt p server k) (endpointAt q server k) := by
  cases k with
  | mqtt => exact .ok _
  | amqp =>
    have hdb : q.db = p.db := h.db_eq fun hredis => by cases hk.unique hredis
    rw [endpointAt, endpointAt, hdb, h.exchange_eq]
    exact .refl _
  | redis => exact (dbOf_alike (h.db hk)).map _

theorem namesKind_of_kindOf {k : Kind} (h : kindOf p = .ok k) : NamesKind p.brokerType k := by
  unfold kindOf at h
  split at h
  · next hk =>
    cases h
    exact kind?_eq_some_iff.mp hk
  · cases h

/-- Payloads in different spellings describe the same endpoint, or none for the same reason, and texts
in different spellings name the same kind, or are unknown with the same words. -/
theorem ofPayload_alike :
    (∀ p q : Payload, Respelled p q → Alike (ofPayload p) (ofPayload q)) ∧
    ∀ s t : String, Kind.IsRespelled s.toList t.toList → Kind.parse t = Kind.parse s := by
  refine ⟨?_, fun s t => Kind.parse_of_isRespelled⟩
  intro p q h
  rw [ofPayload_eq_bind, ofPayload_eq_bind]
  apply (kindOf_alike h.brokerType).bind
  intro k hk
  rw [hostOf_eq h.host]
  apply (Alike.refl _).bind
  intro host _
  apply (portOf_alike h.port).bind
  intro port _
  rw [h.serverOf_eq]
  exact h.endpointAt_alike (namesKind_of_kindOf hk) _

/-- A payload for Redis without blanks. -/
def plainPayload : Payload where
  host := some (.string "h")
  port := some (.string "6380")
  brokerType := some (.string "Redis")
  db := some (.string "3")

/-- The same payload with blanks around its fields, and the kind in another case. -/
def widePayload : Payload where
  host := some (.string " h\t")
  port := some (.string "6380\n")
  brokerType := some (.string "\u00A0rEDIS ")
  db := some (.string "\u30003")

theorem ofPayload_alike_wide :
    Alike (.ok (.redis ⟨"h", 6380, none⟩ 3)) (ofPayload widePayload) ∧
    Kind.parse " kAFKA" = .error ⟨"kafka"⟩ := by
  obtain ⟨hpayload, hkind⟩ := ofPayload_alike
  have hredis : Text.IsRecased "Redis".toList "rEDIS".toList := by simp [Text.IsRecased]
  have hkafka : Text.IsRecased "Kafka".toList "kAFKA".toList := by simp [Text.IsRecased]
  have hwide : Respelled plainPayload widePayload := by
    refine ⟨.text ⟨_, hredis, ['\u00A0'], [' '], rfl, rfl, rfl⟩,
      .text ⟨[' '], ['\t'], rfl, rfl, rfl⟩,
      .text ⟨[], ['\n'], rfl, rfl, rfl⟩,
      fun _ => .text ⟨['\u3000'], [], rfl, rfl, rfl⟩, ?_, rfl, rfl, rfl, rfl⟩
    exact fun hdb => absurd ⟨_, rfl, rfl⟩ hdb
  have hunknown : Kind.IsRespelled "Kafka".toList " kAFKA".toList :=
    ⟨_, hkafka, [' '], [], rfl, rfl, rfl⟩
  refine ⟨hpayload _ _ hwide, ?_⟩
  rw [hkind _ _ hunknown]
  rfl

end Endpoint

end BrokerNode
