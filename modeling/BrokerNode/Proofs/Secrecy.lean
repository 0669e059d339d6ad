/-
BrokerNode/Proofs/Secrecy.lean

Passwords stay out of sight.

Two passwords go through the program: the one that the settings give, with which the client logs in at
its broker, and the one in the definition of a node, which is published with the envelope.  Two trials
that differ in nothing but these two are alike step by step (`perform_alike`, `run_alike`): sessions that
are the same under the veil stay so, and their outcomes and log lines are the same.

The main statement, `passwords_stay_hidden`, compares whole trials: visits to a broker, each of them with
any deployments, waits and leaves.  It also says that payloads, envelopes and endpoints are shown alike,
in both layouts, whatever a password in them is.
-/
import BrokerNode.Proofs.Mqtt.Veil
import BrokerNode.Settings

namespace BrokerNode

open Mqtt Text

/-! ### Values with another password -/

/-- A payload with another password. -/
def Payload.withPassword (p : Payload) (v : Json) : Payload := { p with password := some v }

/-- A definition with another password. -/
def Definition.withPassword (d : Definition) (v : Json) : Definition :=
  { d with password := some v }

/-- A server with another password, if it has one. -/
def Server.withPassword (s : Server) (password : String) : Server :=
  { s with credentials := s.credentials.map fun c => { c with password } }

/-- An endpoint with another password, if it has one. -/
def Endpoint.withPassword (e : Endpoint) (password : String) : Endpoint :=
  match e with
  | .mqtt s => .mqtt (s.withPassword password)
  | .amqp s vhost exchange => .amqp (s.withPassword password) vhost exchange
  | .redis s db => .redis (s.withPassword password) db

/-- Values that are shown alike, in the plain and in the pretty layout. -/
def Text.Shown.Alike (t u : Shown) : Prop := t.plain = u.plain ∧ ∀ level, t.pretty level = u.pretty level

theorem Text.Shown.Alike.of_eq {t u : Shown} (h : t = u) : t.Alike u := by
  rw [h]
  exact ⟨rfl, fun _ => rfl⟩

theorem Payload.shown_withPassword (p : Payload) (v w : Json) :
    (p.withPassword v).shown = (p.withPassword w).shown :=
  rfl

theorem Envelope.shown_withPassword (p : Payload) (v w : Json) :
    (Envelope.mk (p.withPassword v)).shown = (Envelope.mk (p.withPassword w)).shown :=
  rfl

theorem Server.shownCredentials_withPassword (s : Server) (password : String) :
    (s.withPassword password).shownCredentials = s.shownCredentials := by
  obtain ⟨host, port, credentials⟩ := s
  cases credentials <;> rfl

theorem Endpoint.shown_withPassword (e : Endpoint) (password : String) :
    (e.withPassword password).shown = e.shown := by
  cases e with
  | mqtt s | amqp s vhost exchange | redis s db =>
    rw [withPassword, shown, shown, Server.shownCredentials_withPassword]
    rfl

/-! ### Deployments -/

/-- Definitions that differ in nothing but their passwords, with bodies of the same size. -/
structure Definition.Alike (d d' : Definition) : Prop where
  rest : ∃ e v w, d = withPassword e v ∧ d' = withPassword e w
  size : (Envelope.ofDefinition d).body.utf8ByteSize = (Envelope.ofDefinition d').body.utf8ByteSize

namespace Mqtt

theorem Outbox.topic_eq_of_veiled {o o' : Outbox} (h : o.veiled = o'.veiled) :
    o.topic = o'.topic := by
  have htopic : o.veiled.topic = o'.veiled.topic := by rw [h]
  exact htopic

theorem Outbox.retain_eq_of_veiled {o o' : Outbox} (h : o.veiled = o'.veiled) :
    o.retain = o'.retain := by
  have hretain : o.veiled.retain = o'.veiled.retain := by rw [h]
  exact hretain

/-- Publications of the same size are put alike into outboxes that are the same under the veil. -/
theorem Outbox.publish_alike {o o' : Outbox} (h : o.veiled = o'.veiled) {e e' : Envelope}
    (hsize : e.body.utf8ByteSize = e'.body.utf8ByteSize) :
    (o.publish e).map Outbox.veiled = (o'.publish e').map Outbox.veiled := by
  have hpublication : (o.publication e).veiled = (o'.publication e').veiled := by
    simp only [publication, Publication.veiled, blank, hsize, topic_eq_of_veiled h,
      retain_eq_of_veiled h]
  rw [publish, publish, topic_eq_of_veiled h]
  split
  · rw [← put_veiled, ← put_veiled, Request.veiled, Request.veiled, hpublication, h]
  · rfl

/-- Nodes are deployed alike on outboxes that are the same under the veil. -/
theorem Outbox.deploy_alike {o o' : Outbox} (h : o.veiled = o'.veiled) {d d' : Definition}
    (hd : d.Alike d') (fresh : String) :
    (Node.deploy fresh d Outbox.wire o).outcome = (Node.deploy fresh d' Outbox.wire o').outcome ∧
      (Node.deploy fresh d Outbox.wire o).state.veiled =
        (Node.deploy fresh d' Outbox.wire o').state.veiled ∧
      (Node.deploy fresh d Outbox.wire o).log = (Node.deploy fresh d' Outbox.wire o').log := by
  have hpublish := publish_alike h hd.size
  obtain ⟨e, v, w, rfl, rfl⟩ := hd.rest
  have hline : o.queuedLine = o'.queuedLine := by
    rw [queuedLine, queuedLine, topic_eq_of_veiled h]
  -- the node and its announcement are the same; what is left is what becomes of the publication
  simp only [Node.deploy, wire]
  cases hp : o.publish (.ofDefinition (e.withPassword v)) with
  | ok p =>
    cases hp' : o'.publish (.ofDefinition (e.withPassword w)) with
    | ok p' =>
      rw [hp, hp'] at hpublish
      exact ⟨rfl, Except.ok.inj hpublish, congrArg (fun l => _ :: [l]) hline⟩
    | error r' =>
      rw [hp, hp'] at hpublish
      cases hpublish
  | error r =>
    cases hp' : o'.publish (.ofDefinition (e.withPassword w)) with
    | ok p' =>
      rw [hp, hp'] at hpublish
      cases hpublish
    | error r' =>
      rw [hp, hp'] at hpublish
      obtain rfl : r = r' := Except.error.inj hpublish
      exact ⟨rfl, h, rfl⟩

namespace Session

/-! ### Runs -/

/-- Actions that differ in nothing but the passwords of definitions. -/
inductive Action.Alike : Action → Action → Prop where
  | deploy (fresh : String) {d d' : Definition} (h : d.Alike d') :
    Alike (.deploy fresh d) (.deploy fresh d')
  | await (limit : Nat) (turns : List Turn) : Alike (.await limit turns) (.await limit turns)
  | shutdown (limit : Nat) (turns : List Turn) : Alike (.shutdown limit turns) (.shutdown limit turns)

/-- Sessions that are the same under the veil do the same, and stay the same under the veil. -/
theorem perform_alike {s s' : Session} (h : s.veiled = s'.veiled) {a a' : Action} (ha : a.Alike a') :
    seen (s.perform a) = seen (s'.perform a') := by
  cases ha with
  | @deploy fresh d d' hd =>
    have houtbox : s.outbox.veiled = s'.outbox.veiled := by
      have houtbox' : s.veiled.outbox = s'.veiled.outbox := by rw [h]
      exact houtbox'
    obtain ⟨houtcome, hstate, hlog⟩ := Outbox.deploy_alike houtbox hd fresh
    rw [perform, perform, deploy, deploy]
    generalize Node.deploy fresh d Outbox.wire s.outbox = sent at houtcome hstate hlog ⊢
    generalize Node.deploy fresh d' Outbox.wire s'.outbox = sent' at houtcome hstate hlog ⊢
    have hsession : veiled { s with outbox := sent.state } =
        veiled { s' with outbox := sent'.state } := by
      show { s.veiled with outbox := sent.state.veiled } =
        { s'.veiled with outbox := sent'.state.veiled }
      rw [h, hstate]
    dsimp only
    rw [← houtcome, ← hlog]
    cases sent.outcome with
    | ok node => exact congrArg (fun x => (Outcome.deployed node, x, sent.log)) hsession
    | error f => exact congrArg (fun x => (Outcome.notDeployed f, x, sent.log)) hsession
  | await limit turns =>
    have hseen := congrArg (Session.await limit turns) h
    rw [await_veiled, await_veiled] at hseen
    rw [perform, perform]
    generalize Session.await limit turns s = x at hseen ⊢
    generalize Session.await limit turns s' = x' at hseen ⊢
    obtain ⟨outcome, t, log⟩ := x
    obtain ⟨outcome', t', log'⟩ := x'
    obtain ⟨rfl, ht, rfl⟩ := seen_eq_iff.mp hseen
    cases outcome with
    | ok u => exact congrArg (fun x => (Outcome.delivered, x, log)) ht
    | error u => exact congrArg (fun x => (Outcome.undelivered u, x, log)) ht
  | shutdown limit turns =>
    have hseen := congrArg (Session.shutdown limit turns) h
    rw [shutdown_veiled, shutdown_veiled] at hseen
    obtain ⟨hleave, ht, hlog⟩ := seen_eq_iff.mp hseen
    exact seen_eq_iff.mpr ⟨congrArg Outcome.left hleave, ht, hlog⟩

/-- Runs on sessions that are the same under the veil give the same outcomes and log lines. -/
theorem run_alike {s s' : Session} (h : s.veiled = s'.veiled) {actions actions' : List Action}
    (hactions : List.Forall₂ Action.Alike actions actions') :
    (s.run actions).1 = (s'.run actions').1 ∧
      (s.run actions).2.veiled = (s'.run actions').2.veiled := by
  induction hactions generalizing s s' with
  | nil => exact ⟨rfl, h⟩
  | cons ha _ ih =>
    have hseen := perform_alike h ha
    rw [run, run]
    generalize perform s _ = x at hseen ⊢
    generalize perform s' _ = x' at hseen ⊢
    obtain ⟨outcome, t, log⟩ := x
    obtain ⟨outcome', t', log'⟩ := x'
    obtain ⟨rfl, ht, rfl⟩ := seen_eq_iff.mp hseen
    obtain ⟨houtcomes, hlast⟩ := ih ht
    cases outcome with
    | left l =>
      cases l with
      | stuck => exact ⟨rfl, ht⟩
      | done | timeLimit => exact ⟨congrArg (List.cons _) houtcomes, hlast⟩
    | deployed node | notDeployed f | delivered | undelivered u =>
      exact ⟨congrArg (List.cons _) houtcomes, hlast⟩

end Session

/-! ### Visits -/

/-- A visit to a broker: under which name, and what is done on the connection to it. -/
structure Visit where
  clientId : String
  actions : List Session.Action

/-- What is left of a visit. -/
structure Visited where
  announcement : Log.Line
  outcomes : List (Session.Outcome × Log)
  traffic : List (List Traffic)

/-- Visits that differ in nothing but the passwords of definitions. -/
structure Visit.Alike (v v' : Visit) : Prop where
  clientId : v.clientId = v'.clientId
  actions : List.Forall₂ Session.Action.Alike v.actions v'.actions

/-- What is left of a visit, with its traffic under the veil. -/
def Visited.veiled (v : Visited) : Visited :=
  { v with traffic := v.traffic.map fun traffic => traffic.map Traffic.veiled }

/-- Whether an action does not end. -/
def Session.Outcome.isStuck : Session.Outcome → Bool
  | .left .stuck => true
  | _ => false

/-- Whether a visit does not end. -/
def Visited.isStuck (v : Visited) : Bool := v.outcomes.any fun o => o.1.isStuck

/-- A session for settings, under a name. -/
def sessionFor (s : Settings) (clientId : String) (network : Network) : Session :=
  .start (Options.ofServer clientId s.server).connect network (.empty s.topic s.retain)

/-- One visit.  Returns what is left of it, and what there is at the address of the broker behind
it. -/
def visit (s : Settings) (network : Network) (v : Visit) : Visited × Network :=
  let r := (sessionFor s v.clientId network).run v.actions
  (⟨Outbox.announcement s.server, r.1, r.2.traffic⟩, r.2.network)

/-- Visits one after the other, up to one that does not end. -/
def visits (s : Settings) : Network → List Visit → List Visited
  | _, [] => []
  | network, v :: vs =>
    let r := visit s network v
    if r.1.isStuck then [r.1] else r.1 :: visits s r.2 vs

/-- Under the veil no password of the settings is seen that is there. -/
theorem veiled_sessionFor (s : Settings) {q q' : String} (hq : q ≠ "") (hq' : q' ≠ "")
    (clientId : String) (network : Network) :
    (sessionFor { s with password := q } clientId network).veiled =
      (sessionFor { s with password := q' } clientId network).veiled := by
  have hparts : ∀ {r}, r ≠ "" → Credentials.ofParts s.username r =
      if s.username.isEmpty then none else some ⟨s.username, r⟩ := by
    intro r hr
    rw [Credentials.ofParts, String.isEmpty_eq_false_iff.mpr hr, Bool.or_false]
  have hpart : ∀ {r}, r ≠ "" → Options.unlessEmpty r = some r := by
    intro r hr
    rw [Options.unlessEmpty, String.isEmpty_eq_false_iff.mpr hr]
    rfl
  simp only [sessionFor, Session.start, Session.veiled, Connect.veiled, Options.ofServer,
    Options.connect, Settings.server, hparts hq, hparts hq']
  split
  · rfl
  · simp only [Option.bind_some, hpart hq, hpart hq', Option.map_some]

/-- A visit is seen alike, and leaves the same behind it at the address of the broker. -/
theorem visit_alike (s : Settings) {q q' : String} (hq : q ≠ "") (hq' : q' ≠ "")
    (network : Network) {v v' : Visit} (hv : v.Alike v') :
    (visit { s with password := q } network v).1.veiled =
        (visit { s with password := q' } network v').1.veiled ∧
      (visit { s with password := q } network v).2 =
        (visit { s with password := q' } network v').2 := by
  obtain ⟨houtcomes, hlast⟩ :=
    Session.run_alike (veiled_sessionFor s hq hq' v.clientId network) hv.actions
  rw [visit, visit, ← hv.clientId]
  -- all that matters of the two runs is that they are alike
  generalize (sessionFor { s with password := q } v.clientId network).run v.actions = r
    at houtcomes hlast ⊢
  generalize (sessionFor { s with password := q' } v.clientId network).run v'.actions = r'
    at houtcomes hlast ⊢
  have htraffic : r.2.veiled.traffic = r'.2.veiled.traffic := by rw [hlast]
  have hnetwork : r.2.veiled.network = r'.2.veiled.network := by rw [hlast]
  rw [Session.traffic_veiled, Session.traffic_veiled] at htraffic
  refine ⟨?_, hnetwork⟩
  simp only [Visited.veiled, houtcomes, htraffic]
  rfl

/-- Visits are seen alike, one after the other. -/
theorem visits_alike (s : Settings) {q q' : String} (hq : q ≠ "") (hq' : q' ≠ "")
    (network : Network) {vs vs' : List Visit} (hvs : List.Forall₂ Visit.Alike vs vs') :
    (visits { s with password := q } network vs).map Visited.veiled =
      (visits { s with password := q' } network vs').map Visited.veiled := by
  induction hvs generalizing network with
  | nil => rfl
  | @cons v v' vs vs' hv _ ih =>
    obtain ⟨hvisited, hnetwork⟩ := visit_alike s hq hq' network hv
    rw [visits, visits]
    generalize visit { s with password := q } network v = r at hvisited hnetwork ⊢
    generalize visit { s with password := q' } network v' = r' at hvisited hnetwork ⊢
    have hstuck : r.1.isStuck = r'.1.isStuck := by
      have hstuck' : r.1.veiled.isStuck = r'.1.veiled.isStuck := by rw [hvisited]
      exact hstuck'
    -- the next visit finds what the last one left at the address of the broker
    rw [hstuck, ← hnetwork]
    split
    · exact congrArg (fun x => [x]) hvisited
    · exact congrArg₂ List.cons hvisited (ih r.2)

end Mqtt

/-- Two trials that differ in nothing but the password of the settings and the passwords of definitions,
which all are there and leave the bodies their size, have the same outcomes and the same log lines, and
the same traffic but for the passwords of introductions and the bodies of publications.  Payloads,
envelopes and endpoints are shown alike whatever their password is. -/
theorem passwords_stay_hidden (s : Settings) {q q' : String} (hq : q ≠ "") (hq' : q' ≠ "")
    (network : Network) {vs vs' : List Visit} (hvs : List.Forall₂ Visit.Alike vs vs') :
    (visits { s with password := q } network vs).map Visited.veiled =
        (visits { s with password := q' } network vs').map Visited.veiled ∧
      (∀ (p : Payload) v w, (p.withPassword v).shown.Alike (p.withPassword w).shown) ∧
      (∀ (p : Payload) v w,
        (Envelope.mk (p.withPassword v)).shown.Alike (Envelope.mk (p.withPassword w)).shown) ∧
      ∀ (e : Endpoint) password, (e.withPassword password).shown.Alike e.shown :=
  ⟨visits_alike s hq hq' network hvs, fun p v w => .of_eq (p.shown_withPassword v w),
    fun p v w => .of_eq (Envelope.shown_withPassword p v w),
    fun e password => .of_eq (e.shown_withPassword password)⟩

/-- Settings for a broker on the same host. -/
def localSettings : Settings :=
  ⟨"node.json", "localhost", 1883, "user", "first", true, 5000, "ha_auto/broker"⟩

/-- A broker that welcomes the client and acknowledges what it publishes. -/
def welcoming : Network := .broker [[[.connAck 0], [.pubAck none]]]

/-- A definition of a broker with a password. -/
def localDefinition (v : Json) : Definition :=
  Definition.withPassword { host := some (.string "localhost") } v

/-- A visit that deploys a node, waits for the delivery and takes leave. -/
def delivering (d : Definition) : Visit where
  clientId := "broker_node"
  actions := [.deploy "node" d, .await 5000 (Turn.alternating 2), .shutdown 5000 (Turn.alternating 2)]

/-- Two trials whose traffic differs, but not under the veil. -/
theorem passwords_stay_hidden_delivered :
    (visits { localSettings with password := "first" } welcoming
          [delivering (localDefinition (.string "abcd"))]).map Visited.veiled =
        (visits { localSettings with password := "second" } welcoming
          [delivering (localDefinition (.list [.null]))]).map Visited.veiled ∧
      (visits { localSettings with password := "first" } welcoming
          [delivering (localDefinition (.string "abcd"))]).map Visited.traffic ≠
        (visits { localSettings with password := "second" } welcoming
          [delivering (localDefinition (.list [.null]))]).map Visited.traffic := by
  have hd : (localDefinition (.string "abcd")).Alike (localDefinition (.list [.null])) :=
    ⟨⟨_, _, _, rfl, rfl⟩, by decide +kernel⟩
  have hv : (delivering (localDefinition (.string "abcd"))).Alike
      (delivering (localDefinition (.list [.null]))) :=
    ⟨rfl, .cons (.deploy "node" hd) (.cons (.await _ _) (.cons (.shutdown _ _) .nil))⟩
  have hfirst : "first" ≠ "" := by decide
  have hsecond : "second" ≠ "" := by decide
  refine ⟨?_, by decide +kernel⟩
  exact (passwords_stay_hidden localSettings hfirst hsecond welcoming (.cons hv .nil)).1

end BrokerNode
