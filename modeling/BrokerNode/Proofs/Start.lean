/-
BrokerNode/Proofs/Start.lean

The start of the service, stage by stage.

A start finds its settings, reads the file of the definition, reads the definition from its text, and
deploys the node on an outbox of its own.  Each stage can fail, and `FailsFirst` says which one does
before all others, without the functions that carry the stages out; the last one fails for a wildcard in
one of the two variables that the topic is joined of.  There is no outbox before the last stage.

The main statement, `start_isStaged`, says that a start ends with the problem of the stage that fails
first, and that nothing is queued then; and that otherwise one publication is queued, and nothing else.
-/
import BrokerNode.Proofs.Folder
import BrokerNode.Proofs.Mqtt.Outbox
import BrokerNode.Proofs.Service
import BrokerNode.Proofs.Settings
import BrokerNode.Proofs.Topic

namespace BrokerNode

/-! ### The node -/

namespace Node

/-- The node that a definition describes. -/
structure IsFor (fresh : String) (d : Definition) (n : Node) : Prop where
  id_string : ∀ s, d.id = some (.string s) → n.id = s
  id_value : ∀ v, d.id = some v → (∀ s, v ≠ .string s) → n.id = v.render
  id_fresh : d.id = none → n.id = fresh
  name : ∀ s, n.name = some s ↔ d.payload.name = some (.string s)

theorem isFor_ofDefinition (fresh : String) (d : Definition) :
    (ofDefinition fresh d).IsFor fresh d where
  id_string s hs := by rw [ofDefinition, hs, idOf]
  id_value v hv hother := by
    rw [ofDefinition, hv]
    unfold idOf
    split
    · next h => cases h
    · next s h => exact absurd (Option.some.inj h) (hother s)
    · next w h => rw [Option.some.inj h]
  id_fresh hnone := by rw [ofDefinition, hnone, idOf]
  name s := by
    rw [ofDefinition, Option.bind_eq_some_iff]
    constructor
    · rintro ⟨v, hv, hs⟩
      cases v <;> cases hs
      exact hv
    · intro h
      exact ⟨_, h, rfl⟩

end Node

namespace Service

/-! ### The stages -/

/-- The root of the topic, as it is given or by default. -/
def rootOf (lookup : String → Option String) : String := (lookup "MQTT_ROOT_TOPIC").getD "ha_auto"

/-- The topic below the root, as it is given or by default. -/
def outputOf (lookup : String → Option String) : String := (lookup "MQTT_OUTPUT_TOPIC").getD "broker"

/-- The problem of the stage that fails before all others. -/
inductive FailsFirst (lookup : String → Option String) (read : String → Folder.FileResult) :
    Problem → Prop where
  | settings {p : Settings.Problem} (hsettings : Settings.ofVariables lookup = .error p) :
    FailsFirst lookup read (.settings p)
  | unreadable {s : Settings} {p : Folder.Problem} (hsettings : Settings.ofVariables lookup = .ok s)
    (hfile : read s.definitionPath = .error p) : FailsFirst lookup read (.definition (.unreadable p))
  | notText {s : Settings} {bytes : ByteArray} (hsettings : Settings.ofVariables lookup = .ok s)
    (hfile : read s.definitionPath = .ok bytes) (htext : ∀ text : String, bytes ≠ text.toUTF8) :
    FailsFirst lookup read (.definition (.unreadable .notText))
  | malformed {s : Settings} {text : String} {f : Json.LocatedFault}
    (hsettings : Settings.ofVariables lookup = .ok s)
    (hfile : read s.definitionPath = .ok text.toUTF8) (hparse : Definition.parse text = .error f) :
    FailsFirst lookup read (.definition (.malformed f))
  | wildcard {s : Settings} {text : String} {d : Definition}
    (hsettings : Settings.ofVariables lookup = .ok s)
    (hfile : read s.definitionPath = .ok text.toUTF8) (hparse : Definition.parse text = .ok d)
    (hwildcard : Topic.HasWildcard (rootOf lookup) ∨ Topic.HasWildcard (outputOf lookup)) :
    FailsFirst lookup read (.output (.refused .notQueued))

/-- The outbox that a start leaves behind, whether it is successful or not, if it came to have one. -/
def outboxLeft (lookup : String → Option String) (read : String → Folder.FileResult)
    (c : Circumstances) : Option Mqtt.Outbox :=
  match Settings.ofVariables lookup with
  | .error _ => none
  | .ok s =>
    match Definition.ofFile (read s.definitionPath) with
    | .error _ => none
    | .ok d => some ((connect s c).deploy c.nodeId.render d).state.outbox

/-- What a start gives when no stage fails. -/
structure Queues (lookup : String → Option String) (read : String → Folder.FileResult)
    (c : Circumstances) (started : Started) : Prop where
  settings : Settings.ofVariables lookup = .ok started.settings
  outbox : outboxLeft lookup read c = some started.session.outbox
  -- The definition in the file is that of the node, and the publication of its envelope is the one
  -- request that waits.
  definition : ∃ (text : String) (d : Definition),
    read started.settings.definitionPath = .ok text.toUTF8 ∧ Definition.parse text = .ok d ∧
    started.node.IsFor c.nodeId.render d ∧
    started.session.outbox.queue = .connected [.publish none
      ⟨Topic.join (rootOf lookup) (outputOf lookup), .atLeastOnce, started.settings.retain,
        (Envelope.ofDefinition d).body⟩]

/-- What every start keeps to. -/
structure IsStaged (lookup : String → Option String) (read : String → Folder.FileResult)
    (c : Circumstances) : Prop where
  error_iff : ∀ p, (start lookup read c).1 = .error p ↔ FailsFirst lookup read p
  error_waiting : ∀ p, (start lookup read c).1 = .error p →
    ∀ o ∈ outboxLeft lookup read c, o.queue.waiting = []
  ok : (∀ p, ¬FailsFirst lookup read p) → ∃ started, (start lookup read c).1 = .ok started
  queues : ∀ started, (start lookup read c).1 = .ok started → Queues lookup read c started

/-! ### Starts -/

section Start

variable {lookup : String → Option String} {read : String → Folder.FileResult} {s : Settings}
  {d : Definition} {p : Problem}

/-- The topic of the settings can be published on unless one of its parts has a wildcard. -/
theorem isPublishable_topic_iff (h : Settings.ofVariables lookup = .ok s) :
    Topic.isPublishable s.topic = true ↔
      ¬(Topic.HasWildcard (rootOf lookup) ∨ Topic.HasWildcard (outputOf lookup)) := by
  rw [(Settings.ofVariables_eq_ok_iff.mp h).2.topic]
  exact Topic.isPublishable_join_iff

/-- A start without settings ends with their problem, and without an outbox. -/
theorem start_of_settings {q : Settings.Problem} (h : Settings.ofVariables lookup = .error q)
    (read : String → Folder.FileResult) (c : Circumstances) :
    (start lookup read c).1 = .error (.settings q) ∧ outboxLeft lookup read c = none := by
  rw [start, outboxLeft, h]
  exact ⟨rfl, rfl⟩

/-- So does one without a definition. -/
theorem start_of_definition {q : Definition.LoadProblem} (hs : Settings.ofVariables lookup = .ok s)
    (h : Definition.ofFile (read s.definitionPath) = .error q) (c : Circumstances) :
    (start lookup read c).1 = .error (.definition q) ∧ outboxLeft lookup read c = none := by
  simp only [start, outboxLeft, hs, h, and_self]

/-- With both, it ends as the deployment does. -/
theorem start_of_deploy (hs : Settings.ofVariables lookup = .ok s)
    (h : Definition.ofFile (read s.definitionPath) = .ok d) (c : Circumstances) :
    (start lookup read c).1 = (deploy s d c).1 ∧
      outboxLeft lookup read c = some ((connect s c).deploy c.nodeId.render d).state.outbox := by
  simp only [start, outboxLeft, hs, h, and_self]

/-- On a topic that can be published on, the publication waits in the outbox of the node. -/
theorem outbox_of_publishable (h : Topic.isPublishable s.topic = true) (d : Definition)
    (c : Circumstances) :
    ((connect s c).deploy c.nodeId.render d).state.outbox = (queued s d c).outbox := by
  show (Mqtt.Outbox.wire.send (.empty s.topic s.retain) (.ofDefinition d)).state = _
  have hplace : ([] : List Mqtt.Request).length < Mqtt.Queue.capacity := by decide
  have hadmits : (Mqtt.Outbox.empty s.topic s.retain).Admits := ⟨h, rfl, hplace⟩
  rw [Mqtt.Outbox.wire_send_of_admits hadmits]
  rfl

/-- On any other topic nothing waits. -/
theorem outbox_of_unpublishable (h : Topic.isPublishable s.topic ≠ true) (d : Definition)
    (c : Circumstances) :
    ((connect s c).deploy c.nodeId.render d).state.outbox = .empty s.topic s.retain := by
  show (Mqtt.Outbox.wire.send (.empty s.topic s.retain) (.ofDefinition d)).state = _
  rw [Mqtt.Outbox.wire_send_of_not_admits fun hadmits => h hadmits.1]

/-- A start fails with the problem of the stage that fails first, and leaves nothing in its outbox. -/
theorem start_of_failsFirst (h : FailsFirst lookup read p) (c : Circumstances) :
    (start lookup read c).1 = .error p ∧ ∀ o ∈ outboxLeft lookup read c, o.queue.waiting = [] := by
  have hnone : ∀ {q}, (start lookup read c).1 = .error q ∧ outboxLeft lookup read c = none →
      (start lookup read c).1 = .error q ∧
        ∀ o ∈ outboxLeft lookup read c, o.queue.waiting = [] := by
    rintro q ⟨herror, hleft⟩
    refine ⟨herror, ?_⟩
    rw [hleft]
    simp
  cases h with
  | settings hsettings => exact hnone (start_of_settings hsettings read c)
  | unreadable hsettings hfile =>
    refine hnone (start_of_definition hsettings ?_ c)
    exact Definition.ofFile_eq_error_iff.mpr
      (Or.inl ⟨_, Folder.text_eq_error_iff.mpr (Or.inl hfile), rfl⟩)
  | notText hsettings hfile htext =>
    refine hnone (start_of_definition hsettings ?_ c)
    exact Definition.ofFile_eq_error_iff.mpr
      (Or.inl ⟨_, Folder.text_eq_error_iff.mpr (Or.inr ⟨⟨_, hfile, htext⟩, rfl⟩), rfl⟩)
  | malformed hsettings hfile hparse =>
    refine hnone (start_of_definition hsettings ?_ c)
    exact Definition.ofFile_eq_error_iff.mpr (Or.inr ⟨_, _, hfile, hparse, rfl⟩)
  | @wildcard s text d hsettings hfile hparse hwildcard =>
    have htopic : Topic.isPublishable s.topic ≠ true := fun hpublishable =>
      (isPublishable_topic_iff hsettings).mp hpublishable hwildcard
    obtain ⟨hstart, hleft⟩ := start_of_deploy hsettings
      (Definition.ofFile_eq_ok_iff.mpr ⟨text, hfile, hparse⟩) c
    obtain ⟨log, -, hdeploy⟩ := deploy_unpublishable htopic d c
    rw [hstart, hdeploy, hleft, outbox_of_unpublishable htopic]
    refine ⟨rfl, ?_⟩
    rintro o ho
    cases ho
    rfl

/-- A start at which no stage fails queues the publication of the envelope. -/
theorem start_of_none_fails (h : ∀ p, ¬FailsFirst lookup read p) (c : Circumstances) :
    ∃ started, (start lookup read c).1 = .ok started ∧ Queues lookup read c started := by
  -- each stage is passed, since the next one could fail only behind it
  cases hsettings : Settings.ofVariables lookup with
  | error p => exact absurd (.settings hsettings) (h _)
  | ok s =>
    cases hfile : read s.definitionPath with
    | error p => exact absurd (.unreadable hsettings hfile) (h _)
    | ok bytes =>
      obtain ⟨text, rfl⟩ : ∃ text : String, bytes = text.toUTF8 := by
        by_contra hnone
        exact h _ (.notText hsettings hfile fun text htext => hnone ⟨text, htext⟩)
      cases hparse : Definition.parse text with
      | error f => exact absurd (.malformed hsettings hfile hparse) (h _)
      | ok d =>
        have htopic : Topic.isPublishable s.topic = true :=
          (isPublishable_topic_iff hsettings).mpr fun hwildcard =>
            h _ (.wildcard hsettings hfile hparse hwildcard)
        obtain ⟨hstart, hleft⟩ := start_of_deploy hsettings
          (Definition.ofFile_eq_ok_iff.mpr ⟨text, hfile, hparse⟩) c
        obtain ⟨log, -, hdeploy⟩ := deploy_publishable htopic d c
        rw [hdeploy] at hstart
        refine ⟨_, hstart, hsettings, ?_, text, d, hfile, hparse, Node.isFor_ofDefinition _ d, ?_⟩
        · rw [hleft, outbox_of_publishable htopic]
        · have hjoin : s.topic = Topic.join (rootOf lookup) (outputOf lookup) :=
            (Settings.ofVariables_eq_ok_iff.mp hsettings).2.topic
          rw [← hjoin]
          rfl

end Start

/-- Every start is staged. -/
theorem start_isStaged (lookup : String → Option String) (read : String → Folder.FileResult)
    (c : Circumstances) : IsStaged lookup read c := by
  by_cases hfails : ∃ p, FailsFirst lookup read p
  · obtain ⟨p, hp⟩ := hfails
    obtain ⟨herror, hleft⟩ := start_of_failsFirst hp c
    refine ⟨?_, fun _ _ => hleft, fun h => absurd hp (h p), ?_⟩
    · intro q
      refine ⟨?_, fun hq => (start_of_failsFirst hq c).1⟩
      intro hq
      obtain rfl : p = q := Except.error.inj (herror.symm.trans hq)
      exact hp
    · intro started hok
      rw [herror] at hok
      cases hok
  · have hnone : ∀ p, ¬FailsFirst lookup read p := fun p hp => hfails ⟨p, hp⟩
    obtain ⟨started, hok, hqueues⟩ := start_of_none_fails hnone c
    have hnoError : ∀ p, (start lookup read c).1 ≠ .error p := by
      intro p herror
      rw [hok] at herror
      cases herror
    refine ⟨?_, fun p herror => absurd herror (hnoError p), fun _ => ⟨started, hok⟩, ?_⟩
    · exact fun p => ⟨fun herror => absurd herror (hnoError p), fun hp => absurd hp (hnone p)⟩
    · intro started' hok'
      obtain rfl : started = started' := Except.ok.inj (hok.symm.trans hok')
      exact hqueues

end Service

end BrokerNode
