/-
BrokerNode/Proofs/Mqtt/Outbox.lean

What becomes of requests in an outbox.

An account is kept of an outbox: the requests that were accepted, those that were taken out, and those
that still waited when the session was let go.  It is kept from the actions and their outcomes, and from
what waits when the session goes.  Each action keeps the account (`Accounted.perform`): what was taken
out and what waits, or waited last, is what was accepted, in this order, and never more waits than the
outbox holds.

Whether an envelope is sent depends on three things: whether its topic can be published on, whether the
session is there, and whether there is a place.  If so, it waits last and a line says so; if not,
nothing changes and no line does (`perform_of_admits`, `perform_of_not_admits`).  The main statement,
`run_isAccountable`, says all this after any actions.
-/
import BrokerNode.Mqtt.Outbox
import BrokerNode.Proofs.Runs
import BrokerNode.Proofs.Topic

namespace BrokerNode

namespace Mqtt

/-! ### One request -/

/-- Whether a session is there to take requests off a queue. -/
def Queue.isConnected : Queue → Bool
  | .connected _ => true
  | .disconnected => false

namespace Outbox

variable {o : Outbox} {r : Request}

/-- Whether there is a place for one more request, and a session to take it off. -/
def HasPlace (o : Outbox) : Prop :=
  o.queue.isConnected = true ∧ o.queue.waiting.length < Queue.capacity

/-- The outbox with one more request behind those that wait. -/
def behind (o : Outbox) (r : Request) : Outbox :=
  { o with queue := .connected (o.queue.waiting ++ [r]) }

theorem put_of_hasPlace (h : o.HasPlace) : o.put r = .ok (o.behind r) := by
  obtain ⟨topic, retain, queue⟩ := o
  obtain ⟨hconnected, hplace⟩ := h
  cases queue with
  | connected waiting =>
    have hpush : Queue.push? r (.connected waiting) = some (.connected (waiting ++ [r])) :=
      if_pos hplace
    simp only [put, hpush]
    rfl
  | disconnected => cases hconnected

theorem put_of_not_hasPlace (h : ¬o.HasPlace) : o.put r = .error .notQueued := by
  obtain ⟨topic, retain, queue⟩ := o
  cases queue with
  | connected waiting =>
    have hpush : Queue.push? r (.connected waiting) = none := if_neg fun hplace => h ⟨rfl, hplace⟩
    simp only [put, hpush]
  | disconnected => rfl

/-! ### Envelopes -/

/-- Whether an envelope would be sent: its topic can be published on, the session is there, and there
is a place. -/
def Admits (o : Outbox) : Prop := Topic.isPublishable o.topic = true ∧ o.HasPlace

theorem publish_of_admits (h : o.Admits) (e : Envelope) :
    o.publish e = .ok (o.behind (.publish none (o.publication e))) := by
  rw [publish, if_pos h.1]
  exact put_of_hasPlace h.2

theorem publish_of_not_admits (h : ¬o.Admits) (e : Envelope) : o.publish e = .error .notQueued := by
  rw [publish]
  split
  · next htopic => exact put_of_not_hasPlace fun hplace => h ⟨htopic, hplace⟩
  · rfl

/-- The envelope that an action sends, if it sends one. -/
def Action.envelope? : Action → Option Envelope
  | .send e => some e
  | .deploy _ d => some (.ofDefinition d)
  | .disconnect | .drain | .close => none

/-- Whether an action was done that puts a request into the outbox. -/
def Outcome.isDone : Outcome → Bool
  | .done | .deployed _ => true
  | .failed _ | .refused _ | .drained _ => false

/-- Whether a line says that an envelope is queued. -/
def saysQueued (l : Log.Line) : Bool := "Envelope queued".toList.isPrefixOf l.message.toList

theorem saysQueued_queuedLine (o : Outbox) : saysQueued o.queuedLine = true := by
  simp [saysQueued, queuedLine]

theorem saysQueued_announcement (n : Node) (p : Payload) : saysQueued (n.announcement p) = false := by
  simp only [saysQueued, Node.announcement, String.toList_append]
  rfl

theorem wire_send_of_admits (h : o.Admits) (e : Envelope) :
    wire.send o e =
      { outcome := .ok ()
        state := o.behind (.publish none (o.publication e))
        log := [o.queuedLine] } := by
  simp only [wire, publish_of_admits h]

theorem wire_send_of_not_admits (h : ¬o.Admits) (e : Envelope) :
    wire.send o e = { outcome := .error (.refused .notQueued), state := o } := by
  simp only [wire, publish_of_not_admits h]

/-- An envelope that is admitted waits last, and one line says so. -/
theorem perform_of_admits {a : Action} {e : Envelope} (ha : a.envelope? = some e) (h : o.Admits) :
    (perform o a).1.isDone = true ∧
      (perform o a).2.1 = o.behind (.publish none (o.publication e)) ∧
      (perform o a).2.2.filter saysQueued = [o.queuedLine] := by
  have hline : [o.queuedLine].filter saysQueued = [o.queuedLine] :=
    List.filter_cons_of_pos (saysQueued_queuedLine o)
  cases a with
  | send e' =>
    obtain rfl : e' = e := Option.some.inj ha
    rw [perform, wire_send_of_admits h]
    exact ⟨rfl, rfl, hline⟩
  | deploy fresh d =>
    obtain rfl : Envelope.ofDefinition d = e := Option.some.inj ha
    rw [perform, Node.deploy, wire_send_of_admits h]
    refine ⟨rfl, rfl, ?_⟩
    exact (List.filter_cons_of_neg (by simp [saysQueued_announcement])).trans hline
  | disconnect | drain | close => cases ha

/-- An envelope that is not admitted is refused; nothing changes, and no line says that it is queued. -/
theorem perform_of_not_admits {a : Action} {e : Envelope} (ha : a.envelope? = some e)
    (h : ¬o.Admits) :
    (perform o a).1 = .failed (.refused .notQueued) ∧ (perform o a).2.1 = o ∧
      (perform o a).2.2.filter saysQueued = [] := by
  cases a with
  | send e' =>
    rw [perform, wire_send_of_not_admits h]
    exact ⟨rfl, rfl, rfl⟩
  | deploy fresh d =>
    rw [perform, Node.deploy, wire_send_of_not_admits h]
    refine ⟨rfl, rfl, ?_⟩
    exact List.filter_cons_of_neg (by simp [saysQueued_announcement])
  | disconnect | drain | close => cases ha

/-! ### Requests -/

/-- The request that an action puts into an outbox if it is done. -/
def Action.request? (topic : String) (retain : Bool) : Action → Option Request
  | .disconnect => some .disconnect
  | a => a.envelope?.map fun e => .publish none ⟨topic, .atLeastOnce, retain, e.body⟩

theorem Action.request?_of_envelope? {a : Action} {e : Envelope} (ha : a.envelope? = some e)
    (topic : String) (retain : Bool) :
    a.request? topic retain = some (.publish none ⟨topic, .atLeastOnce, retain, e.body⟩) := by
  cases a with
  | send e' | deploy fresh d =>
    cases ha
    rfl
  | disconnect | drain | close => cases ha

/-- The requests that were taken out. -/
def Outcome.taken : Outcome → List Request
  | .drained (some waiting) => waiting
  | .drained none | .done | .deployed _ | .failed _ | .refused _ => []

theorem Outcome.taken_of_isDone {outcome : Outcome} (h : outcome.isDone = true) :
    outcome.taken = [] := by
  cases outcome with
  | done | deployed node => rfl
  | failed f | refused r | drained waiting => cases h

/-- An action with a request either puts it behind those that wait or changes nothing. -/
theorem perform_of_request {a : Action} (ha : a.request? o.topic o.retain = some r) :
    (perform o a).1.taken = [] ∧
      ((perform o a).1.isDone = true ∧ o.HasPlace ∧ (perform o a).2.1 = o.behind r ∨
        (perform o a).1.isDone = false ∧ (perform o a).2.1 = o) := by
  cases he : a.envelope? with
  | some e =>
    rw [Action.request?_of_envelope? he] at ha
    obtain rfl := Option.some.inj ha
    by_cases h : o.Admits
    · obtain ⟨hdone, hstate, -⟩ := perform_of_admits he h
      exact ⟨Outcome.taken_of_isDone hdone, .inl ⟨hdone, h.2, hstate⟩⟩
    · obtain ⟨houtcome, hstate, -⟩ := perform_of_not_admits he h
      rw [houtcome]
      exact ⟨rfl, .inr ⟨rfl, hstate⟩⟩
  | none =>
    cases a with
    | disconnect =>
      obtain rfl := Option.some.inj ha
      by_cases h : o.HasPlace
      · rw [perform, put_of_hasPlace h]
        exact ⟨rfl, .inl ⟨rfl, h, rfl⟩⟩
      · rw [perform, put_of_not_hasPlace h]
        exact ⟨rfl, .inr ⟨rfl, rfl⟩⟩
    | send e | deploy fresh d => cases he
    | drain | close => cases ha

/-! ### The account -/

/-- The requests of an outbox. -/
structure Account where
  accepted : List Request := []
  drained : List Request := []
  abandoned : List Request := []

/-- The requests that are given up with the session, of those that wait. -/
def Action.abandons (waiting : List Request) : Action → List Request
  | .close => waiting
  | .send _ | .deploy _ _ | .disconnect | .drain => []

/-- The account after an action, given what waited before and what came of it. -/
def Account.enter (x : Account) (topic : String) (retain : Bool) (waiting : List Request) (a : Action)
    (outcome : Outcome) : Account where
  accepted := x.accepted ++ (if outcome.isDone then (a.request? topic retain).toList else [])
  drained := x.drained ++ outcome.taken
  abandoned := x.abandoned ++ a.abandons waiting

/-- The account after actions on an outbox. -/
def account (topic : String) (retain : Bool) : Account → Outbox → List Action → Account
  | x, _, [] => x
  | x, o, a :: actions =>
    account topic retain (x.enter topic retain o.queue.waiting a (perform o a).1) (perform o a).2.1
      actions

/-- An outbox and its account. -/
structure Accounted (topic : String) (retain : Bool) (x : Account) (o : Outbox) : Prop where
  topic_eq : o.topic = topic
  retain_eq : o.retain = retain
  bounded : o.queue.waiting.length ≤ Queue.capacity
  conserved : x.drained ++ (x.abandoned ++ o.queue.waiting) = x.accepted
  abandoned : o.queue.isConnected = true → x.abandoned = []

section Accounted

variable {topic : String} {retain : Bool} {x : Account}

/-- A request that was accepted is in the account, and waits last. -/
theorem Accounted.behind (h : Accounted topic retain x o) (hplace : o.HasPlace) (r : Request) :
    Accounted topic retain ⟨x.accepted ++ [r], x.drained, x.abandoned⟩ (o.behind r) where
  topic_eq := h.topic_eq
  retain_eq := h.retain_eq
  bounded := by
    have hroom := hplace.2
    show (o.queue.waiting ++ [r]).length ≤ Queue.capacity
    rw [List.length_append, List.length_singleton]
    omega
  conserved := by
    show x.drained ++ (x.abandoned ++ (o.queue.waiting ++ [r])) = x.accepted ++ [r]
    rw [← h.conserved, List.append_assoc, List.append_assoc]
  abandoned _ := h.abandoned hplace.1

/-- An action with a request keeps the account, whether it is done or not. -/
theorem Accounted.request (h : Accounted topic retain x o) {a : Action}
    (ha : a.request? topic retain = some r) (habandons : a.abandons o.queue.waiting = []) :
    Accounted topic retain (x.enter topic retain o.queue.waiting a (perform o a).1)
      (perform o a).2.1 := by
  have ha' : a.request? o.topic o.retain = some r := by rw [h.topic_eq, h.retain_eq, ha]
  obtain ⟨htaken, ⟨hdone, hplace, hstate⟩ | ⟨hdone, hstate⟩⟩ := perform_of_request ha'
  · rw [hstate]
    simpa [Account.enter, ha, hdone, htaken, habandons] using h.behind hplace r
  · rw [hstate]
    simpa [Account.enter, hdone, htaken, habandons] using h

/-- Every action keeps the account. -/
theorem Accounted.perform (h : Accounted topic retain x o) (a : Action) :
    Accounted topic retain (x.enter topic retain o.queue.waiting a (perform o a).1)
      (perform o a).2.1 := by
  cases a with
  | send e => exact h.request rfl rfl
  | deploy fresh d => exact h.request rfl rfl
  | disconnect => exact h.request rfl rfl
  | drain =>
    obtain ⟨_, _, queue⟩ := o
    cases queue with
    | connected waiting =>
      -- nothing has been given up yet, so what is taken out now follows what was taken out before
      have hnone : x.abandoned = [] := h.abandoned rfl
      have hconserved : x.drained ++ (x.abandoned ++ waiting) = x.accepted := h.conserved
      refine ⟨h.topic_eq, h.retain_eq, Nat.zero_le _, ?_, fun _ => ?_⟩
      · simpa [Account.enter, Outbox.perform, Outcome.taken, Outcome.isDone, Action.abandons, hnone,
          Queue.drained, Queue.waiting] using hconserved
      · simpa [Account.enter, Action.abandons] using hnone
    | disconnected =>
      simpa [Account.enter, Outbox.perform, Outcome.taken, Outcome.isDone, Action.abandons] using h
  | close =>
    refine ⟨h.topic_eq, h.retain_eq, Nat.zero_le _, ?_, nofun⟩
    -- what waited is given up, and nothing waits any more
    show x.drained ++ [] ++ (x.abandoned ++ o.queue.waiting ++ []) = x.accepted ++ []
    simpa using h.conserved

theorem Accounted.run (h : Accounted topic retain x o) (actions : List Action) :
    Accounted topic retain (account topic retain x o actions) (run o actions).2 := by
  induction actions generalizing x o with
  | nil => exact h
  | cons a actions ih => exact ih (h.perform a)

end Accounted

/-- Only closing changes whether the session is there. -/
theorem isConnected_perform (o : Outbox) (a : Action) :
    (perform o a).2.1.queue.isConnected = true ↔ a ≠ .close ∧ o.queue.isConnected = true := by
  cases ha : a.request? o.topic o.retain with
  | some r =>
    have hne : a ≠ .close := by
      rintro rfl
      cases ha
    obtain ⟨-, ⟨-, hplace, hstate⟩ | ⟨-, hstate⟩⟩ := perform_of_request ha
    · rw [hstate]
      exact ⟨fun _ => ⟨hne, hplace.1⟩, fun _ => rfl⟩
    · rw [hstate]
      exact ⟨fun h => ⟨hne, h⟩, fun h => h.2⟩
  | none =>
    cases a with
    | send e | deploy fresh d | disconnect => cases ha
    | drain =>
      obtain ⟨_, _, queue⟩ := o
      cases queue <;> simp [perform, Queue.drained, Queue.isConnected]
    | close => simp [perform, Queue.isConnected]

/-- The session is there until it is let go. -/
theorem isConnected_run (o : Outbox) (actions : List Action) :
    (run o actions).2.queue.isConnected = true ↔
      Action.close ∉ actions ∧ o.queue.isConnected = true := by
  induction actions generalizing o with
  | nil => simp [run]
  | cons a actions ih =>
    show (run (perform o a).2.1 actions).2.queue.isConnected = true ↔ _
    rw [ih, isConnected_perform, List.mem_cons, not_or, ne_comm]
    exact ⟨fun ⟨hrest, hne, hopen⟩ => ⟨⟨hne, hrest⟩, hopen⟩,
      fun ⟨⟨hne, hrest⟩, hopen⟩ => ⟨hrest, hne, hopen⟩⟩

theorem isRun : IsRun perform run := ⟨fun _ => rfl, fun _ _ _ => rfl⟩

/-! ### Outboxes in use -/

/-- What holds of an outbox `o` for a topic after some actions. -/
structure IsAccountable (topic : String) (retain : Bool) (actions : List Action) (o : Outbox) :
    Prop where
  bounded : o.queue.waiting.length ≤ Queue.capacity
  -- What was taken out and then what waits, or waited when the session was let go, is what was
  -- accepted, in this order.
  conserved : (account topic retain {} (empty topic retain) actions).drained ++
      ((account topic retain {} (empty topic retain) actions).abandoned ++ o.queue.waiting) =
    (account topic retain {} (empty topic retain) actions).accepted
  abandoned : Action.close ∉ actions →
    (account topic retain {} (empty topic retain) actions).abandoned = []
  next : ∀ a, run (empty topic retain) (actions ++ [a]) =
    ((run (empty topic retain) actions).1 ++ [((perform o a).1, (perform o a).2.2)], (perform o a).2.1)
  -- An envelope is sent just when the session is there, no wildcard is in the topic, and fewer
  -- requests wait than there is place for.
  isDone_iff : ∀ a e, a.envelope? = some e →
    ((perform o a).1.isDone = true ↔ Action.close ∉ actions ∧
      (∀ c ∈ topic.toList, c ≠ '+' ∧ c ≠ '#') ∧ o.queue.waiting.length < Queue.capacity)
  queues : ∀ a e, a.envelope? = some e → (perform o a).1.isDone = true →
    (perform o a).2.1 = o.behind (.publish none ⟨topic, .atLeastOnce, retain, e.body⟩) ∧
    (perform o a).2.2.filter saysQueued = [o.queuedLine]
  refuses : ∀ a e, a.envelope? = some e → (perform o a).1.isDone = false →
    (perform o a).1 = .failed (.refused .notQueued) ∧ (perform o a).2.1 = o ∧
      (perform o a).2.2.filter saysQueued = []

/-- An outbox is accountable after any actions. -/
theorem run_isAccountable (topic : String) (retain : Bool) (actions : List Action) :
    IsAccountable topic retain actions (run (empty topic retain) actions).2 := by
  have hstart : Accounted topic retain {} (empty topic retain) :=
    ⟨rfl, rfl, Nat.zero_le _, rfl, fun _ => rfl⟩
  have haccounted := hstart.run actions
  have hconnected := isConnected_run (empty topic retain) actions
  have hnext := isRun.concat (empty topic retain) actions
  generalize (run (empty topic retain) actions).2 = o at haccounted hconnected hnext ⊢
  have hadmits : o.Admits ↔ Action.close ∉ actions ∧ (∀ c ∈ topic.toList, c ≠ '+' ∧ c ≠ '#') ∧
      o.queue.waiting.length < Queue.capacity := by
    rw [Admits, HasPlace, hconnected, haccounted.topic_eq, Topic.isPublishable_iff]
    exact ⟨fun h => ⟨h.2.1.1, h.1, h.2.2⟩, fun h => ⟨h.2.1, ⟨h.1, rfl⟩, h.2.2⟩⟩
  have hisDone : ∀ a e, a.envelope? = some e → ((perform o a).1.isDone = true ↔ o.Admits) := by
    intro a e ha
    by_cases h : o.Admits
    · simp [(perform_of_admits ha h).1, h]
    · simp [(perform_of_not_admits ha h).1, Outcome.isDone, h]
  refine
    { bounded := haccounted.bounded
      conserved := haccounted.conserved
      abandoned := fun h => haccounted.abandoned (hconnected.2 ⟨h, rfl⟩)
      next := hnext
      isDone_iff := fun a e ha => (hisDone a e ha).trans hadmits
      queues := fun a e ha hdone => ?_
      refuses := fun a e ha hdone => ?_ }
  · obtain ⟨-, hstate, hline⟩ := perform_of_admits ha ((hisDone a e ha).1 hdone)
    refine ⟨?_, hline⟩
    rw [hstate, publication, haccounted.topic_eq, haccounted.retain_eq]
  · refine perform_of_not_admits ha fun h => ?_
    rw [(hisDone a e ha).2 h] at hdone
    cases hdone

end Outbox

end Mqtt

end BrokerNode
