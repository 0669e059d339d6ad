/-
BrokerNode/Proofs/Channel.lean

What becomes of envelopes on a bench.

A ledger is kept of the channel that is on the bench: the envelopes of the nodes that were deployed on
it, and those that its consumer took.  It is kept from the actions and their outcomes alone, without a
look at the channel, and starts anew with every new channel.  Each action keeps the ledger balanced
(`Balanced.perform`): as long as the consumer is there, what it took and what still waits is what was
sent, in this order.

The main statement is `run_isLawful`: after any actions the ledger is balanced, and whatever is done
next is done as the outlet wants it, with one envelope sent and nothing else touched.
-/
import BrokerNode.Channel
import BrokerNode.Proofs.Runs

namespace BrokerNode

/-! ### Wires that record what is sent -/

/-- A wire that also records the envelopes that are sent over it, whatever becomes of them. -/
def Wire.recording {σ ε : Type} (wire : Wire σ ε) : Wire (σ × List Envelope) ε where
  send s e :=
    let sent := wire.send s.1 e
    { outcome := sent.outcome, state := (sent.state, s.2 ++ [e]), log := sent.log }

/-- Over any wire, a deployment sends its envelope and nothing else, and sends it once. -/
theorem Node.deploy_recording {σ ε : Type} (fresh : String) (d : Definition) (wire : Wire σ ε) (s : σ)
    (recorded : List Envelope) :
    (Node.deploy fresh d wire.recording (s, recorded)).state =
      ((wire.send s (.ofDefinition d)).state, recorded ++ [.ofDefinition d]) :=
  rfl

namespace Bench

/-! ### The ledger -/

/-- The envelopes of the channel on a bench. -/
structure Ledger where
  accepted : List Envelope := []
  received : List Envelope := []

/-- The ledger after an action, given what came of it. -/
def Ledger.enter (l : Ledger) : Action → Outcome → Ledger
  | .deploy _ d .channel, .deployed _ _ => { l with accepted := l.accepted ++ [.ofDefinition d] }
  | .receive, .received (.envelope e) => { l with received := l.received ++ [e] }
  | .reopen, _ => {}
  | _, _ => l

/-- The ledger after actions, given what came of them. -/
def Ledger.enterAll (l : Ledger) (actions : List Action) (outcomes : List (Outcome × Log)) : Ledger :=
  (actions.zip outcomes).foldl (fun l step => l.enter step.1 step.2.1) l

/-- The ledger of a bench that started with an empty channel. -/
def ledger (actions : List Action) : Ledger := Ledger.enterAll {} actions (run .empty actions).1

/-- Whether the consumer is there after an action, given whether it was before. -/
def Action.leavesOpen (before : Bool) : Action → Bool
  | .close => false
  | .reopen => true
  | _ => before

/-- Whether the consumer of the channel on a bench is there after some actions. -/
def isOpen (actions : List Action) : Bool := actions.foldl Action.leavesOpen true

/-- A channel and its ledger: as long as the consumer is there, what it took and what waits is what was
sent. -/
def Balanced (c : Channel) (l : Ledger) : Prop :=
  ∀ waiting, c.waiting? = some waiting → l.received ++ waiting = l.accepted

theorem isRun : IsRun perform run := ⟨fun _ => rfl, fun _ _ _ => rfl⟩

/-- Every action keeps the ledger balanced. -/
theorem Balanced.perform {c : Channel} {l : Ledger} (h : Balanced c l) (a : Action) :
    Balanced (perform c a).2.1 (l.enter a (perform c a).1) := by
  cases a with
  | deploy fresh d outlet =>
    cases outlet with
    | channel =>
      cases c with
      | connected waiting =>
        -- the envelope is behind those that wait, and behind those that were accepted
        rintro _ ⟨⟩
        show l.received ++ (waiting ++ [_]) = l.accepted ++ [_]
        rw [← List.append_assoc, h waiting rfl]
      | disconnected => exact h
    | collecting => exact h
    | broken failure => exact h
  | receive =>
    cases c with
    | connected waiting =>
      cases waiting with
      | nil => exact h
      | cons e waiting =>
        rintro _ ⟨⟩
        show l.received ++ [e] ++ waiting = l.accepted
        rw [List.append_assoc]
        exact h (e :: waiting) rfl
    | disconnected => exact h
  | close =>
    rintro _ ⟨⟩
  | reopen =>
    rintro _ ⟨⟩
    rfl

theorem Balanced.run {c : Channel} {l : Ledger} (h : Balanced c l) (actions : List Action) :
    Balanced (run c actions).2 (l.enterAll actions (run c actions).1) := by
  induction actions generalizing c l with
  | nil => exact h
  | cons a actions ih => exact ih (h.perform a)

/-- Only closing and reopening change whether the consumer is there. -/
theorem isSome_waiting?_perform (c : Channel) (a : Action) :
    (perform c a).2.1.waiting?.isSome = a.leavesOpen c.waiting?.isSome := by
  cases a with
  | deploy fresh d outlet =>
    cases outlet with
    | channel => cases c <;> rfl
    | collecting => rfl
    | broken failure => rfl
  | receive =>
    cases c with
    | connected waiting => cases waiting <;> rfl
    | disconnected => rfl
  | close => rfl
  | reopen => rfl

theorem isSome_waiting?_run (c : Channel) (actions : List Action) :
    (run c actions).2.waiting?.isSome = actions.foldl Action.leavesOpen c.waiting?.isSome := by
  induction actions generalizing c with
  | nil => rfl
  | cons a actions ih =>
    rw [List.foldl_cons, ← isSome_waiting?_perform]
    exact ih (perform c a).2.1

/-! ### Lawful runs -/

/-- What holds of a bench after some actions, `c` being the channel that is on it then. -/
structure IsLawful (actions : List Action) (c : Channel) : Prop where
  -- As long as the consumer is there, what it took and then what waits is what was sent on the
  -- channel, in this order.
  conserved : ∀ waiting, c.waiting? = some waiting →
    (ledger actions).received ++ waiting = (ledger actions).accepted
  isSome_waiting? : c.waiting?.isSome = isOpen actions
  next : ∀ a, run .empty (actions ++ [a]) =
    ((run .empty actions).1 ++ [((perform c a).1, (perform c a).2.2)], (perform c a).2.1)
  accepts : isOpen actions = true → ∀ fresh d, ∃ waiting, c.waiting? = some waiting ∧
    (perform c (.deploy fresh d .channel)).1 = .deployed (.ofDefinition fresh d) none ∧
    (perform c (.deploy fresh d .channel)).2.1.waiting? = some (waiting ++ [.ofDefinition d])
  refuses : isOpen actions = false → ∀ fresh d,
    (perform c (.deploy fresh d .channel)).1 = .failed (.channel .disconnected) ∧
    (perform c (.deploy fresh d .channel)).2.1.waiting? = none
  collects : ∀ fresh d,
    (perform c (.deploy fresh d .collecting)).1 =
      .deployed (.ofDefinition fresh d) (some [.ofDefinition d]) ∧
    (perform c (.deploy fresh d .collecting)).2.1 = c
  -- The failure of a broken wire, which is tried once, is returned as it is, and the channel is not
  -- touched.
  fails : ∀ fresh d failure,
    (perform c (.deploy fresh d (.broken failure))).1 = .failed (.broken failure 1) ∧
    (perform c (.deploy fresh d (.broken failure))).2.1 = c
  -- Over any wire, a deployment sends its envelope once before it returns, and returns the failure of
  -- the wire if there is one.
  sendsOnce : ∀ {σ ε : Type} (wire : Wire σ ε) (s : σ) fresh d,
    (Node.deploy fresh d wire.recording (s, [])).state =
      ((wire.send s (.ofDefinition d)).state, [.ofDefinition d]) ∧
    (Node.deploy fresh d wire s).outcome =
      (wire.send s (.ofDefinition d)).outcome.map fun _ => .ofDefinition fresh d

/-- A bench is lawful after any actions. -/
theorem run_isLawful (actions : List Action) : IsLawful actions (run .empty actions).2 where
  conserved := by
    have hstart : Balanced .empty {} := by
      rintro _ ⟨⟩
      rfl
    exact hstart.run actions
  isSome_waiting? := isSome_waiting?_run .empty actions
  next := isRun.concat .empty actions
  accepts hopen fresh d := by
    have hthere : (run .empty actions).2.waiting?.isSome = true :=
      (isSome_waiting?_run .empty actions).trans hopen
    cases hc : (run .empty actions).2 with
    | connected waiting => exact ⟨waiting, rfl, rfl, rfl⟩
    | disconnected =>
      rw [hc] at hthere
      cases hthere
  refuses hopen fresh d := by
    have hgone : (run .empty actions).2.waiting?.isSome = false :=
      (isSome_waiting?_run .empty actions).trans hopen
    cases hc : (run .empty actions).2 with
    | connected waiting =>
      rw [hc] at hgone
      cases hgone
    | disconnected => exact ⟨rfl, rfl⟩
  collects fresh d := ⟨rfl, rfl⟩
  fails fresh d failure := ⟨rfl, rfl⟩
  sendsOnce wire s fresh d := ⟨Node.deploy_recording fresh d wire s [], rfl⟩

end Bench

end BrokerNode
