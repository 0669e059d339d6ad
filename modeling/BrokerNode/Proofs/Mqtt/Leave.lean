/-
BrokerNode/Proofs/Mqtt/Leave.lean

Whether a session can be left in time.

The request for the leave waits for its place in the outbox before the limit starts, and nothing polls
the session meanwhile.  So a session is left in time exactly when there is a place at once.

Polls take requests off the front of the outbox, or all of them with the connection, and put none in.
So what waits are the last of the requests that were put in (`Outbox.GoesOn`), and there is a place as
long as fewer were put in than the outbox holds.  The main statement, `leavesInTime_iff_hasPlace`, says
this after any actions; ten deployments without a poll are enough to fill the outbox
(`stuck_behind_ten`).
-/
import BrokerNode.Proofs.Mqtt.Deliveries
import BrokerNode.Proofs.Mqtt.Outbox

namespace BrokerNode.Mqtt

/-! ### How an outbox goes on -/

/-- How an outbox goes on while requests are put in at the end and others are taken off the front. -/
structure Outbox.GoesOn (o : Outbox) (asked : List Request) (o' : Outbox) : Prop where
  connected : o.queue.isConnected = true → o'.queue.isConnected = true
  waiting : o'.queue.waiting <:+ o.queue.waiting ++ asked
  bounded : o.queue.waiting.length ≤ Queue.capacity → o'.queue.waiting.length ≤ Queue.capacity

namespace Outbox

variable {o o' o'' : Outbox} {asked more : List Request} {r : Request}

theorem goesOn_self (o : Outbox) : o.GoesOn [] o where
  connected := id
  waiting := (List.append_nil o.queue.waiting).symm ▸ List.suffix_refl o.queue.waiting
  bounded := id

theorem GoesOn.trans (h : o.GoesOn asked o') (h' : o'.GoesOn more o'') :
    o.GoesOn (asked ++ more) o'' where
  connected hc := h'.connected (h.connected hc)
  waiting := by
    obtain ⟨taken, htaken⟩ := h.waiting
    apply h'.waiting.trans
    refine ⟨taken, ?_⟩
    rw [← List.append_assoc, htaken, List.append_assoc]
  bounded hb := h'.bounded (h.bounded hb)

/-- Nothing waits any more when the connection is lost. -/
theorem goesOn_drained (o : Outbox) : o.GoesOn [] { o with queue := o.queue.drained } where
  connected hc := by
    obtain ⟨topic, retain, queue⟩ := o
    cases queue with
    | connected waiting => rfl
    | disconnected => cases hc
  waiting := by
    show o.queue.drained.waiting <:+ o.queue.waiting ++ []
    rw [Session.waiting_drained]
    exact List.nil_suffix
  bounded _ := by
    show o.queue.drained.waiting.length ≤ Queue.capacity
    rw [Session.waiting_drained]
    exact Nat.zero_le _

theorem hasPlace_of_put (h : o.put r = .ok o') : o.HasPlace := by
  by_contra hplace
  rw [put_of_not_hasPlace hplace] at h
  cases h

theorem put_of_publish {e : Envelope} (h : o.publish e = .ok o') :
    o.put (.publish none (o.publication e)) = .ok o' := by
  rw [publish] at h
  split at h
  · exact h
  · cases h

/-- A request that is put in waits last. -/
theorem goesOn_put (h : o.put r = .ok o') : o.GoesOn [r] o' := by
  have hplace := hasPlace_of_put h
  rw [put_of_hasPlace hplace] at h
  cases h
  refine ⟨fun _ => rfl, List.suffix_refl _, fun _ => ?_⟩
  show (o.queue.waiting ++ [r]).length ≤ Queue.capacity
  rw [List.length_append]
  exact hplace.2

end Outbox

namespace Session

open Outbox (goesOn_self goesOn_drained goesOn_put)

variable {s s' : Session}

/-! ### Polls -/

/-- The next request comes from the front of the outbox, if it comes from there. -/
theorem goesOn_nextRequest? {r : Request} (h : s.nextRequest? = some (r, s')) :
    s.outbox.GoesOn [] s'.outbox := by
  rw [nextRequest?] at h
  split at h
  · cases h
    exact goesOn_self _
  · split at h
    · split at h
      · next waiting hwaiting =>
        cases h
        refine ⟨fun _ => rfl, ?_, fun hb => ?_⟩
        · rw [hwaiting, List.append_nil]
          exact List.suffix_cons r waiting
        · rw [hwaiting] at hb
          exact Nat.le_of_succ_le hb
      · cases h
    · cases h

theorem report_outbox (s : Session) : s.report.2.outbox = s.outbox := by
  rw [report]
  split
  · rfl
  · rfl

theorem establish_outbox (s : Session) (t : Turn) : (s.establish t).2.outbox = s.outbox := by
  have hestablished := established s t
  generalize s.introduced t = ex, s.establish t = result at hestablished
  cases hestablished with
  | unreached | unanswered | refused | accepted => rfl

/-- At the end of a step the outbox is as it was, or lost with the connection. -/
theorem goesOn_conclude (s : Session) (c : Connection) (refusal : Option IoError)
    (result : Except Breach (List Packet)) :
    s.outbox.GoesOn [] (s.conclude c refusal result).2.outbox := by
  have hconcluded := concluded s c refusal result
  generalize s.conclude c refusal result = x at hconcluded
  cases hconcluded with
  | breach | refused => exact goesOn_drained s.outbox
  | sent packets =>
    rw [report_outbox]
    exact goesOn_self _

theorem goesOn_carryOut (s : Session) (c : Connection) (refusal : Option IoError) :
    s.outbox.GoesOn [] (s.carryOut c refusal).2.outbox := by
  rw [carryOut]
  cases hnext : s.nextRequest? with
  | none => exact goesOn_self _
  | some next =>
    obtain ⟨r, s'⟩ := next
    exact (goesOn_nextRequest? hnext).trans
      (goesOn_conclude { s' with flight := (s'.flight.send r).2 } c refusal _)

/-- No poll puts a request into the outbox. -/
theorem goesOn_poll (s : Session) (t : Turn) : s.outbox.GoesOn [] (s.poll t).2.outbox := by
  rw [poll]
  cases s.connection with
  | none =>
    dsimp only
    rw [establish_outbox]
    exact goesOn_self _
  | some c =>
    dsimp only
    split
    · cases t with
      | request refusal => exact goesOn_carryOut s c refusal
      | read count refusal =>
        exact goesOn_conclude { s with flight := (takeBurst count s.flight c).2.1 } _ refusal _
      | ping refusal => exact goesOn_conclude { s with flight := s.flight.ping.2 } c refusal _
      | error e => exact goesOn_conclude s c none _
    · rw [report_outbox]
      exact goesOn_self _

theorem goesOn_await (limit : Nat) (turns : List Turn) (s : Session) :
    s.outbox.GoesOn [] (s.await limit turns).2.1.outbox := by
  induction turns generalizing s with
  | nil => exact goesOn_self _
  | cons t turns ih =>
    have hpoll := goesOn_poll s t
    rw [await]
    cases hp : s.poll t with
    | mk r s' =>
      rw [hp] at hpoll
      cases r with
      | event e =>
        dsimp only
        split
        · exact hpoll
        · exact hpoll.trans (ih s')
      | failed f => exact hpoll
      | idle => exact hpoll.trans (ih s')
      | unanswered => exact hpoll

theorem goesOn_flush (limit : Nat) (turns : List Turn) (s : Session) :
    s.outbox.GoesOn [] (s.flush limit turns).2.1.outbox := by
  induction turns generalizing s with
  | nil => exact goesOn_self _
  | cons t turns ih =>
    have hpoll := goesOn_poll s t
    rw [flush]
    cases hp : s.poll t with
    | mk r s' =>
      rw [hp] at hpoll
      have hrest := hpoll.trans (ih s')
      split
      · next heq =>
        cases heq
        exact hpoll
      · next heq =>
        cases heq
        exact hrest
      · next heq =>
        cases heq
        exact hpoll
      · next heq =>
        cases heq
        exact hrest
      · next heq =>
        cases heq
        split
        · exact hpoll
        · exact hpoll

/-! ### Actions -/

/-- The requests that an action puts into the outbox. -/
def askedIn (s : Session) : Action → List Request
  | .deploy _ d =>
    match s.outbox.publish (.ofDefinition d) with
    | .ok _ => [.publish none (s.outbox.publication (.ofDefinition d))]
    | .error _ => []
  | .await _ _ => []
  | .shutdown _ _ =>
    match s.outbox.put .disconnect with
    | .ok _ => [.disconnect]
    | .error _ => []

/-- The requests that actions put into the outbox, up to one that does not end. -/
def asked (s : Session) : List Action → List Request
  | [] => []
  | a :: actions =>
    s.askedIn a ++
      match s.perform a with
      | (.left .stuck, _, _) => []
      | (_, s, _) => s.asked actions

theorem goesOn_perform (s : Session) (a : Action) :
    s.outbox.GoesOn (s.askedIn a) (s.perform a).2.1.outbox := by
  cases a with
  | deploy fresh d =>
    rw [askedIn, perform, deploy, Node.deploy]
    dsimp only [Outbox.wire]
    cases hpublish : s.outbox.publish (.ofDefinition d) with
    | error r => exact goesOn_self _
    | ok o => exact goesOn_put (Outbox.put_of_publish hpublish)
  | await limit turns =>
    have hawait := goesOn_await limit turns s
    rw [askedIn, perform]
    cases hw : s.await limit turns with
    | mk outcome rest =>
      rw [hw] at hawait
      cases outcome with
      | ok => exact hawait
      | error u => exact hawait
  | shutdown limit turns =>
    rw [askedIn, perform, shutdown]
    cases hput : s.outbox.put .disconnect with
    | error r => exact goesOn_self _
    | ok o => exact (goesOn_put hput).trans (goesOn_flush limit turns { s with outbox := o })

theorem goesOn_run (s : Session) (actions : List Action) :
    s.outbox.GoesOn (s.asked actions) (s.run actions).2.outbox := by
  induction actions generalizing s with
  | nil => exact goesOn_self _
  | cons a actions ih =>
    have hperform := goesOn_perform s a
    cases hp : s.perform a with
    | mk outcome rest =>
      obtain ⟨s', log⟩ := rest
      rw [hp] at hperform
      by_cases hends : outcome = .left .stuck
      · -- an action that does not end is the last one
        subst hends
        obtain ⟨hrun, -⟩ := run_stuck hp actions
        rw [asked, hrun, hp]
        exact (List.append_nil (s.askedIn a)).symm ▸ hperform
      · obtain ⟨hrun, -⟩ := run_cons hp hends actions
        have hasked : s.asked (a :: actions) = s.askedIn a ++ s'.asked actions := by
          rw [asked, hp]
          cases outcome with
          | left l =>
            cases l with
            | stuck => exact absurd rfl hends
            | done | timeLimit => rfl
          | deployed | notDeployed | delivered | undelivered => rfl
        rw [hasked, hrun]
        exact hperform.trans (ih s')

/-! ### Taking leave -/

/-- Leaving is over in time: the request for it has its place at once, and the polls for it end. -/
structure LeavesInTime (limit : Nat) (turns : List Turn) (s : Session) : Prop where
  asked : ∃ o, s.outbox.put .disconnect = .ok o
  ends : (s.shutdown limit turns).1 = .done ∨ (s.shutdown limit turns).1 = .timeLimit

/-- Polling for the leave always ends. -/
theorem flush_ends (limit : Nat) (turns : List Turn) (s : Session) :
    (s.flush limit turns).1 = .done ∨ (s.flush limit turns).1 = .timeLimit := by
  induction turns generalizing s with
  | nil => exact Or.inr rfl
  | cons t turns ih =>
    rw [flush]
    split
    · exact Or.inl rfl
    · exact ih _
    · exact Or.inl rfl
    · exact ih _
    · split
      · exact Or.inr rfl
      · exact Or.inl rfl

/-- Without a place for the request nothing is polled, and leaving does not end. -/
theorem shutdown_of_not_hasPlace (h : ¬s.outbox.HasPlace) (limit : Nat) (turns : List Turn) :
    s.shutdown limit turns = (.stuck, s, []) := by
  rw [shutdown, Outbox.put_of_not_hasPlace h]

theorem leavesInTime_iff {limit : Nat} {turns : List Turn} :
    s.LeavesInTime limit turns ↔ s.outbox.HasPlace := by
  constructor
  · rintro ⟨⟨o, ho⟩, -⟩
    exact Outbox.hasPlace_of_put ho
  · intro h
    refine ⟨⟨_, Outbox.put_of_hasPlace h⟩, ?_⟩
    rw [shutdown, Outbox.put_of_hasPlace h]
    exact flush_ends limit turns _

/-- After any actions, and whatever the broker does: a session can be left in time exactly when fewer
requests wait in its outbox than this holds.  Otherwise leaving it does not end, and nothing is polled
for it; then at least as many requests have been put into the outbox as it holds.  Those that wait are
the last of these. -/
theorem leavesInTime_iff_hasPlace (clientId : String) (server : Server) (network : Network)
    (topic : String) (retain : Bool) (actions : List Action) :
    let s := start (Options.ofServer clientId server).connect network (.empty topic retain)
    let s' := (s.run actions).2
    (∀ limit turns, s'.LeavesInTime limit turns ↔
      s'.outbox.queue.waiting.length < Queue.capacity) ∧
    (∀ limit turns, s'.LeavesInTime limit turns ∨
      s'.shutdown limit turns = (.stuck, s', []) ∧ Queue.capacity ≤ (s.asked actions).length) ∧
    s'.outbox.queue.waiting.length ≤ Queue.capacity ∧
    s'.outbox.queue.waiting <:+ s.asked actions := by
  intro s s'
  have hrun := goesOn_run s actions
  have hconnected : s'.outbox.queue.isConnected = true := hrun.connected rfl
  have hwaiting : s'.outbox.queue.waiting <:+ s.asked actions := hrun.waiting
  refine ⟨?_, ?_, hrun.bounded (Nat.zero_le _), hwaiting⟩
  · intro limit turns
    rw [leavesInTime_iff]
    exact ⟨fun h => h.2, fun h => ⟨hconnected, h⟩⟩
  · intro limit turns
    by_cases h : s'.outbox.HasPlace
    · exact Or.inl (leavesInTime_iff.mpr h)
    · right
      refine ⟨shutdown_of_not_hasPlace h limit turns, ?_⟩
      have hfull : Queue.capacity ≤ s'.outbox.queue.waiting.length :=
        Nat.not_lt.mp fun hroom => h ⟨hconnected, hroom⟩
      exact Nat.le_trans hfull hwaiting.length_le

/-- A session in which as many definitions are deployed as the outbox holds, and nothing is polled. -/
def tenDeployed : Session :=
  ((start (Options.ofServer "c" ⟨"h", 1883, none⟩).connect (.broker []) (.empty "t" false)).run
    (List.replicate 10 (.deploy "" { id := some (.string "n") }))).2

/-- All ten publications wait, and the session is not left. -/
theorem stuck_behind_ten :
    tenDeployed.outbox.queue.waiting.length = 10 ∧ ∀ limit turns,
      ¬tenDeployed.LeavesInTime limit turns ∧
        tenDeployed.shutdown limit turns = (.stuck, tenDeployed, []) := by
  have hten : tenDeployed.outbox.queue.waiting.length = 10 := by decide +kernel
  have hplace : ¬tenDeployed.outbox.HasPlace := by
    rintro ⟨-, hroom⟩
    rw [hten] at hroom
    exact Nat.lt_irrefl 10 hroom
  refine ⟨hten, fun limit turns => ⟨?_, shutdown_of_not_hasPlace hplace limit turns⟩⟩
  rw [leavesInTime_iff]
  exact hplace

end Session

end BrokerNode.Mqtt
