/-
BrokerNode/Proofs/Mqtt/Session.lean

Sessions with one publication to deliver.

Such a session goes through four stages on one connection (`Stage`): the introduction was answered, the
publication was written, the leave was asked for, the leave was written.  A poll keeps it at its stage,
brings it to the next one, or loses the connection (`At.poll`); whatever the broker sends, and whatever
the system refuses to take, the client writes nothing else, except for what keeps the connection going.
A session that is not connected yet becomes one that was introduced, or fails (`Ready.establish`).

Waiting for the delivery and taking leave are runs of such polls.  The wait is successful if and only if
one of the polls reports an acknowledgement (`await_ok_iff`), and what is reported is that the
publication was acknowledged after it had been written (`Waiting.acknowledged`).
-/
import BrokerNode.Mqtt.Session
import BrokerNode.Proofs.Mqtt.Flight

namespace BrokerNode.Mqtt

open Connection Traffic

/-! ### Stages -/

/-- How far a session has come with its one publication. -/
inductive Stage where
  | introduced
  | published
  | leaving
  | left
deriving DecidableEq

namespace Stage

/-- The next stage that polls alone lead to. -/
def next : Stage → Stage
  | .introduced => .published
  | .published => .published
  | .leaving => .left
  | .left => .left

/-- What the client has written for its own ends. -/
def sent (k : Connect) (p : Publication) : Stage → List Packet
  | .introduced => [.connect k]
  | .published | .leaving => [.connect k, .publish 1 p]
  | .left => [.connect k, .publish 1 p, .disconnect]

theorem sent_isPrefix_next (k : Connect) (p : Publication) (stage : Stage) :
    stage.sent k p <+: stage.next.sent k p := by
  cases stage with
  | introduced => exact ⟨[.publish 1 p], rfl⟩
  | leaving => exact ⟨[.disconnect], rfl⟩
  | published | left => exact List.prefix_refl _

/-- The requests that wait. -/
def ahead (p : Publication) : Stage → List Request
  | .introduced => [.publish none p]
  | .published | .left => []
  | .leaving => [.disconnect]

end Stage

namespace Session

/-- A session that introduces itself as `k` and delivers `p` is at a stage, on its first connection. -/
structure At (k : Connect) (p : Publication) (stage : Stage) (s : Session) (c : Connection) :
    Prop where
  connection : s.connection = some c
  past : s.past = []
  pending : s.pending = []
  queue : s.outbox.queue = .connected (stage.ahead p)
  sent : ownPackets (written c.traffic) = stage.sent k p
  accounts : s.flight.Accounts c.traffic
  isFaithful : c.IsFaithful
  unnumbered : stage = .introduced → s.flight.unconfirmed = [] ∧ s.flight.lastNumber = 0

/-- All that a session has written for its own ends, on one connection at most, is a start of some
packets. -/
def Writes (packets : List Packet) (s : Session) : Prop :=
  s.traffic = [] ∨ ∃ t, s.traffic = [t] ∧ received t <+: written t ∧
    ownPackets (written t) <+: packets

/-- What is reported as acknowledged was acknowledged. -/
def Truthful (r : Report) (s : Session) : Prop :=
  ∀ id, r = .event (.incoming (.receipt .acknowledged id)) →
    ∃ t, s.traffic = [t] ∧ Acknowledged t id

theorem Writes.mono {packets more : List Packet} {s : Session} (h : s.Writes packets)
    (hp : packets <+: more) : s.Writes more := by
  rcases h with h | ⟨t, ht, hreceived, hwritten⟩
  · exact Or.inl h
  · exact Or.inr ⟨t, ht, hreceived, hwritten.trans hp⟩

variable {k : Connect} {p : Publication} {stage : Stage} {s : Session} {c : Connection}

theorem At.traffic (h : At k p stage s c) : s.traffic = [c.traffic] := by
  rw [Session.traffic, h.connection, h.past]
  rfl

theorem At.writes (h : At k p stage s c) : s.Writes (stage.sent k p) :=
  Or.inr ⟨c.traffic, h.traffic, h.isFaithful.isPrefix, h.sent ▸ List.prefix_refl _⟩

/-- A connection that is given up leaves its traffic behind. -/
theorem writes_abandon {packets : List Packet} (hpast : s.past = [])
    (hreceived : received c.traffic <+: written c.traffic)
    (hsent : ownPackets (written c.traffic) <+: packets) : (s.abandon c).Writes packets := by
  refine Or.inr ⟨c.traffic, ?_, hreceived, hsent⟩
  show s.past ++ [c.traffic] ++ [] = [c.traffic]
  rw [hpast]
  rfl

/-! ### One poll -/

/-- What a poll reports, and the session behind it, when the poll started at a stage. -/
inductive Polled (k : Connect) (p : Publication) (stage : Stage) : Report × Session → Prop where
  | kept {r : Report} {s : Session} {c : Connection} {stage' : Stage}
      (hstage : stage' = stage ∨ stage' = stage.next) (hat : At k p stage' s c)
      (hr : r = .idle ∨ ∃ e, r = .event e) (htrue : Truthful r s) : Polled k p stage (r, s)
  | lost {f : Failure} {s : Session} (hw : s.Writes (stage.next.sent k p)) :
      Polled k p stage (.failed f, s)

theorem truthful_idle (s : Session) : Truthful .idle s := by
  intro id h
  cases h

/-- Handing an event out changes nothing else. -/
theorem At.report {stage' : Stage} (h : At k p stage' s c)
    (hstage : stage' = stage ∨ stage' = stage.next) : Polled k p stage s.report := by
  rw [Session.report]
  split
  · next e events hevents =>
    -- fewer events are left, and the rest of the memory is the same
    have haccounts : Flight.Accounts { s.flight with events } c.traffic := {
      heldBack := h.accounts.heldBack
      unconfirmed := h.accounts.unconfirmed
      events := fun id hid => h.accounts.events id (hevents ▸ List.mem_cons_of_mem e hid) }
    refine .kept hstage (c := c) { h with accounts := haccounts } (Or.inr ⟨e, rfl⟩) ?_
    intro id hid
    cases hid
    exact ⟨c.traffic, h.traffic, h.accounts.events id (hevents ▸ List.mem_cons_self)⟩
  · exact .kept hstage h (Or.inl rfl) (truthful_idle s)

/-- The end of a step leaves a session at a stage, or loses the connection, when its packets lead to that
stage. -/
theorem polled_conclude {c' : Connection} {result : Except Breach (List Packet)}
    (hpast : s.past = []) (hc : c'.IsFaithful)
    (hsent : ownPackets (written c'.traffic) <+: stage.next.sent k p)
    (hat : ∀ packets, result = .ok packets →
      ∃ stage', (stage' = stage ∨ stage' = stage.next) ∧
        At k p stage' { s with connection := some (c'.writeAll packets) } (c'.writeAll packets))
    (refusal : Option IoError) : Polled k p stage (s.conclude c' refusal result) := by
  have hconcluded := concluded s c' refusal result
  generalize s.conclude c' refusal result = x at hconcluded
  cases hconcluded with
  | breach b => exact .lost (writes_abandon hpast hc.isPrefix hsent)
  | refused packets e =>
    obtain ⟨stage', hstage, hat⟩ := hat packets rfl
    -- as much is written as if the packets had been taken
    have hwritten : written (c'.loseAll packets).traffic = written (c'.writeAll packets).traffic :=
      (written_loseAll c' packets).trans (written_writeAll c' packets).symm
    refine .lost (writes_abandon hpast ?_ ?_)
    · rw [received_loseAll, written_loseAll]
      exact hc.isPrefix.trans (List.prefix_append _ _)
    · rw [hwritten, hat.sent]
      rcases hstage with rfl | rfl
      · exact Stage.sent_isPrefix_next k p stage'
      · exact List.prefix_refl _
  | sent packets =>
    obtain ⟨stage', hstage, hat⟩ := hat packets rfl
    exact hat.report hstage

theorem At.sent_isPrefix_next (h : At k p stage s c) :
    ownPackets (written c.traffic) <+: stage.next.sent k p :=
  h.sent ▸ Stage.sent_isPrefix_next k p stage

/-- The same for a step that takes nothing in. -/
theorem At.conclude_request (h : At k p stage s c) {outbox : Outbox} {f : Flight}
    {result : Except Breach (List Packet)}
    (hat : ∀ packets, result = .ok packets →
      ∃ stage', (stage' = stage ∨ stage' = stage.next) ∧
        At k p stage' { s with outbox, flight := f, connection := some (c.writeAll packets) }
          (c.writeAll packets))
    (refusal : Option IoError) :
    Polled k p stage ({ s with outbox, flight := f }.conclude c refusal result) :=
  polled_conclude (s := { s with outbox, flight := f }) h.past h.isFaithful h.sent_isPrefix_next hat
    refusal

/-! #### Requests -/

/-- The next request is the one that waits in the outbox. -/
theorem At.nextRequest? (h : At k p stage s c) :
    s.nextRequest? = if s.isFree then
        match stage.ahead p with
        | r :: waiting => some (r, { s with outbox := { s.outbox with queue := .connected waiting } })
        | [] => none
      else none := by
  rw [Session.nextRequest?, h.pending]
  dsimp only
  rw [h.queue]
  rfl

/-- Writing a packet that was due brings a session to the next stage. -/
theorem At.advance (h : At k p stage s c) {packet : Packet} {f : Flight} (stage' : Stage)
    (hstage : stage' ≠ .introduced)
    (hsent : stage.sent k p ++ ownPackets [packet] = stage'.sent k p)
    (hf : f.Accounts (c.write packet).traffic) :
    At k p stage'
      { s with
        outbox := { s.outbox with queue := .connected (stage'.ahead p) }
        flight := f
        connection := some (c.write packet) } (c.write packet) where
  connection := rfl
  past := h.past
  pending := h.pending
  queue := rfl
  sent := by rw [written_write, ownPackets_append, h.sent, hsent]
  accounts := hf
  isFaithful := h.isFaithful.write packet
  unnumbered hi := absurd hi hstage

/-- The publication is written under the first number, unless it is too large. -/
theorem At.carryOut_publish (h : At k p .introduced s c) (hqos : p.qos ≠ .atMostOnce)
    (hfree : s.isFree = true) (refusal : Option IoError) :
    Polled k p .introduced (s.carryOut c refusal) := by
  obtain ⟨hunconfirmed, hnumber⟩ := h.unnumbered rfl
  rw [Session.carryOut, h.nextRequest?, if_pos hfree]
  dsimp only [Stage.ahead]
  rcases Flight.send_first hqos hunconfirmed hnumber with ⟨b, hsend⟩ | ⟨g, hsend, hheld, hg, hevents⟩
  · rw [hsend]
    refine h.conclude_request ?_ refusal
    intro packets hpackets
    cases hpackets
  · rw [hsend]
    obtain ⟨more, hmore⟩ := exists_traffic_write c (.publish 1 p)
    -- the one publication that is not confirmed is the last packet that was written
    have haccounts : g.Accounts (c.write (.publish 1 p)).traffic := by
      refine ⟨hheld.trans h.accounts.heldBack, ?_, ?_⟩
      · intro e he
        rw [hg] at he
        cases List.mem_singleton.mp he
        rw [written_write]
        exact List.mem_append_right _ List.mem_cons_self
      · intro id hid
        rw [hevents] at hid
        rcases List.mem_append.mp hid with hid | hid
        · rw [hmore]
          exact (h.accounts.events id hid).append more
        · cases List.mem_singleton.mp hid
    refine h.conclude_request ?_ refusal
    intro packets hpackets
    cases hpackets
    exact ⟨.published, Or.inr rfl, h.advance .published (by decide) rfl haccounts⟩

/-- The leave is written. -/
theorem At.carryOut_disconnect (h : At k p .leaving s c) (hfree : s.isFree = true)
    (refusal : Option IoError) : Polled k p .leaving (s.carryOut c refusal) := by
  rw [Session.carryOut, h.nextRequest?, if_pos hfree]
  dsimp only [Stage.ahead]
  obtain ⟨more, hmore⟩ := exists_traffic_write c .disconnect
  have haccounts : (s.flight.note (.outgoing .disconnect)).Accounts (c.write .disconnect).traffic := by
    have happend := h.accounts.append more
    rw [← hmore] at happend
    refine ⟨happend.heldBack, happend.unconfirmed, ?_⟩
    intro id hid
    rcases Flight.mem_events_note hid with hid | hid
    · exact happend.events id hid
    · cases hid
  refine h.conclude_request ?_ refusal
  intro packets hpackets
  cases hpackets
  exact ⟨.left, Or.inr rfl, h.advance .left (by decide) rfl haccounts⟩

/-- Carrying a request out writes the packet that is due, if there is one. -/
theorem At.carryOut (h : At k p stage s c) (hqos : p.qos ≠ .atMostOnce) (refusal : Option IoError) :
    Polled k p stage (s.carryOut c refusal) := by
  have hidle : s.nextRequest? = none → Polled k p stage (s.carryOut c refusal) := by
    intro hnone
    rw [Session.carryOut, hnone]
    exact .kept (Or.inl rfl) h (Or.inl rfl) (truthful_idle s)
  -- while too much is unconfirmed no request is taken, which changes nothing
  by_cases hfree : s.isFree = true
  · cases stage with
    | introduced => exact h.carryOut_publish hqos hfree refusal
    | published => exact hidle (by rw [h.nextRequest?, if_pos hfree]; rfl)
    | leaving => exact h.carryOut_disconnect hfree refusal
    | left => exact hidle (by rw [h.nextRequest?, if_pos hfree]; rfl)
  · exact hidle (by rw [h.nextRequest?, if_neg hfree])

/-! #### Keeping the connection going -/

/-- What a step that only keeps the connection going leaves behind: the packets to send, or the breach,
what the client remembers and the connection. -/
structure Upkeep (f : Flight) (c : Connection)
    (result : Except Breach (List Packet) × Flight × Connection) : Prop where
  accounts : result.2.1.Accounts result.2.2.traffic
  isFaithful : result.2.2.IsFaithful
  lastNumber : result.2.1.lastNumber = f.lastNumber
  unconfirmed : ∀ e ∈ result.2.1.unconfirmed, e ∈ f.unconfirmed
  written_eq : written result.2.2.traffic = written c.traffic
  isUpkeep : ∀ packets, result.1 = .ok packets → ∀ q ∈ packets, q.isUpkeep = true

theorem upkeep_error {f : Flight} {c : Connection} (hf : f.Accounts c.traffic)
    (hc : c.IsFaithful) (b : Breach) : Upkeep f c (.error b, f, c) where
  accounts := hf
  isFaithful := hc
  lastNumber := rfl
  unconfirmed _ he := he
  written_eq := rfl
  isUpkeep := by simp

theorem upkeep_nothing {f : Flight} {c : Connection} (hf : f.Accounts c.traffic)
    (hc : c.IsFaithful) : Upkeep f c (.ok [], f, c) where
  accounts := hf
  isFaithful := hc
  lastNumber := rfl
  unconfirmed _ he := he
  written_eq := rfl
  isUpkeep := by simp

theorem upkeep_takeIn (count : Nat) {f : Flight} {c : Connection} (hf : f.Accounts c.traffic)
    (hc : c.IsFaithful) : Upkeep f c (takeIn count f c) := by
  induction count generalizing f c with
  | zero => exact upkeep_nothing hf hc
  | succ count ih =>
    rw [takeIn]
    split
    · exact upkeep_nothing hf hc
    · exact upkeep_nothing hf hc
    · exact upkeep_error hf hc _
    · next q c₁ hread =>
      cases hreceive : f.receive q with
      | mk result f₁ =>
        obtain ⟨haccounts, hnumber, hunconfirmed, hanswer⟩ := hf.receive hreceive
        rw [← (read_packet hread).1] at haccounts
        have hfaithful := hc.read hread
        have hwritten := written_read hread
        cases result with
        | error b => exact ⟨haccounts, hfaithful, hnumber, hunconfirmed, hwritten, by simp⟩
        | ok packet =>
          have hrest := ih haccounts hfaithful
          refine ⟨hrest.accounts, hrest.isFaithful, hrest.lastNumber.trans hnumber,
            fun e he => hunconfirmed e (hrest.unconfirmed e he), hrest.written_eq.trans hwritten, ?_⟩
          -- the answers of this packet come before those of the rest
          intro packets hpackets r hr
          obtain ⟨rest, heq, rfl⟩ := exists_of_map_eq_ok hpackets
          rcases List.mem_append.mp hr with hr | hr
          · exact hanswer r (by rw [Option.mem_toList.mp hr])
          · exact hrest.isUpkeep rest heq r hr

theorem upkeep_takeBurst (count : Nat) {f : Flight} {c : Connection} (hf : f.Accounts c.traffic)
    (hc : c.IsFaithful) : Upkeep f c (takeBurst count f c) := by
  rw [takeBurst]
  split
  · exact upkeep_error hf hc _
  · exact upkeep_takeIn _ hf hc

theorem upkeep_ping {f : Flight} {c : Connection} (hf : f.Accounts c.traffic)
    (hc : c.IsFaithful) : Upkeep f c (f.ping.1.map Option.toList, f.ping.2, c) := by
  have hkeeps := Flight.keeps_ping hf.heldBack
  refine ⟨hf.keeps hkeeps, hc, hkeeps.lastNumber, hkeeps.unconfirmed, rfl, ?_⟩
  intro packets hpackets q hq
  obtain ⟨packet, heq, rfl⟩ := exists_of_map_eq_ok hpackets
  exact hkeeps.isUpkeep q (by rw [heq, Option.mem_toList.mp hq])

/-- A step that only keeps the connection going leaves a session at its stage, or loses the
connection. -/
theorem At.conclude (h : At k p stage s c) {result : Except Breach (List Packet)} {f : Flight}
    {c' : Connection} (hu : Upkeep s.flight c (result, f, c')) (refusal : Option IoError) :
    Polled k p stage ({ s with flight := f }.conclude c' refusal result) := by
  have hsent : ownPackets (Traffic.written c'.traffic) <+: stage.next.sent k p := by
    rw [hu.written_eq]
    exact h.sent_isPrefix_next
  apply polled_conclude (s := { s with flight := f }) h.past hu.isFaithful hsent
  intro packets hpackets
  obtain ⟨more, hmore⟩ := exists_traffic_writeAll c' packets
  -- no number is given out, and nothing is added to what is not confirmed
  have hunnumbered : stage = .introduced → f.unconfirmed = [] ∧ f.lastNumber = 0 := by
    intro hi
    obtain ⟨hnone, hzero⟩ := h.unnumbered hi
    refine ⟨List.eq_nil_iff_forall_not_mem.mpr ?_, hu.lastNumber.trans hzero⟩
    intro e he
    have hmem := hu.unconfirmed e he
    rw [hnone] at hmem
    cases hmem
  exact ⟨stage, Or.inl rfl, {
    connection := rfl
    past := h.past
    pending := h.pending
    queue := h.queue
    sent := by
      rw [written_writeAll, hu.written_eq, ownPackets_append,
        ownPackets_upkeep (hu.isUpkeep packets hpackets), List.append_nil, h.sent]
    accounts := hmore ▸ hu.accounts.append more
    isFaithful := hu.isFaithful.writeAll packets
    unnumbered := hunnumbered }⟩

/-- A poll keeps a session at its stage, brings it to the next one or loses the connection. -/
theorem At.poll (h : At k p stage s c) (hqos : p.qos ≠ .atMostOnce) (t : Turn) :
    Polled k p stage (s.poll t) := by
  rw [Session.poll, h.connection]
  dsimp only
  split
  · cases t with
    | request refusal => exact h.carryOut hqos refusal
    | read count refusal =>
      exact h.conclude (upkeep_takeBurst count h.accounts h.isFaithful) refusal
    | ping refusal => exact h.conclude (upkeep_ping h.accounts h.isFaithful) refusal
    | error e => exact h.conclude (upkeep_error h.accounts h.isFaithful (.io e)) none
  · exact h.report (Or.inl rfl)

/-! ### Waiting for the delivery -/

/-- A session that is not connected yet, with its publication in the outbox. -/
structure Ready (k : Connect) (p : Publication) (s : Session) : Prop where
  connect : s.connect = k
  connection : s.connection = none
  past : s.past = []
  pending : s.pending = []
  queue : s.outbox.queue = .connected [.publish none p]
  flight : s.flight = {}

/-- A session that waits for the delivery of its publication. -/
inductive Waiting (k : Connect) (p : Publication) : Session → Prop where
  | ready {s : Session} (h : Ready k p s) : Waiting k p s
  | connected {stage : Stage} {s : Session} {c : Connection}
      (hstage : stage = .introduced ∨ stage = .published) (h : At k p stage s c) : Waiting k p s

/-- What a poll reports, and the session behind it, when the poll started with a session that waits. -/
inductive Awaited (k : Connect) (p : Publication) : Report × Session → Prop where
  | kept {r : Report} {s : Session} (hwaiting : Waiting k p s) (hr : r = .idle ∨ ∃ e, r = .event e)
      (htrue : Truthful r s) : Awaited k p (r, s)
  | lost {r : Report} {s : Session} (hr : r = .unanswered ∨ ∃ f, r = .failed f)
      (hw : s.Writes (Stage.published.sent k p)) : Awaited k p (r, s)

/-- Before the leave is asked for, no more is written than the introduction and the publication. -/
theorem sent_isPrefix (hstage : stage = .introduced ∨ stage = .published) :
    stage.sent k p <+: Stage.published.sent k p := by
  rcases hstage with rfl | rfl
  · exact ⟨[.publish 1 p], rfl⟩
  · exact List.prefix_refl _

theorem Waiting.writes (h : Waiting k p s) : s.Writes (Stage.published.sent k p) := by
  cases h with
  | ready h =>
    left
    rw [Session.traffic, h.connection, h.past]
    rfl
  | connected hstage h => exact h.writes.mono (sent_isPrefix hstage)

theorem Polled.awaited {result : Report × Session} (h : Polled k p stage result)
    (hstage : stage = .introduced ∨ stage = .published) : Awaited k p result := by
  cases h with
  | kept hnext hat hr htrue =>
    refine .kept (.connected ?_ hat) hr htrue
    rcases hnext with rfl | rfl
    · exact hstage
    · rcases hstage with rfl | rfl
      · exact Or.inr rfl
      · exact Or.inr rfl
  | lost hw =>
    rcases hstage with rfl | rfl
    · exact .lost (Or.inr ⟨_, rfl⟩) hw
    · exact .lost (Or.inr ⟨_, rfl⟩) hw

/-- Once its introduction is answered, a session is at the first stage. -/
theorem Ready.introduced (h : Ready k p s) (network : Network) {c : Connection}
    (hc : c.IsFaithful) (hw : written c.traffic = [.connect k]) :
    At k p .introduced { s with network, connection := some c } c where
  connection := rfl
  past := h.past
  pending := h.pending
  queue := h.queue
  sent := by rw [hw]; rfl
  accounts := by
    rw [h.flight]
    exact ⟨rfl, by simp, by simp⟩
  isFaithful := hc
  unnumbered _ := by
    rw [h.flight]
    exact ⟨rfl, rfl⟩

/-- A connection that is not kept saw the introduction only. -/
theorem Ready.writes_lost (h : Ready k p s) (network : Network) {c : Connection}
    (hc : c.IsFaithful) (hw : written c.traffic = [.connect k]) :
    ({ s with network, past := s.past ++ [c.traffic] } : Session).Writes
      (Stage.published.sent k p) := by
  refine Or.inr ⟨c.traffic, ?_, hc.isPrefix, ?_⟩
  · show s.past ++ [c.traffic] ++ (s.connection.map Connection.traffic).toList = _
    rw [h.past, h.connection]
    rfl
  · rw [hw]
    exact ⟨[.publish 1 p], rfl⟩

/-- Connecting leads to the first stage, or fails. -/
theorem Ready.establish (h : Ready k p s) (t : Turn) : Awaited k p (s.establish t) := by
  obtain rfl := h.connect
  rw [Session.establish]
  split
  · exact .lost (Or.inr ⟨_, rfl⟩) (Waiting.ready h).writes
  · exact .lost (Or.inl rfl) (Waiting.ready h).writes
  · next scripts _ =>
    generalize Network.next scripts = next
    obtain ⟨script, network⟩ := next
    dsimp only
    have hfaithful := (isFaithful_fresh script).write (.connect s.connect)
    have hwritten := written_write (fresh script) (.connect s.connect)
    have hread : ∀ {q c}, t.answer ((fresh script).write (.connect s.connect)) = .packet q c →
        c.IsFaithful ∧ written c.traffic = [.connect s.connect] := fun hq =>
      ⟨hfaithful.read (Turn.read_of_answer hq), (written_read (Turn.read_of_answer hq)).trans hwritten⟩
    -- only an answer that accepts the client leaves a connection behind
    split
    · next hq =>
      obtain ⟨hc, hw⟩ := hread hq
      refine .kept (.connected (Or.inl rfl) (h.introduced network hc hw)) (Or.inr ⟨_, rfl⟩) ?_
      intro id hid
      cases hid
    · next _ hq =>
      obtain ⟨hc, hw⟩ := hread hq
      exact .lost (Or.inr ⟨_, rfl⟩) (h.writes_lost network hc hw)
    · next _ _ hq =>
      obtain ⟨hc, hw⟩ := hread hq
      exact .lost (Or.inr ⟨_, rfl⟩) (h.writes_lost network hc hw)
    · exact .lost (Or.inr ⟨_, rfl⟩) (h.writes_lost network hfaithful hwritten)
    · exact .lost (Or.inr ⟨_, rfl⟩) (h.writes_lost network hfaithful hwritten)
    · exact .lost (Or.inl rfl) (h.writes_lost network hfaithful hwritten)

/-- A poll keeps a session waiting or loses the connection. -/
theorem Waiting.poll (h : Waiting k p s) (hqos : p.qos ≠ .atMostOnce) (t : Turn) :
    Awaited k p (s.poll t) := by
  cases h with
  | ready h =>
    rw [Session.poll, h.connection]
    exact h.establish t
  | connected hstage h => exact (h.poll hqos t).awaited hstage

/-! #### The polls of a wait -/

/-- The polls within a time limit: what each reports, and the session behind it.  The one that loses
the connection is the last. -/
def polls : List Turn → Session → List (Report × Session)
  | [], _ => []
  | t :: turns, s =>
    match s.poll t with
    | (.failed f, s) => [(.failed f, s)]
    | (.unanswered, s) => [(.unanswered, s)]
    | (r, s) => (r, s) :: polls turns s

/-- Every poll of a wait keeps the session waiting or loses the connection. -/
theorem Waiting.polls (h : Waiting k p s) (hqos : p.qos ≠ .atMostOnce) (turns : List Turn) :
    ∀ result ∈ s.polls turns, Awaited k p result := by
  induction turns generalizing s with
  | nil => simp [Session.polls]
  | cons t turns ih =>
    have hpolled := h.poll hqos t
    intro result hresult
    rw [Session.polls] at hresult
    split at hresult
    · next heq =>
      rw [heq] at hpolled
      cases List.mem_singleton.mp hresult
      exact hpolled
    · next heq =>
      rw [heq] at hpolled
      cases List.mem_singleton.mp hresult
      exact hpolled
    · next hfailed hunanswered heq =>
      rw [heq] at hpolled
      rcases List.mem_cons.mp hresult with rfl | hresult
      · exact hpolled
      · cases hpolled with
        | kept hwaiting => exact ih hwaiting result hresult
        | lost hr =>
          rcases hr with rfl | ⟨f, rfl⟩
          · exact (hunanswered rfl).elim
          · exact (hfailed f rfl).elim

/-- The events that end a wait are the acknowledgements. -/
theorem isDelivery_iff {e : Event} :
    isDelivery e = true ↔ ∃ id, e = .incoming (.receipt .acknowledged id) := by
  constructor
  · intro h
    unfold isDelivery at h
    split at h
    · exact ⟨_, rfl⟩
    · cases h
  · rintro ⟨id, rfl⟩
    rfl

/-- Waiting is successful if and only if one of the polls reports an acknowledgement. -/
theorem await_ok_iff (limit : Nat) (turns : List Turn) (s : Session) :
    (s.await limit turns).1 = .ok () ↔
      ∃ id s', (.event (.incoming (.receipt .acknowledged id)), s') ∈ s.polls turns := by
  induction turns generalizing s with
  | nil => simp [Session.await, Session.polls]
  | cons t turns ih =>
    rw [Session.await, Session.polls]
    cases s.poll t with
    | mk r s₁ =>
      cases r with
      | event e =>
        dsimp only
        by_cases he : isDelivery e = true
        · -- the wait ends here, whatever further polls would report
          obtain ⟨id, rfl⟩ := isDelivery_iff.mp he
          rw [if_pos he]
          exact ⟨fun _ => ⟨id, s₁, List.mem_cons_self⟩, fun _ => rfl⟩
        · rw [if_neg he]
          refine (ih s₁).trans ?_
          constructor
          · rintro ⟨id, s', hmem⟩
            exact ⟨id, s', List.mem_cons_of_mem _ hmem⟩
          · rintro ⟨id, s', hmem⟩
            rcases List.mem_cons.mp hmem with heq | hmem
            · cases heq
              exact absurd (isDelivery_iff.mpr ⟨id, rfl⟩) he
            · exact ⟨id, s', hmem⟩
      | failed f => simp
      | idle =>
        refine (ih s₁).trans ?_
        simp
      | unanswered => simp

/-- There is only one publication that is written before the leave is asked for. -/
theorem Writes.publication (h : s.Writes (Stage.published.sent k p)) {t : List Traffic}
    (ht : s.traffic = [t]) {id : UInt16} {q : Publication} (hq : .publish id q ∈ written t) :
    id = 1 ∧ q = p := by
  rcases h with h | ⟨u, hu, -, hwritten⟩
  · rw [h] at ht
    cases ht
  · obtain rfl : u = t := List.singleton_inj.mp (hu.symm.trans ht)
    have hmem := hwritten.subset (List.mem_filter.mpr ⟨hq, rfl⟩)
    rcases List.mem_cons.mp hmem with hmem | hmem
    · cases hmem
    · cases List.mem_singleton.mp hmem
      exact ⟨rfl, rfl⟩

/-- What is reported as acknowledged while a session waits is its publication, and the
acknowledgement was read when the publication had been written. -/
theorem Waiting.acknowledged (h : Waiting k p s) (hqos : p.qos ≠ .atMostOnce) {turns : List Turn}
    {id : UInt16} {s' : Session}
    (hmem : (.event (.incoming (.receipt .acknowledged id)), s') ∈ s.polls turns) :
    id = 1 ∧ ∃ before behind,
      s'.traffic = [before ++ .read (.receipt .acknowledged id) :: behind] ∧
        .publish id p ∈ written before := by
  have hpolled := h.polls hqos turns _ hmem
  cases hpolled with
  | kept hwaiting _ htrue =>
    obtain ⟨_, ht, before, behind, q, rfl, hq⟩ := htrue id rfl
    have hq' : .publish id q ∈ written (before ++ .read (.receipt .acknowledged id) :: behind) := by
      rw [written_append]
      exact List.mem_append_left _ hq
    obtain ⟨rfl, rfl⟩ := hwaiting.writes.publication ht hq'
    exact ⟨rfl, before, behind, ht, hq⟩
  | lost hr =>
    rcases hr with hr | ⟨f, hr⟩
    · cases hr
    · cases hr

/-- A session that waits and has seen an acknowledgement has written its publication. -/
theorem Waiting.published_of_acknowledged (h : Waiting k p s) {t : List Traffic} {id : UInt16}
    (ht : s.traffic = [t]) (hack : Acknowledged t id) : ∃ c, At k p .published s c := by
  cases h with
  | ready h =>
    rw [Session.traffic, h.connection, h.past] at ht
    cases ht
  | @connected stage _ c hstage h =>
    rcases hstage with rfl | rfl
    · -- so far only the introduction was written
      exfalso
      obtain ⟨before, behind, q, rfl, hq⟩ := hack
      have hc : c.traffic = _ := List.singleton_inj.mp (h.traffic.symm.trans ht)
      have hmem : .publish id q ∈ ownPackets (written c.traffic) := by
        rw [hc, written_append]
        exact List.mem_filter.mpr ⟨List.mem_append_left _ hq, rfl⟩
      rw [h.sent] at hmem
      cases List.mem_singleton.mp hmem
    · exact ⟨c, h⟩

/-- What a wait leaves behind. -/
theorem Waiting.await (h : Waiting k p s) (hqos : p.qos ≠ .atMostOnce) (limit : Nat)
    (turns : List Turn) :
    (s.await limit turns).2.1.Writes (Stage.published.sent k p) ∧
      ((s.await limit turns).1 = .ok () → ∃ c, At k p .published (s.await limit turns).2.1 c) := by
  induction turns generalizing s with
  | nil =>
    refine ⟨h.writes, ?_⟩
    intro hok
    cases hok
  | cons t turns ih =>
    have hpolled := h.poll hqos t
    rw [Session.await]
    generalize s.poll t = result at hpolled
    cases hpolled with
    | @kept r s₁ hwaiting hr htrue =>
      rcases hr with rfl | ⟨e, rfl⟩
      · exact ih hwaiting
      · dsimp only
        split
        · next he =>
          obtain ⟨id, rfl⟩ := isDelivery_iff.mp he
          obtain ⟨t, ht, hack⟩ := htrue id rfl
          exact ⟨hwaiting.writes, fun _ => hwaiting.published_of_acknowledged ht hack⟩
        · exact ih hwaiting
    | lost hr hw =>
      rcases hr with rfl | ⟨f, rfl⟩
      · exact ⟨hw, fun hok => by cases hok⟩
      · exact ⟨hw, fun hok => by cases hok⟩

/-! ### Taking leave -/

/-- Polling for the leave writes no more than the leave, and ends. -/
theorem At.flush (h : At k p stage s c) (hqos : p.qos ≠ .atMostOnce)
    (hstage : stage = .leaving ∨ stage = .left) (limit : Nat) (turns : List Turn) :
    (s.flush limit turns).1 ≠ .stuck ∧
      (s.flush limit turns).2.1.Writes (Stage.left.sent k p) := by
  have hsent : ∀ {stage : Stage}, stage = .leaving ∨ stage = .left →
      stage.sent k p <+: Stage.left.sent k p := by
    rintro stage (rfl | rfl)
    · exact ⟨[.disconnect], rfl⟩
    · exact List.prefix_refl _
  induction turns generalizing s c stage with
  | nil => exact ⟨by simp [Session.flush], h.writes.mono (hsent hstage)⟩
  | cons t turns ih =>
    have hpolled := h.poll hqos t
    rw [Session.flush]
    generalize s.poll t = result at hpolled
    cases hpolled with
    | @kept r s₁ c₁ stage' hnext hat hr =>
      have hstage' : stage' = .leaving ∨ stage' = .left := by
        rcases hnext with rfl | rfl
        · exact hstage
        · rcases hstage with rfl | rfl
          · exact Or.inr rfl
          · exact Or.inr rfl
      have hrest := ih hat hstage'
      rcases hr with rfl | ⟨e, rfl⟩
      · exact hrest
      · split
        · next heq =>
          cases heq
          exact ⟨by simp, hat.writes.mono (hsent hstage')⟩
        · next heq =>
          cases heq
          exact hrest
        · next heq => cases heq
        · next heq => cases heq
        · next heq => cases heq
    | lost hw =>
      rcases hstage with rfl | rfl
      · exact ⟨by simp, hw⟩
      · exact ⟨by simp, hw⟩

/-- Taking leave ends: there is a place for the request. -/
theorem At.shutdown (h : At k p .published s c) (hqos : p.qos ≠ .atMostOnce) (limit : Nat)
    (turns : List Turn) :
    (s.shutdown limit turns).1 ≠ .stuck ∧
      (s.shutdown limit turns).2.1.Writes (Stage.left.sent k p) := by
  have hput : s.outbox.put .disconnect = .ok { s.outbox with queue := .connected [.disconnect] } := by
    rw [Outbox.put, h.queue]
    rfl
  have hat : At k p .leaving
      { s with outbox := { s.outbox with queue := .connected [.disconnect] } } c :=
    { h with
      queue := rfl
      unnumbered := fun hi => by cases hi }
  rw [Session.shutdown, hput]
  exact hat.flush hqos (Or.inl rfl) limit turns

end Session

end BrokerNode.Mqtt
