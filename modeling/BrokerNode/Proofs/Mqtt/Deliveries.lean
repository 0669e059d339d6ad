/-
BrokerNode/Proofs/Mqtt/Deliveries.lean

Successful waits, acknowledgements and deployments.

A session agrees with the ledger of its history (`Accounted`): what the client remembers does, and every
publication that is in the ledger or still to be sent was put into the outbox by a deployment.  Each
thing that a poll does keeps it so.  At the end of any run this bounds the successful waits by the
acknowledgements that count, and these by the deployments
(`deliveries_le_acknowledged_le_deployments`).
-/
import BrokerNode.Proofs.Mqtt.History

namespace BrokerNode.Mqtt

namespace Session

/-! ### Sessions and their ledgers -/

/-- The ledger of a history, without what was sent on a connection that there is no more. -/
def ledger (s : Session) (h : List Exchange) : Ledger :=
  match s.connection with
  | some _ => .ofHistory h
  | none => (Ledger.ofHistory h).onNewConnection

/-- The publications of definitions. -/
def publications (topic : String) (retain : Bool) (ds : List Definition) : List Publication :=
  ds.map fun d => ⟨topic, .atLeastOnce, retain, (Envelope.ofDefinition d).body⟩

/-- A session that publishes definitions on a topic agrees with the ledger of its history. -/
structure Accounted (topic : String) (retain : Bool) (ds : List Definition) (n : Nat)
    (h : List Exchange) (s : Session) : Prop where
  topic_eq : s.outbox.topic = topic
  retain_eq : s.outbox.retain = retain
  balanced : Flight.Balanced (publications topic retain ds) n (s.ledger h) s.flight
    (Flight.requested s.ahead)
  requests : ∀ r ∈ s.ahead, r.Numbered
  count_le : ∀ p, (Ledger.ofHistory h).publications.count p ≤
    (publications topic retain ds).count p

section Accounted

variable {topic : String} {retain : Bool} {ds : List Definition} {n : Nat} {h : List Exchange}
  {s : Session} {c : Connection}

theorem ledger_of_connected (hc : s.connection = some c) : s.ledger h = .ofHistory h := by
  rw [ledger, hc]

theorem ledger_of_not_connected (hc : s.connection = none) :
    s.ledger h = (Ledger.ofHistory h).onNewConnection := by
  rw [ledger, hc]

theorem accounted_start (connect : Connect) (network : Network) :
    Accounted topic retain [] 0 [] (start connect network (.empty topic retain)) where
  topic_eq := rfl
  retain_eq := rfl
  balanced := Flight.balanced_start
  requests := by simp [ahead, start, Outbox.empty, Queue.waiting]
  count_le _ := Nat.le_refl _

/-- Handing an event out. -/
theorem Accounted.report (hs : Accounted topic retain ds n h s) :
    Accounted topic retain ds (n + s.report.1.deliveries) h s.report.2 := by
  rw [Session.report]
  split
  · next e events hevents =>
    have hbalanced := hs.balanced.report hevents
    exact ⟨hs.topic_eq, hs.retain_eq, hbalanced, hs.requests, hs.count_le⟩
  · exact hs

/-! #### Connecting -/

/-- On a new connection there is nothing that could be acknowledged. -/
theorem enter_taken_onNewConnection (l : Ledger) (p : Incoming) :
    l.onNewConnection.enter (.taken p) = l.onNewConnection := by
  cases p with
  | receipt r id => cases r <;> rfl
  | _ => rfl

/-- Connecting keeps a session in agreement with the ledger. -/
theorem Accounted.establish (hs : Accounted topic retain ds n h s) (hc : s.connection = none)
    (t : Turn) :
    Accounted topic retain ds (n + (s.establish t).1.deliveries) (h ++ s.introduced t)
      (s.establish t).2 := by
  have hbalanced := hs.balanced
  rw [ledger_of_not_connected hc] at hbalanced
  -- whatever the answer is, only the connection and the network change
  have hafter : ∀ {exchanges} network connection past,
      (Ledger.ofHistory h).enterAll exchanges = (Ledger.ofHistory h).onNewConnection →
      Accounted topic retain ds n (h ++ exchanges) { s with network, connection, past } := by
    intro exchanges network connection past hexchanges
    rw [← Ledger.ofHistory_append] at hexchanges
    have hledger : ({ s with network, connection, past } : Session).ledger (h ++ exchanges) =
        (Ledger.ofHistory h).onNewConnection := by
      rw [ledger, hexchanges]
      split
      · rfl
      · rfl
    refine ⟨hs.topic_eq, hs.retain_eq, ?_, hs.requests, ?_⟩
    · rw [hledger]
      exact hbalanced
    · rw [hexchanges]
      exact hbalanced.count_publications_le
  have hestablished := established s t
  generalize s.introduced t = ex, s.establish t = result at hestablished
  cases hestablished with
  | unreached r hr =>
    rw [hr]
    exact (List.append_nil h).symm ▸ hs
  | unanswered r network hr =>
    rw [hr]
    exact hafter _ _ _ rfl
  | refused f network p => exact hafter _ _ _ (enter_taken_onNewConnection _ p)
  | accepted network known c htraffic => exact hafter _ _ _ rfl

/-! #### Steps -/

theorem waiting_drained (q : Queue) : q.drained.waiting = [] := by
  cases q <;> rfl

/-- Giving a connection up keeps a session in agreement with the ledger: what was unconfirmed waits
again. -/
theorem accounted_abandon (htopic : s.outbox.topic = topic) (hretain : s.outbox.retain = retain)
    (hbalanced : Flight.Balanced (publications topic retain ds) n (.ofHistory h) s.flight
      (Flight.requested s.ahead)) (hrequests : ∀ r ∈ s.ahead, r.Numbered) (c : Connection) :
    Accounted topic retain ds n h (s.abandon c) where
  topic_eq := htopic
  retain_eq := hretain
  balanced := by
    refine hbalanced.afterLoss.of_count_le fun p => ?_
    show (Flight.requested (s.pending ++ s.flight.requests ++ s.outbox.queue.waiting ++
      s.outbox.queue.drained.waiting)).count p ≤ _
    -- the outbox is drained, and what waited there is pending behind what is asked for again
    rw [waiting_drained, List.append_nil, Flight.requested_append, Flight.requested_append, ahead,
      Flight.requested_append, List.count_append, List.count_append, List.count_append,
      List.count_append]
    omega
  requests := by
    intro r hr
    have hr : r ∈ s.pending ++ s.flight.requests ++ s.outbox.queue.waiting ++
        s.outbox.queue.drained.waiting := hr
    rw [waiting_drained, List.append_nil] at hr
    rcases List.mem_append.mp hr with hr | hr
    · rcases List.mem_append.mp hr with hr | hr
      · exact hrequests r (List.mem_append_left _ hr)
      · exact hbalanced.numbered.requests r hr
    · exact hrequests r (List.mem_append_right _ hr)
  count_le := hbalanced.count_publications_le

/-- The end of a step keeps a session in agreement with the ledger, when its operation did. -/
theorem accounted_conclude (htopic : s.outbox.topic = topic) (hretain : s.outbox.retain = retain)
    (hbalanced : Flight.Balanced (publications topic retain ds) n (.ofHistory h) s.flight
      (Flight.requested s.ahead)) (hrequests : ∀ r ∈ s.ahead, r.Numbered) (c : Connection)
    (refusal : Option IoError) (result : Except Breach (List Packet)) :
    Accounted topic retain ds (n + (s.conclude c refusal result).1.deliveries) h
      (s.conclude c refusal result).2 := by
  have hconcluded := concluded s c refusal result
  generalize s.conclude c refusal result = x at hconcluded
  cases hconcluded with
  | breach b => exact accounted_abandon htopic hretain hbalanced hrequests c
  | refused packets e => exact accounted_abandon htopic hretain hbalanced hrequests _
  | sent packets =>
    have hconnected : Accounted topic retain ds n h
        { s with connection := some (c.writeAll packets) } :=
      ⟨htopic, hretain, hbalanced, hrequests, hbalanced.count_publications_le⟩
    exact hconnected.report

/-- Carrying a request out keeps a session in agreement with the ledger. -/
theorem Accounted.carryOut (hs : Accounted topic retain ds n h s) (hc : s.connection = some c)
    (refusal : Option IoError) :
    Accounted topic retain ds (n + (s.carryOut c refusal).1.deliveries) (h ++ s.carriedOut)
      (s.carryOut c refusal).2 := by
  rw [Session.carryOut, carriedOut]
  cases hnext : s.nextRequest? with
  | none => exact (List.append_nil h).symm ▸ hs
  | some next =>
    obtain ⟨r, s'⟩ := next
    obtain ⟨hahead, pending, queue, rfl⟩ := nextRequest?_eq_some hnext
    have hbalanced := hs.balanced
    rw [ledger_of_connected hc, hahead] at hbalanced
    have hrequests := hs.requests
    rw [hahead, List.forall_mem_cons] at hrequests
    have hsent := hbalanced.send hrequests.1
    rw [← Ledger.ofHistory_append] at hsent
    exact accounted_conclude
      (s := { s with
        pending, outbox := { s.outbox with queue }, flight := (s.flight.send r).2 })
      hs.topic_eq hs.retain_eq hsent hrequests.2 c refusal _

/-- Showing that the client is there keeps a session in agreement with the ledger. -/
theorem Accounted.ping (hs : Accounted topic retain ds n h s) (hc : s.connection = some c)
    (refusal : Option IoError) :
    Accounted topic retain ds (n + (s.ping c refusal).1.deliveries)
      (h ++ Flight.handedOver s.flight.ping.1) (s.ping c refusal).2 := by
  have hbalanced := hs.balanced
  rw [ledger_of_connected hc] at hbalanced
  have hpinged := hbalanced.ping
  rw [← Ledger.ofHistory_append] at hpinged
  exact accounted_conclude (s := { s with flight := s.flight.ping.2 }) hs.topic_eq hs.retain_eq
    hpinged hs.requests c refusal _

/-- Taking in packets keeps the memory in agreement with the ledger. -/
theorem balanced_takeIn {deployed waiting : List Publication} {l : Ledger} {f : Flight}
    (count : Nat) (hb : Flight.Balanced deployed n l f waiting) :
    Flight.Balanced deployed n (l.enterAll (handled count f c)) (takeIn count f c).2.1 waiting := by
  induction count generalizing l f c with
  | zero => exact hb
  | succ count ih =>
    rw [takeIn, handled]
    cases hread : c.read with
    | nothing => exact hb
    | garbled g => exact hb
    | failed e => exact hb
    | packet p c' =>
      have hreceived := hb.receive p
      dsimp only
      cases hr : f.receive p with
      | mk result f' =>
        rw [hr] at hreceived
        cases result with
        | error b => exact hreceived
        | ok packet =>
          have hrest := ih (c := c') hreceived
          rw [← Ledger.enterAll_append] at hrest
          exact hrest

theorem balanced_takeBurst {deployed waiting : List Publication} {l : Ledger} {f : Flight}
    (count : Nat) (hb : Flight.Balanced deployed n l f waiting) :
    Flight.Balanced deployed n (l.enterAll (handled (min count maxBurst) f c))
      (takeBurst count f c).2.1 waiting := by
  have htaken := balanced_takeIn (c := c) (min count maxBurst) hb
  rw [takeBurst]
  split
  · next e hread =>
    -- nothing is taken in where the end of the connection is met
    have hsame : (takeIn (min count maxBurst) f c).2.1 = f := by
      cases min count maxBurst with
      | zero => rfl
      | succ n => rw [takeIn, hread]
    rw [hsame] at htaken
    exact htaken
  · exact htaken

/-- Reading a burst keeps a session in agreement with the ledger. -/
theorem Accounted.readBurst (hs : Accounted topic retain ds n h s) (hc : s.connection = some c)
    (count : Nat) (refusal : Option IoError) :
    Accounted topic retain ds (n + (s.readBurst c count refusal).1.deliveries)
      (h ++ handled (min count maxBurst) s.flight c) (s.readBurst c count refusal).2 := by
  have hbalanced := hs.balanced
  rw [ledger_of_connected hc] at hbalanced
  have htaken := balanced_takeBurst (c := c) count hbalanced
  rw [← Ledger.ofHistory_append] at htaken
  exact accounted_conclude (s := { s with flight := (takeBurst count s.flight c).2.1 }) hs.topic_eq
    hs.retain_eq htaken hs.requests _ refusal _

/-- An error on the connection keeps a session in agreement with the ledger. -/
theorem Accounted.fail (hs : Accounted topic retain ds n h s) (hc : s.connection = some c)
    (b : Breach) :
    Accounted topic retain ds (n + (s.conclude c none (.error b)).1.deliveries) h
      (s.conclude c none (.error b)).2 := by
  have hbalanced := hs.balanced
  rw [ledger_of_connected hc] at hbalanced
  exact accounted_conclude hs.topic_eq hs.retain_eq hbalanced hs.requests c none _

/-! #### Polls and actions -/

/-- A poll keeps a session in agreement with the ledger. -/
theorem Accounted.poll (hs : Accounted topic retain ds n h s) (t : Turn) :
    Accounted topic retain ds (n + (s.poll t).1.deliveries) (h ++ s.exchanged t) (s.poll t).2 := by
  rw [Session.poll, exchanged]
  cases hc : s.connection with
  | none => exact hs.establish hc t
  | some c =>
    dsimp only
    split
    · cases t with
      | request refusal => exact hs.carryOut hc refusal
      | read count refusal => exact hs.readBurst hc count refusal
      | ping refusal => exact hs.ping hc refusal
      | error e => exact (List.append_nil h).symm ▸ hs.fail hc (.io e)
    · exact (List.append_nil h).symm ▸ hs.report

/-- A request that was put into an outbox waits there. -/
theorem put_eq_ok {o o' : Outbox} {r : Request} (h : o.put r = .ok o') :
    ∃ queue, o' = { o with queue } ∧ queue.waiting = o.queue.waiting ++ [r] := by
  rw [Outbox.put] at h
  split at h
  · next queue hpush =>
    cases h
    refine ⟨queue, rfl, ?_⟩
    cases hqueue : o.queue with
    | disconnected =>
      rw [hqueue] at hpush
      cases hpush
    | connected waiting =>
      rw [hqueue, Queue.push?] at hpush
      split at hpush
      · cases hpush
        rfl
      · cases hpush
  · cases h

/-- A request behind those that wait. -/
theorem ahead_put {o : Outbox} {r : Request} (h : s.outbox.put r = .ok o) :
    o.topic = s.outbox.topic ∧ o.retain = s.outbox.retain ∧
      ({ s with outbox := o } : Session).ahead = s.ahead ++ [r] := by
  obtain ⟨queue, rfl, hwaiting⟩ := put_eq_ok h
  refine ⟨rfl, rfl, ?_⟩
  show s.pending ++ queue.waiting = _
  rw [hwaiting, ahead, List.append_assoc]

theorem requests_append {r : Request} (h : ∀ r ∈ s.ahead, r.Numbered) (hr : r.Numbered) :
    ∀ r' ∈ s.ahead ++ [r], r'.Numbered := by
  intro r' hr'
  rcases List.mem_append.mp hr' with hr' | hr'
  · exact h r' hr'
  · obtain rfl := List.mem_singleton.mp hr'
    exact hr

/-- A deployment keeps a session in agreement with the ledger. -/
theorem Accounted.deploy (hs : Accounted topic retain ds n h s) {d : Definition} {o : Outbox}
    (hpublish : s.outbox.publish (.ofDefinition d) = .ok o) :
    Accounted topic retain (ds ++ [d]) n h { s with outbox := o } := by
  rw [Outbox.publish] at hpublish
  split at hpublish
  · obtain ⟨htopic, hretain, hahead⟩ := ahead_put hpublish
    have hpublication : s.outbox.publication (.ofDefinition d) =
        ⟨topic, .atLeastOnce, retain, (Envelope.ofDefinition d).body⟩ := by
      rw [Outbox.publication, hs.topic_eq, hs.retain_eq]
    refine ⟨htopic.trans hs.topic_eq, hretain.trans hs.retain_eq, ?_, ?_, ?_⟩
    · rw [hahead, Flight.requested_append, publications, List.map_append, hpublication]
      exact hs.balanced.deploy _
    · rw [hahead]
      exact requests_append hs.requests trivial
    · intro p
      rw [publications, List.map_append, List.count_append]
      exact Nat.le_add_right_of_le (hs.count_le p)
  · cases hpublish

/-- Asking for the leave keeps a session in agreement with the ledger. -/
theorem Accounted.leave (hs : Accounted topic retain ds n h s) {o : Outbox}
    (hput : s.outbox.put .disconnect = .ok o) :
    Accounted topic retain ds n h { s with outbox := o } := by
  obtain ⟨htopic, hretain, hahead⟩ := ahead_put hput
  refine ⟨htopic.trans hs.topic_eq, hretain.trans hs.retain_eq, ?_, ?_, hs.count_le⟩
  · rw [hahead, Flight.requested_append]
    exact (List.append_nil (Flight.requested s.ahead)).symm ▸ hs.balanced
  · rw [hahead]
    exact requests_append hs.requests trivial

theorem Accounted.fewer {k : Nat} (hs : Accounted topic retain ds (n + k) h s) :
    Accounted topic retain ds n h s :=
  { hs with balanced := hs.balanced.fewer }

/-- Whatever is done with a session, it stays in agreement with the ledger of its history. -/
theorem invariant_accounted (topic : String) (retain : Bool) :
    Invariant fun ds n h s => Accounted topic retain ds n h s ∧ Accords h s.traffic.flatten where
  poll hs t := by
    obtain ⟨more, hmore, haccords⟩ := (passes_poll _ t).exists_traffic
    exact ⟨hs.1.poll t, hmore ▸ hs.2.append haccords⟩
  deploy hs _ _ hpublish := ⟨hs.1.deploy hpublish, hs.2⟩
  leave hs _ hput := ⟨hs.1.leave hput, hs.2⟩
  fewer k hs := ⟨hs.1.fewer, hs.2⟩

end Accounted

/-- Two definitions are deployed and the broker acknowledges the first one twice: one wait succeeds, and
the other does not. -/
example :
    let s := start { clientId := "node" }
      (.broker [[[.connAck 0], [.pubAck none, .pubAck none]]]) (.empty "topic" false)
    let actions : List Action := [.deploy "first" {}, .deploy "second" {},
      .await 1000 [.request, .request, .read 1], .await 1000 [.read 1]]
    s.deliveries actions = 1 ∧ (Ledger.ofHistory (s.history actions)).acknowledged.length = 1 ∧
      (s.deployments actions).length = 2 := by
  decide +kernel

end Session

end BrokerNode.Mqtt
