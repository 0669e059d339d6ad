/-
BrokerNode/Proofs/Mqtt/History.lean

The packets that pass between a session and its connections, in the order of the client.

The traffic of a connection has the answers to a burst behind the burst, as they are written when all of
it has been read.  The client handles the packets one by one, though, and hands over what answers a
packet before it takes the next one in.  `history` has them in that order.  It holds the same packets as
the traffic (`Accords`), but for answers that were handed over and never written, because the connection
was given up within the burst.

What holds of a session whatever is done with it is shown by one induction (`Invariant.run`): over the
polls of each action, and over the actions.
-/
import BrokerNode.Proofs.Mqtt.Ledger

namespace BrokerNode.Mqtt

open Connection Traffic

/-! ### Histories and traffic -/

/-- The packets of some traffic that were read. -/
def Traffic.reads (traffic : List Traffic) : List Incoming :=
  traffic.filterMap fun
    | .read p => some p
    | .sent _ | .lost _ => none

theorem Traffic.reads_append (t u : List Traffic) : reads (t ++ u) = reads t ++ reads u :=
  List.filterMap_append

/-- A history has the packets of some traffic: those that were taken in are those that were read, and
what was written was handed over, in this order. -/
structure Accords (h : List Exchange) (traffic : List Traffic) : Prop where
  takenIn_eq : Exchange.takenIn h = reads traffic
  written : (written traffic).Sublist (Exchange.handedOver h)

theorem Accords.append {h more : List Exchange} {t u : List Traffic} (hh : Accords h t)
    (hmore : Accords more u) : Accords (h ++ more) (t ++ u) where
  takenIn_eq := by
    rw [Exchange.takenIn, List.filterMap_append, reads_append]
    exact congrArg₂ (· ++ ·) hh.takenIn_eq hmore.takenIn_eq
  written := by
    rw [written_append, Exchange.handedOver, List.filterMap_append]
    exact hh.written.append hmore.written

theorem accords_nil : Accords [] [] := ⟨rfl, List.Sublist.refl _⟩

theorem accords_taken (p : Incoming) : Accords [.taken p] [.read p] := ⟨rfl, List.Sublist.refl _⟩

/-- Packets that are written are those that are handed over. -/
theorem accords_writeAll (c : Connection) (ps : List Packet) :
    ∃ more, (c.writeAll ps).traffic = c.traffic ++ more ∧ Accords (ps.map .handed) more := by
  induction ps generalizing c with
  | nil => exact ⟨[], (List.append_nil _).symm, accords_nil⟩
  | cons p ps ih =>
    obtain ⟨more, hmore, haccords⟩ := ih (c.write p)
    have hwrite : ∃ x, (c.write p).traffic = c.traffic ++ [x] ∧ Accords [.handed p] [x] := by
      rw [write]
      split
      · exact ⟨.lost p, rfl, rfl, List.Sublist.refl _⟩
      · exact ⟨.sent p, rfl, rfl, List.Sublist.refl _⟩
    obtain ⟨x, hx, hp⟩ := hwrite
    refine ⟨x :: more, ?_, hp.append haccords⟩
    show ((c.write p).writeAll ps).traffic = _
    rw [hmore, hx, List.append_assoc]
    rfl

theorem takenIn_map_handed (ps : List Packet) : Exchange.takenIn (ps.map .handed) = [] := by
  rw [Exchange.takenIn, List.filterMap_map]
  exact List.filterMap_eq_nil_iff.mpr fun _ _ => rfl

theorem handedOver_map_handed (ps : List Packet) : Exchange.handedOver (ps.map .handed) = ps := by
  rw [Exchange.handedOver, List.filterMap_map]
  exact List.filterMap_some

/-- Packets that are lost were handed over, too. -/
theorem accords_map_lost (ps : List Packet) : Accords (ps.map .handed) (ps.map .lost) := by
  have hreads : reads (ps.map .lost) = [] := by
    rw [reads, List.filterMap_map]
    exact List.filterMap_eq_nil_iff.mpr fun _ _ => rfl
  refine ⟨(takenIn_map_handed ps).trans hreads.symm, ?_⟩
  rw [written_map_lost, handedOver_map_handed]

/-- Packets that are handed over one by one accord with a burst and what becomes of them behind it. -/
theorem accords_behind {exchanges : List Exchange} {burst answers : List Traffic} {ps : List Packet}
    (htaken : Exchange.takenIn exchanges = reads burst) (hwritten : written burst = [])
    (hhanded : Exchange.handedOver exchanges = ps) (h : Accords (ps.map .handed) answers) :
    Accords exchanges (burst ++ answers) where
  takenIn_eq := by
    have hnone : reads answers = [] := h.takenIn_eq.symm.trans (takenIn_map_handed ps)
    rw [htaken, reads_append, hnone, List.append_nil]
  written := by
    rw [written_append, hwritten, hhanded, List.nil_append, ← handedOver_map_handed ps]
    exact h.written

/-! ### Deployments and deliveries -/

/-- How many deliveries a report tells of. -/
def Report.deliveries : Report → Nat
  | .event e => [e].countP Session.isDelivery
  | .failed _ | .idle | .unanswered => 0

namespace Session

/-- How many deliveries a wait was successful for. -/
def awaited : Except Undelivered Unit → Nat
  | .ok () => 1
  | .error _ => 0

/-- Whether an outcome tells of a delivery. -/
def Outcome.isDelivered : Outcome → Bool
  | .delivered => true
  | .deployed _ | .notDeployed _ | .undelivered _ | .left _ => false

/-- How many deliveries an outcome tells of. -/
def Outcome.deliveries (outcome : Outcome) : Nat := [outcome].countP Outcome.isDelivered

/-- The definition that was deployed, if the action deployed one. -/
def Action.deployment? : Action → Outcome → Option Definition
  | .deploy _ d, .deployed _ => some d
  | _, _ => none

/-- How many of the waits among some actions were successful. -/
def deliveries (s : Session) (actions : List Action) : Nat :=
  ((s.run actions).1.map Prod.fst).countP Outcome.isDelivered

/-- The definitions that were deployed among some actions. -/
def deployments (s : Session) (actions : List Action) : List Definition :=
  (actions.zip (s.run actions).1).filterMap fun (a, outcome, _) => a.deployment? outcome

/-! ### The history -/

/-- The packets of a burst, each with what answers it. -/
def handled : Nat → Flight → Connection → List Exchange
  | 0, _, _ => []
  | count + 1, f, c =>
    match c.read with
    | .packet p c =>
      match f.receive p with
      | (.error _, _) => [.taken p]
      | (.ok packet, f) => .taken p :: (packet.toList.map .handed ++ handled count f c)
    | .nothing | .garbled _ | .failed _ => []

/-- The introduction and its answer. -/
def introduced (s : Session) (t : Turn) : List Exchange :=
  match s.network with
  | .broker scripts =>
    .handed (.connect s.connect) ::
      match t.answer ((Connection.fresh (Network.next scripts).1).write (.connect s.connect)) with
      | .packet p _ => [.taken p]
      | .nothing | .garbled _ | .failed _ => []
  | .failing _ | .mute => []

/-- The packet of the next request. -/
def carriedOut (s : Session) : List Exchange :=
  match s.nextRequest? with
  | some (r, s) => Flight.handedOver (s.flight.send r).1
  | none => []

/-- What passes in a poll. -/
def exchanged (s : Session) (t : Turn) : List Exchange :=
  match s.connection with
  | none => s.introduced t
  | some c =>
    if s.flight.events.isEmpty then
      match t with
      | .request _ => s.carriedOut
      | .read count _ => handled (min count maxBurst) s.flight c
      | .ping _ => Flight.handedOver s.flight.ping.1
      | .error _ => []
    else []

/-- What passes in polls, as long as their reports call for more. -/
def exchangedWhile (goesOn : Report → Bool) : List Turn → Session → List Exchange
  | [], _ => []
  | t :: turns, s =>
    s.exchanged t ++
      match goesOn (s.poll t).1 with
      | true => exchangedWhile goesOn turns (s.poll t).2
      | false => []

/-- Whether a wait goes on. -/
def awaits : Report → Bool
  | .event e => !isDelivery e
  | .idle => true
  | .failed _ | .unanswered => false

/-- Whether taking leave goes on. -/
def flushes : Report → Bool
  | .event (.outgoing .disconnect) => false
  | .event _ | .idle => true
  | .failed _ | .unanswered => false

/-- What passes in an action. -/
def exchangedIn (s : Session) : Action → List Exchange
  | .deploy _ _ => []
  | .await _ turns => s.exchangedWhile awaits turns
  | .shutdown _ turns =>
    match s.outbox.put .disconnect with
    | .error _ => []
    | .ok outbox => { s with outbox }.exchangedWhile flushes turns

/-- What passes in actions, up to one that does not end. -/
def history (s : Session) : List Action → List Exchange
  | [] => []
  | a :: actions =>
    s.exchangedIn a ++
      match s.perform a with
      | (.left .stuck, _, _) => []
      | (_, s, _) => s.history actions

/-! ### Histories of polls -/

/-- The requests that wait, in the order in which they are carried out. -/
def ahead (s : Session) : List Request := s.pending ++ s.outbox.queue.waiting

/-- The next request is the first of those that wait. -/
theorem nextRequest?_eq_some {s s' : Session} {r : Request} (h : s.nextRequest? = some (r, s')) :
    s.ahead = r :: s'.ahead ∧
      ∃ pending queue, s' = { s with pending, outbox := { s.outbox with queue } } := by
  rw [nextRequest?] at h
  split at h
  · next r pending hpending =>
    cases h
    exact ⟨by rw [ahead, hpending]; rfl, pending, s.outbox.queue, rfl⟩
  · next hpending =>
    split at h
    · split at h
      · next r waiting hwaiting =>
        cases h
        refine ⟨?_, s.pending, .connected waiting, rfl⟩
        rw [ahead, ahead, hpending, hwaiting]
        rfl
      · cases h
    · cases h

/-- How the traffic of a session goes on: on the connection that there is, or on one that there is no
more. -/
inductive Passes (s : Session) (exchanges : List Exchange) (s' : Session) : Prop where
  | nothing (hconnection : s'.connection = s.connection) (hpast : s'.past = s.past)
      (hexchanges : exchanges = [])
  | kept {c : Connection} {more : List Traffic} (hconnection : s'.connection = some c)
      (hpast : s'.past = s.past)
      (htraffic : c.traffic = (s.connection.map Connection.traffic).getD [] ++ more)
      (haccords : Accords exchanges more)
  | lost {more : List Traffic} (hconnection : s'.connection = none)
      (hpast : s'.past = s.past ++ [(s.connection.map Connection.traffic).getD [] ++ more])
      (haccords : Accords exchanges more)

section Passes

variable {s s' : Session} {exchanges : List Exchange} {c : Connection}

theorem traffic_flatten (s : Session) :
    s.traffic.flatten = s.past.flatten ++ (s.connection.map Connection.traffic).getD [] := by
  rw [Session.traffic, List.flatten_append]
  cases s.connection with
  | none => rfl
  | some c => exact congrArg _ (List.append_nil _)

/-- What passes is what is new in the traffic. -/
theorem Passes.exists_traffic (h : Passes s exchanges s') :
    ∃ more, s'.traffic.flatten = s.traffic.flatten ++ more ∧ Accords exchanges more := by
  rw [traffic_flatten, traffic_flatten]
  cases h with
  | nothing hconnection hpast hexchanges =>
    refine ⟨[], ?_, hexchanges ▸ accords_nil⟩
    rw [hconnection, hpast, List.append_nil]
  | @kept c more hconnection hpast htraffic haccords =>
    refine ⟨more, ?_, haccords⟩
    rw [hconnection, hpast, List.append_assoc, ← htraffic]
    rfl
  | @lost more hconnection hpast haccords =>
    refine ⟨more, ?_, haccords⟩
    rw [hconnection, hpast]
    simp

/-- Handing an event out passes nothing. -/
theorem Passes.report (h : Passes s exchanges s') : Passes s exchanges s'.report.2 := by
  have hsame : s'.report.2.connection = s'.connection ∧ s'.report.2.past = s'.past := by
    rw [Session.report]
    split
    · exact ⟨rfl, rfl⟩
    · exact ⟨rfl, rfl⟩
  cases h with
  | nothing hconnection hpast hexchanges =>
    exact .nothing (hsame.1.trans hconnection) (hsame.2.trans hpast) hexchanges
  | kept hconnection hpast htraffic haccords =>
    exact .kept (hsame.1.trans hconnection) (hsame.2.trans hpast) htraffic haccords
  | lost hconnection hpast haccords =>
    exact .lost (hsame.1.trans hconnection) (hsame.2.trans hpast) haccords

/-- What passes when a session connects, with the report and the session behind it. -/
inductive Established (s : Session) : List Exchange → Report × Session → Prop where
  | unreached (r : Report) (hr : r.deliveries = 0) : Established s [] (r, s)
  | unanswered (r : Report) (network : Network) (hr : r.deliveries = 0) :
    Established s [.handed (.connect s.connect)]
      (r, { s with network, past := s.past ++ [[.sent (.connect s.connect)]] })
  | refused (f : Failure) (network : Network) (p : Incoming) :
    Established s [.handed (.connect s.connect), .taken p]
      (.failed f, { s with network, past := s.past ++ [[.sent (.connect s.connect), .read p]] })
  | accepted (network : Network) (known : Bool) (c : Connection)
      (htraffic : c.traffic = [.sent (.connect s.connect), .read (.connAck known .accepted)]) :
    Established s [.handed (.connect s.connect), .taken (.connAck known .accepted)]
      (.event (.incoming (.connAck known .accepted)), { s with network, connection := some c })

theorem established (s : Session) (t : Turn) :
    Established s (s.introduced t) (s.establish t) := by
  rw [Session.establish, introduced]
  cases s.network with
  | failing e => exact .unreached _ rfl
  | mute => exact .unreached _ rfl
  | broker scripts =>
    dsimp only
    cases hread : t.answer ((fresh (Network.next scripts).1).write (.connect s.connect)) with
    | nothing => exact .unanswered _ _ rfl
    | garbled g => exact .unanswered _ _ rfl
    | failed e => exact .unanswered _ _ rfl
    | packet p c =>
      have htraffic : c.traffic = [.sent (.connect s.connect), .read p] :=
        (read_packet (Turn.read_of_answer hread)).1
      dsimp only
      split
      · next heq =>
        cases heq
        exact .accepted _ _ _ htraffic
      · next heq =>
        cases heq
        rw [htraffic]
        exact .refused _ _ _
      · next heq =>
        cases heq
        rw [htraffic]
        exact .refused _ _ _
      · next heq => cases heq
      · next heq => cases heq
      · next heq => cases heq

/-- The introduction and its answer are what is written and read when a session connects. -/
theorem passes_establish (hc : s.connection = none) (t : Turn) :
    Passes s (s.introduced t) (s.establish t).2 := by
  have hcurrent : (s.connection.map Connection.traffic).getD [] = [] := by rw [hc]; rfl
  have hintroduction : Accords [.handed (.connect s.connect)] [.sent (.connect s.connect)] :=
    ⟨rfl, List.Sublist.refl _⟩
  have hestablished := established s t
  generalize s.introduced t = ex, s.establish t = result at hestablished
  cases hestablished with
  | unreached r hr => exact .nothing rfl rfl rfl
  | unanswered r network hr => exact .lost hc (by rw [hcurrent]; rfl) hintroduction
  | refused f network p =>
    exact .lost hc (by rw [hcurrent]; rfl) (hintroduction.append (accords_taken p))
  | accepted network known c htraffic =>
    refine .kept rfl rfl ?_ (hintroduction.append (accords_taken _))
    rw [hcurrent, htraffic]
    rfl

theorem takenIn_handedOver (result : Except Breach (Option Packet)) :
    Exchange.takenIn (Flight.handedOver result) = [] := by
  cases result with
  | error b => rfl
  | ok packet => exact takenIn_map_handed packet.toList

theorem handedOver_handedOver {result : Except Breach (Option Packet)} {packets : List Packet}
    (h : result.map Option.toList = .ok packets) :
    Exchange.handedOver (Flight.handedOver result) = packets := by
  obtain ⟨packet, rfl, rfl⟩ := exists_of_map_eq_ok h
  exact handedOver_map_handed packet.toList

/-- What passes in a step: the packets that were read in it (`m`), and those that are to be sent at its
end. -/
theorem passes_conclude {u : Session} {m : List Traffic} {c' : Connection}
    {result : Except Breach (List Packet)} (hpast : u.past = s.past) (hc : s.connection = some c)
    (htraffic : c'.traffic = c.traffic ++ m) (htaken : Exchange.takenIn exchanges = reads m)
    (hwritten : written m = [])
    (hhanded : ∀ packets, result = .ok packets → Exchange.handedOver exchanges = packets)
    (refusal : Option IoError) : Passes s exchanges (u.conclude c' refusal result).2 := by
  have hcurrent : (s.connection.map Connection.traffic).getD [] = c.traffic := by rw [hc]; rfl
  have hconcluded := concluded u c' refusal result
  generalize u.conclude c' refusal result = x at hconcluded
  cases hconcluded with
  | breach b =>
    -- a connection that is given up leaves its traffic behind
    refine .lost rfl ?_ ⟨htaken, ?_⟩
    · show u.past ++ [c'.traffic] = _
      rw [hpast, htraffic, hcurrent]
    · rw [hwritten]
      exact List.nil_sublist _
  | refused packets e =>
    have haccords := accords_behind htaken hwritten (hhanded packets rfl) (accords_map_lost packets)
    refine .lost rfl ?_ haccords
    show u.past ++ [c'.traffic ++ packets.map .lost] = _
    rw [hpast, htraffic, hcurrent, List.append_assoc]
  | sent packets =>
    obtain ⟨answers, hanswers, hpackets⟩ := accords_writeAll c' packets
    have haccords := accords_behind htaken hwritten (hhanded packets rfl) hpackets
    refine Passes.report (.kept rfl hpast ?_ haccords)
    rw [hanswers, htraffic, hcurrent, List.append_assoc]

/-- An operation that takes nothing in passes its packet, if there is one. -/
theorem passes_handedOver {u : Session} (hpast : u.past = s.past) (hc : s.connection = some c)
    (result : Except Breach (Option Packet)) (refusal : Option IoError) :
    Passes s (Flight.handedOver result) (u.conclude c refusal (result.map Option.toList)).2 :=
  passes_conclude (m := []) hpast hc (List.append_nil _).symm (takenIn_handedOver result) rfl
    (fun _ h => handedOver_handedOver h) refusal

/-- The packet that is written for a request. -/
theorem passes_carryOut (hc : s.connection = some c) (refusal : Option IoError) :
    Passes s s.carriedOut (s.carryOut c refusal).2 := by
  rw [Session.carryOut, carriedOut]
  cases hnext : s.nextRequest? with
  | none => exact .nothing rfl rfl rfl
  | some next =>
    obtain ⟨r, s'⟩ := next
    have hpast : s'.past = s.past := by
      obtain ⟨-, pending, queue, rfl⟩ := nextRequest?_eq_some hnext
      rfl
    exact passes_handedOver (u := { s' with flight := (s'.flight.send r).2 }) hpast hc _ refusal

/-- What is taken in of a burst is what is read, and what is handed over is to be written. -/
theorem takeIn_traffic (count : Nat) (f : Flight) (c : Connection) :
    ∃ more, (takeIn count f c).2.2.traffic = c.traffic ++ more ∧
      Exchange.takenIn (handled count f c) = reads more ∧ written more = [] ∧
      ∀ packets, (takeIn count f c).1 = .ok packets →
        Exchange.handedOver (handled count f c) = packets := by
  have hnothing : ∀ {c : Connection} {result : Except Breach (List Packet)},
      (∀ packets, result = .ok packets → [] = packets) →
      ∃ more, c.traffic = c.traffic ++ more ∧ Exchange.takenIn [] = reads more ∧
        written more = [] ∧ ∀ packets, result = .ok packets → Exchange.handedOver [] = packets :=
    fun h => ⟨[], (List.append_nil _).symm, rfl, rfl, h⟩
  induction count generalizing f c with
  | zero => exact hnothing fun _ h => Except.ok.inj h
  | succ count ih =>
    rw [takeIn, handled]
    cases hread : c.read with
    | nothing => exact hnothing fun _ h => Except.ok.inj h
    | garbled g => exact hnothing (by simp)
    | failed e => exact hnothing fun _ h => Except.ok.inj h
    | packet p c' =>
      have htraffic := (read_packet hread).1
      dsimp only
      cases hr : f.receive p with
      | mk result f' =>
        cases result with
        | error b => exact ⟨[.read p], htraffic, rfl, rfl, by simp⟩
        | ok packet =>
          obtain ⟨more, hmore, htaken, hwritten, hhanded⟩ := ih f' c'
          refine ⟨.read p :: more, ?_, ?_, hwritten, ?_⟩
          · show (takeIn count f' c').2.2.traffic = _
            rw [hmore, htraffic, List.append_assoc]
            rfl
          · -- the answers are not read
            have hanswers := takenIn_map_handed packet.toList
            show p :: Exchange.takenIn (packet.toList.map .handed ++ handled count f' c') = _
            rw [Exchange.takenIn, List.filterMap_append]
            exact congrArg (p :: ·) ((congrArg₂ (· ++ ·) hanswers htaken))
          · intro packets hpackets
            obtain ⟨rest, heq, rfl⟩ := exists_of_map_eq_ok hpackets
            have hanswers := handedOver_map_handed packet.toList
            show Exchange.handedOver (packet.toList.map .handed ++ handled count f' c') =
              packet.toList ++ rest
            rw [Exchange.handedOver, List.filterMap_append]
            exact congrArg₂ (· ++ ·) hanswers (hhanded rest heq)

/-- Where the end of the connection is met nothing is taken in, and elsewhere what a burst may hold. -/
theorem takeBurst_traffic (count : Nat) (f : Flight) (c : Connection) :
    ∃ more, (takeBurst count f c).2.2.traffic = c.traffic ++ more ∧
      Exchange.takenIn (handled (min count maxBurst) f c) = reads more ∧ written more = [] ∧
      ∀ packets, (takeBurst count f c).1 = .ok packets →
        Exchange.handedOver (handled (min count maxBurst) f c) = packets := by
  rw [takeBurst]
  split
  · next e hread =>
    have hnone : handled (min count maxBurst) f c = [] := by
      cases min count maxBurst with
      | zero => rfl
      | succ n => rw [handled, hread]
    refine ⟨[], (List.append_nil _).symm, ?_, rfl, by simp⟩
    rw [hnone]
    rfl
  · exact takeIn_traffic _ f c

/-- What is read in a burst, and what is written behind it. -/
theorem passes_readBurst (hc : s.connection = some c) (count : Nat) (refusal : Option IoError) :
    Passes s (handled (min count maxBurst) s.flight c) (s.readBurst c count refusal).2 := by
  obtain ⟨more, hmore, htaken, hwritten, hhanded⟩ := takeBurst_traffic count s.flight c
  exact passes_conclude (s := s) (u := { s with flight := (takeBurst count s.flight c).2.1 }) rfl hc
    hmore htaken hwritten hhanded refusal

/-- What passes in a poll is what is new in the traffic. -/
theorem passes_poll (s : Session) (t : Turn) : Passes s (s.exchanged t) (s.poll t).2 := by
  rw [Session.poll, exchanged]
  cases hc : s.connection with
  | none => exact passes_establish hc t
  | some c =>
    dsimp only
    split
    · cases t with
      | request refusal => exact passes_carryOut hc refusal
      | read count refusal => exact passes_readBurst hc count refusal
      | ping refusal =>
        exact passes_handedOver (s := s) (u := { s with flight := s.flight.ping.2 }) rfl hc _ refusal
      | error e =>
        refine passes_conclude (m := []) rfl hc (List.append_nil _).symm rfl rfl ?_ none
        intro packets h
        cases h
    · exact Passes.report (.nothing rfl rfl rfl)

end Passes

section Actions

variable {s s' : Session} {a : Action} {outcome : Outcome} {log : Log}

theorem deployments_of_run {outcomes : List (Outcome × Log)} {actions : List Action}
    (h : (s.run (a :: actions)).1 = (outcome, log) :: outcomes) :
    s.deployments (a :: actions) = (a.deployment? outcome).toList ++
      (actions.zip outcomes).filterMap fun (a, outcome, _) => a.deployment? outcome := by
  rw [deployments, h, List.zip_cons_cons, List.filterMap_cons]
  dsimp only
  cases a.deployment? outcome <;> rfl

/-- Behind an action that does not end nothing more is done. -/
theorem run_stuck (h : s.perform a = (.left .stuck, s', log)) (actions : List Action) :
    (s.run (a :: actions)).2 = s' ∧ s.history (a :: actions) = s.exchangedIn a ∧
      s.deployments (a :: actions) = (a.deployment? (.left .stuck)).toList ∧
      s.deliveries (a :: actions) = 0 := by
  have hrun : s.run (a :: actions) = ([(.left .stuck, log)], s') := by rw [run, h]
  refine ⟨congrArg Prod.snd hrun, ?_, ?_, ?_⟩
  · rw [history, h]
    exact List.append_nil _
  · rw [deployments_of_run (congrArg Prod.fst hrun), List.zip_nil_right]
    exact List.append_nil _
  · rw [deliveries, hrun]
    rfl

/-- Behind an action that ends the others are performed. -/
theorem run_cons (h : s.perform a = (outcome, s', log)) (hends : outcome ≠ .left .stuck)
    (actions : List Action) :
    (s.run (a :: actions)).2 = (s'.run actions).2 ∧
      s.history (a :: actions) = s.exchangedIn a ++ s'.history actions ∧
      s.deployments (a :: actions) = (a.deployment? outcome).toList ++ s'.deployments actions ∧
      s.deliveries (a :: actions) = outcome.deliveries + s'.deliveries actions := by
  have hrun : s.run (a :: actions) = ((outcome, log) :: (s'.run actions).1, (s'.run actions).2) ∧
      s.history (a :: actions) = s.exchangedIn a ++ s'.history actions := by
    rw [run, history, h]
    cases outcome with
    | left l =>
      cases l with
      | stuck => exact absurd rfl hends
      | done | timeLimit => exact ⟨rfl, rfl⟩
    | deployed | notDeployed | delivered | undelivered => exact ⟨rfl, rfl⟩
  refine ⟨by rw [hrun.1], hrun.2, deployments_of_run (by rw [hrun.1]), ?_⟩
  rw [deliveries, hrun.1, List.map_cons, ← List.singleton_append, List.countP_append]
  rfl

end Actions

/-! ### Induction over actions -/

/-- A property of the definitions deployed so far, the number of deliveries, the history and the session
that holds on, whatever is done. -/
structure Invariant (I : List Definition → Nat → List Exchange → Session → Prop) : Prop where
  poll : ∀ {ds n h s}, I ds n h s → ∀ t,
    I ds (n + (s.poll t).1.deliveries) (h ++ s.exchanged t) (s.poll t).2
  deploy : ∀ {ds n h s}, I ds n h s → ∀ {d o}, s.outbox.publish (.ofDefinition d) = .ok o →
    I (ds ++ [d]) n h { s with outbox := o }
  leave : ∀ {ds n h s}, I ds n h s → ∀ {o}, s.outbox.put .disconnect = .ok o →
    I ds n h { s with outbox := o }
  fewer : ∀ {ds n h s} k, I ds (n + k) h s → I ds n h s

namespace Invariant

variable {I : List Definition → Nat → List Exchange → Session → Prop} {ds : List Definition} {n : Nat}
  {h : List Exchange} {s : Session}

/-- Waiting for a delivery keeps an invariant. -/
theorem await (hI : Invariant I) (limit : Nat) (turns : List Turn) (hs : I ds n h s) :
    I ds (n + awaited (s.await limit turns).1) (h ++ s.exchangedWhile awaits turns)
      (s.await limit turns).2.1 := by
  induction turns generalizing n h s with
  | nil => exact (List.append_nil h).symm ▸ hs
  | cons t turns ih =>
    have hpoll := hI.poll hs t
    rw [Session.await, exchangedWhile, ← List.append_assoc]
    cases hp : s.poll t with
    | mk r s' =>
      rw [hp] at hpoll
      have hend : I ds (n + r.deliveries) (h ++ s.exchanged t ++ []) s' :=
        (List.append_nil (h ++ s.exchanged t)).symm ▸ hpoll
      cases r with
      | event e =>
        dsimp only [awaits]
        rw [Report.deliveries, List.countP_singleton] at hpoll hend
        cases he : isDelivery e with
        | true =>
          -- the wait ends with this delivery
          rw [he] at hend
          exact hend
        | false =>
          rw [he] at hpoll
          exact ih hpoll
      | failed f => exact hend
      | idle => exact ih hpoll
      | unanswered => exact hend

/-- Polling for the leave keeps an invariant; the deliveries that it comes across are overlooked. -/
theorem flush (hI : Invariant I) (limit : Nat) (turns : List Turn) (hs : I ds n h s) :
    I ds n (h ++ s.exchangedWhile flushes turns) (s.flush limit turns).2.1 := by
  induction turns generalizing h s with
  | nil => exact (List.append_nil h).symm ▸ hs
  | cons t turns ih =>
    have hpoll := hI.fewer _ (hI.poll hs t)
    rw [Session.flush, exchangedWhile, ← List.append_assoc]
    cases hp : s.poll t with
    | mk r s' =>
      rw [hp] at hpoll
      have hend : I ds n (h ++ s.exchanged t ++ []) s' :=
        (List.append_nil (h ++ s.exchanged t)).symm ▸ hpoll
      cases r with
      | event e =>
        cases e with
        | incoming p => exact ih hpoll
        | outgoing o =>
          cases o with
          | disconnect => exact hend
          | publish id | receipt r id | heldBack id | ping => exact ih hpoll
      | failed f => exact hend
      | idle => exact ih hpoll
      | unanswered =>
        show I ds n (h ++ s.exchanged t ++ [])
          (if isOverBeforeAnswer limit turns then (Leave.timeLimit, s', [])
            else (Leave.done, s', [lossLine .silent])).2.1
        -- the two ends differ only in what is logged
        split
        · exact hend
        · exact hend

/-- Taking leave keeps an invariant. -/
theorem shutdown (hI : Invariant I) (limit : Nat) (turns : List Turn) (hs : I ds n h s) :
    I ds n (h ++ s.exchangedIn (.shutdown limit turns)) (s.shutdown limit turns).2.1 := by
  rw [exchangedIn, Session.shutdown]
  cases hput : s.outbox.put .disconnect with
  | error r => exact (List.append_nil h).symm ▸ hs
  | ok o => exact hI.flush limit turns (hI.leave hs hput)

/-- An action keeps an invariant. -/
theorem perform (hI : Invariant I) (a : Action) (hs : I ds n h s) :
    I (ds ++ (a.deployment? (s.perform a).1).toList) (n + (s.perform a).1.deliveries)
      (h ++ s.exchangedIn a) (s.perform a).2.1 := by
  cases a with
  | deploy fresh d =>
    rw [exchangedIn, List.append_nil, Session.perform, Session.deploy, Node.deploy]
    dsimp only [Outbox.wire]
    cases hpublish : s.outbox.publish (.ofDefinition d) with
    | error r => exact (List.append_nil ds).symm ▸ hs
    | ok o => exact hI.deploy hs hpublish
  | await limit turns =>
    have hawait := hI.await limit turns hs
    rw [exchangedIn, Session.perform]
    cases hw : s.await limit turns with
    | mk outcome rest =>
      rw [hw] at hawait
      cases outcome with
      | ok => exact (List.append_nil ds).symm ▸ hawait
      | error u => exact (List.append_nil ds).symm ▸ hawait
  | shutdown limit turns =>
    exact (List.append_nil ds).symm ▸ hI.shutdown limit turns hs

/-- Whatever is done with a session, an invariant that holds at its start holds behind it. -/
theorem run (hI : Invariant I) (actions : List Action) (hs : I ds n h s) :
    I (ds ++ s.deployments actions) (n + s.deliveries actions) (h ++ s.history actions)
      (s.run actions).2 := by
  induction actions generalizing ds n h s with
  | nil =>
    rw [history, List.append_nil]
    exact (List.append_nil ds).symm ▸ hs
  | cons a actions ih =>
    have hperform := hI.perform a hs
    cases hp : s.perform a with
    | mk outcome rest =>
      obtain ⟨s', log⟩ := rest
      rw [hp] at hperform
      by_cases hends : outcome = .left .stuck
      · subst hends
        obtain ⟨hrun, hhistory, hdeployments, hdeliveries⟩ := run_stuck hp actions
        rw [hrun, hhistory, hdeployments, hdeliveries]
        exact hperform
      · obtain ⟨hrun, hhistory, hdeployments, hdeliveries⟩ := run_cons hp hends actions
        rw [hrun, hhistory, hdeployments, hdeliveries, ← List.append_assoc, ← Nat.add_assoc,
          ← List.append_assoc]
        exact ih hperform

end Invariant

end Session

end BrokerNode.Mqtt
