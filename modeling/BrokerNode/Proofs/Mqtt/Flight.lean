/-
BrokerNode/Proofs/Mqtt/Flight.lean

What a client remembers, held against the traffic on its connection.

As long as no publication is held back, packets of the broker cannot make the client publish: it only
answers them, and forgets publications that are confirmed (`keeps_answer`).  Neither does it publish to
show that it is there (`keeps_ping`).  Hence its memory stays in accordance with the traffic (`Accounts`):
every publication that is not confirmed was written, and every acknowledgement that is still to be
reported was read behind the publication of its number.
-/
import BrokerNode.Mqtt.Flight
import BrokerNode.Proofs.Mqtt.Traffic

namespace BrokerNode.Mqtt

theorem exists_of_map_eq_ok {ε α β : Type} {f : α → β} {x : Except ε α} {b : β}
    (h : x.map f = .ok b) : ∃ a, x = .ok a ∧ f a = b := by
  cases x with
  | error e => cases h
  | ok a => exact ⟨a, rfl, Except.ok.inj h⟩

namespace Flight

/-! ### Answering the broker -/

/-- What a client remembers (`f'`) after it has taken something in, with the result. -/
structure Keeps (f : Flight) (result : Except Breach (Option Packet)) (f' : Flight) : Prop where
  lastNumber : f'.lastNumber = f.lastNumber
  heldBack : f'.heldBack = none
  unconfirmed : ∀ e ∈ f'.unconfirmed, e ∈ f.unconfirmed
  events : ∀ e ∈ f'.events, e ∈ f.events ∨ ∃ o, e = .outgoing o
  isUpkeep : ∀ p, result = .ok (some p) → p.isUpkeep = true

section Keeps

variable {f : Flight}

theorem keeps_error (h : f.heldBack = none) (b : Breach) : Keeps f (.error b) f :=
  ⟨rfl, h, fun _ he => he, fun _ he => Or.inl he, by simp⟩

theorem keeps_nothing (h : f.heldBack = none) : Keeps f (.ok none) f :=
  ⟨rfl, h, fun _ he => he, fun _ he => Or.inl he, by simp⟩

theorem countPing_eq_self (h : f.heldBack = none) : f.countPing = f := by
  simp [countPing, h]

theorem mem_events_note {e e' : Event} (h : e' ∈ (f.note e).events) : e' ∈ f.events ∨ e' = e := by
  rcases List.mem_append.mp h with h | h
  · exact Or.inl h
  · exact Or.inr (List.mem_singleton.mp h)

theorem mem_of_mem_forget {id : UInt16} {e : UInt16 × Publication}
    (h : e ∈ (f.forget id).unconfirmed) : e ∈ f.unconfirmed := (List.mem_filter.mp h).1

/-- Sending a packet that keeps the connection going keeps what is remembered, but for the event that it
leaves. -/
theorem keeps_upkeep {g : Flight} {q : Packet} (hq : q.isUpkeep = true) (o : Outgoing)
    (hnumber : g.lastNumber = f.lastNumber) (hheld : g.heldBack = none)
    (hunconfirmed : ∀ e ∈ g.unconfirmed, e ∈ f.unconfirmed) (hevents : g.events = f.events) :
    Keeps f (.ok (some q)) (g.note (.outgoing o)) where
  lastNumber := hnumber
  heldBack := hheld
  unconfirmed := hunconfirmed
  events e he := by
    rcases mem_events_note he with he | rfl
    · exact Or.inl (hevents ▸ he)
    · exact Or.inr ⟨_, rfl⟩
  isUpkeep p hp := by
    cases hp
    exact hq

/-- Showing that it is there, a client sends nothing else. -/
theorem keeps_ping (h : f.heldBack = none) : Keeps f f.ping.1 f.ping.2 := by
  rw [ping, countPing_eq_self h]
  split
  · exact keeps_error h _
  split
  · exact keeps_error h _
  · exact keeps_upkeep rfl _ rfl h (fun _ he => he) rfl

theorem keeps_acknowledge (h : f.heldBack = none) (id : UInt16) :
    Keeps f (f.acknowledge id).1 (f.acknowledge id).2 := by
  rw [acknowledge]
  split
  · exact keeps_error h _
  dsimp only
  split
  · -- nothing is held back, so confirming sends nothing
    simp only [takeHeldBack, forget, h]
    exact ⟨rfl, rfl, fun e he => mem_of_mem_forget he, fun e he => Or.inl he, by simp⟩
  · exact ⟨rfl, h, fun _ he => he, fun _ he => Or.inl he, by simp⟩

theorem keeps_arrive (h : f.heldBack = none) (id : UInt16) :
    Keeps f (f.arrive id).1 (f.arrive id).2 := by
  rw [arrive]
  split
  · exact keeps_upkeep rfl _ rfl h (fun e he => mem_of_mem_forget he) rfl
  · exact keeps_error h _

theorem keeps_release (h : f.heldBack = none) (id : UInt16) :
    Keeps f (f.release id).1 (f.release id).2 := by
  rw [release]
  split
  · exact keeps_upkeep rfl _ rfl h (fun _ he => he) rfl
  · exact keeps_error h _

theorem keeps_complete (h : f.heldBack = none) (id : UInt16) :
    Keeps f (f.complete id).1 (f.complete id).2 := by
  rw [complete]
  split
  · simp only [takeHeldBack, h]
    exact ⟨rfl, rfl, fun _ he => he, fun _ he => Or.inl he, by simp⟩
  · exact keeps_error h _

theorem keeps_welcome (h : f.heldBack = none) (id : UInt16) (qos : Qos) :
    Keeps f (.ok (f.welcome id qos).1) (f.welcome id qos).2 := by
  cases qos with
  | atMostOnce => exact keeps_nothing h
  | atLeastOnce => exact keeps_upkeep rfl _ rfl h (fun _ he => he) rfl
  | exactlyOnce => exact keeps_upkeep rfl _ rfl h (fun _ he => he) rfl

/-- Whatever packet the broker sends, the client answers it at most. -/
theorem keeps_answer (h : f.heldBack = none) (p : Incoming) :
    Keeps f (f.answer p).1 (f.answer p).2 := by
  cases p with
  | pingResponse => exact ⟨rfl, h, fun _ he => he, fun _ he => Or.inl he, by simp [answer]⟩
  | subAck | unsubAck => exact keeps_nothing h
  | publish id _ qos _ _ => exact keeps_welcome h id qos
  | connAck | misplaced => exact keeps_error h _
  | receipt r id =>
    cases r with
    | acknowledged => exact keeps_acknowledge h id
    | received => exact keeps_arrive h id
    | released => exact keeps_release h id
    | completed => exact keeps_complete h id

/-- An acknowledgement is accepted for a publication only that is not confirmed. -/
theorem unconfirmed_of_acknowledge {id : UInt16} {q : Option Packet}
    (h : (f.acknowledge id).1 = .ok q) : ∃ p, (id, p) ∈ f.unconfirmed := by
  rw [acknowledge] at h
  split at h
  · cases h
  dsimp only at h
  split at h
  · next hid =>
    obtain ⟨p, hp⟩ := Option.isSome_iff_exists.mp hid
    obtain ⟨before, behind, heq, -⟩ := List.lookup_eq_some_iff.mp hp
    have heq : f.unconfirmed = before ++ (id, p) :: behind := heq
    exact ⟨p, by simp [heq]⟩
  · cases h

end Keeps

/-! ### Publishing -/

/-- The first publication gets the number one, unless it is too large. -/
theorem send_first {f : Flight} {p : Publication} (hqos : p.qos ≠ .atMostOnce)
    (hunconfirmed : f.unconfirmed = []) (hnumber : f.lastNumber = 0) :
    (∃ b, f.send (.publish none p) = (.error b, f)) ∨
      ∃ g, f.send (.publish none p) = (.ok (some (.publish 1 p)), g) ∧ g.heldBack = f.heldBack ∧
        g.unconfirmed = [(1, p)] ∧ g.events = f.events ++ [.outgoing (.publish 1)] := by
  by_cases hsize : maxPacketSize < p.size (none : Option UInt16).isSome
  · left
    exact ⟨_, if_pos hsize⟩
  · right
    refine ⟨(f.nextNumber.2.remember 1 p).note (.outgoing (.publish 1)), ?_, rfl, ?_, rfl⟩
    · have hnext : f.numberFor none = (1, f.nextNumber.2) := by
        simp [numberFor, nextNumber, hnumber]
      have hfree : ¬f.nextNumber.2.isUnconfirmed 1 = true := by
        simp [isUnconfirmed, nextNumber, hunconfirmed]
      rw [send, if_neg hsize, sendPublication, if_neg hqos, hnext]
      dsimp only
      rw [if_neg hfree]
    · show f.unconfirmed ++ [(1, p)] = _
      rw [hunconfirmed, List.nil_append]

/-! ### Memory and traffic -/

/-- What a client remembers is in accordance with the traffic on its connection. -/
structure Accounts (f : Flight) (traffic : List Traffic) : Prop where
  heldBack : f.heldBack = none
  unconfirmed : ∀ e ∈ f.unconfirmed, .publish e.1 e.2 ∈ Traffic.written traffic
  events : ∀ id, .incoming (.receipt .acknowledged id) ∈ f.events → Traffic.Acknowledged traffic id

theorem Accounts.append {f : Flight} {traffic : List Traffic} (h : f.Accounts traffic)
    (more : List Traffic) : f.Accounts (traffic ++ more) where
  heldBack := h.heldBack
  unconfirmed e he := by
    rw [Traffic.written_append]
    exact List.mem_append_left _ (h.unconfirmed e he)
  events id hid := (h.events id hid).append more

/-- An operation that sends at most what keeps the connection going keeps the memory in accordance with the
traffic. -/
theorem Accounts.keeps {f f' : Flight} {traffic : List Traffic}
    {result : Except Breach (Option Packet)} (h : f.Accounts traffic) (hk : Keeps f result f') :
    f'.Accounts traffic where
  heldBack := hk.heldBack
  unconfirmed e he := h.unconfirmed e (hk.unconfirmed e he)
  events id hid := by
    rcases hk.events _ hid with hold | ⟨o, ho⟩
    · exact h.events id hold
    · cases ho

/-- Taking in a packet that was read keeps the memory in accordance with the traffic. -/
theorem Accounts.receive {f f' : Flight} {traffic : List Traffic} {p : Incoming}
    {result : Except Breach (Option Packet)} (h : f.Accounts traffic)
    (hr : f.receive p = (result, f')) :
    f'.Accounts (traffic ++ [.read p]) ∧ f'.lastNumber = f.lastNumber ∧
      (∀ e ∈ f'.unconfirmed, e ∈ f.unconfirmed) ∧
      ∀ q, result = .ok (some q) → q.isUpkeep = true := by
  have hkeeps := keeps_answer h.heldBack p
  rw [Flight.receive] at hr
  cases ha : f.answer p with
  | mk res g =>
    rw [ha] at hr hkeeps
    have haccounts := (h.append [.read p]).keeps hkeeps
    cases res with
    | error b =>
      -- a packet that is not accepted leaves no event of its own
      cases hr
      exact ⟨haccounts, hkeeps.lastNumber, hkeeps.unconfirmed, hkeeps.isUpkeep⟩
    | ok packet =>
      cases hr
      refine ⟨⟨haccounts.heldBack, haccounts.unconfirmed, ?_⟩, hkeeps.lastNumber,
        hkeeps.unconfirmed, hkeeps.isUpkeep⟩
      intro id hid
      rcases mem_events_note hid with hid | heq
      · exact haccounts.events id hid
      · -- the packet itself is the acknowledgement
        cases heq
        have hok : (f.acknowledge id).1 = .ok packet := congrArg Prod.fst ha
        obtain ⟨P, hP⟩ := unconfirmed_of_acknowledge hok
        exact ⟨traffic, [], P, rfl, h.unconfirmed _ hP⟩

end Flight

end BrokerNode.Mqtt
