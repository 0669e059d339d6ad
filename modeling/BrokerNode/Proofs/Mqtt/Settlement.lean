/-
BrokerNode/Proofs/Mqtt/Settlement.lean

What a client does with the publications that it is asked for.

A client sends a publication, or holds it back until its number is free, or drops it.  Each operation on
the client's memory is held to that (`Settles`): what it sends or holds back was asked for, or held back
before, and what it remembers as unconfirmed was so before, or is sent now.  Requests are one kind of
operation (`settles_send`), packets of the broker another (`settles_answer`), and signs of life a third
(`settles_ping`).

When the connection is lost some of the unconfirmed publications are asked for again, none of them more
than once (`requestedAgain_subperm`).
-/
import BrokerNode.Mqtt.Session
import BrokerNode.Proofs.Mqtt.Flight
import Mathlib.Data.List.Nodup
import Mathlib.Data.List.Perm.Subperm

namespace BrokerNode.Mqtt

/-! ### Numbers and requests -/

/-- Whether a number is one of those that are given out. -/
def InRange (id : UInt16) : Prop := 0 < id.toNat ∧ id.toNat ≤ Flight.maxNumber

/-- The publication in a packet, with its number. -/
def Packet.publication? : Packet → Option (UInt16 × Publication)
  | .publish id p => some (id, p)
  | .connect _ | .receipt _ _ | .ping | .disconnect => none

namespace Request

/-- The publication that a request asks for. -/
def publications : Request → List Publication
  | .publish _ p => [p]
  | .release _ | .disconnect => []

/-- The number of a request, if it has one, was given out. -/
def Numbered : Request → Prop
  | .publish (some id) _ => InRange id
  | .publish none _ | .release _ | .disconnect => True

end Request

namespace Flight

/-- All numbers that a client remembers were given out. -/
structure Numbered (f : Flight) : Prop where
  lastNumber : f.lastNumber < maxNumber
  unconfirmed : ∀ e ∈ f.unconfirmed, InRange e.1
  heldBack : ∀ e ∈ f.heldBack, InRange e.1

theorem Numbered.of_subset {f g : Flight} (h : f.Numbered) (hlast : g.lastNumber = f.lastNumber)
    (hunconfirmed : ∀ e ∈ g.unconfirmed, e ∈ f.unconfirmed)
    (hheld : ∀ e ∈ g.heldBack, e ∈ f.heldBack) : g.Numbered where
  lastNumber := hlast ▸ h.lastNumber
  unconfirmed e he := h.unconfirmed e (hunconfirmed e he)
  heldBack e he := h.heldBack e (hheld e he)

/-- The next number is in range. -/
theorem Numbered.nextNumber {f : Flight} (h : f.Numbered) :
    InRange f.nextNumber.1 ∧ f.nextNumber.2.lastNumber < maxNumber := by
  have hlast : f.lastNumber < 100 := h.lastNumber
  constructor
  · have hnat : f.nextNumber.1.toNat = f.lastNumber + 1 :=
      Nat.mod_eq_of_lt (Nat.lt_of_le_of_lt (Nat.succ_le_of_lt hlast) (by decide))
    rw [InRange, hnat]
    exact ⟨Nat.succ_pos _, hlast⟩
  · show (if f.lastNumber + 1 = 100 then 0 else f.lastNumber + 1) < 100
    split <;> omega

/-! ### What an operation does with publications -/

/-- The publication that is held back, without its number. -/
def held (f : Flight) : List Publication := (f.heldBack.map Prod.snd).toList

/-- The publication in the packet that is sent, if there is one, with its number. -/
def published : Except Breach (Option Packet) → List (UInt16 × Publication)
  | .ok packet => (packet.bind Packet.publication?).toList
  | .error _ => []

/-- What a client remembers (`f'`) after an operation, with the result, when the operation was asked for
some publications and leaves some of the unconfirmed ones (`remaining`). -/
structure Settles (f : Flight) (remaining : List (UInt16 × Publication)) (asked : List Publication)
    (result : Except Breach (Option Packet)) (f' : Flight) : Prop where
  unconfirmed : f'.unconfirmed.Subperm (remaining ++ published result)
  publications : ∀ p, ((published result).map Prod.snd).count p + f'.held.count p ≤
    asked.count p + f.held.count p
  deliveries : f'.events.countP Session.isDelivery = f.events.countP Session.isDelivery
  numbered : f'.Numbered
  inRange : ∀ e ∈ published result, e.2.qos ≠ .atMostOnce → InRange e.1
  noIntroduction : ∀ k, result ≠ .ok (some (.connect k))

section Settles

variable {f g : Flight} {remaining : List (UInt16 × Publication)} {asked : List Publication}

/-- An operation that changes neither numbers nor events forgets some of the unconfirmed publications at
most. -/
structure Retains (f : Flight) (remaining : List (UInt16 × Publication)) (g : Flight) : Prop where
  unconfirmed : g.unconfirmed.Subperm remaining
  remaining : remaining ⊆ f.unconfirmed
  lastNumber : g.lastNumber = f.lastNumber
  heldBack : g.heldBack = f.heldBack
  events : g.events = f.events

/-- What else is remembered does not matter. -/
theorem retains_same (f : Flight) {lastAcknowledged due heldBackPings : Nat}
    {released received : List UInt16} {pingOpen : Bool} :
    Retains f f.unconfirmed
      { f with lastAcknowledged, due, released, received, pingOpen, heldBackPings } :=
  ⟨List.Subperm.refl _, List.Subset.refl _, rfl, rfl, rfl⟩

theorem Retains.numbered (h : Retains f remaining g) (hf : f.Numbered) : g.Numbered :=
  hf.of_subset h.lastNumber (fun _ he => h.remaining (h.unconfirmed.subset he))
    (fun _ he => h.heldBack ▸ he)

/-- Nothing is sent, and no more is remembered. -/
theorem settles_nothing (hf : f.Numbered) {result : Except Breach (Option Packet)}
    (hresult : ∀ packet, result ≠ .ok (some packet)) (hg : Retains f remaining g) :
    Settles f remaining asked result g := by
  have hpublished : published result = [] := by
    cases result with
    | error b => rfl
    | ok packet =>
      cases packet with
      | none => rfl
      | some packet => exact absurd rfl (hresult packet)
  refine ⟨?_, ?_, by rw [hg.events], hg.numbered hf, ?_, fun k => hresult _⟩
  · rw [hpublished, List.append_nil]
    exact hg.unconfirmed
  · intro p
    rw [hpublished, held, hg.heldBack, List.map_nil, List.count_nil, Nat.zero_add]
    exact Nat.le_add_left _ _
  · rw [hpublished]
    simp

/-- An answer or a leave is sent, which no publication is in. -/
theorem settles_note (hf : f.Numbered) {packet : Packet} {o : Outgoing}
    (hpacket : ∀ id p, packet ≠ .publish id p) (hconnect : ∀ k, packet ≠ .connect k)
    (hg : Retains f remaining g) :
    Settles f remaining asked (.ok (some packet)) (g.note (.outgoing o)) := by
  have hpublished : published (.ok (some packet)) = [] := by
    cases packet with
    | publish id p => exact absurd rfl (hpacket id p)
    | connect k => rfl
    | receipt r id => rfl
    | ping => rfl
    | disconnect => rfl
  refine ⟨?_, ?_, ?_, ?_, ?_, ?_⟩
  · rw [hpublished, List.append_nil]
    exact hg.unconfirmed
  · intro p
    rw [hpublished, List.map_nil, List.count_nil, Nat.zero_add]
    show (g.heldBack.map Prod.snd).toList.count p ≤ _
    rw [hg.heldBack]
    exact Nat.le_add_left _ _
  · show (g.events ++ [Event.outgoing o]).countP Session.isDelivery = _
    rw [hg.events, List.countP_append]
    rfl
  · exact (hg.numbered hf).of_subset rfl (fun _ he => he) (fun _ he => he)
  · rw [hpublished]
    simp
  · intro k h
    cases h
    exact hconnect k rfl

/-- A publication that was asked for or held back is sent, and remembered or not. -/
theorem settles_publish {n : UInt16} {p : Publication} {o : Outgoing} (hg : g.Numbered)
    (hn : p.qos ≠ .atMostOnce → InRange n)
    (hunconfirmed : g.unconfirmed.Subperm (remaining ++ [(n, p)]))
    (hheld : ∀ q, [p].count q + g.held.count q ≤ asked.count q + f.held.count q)
    (hevents : g.events = f.events) :
    Settles f remaining asked (.ok (some (.publish n p))) (g.note (.outgoing o)) where
  unconfirmed := hunconfirmed
  publications := hheld
  deliveries := by
    show (g.events ++ [Event.outgoing o]).countP Session.isDelivery = _
    rw [hevents, List.countP_append]
    rfl
  numbered := hg.of_subset rfl (fun _ he => he) (fun _ he => he)
  inRange e he hqos := by
    obtain rfl := List.mem_singleton.mp he
    exact hn hqos
  noIntroduction k h := by cases h

/-! #### Sending -/

theorem Numbered.numberFor (hf : f.Numbered) {id : Option UInt16} {p : Publication}
    (hid : Request.Numbered (.publish id p)) :
    InRange (f.numberFor id).1 ∧ (f.numberFor id).2.Numbered ∧
      (f.numberFor id).2.unconfirmed = f.unconfirmed ∧ (f.numberFor id).2.heldBack = f.heldBack ∧
      (f.numberFor id).2.events = f.events := by
  cases id with
  | some id => exact ⟨hid, hf, rfl, rfl, rfl⟩
  | none =>
    obtain ⟨hrange, hlast⟩ := hf.nextNumber
    exact ⟨hrange, ⟨hlast, hf.unconfirmed, hf.heldBack⟩, rfl, rfl, rfl⟩

theorem Numbered.remember (hf : f.Numbered) {id : UInt16} (hid : InRange id) (p : Publication) :
    (f.remember id p).Numbered where
  lastNumber := hf.lastNumber
  unconfirmed e he := by
    rcases List.mem_append.mp he with he | he
    · exact hf.unconfirmed e he
    · obtain rfl := List.mem_singleton.mp he
      exact hid
  heldBack := hf.heldBack

/-- Sending a publication sends it or holds it back. -/
theorem settles_sendPublication (hf : f.Numbered) {id : Option UInt16} {p : Publication}
    (hid : Request.Numbered (.publish id p)) :
    Settles f f.unconfirmed [p] (.ok (f.sendPublication id p).1) (f.sendPublication id p).2 := by
  rw [sendPublication]
  split
  · next hqos =>
    refine settles_publish hf (absurd hqos) ?_ (fun q => Nat.le_refl _) rfl
    exact (List.sublist_append_left _ _).subperm
  · obtain ⟨hrange, hnumbered, hunconfirmed, hheld, hevents⟩ := hf.numberFor hid
    generalize f.numberFor id = next at hrange hnumbered hunconfirmed hheld hevents
    obtain ⟨n, g⟩ := next
    dsimp only at hrange hnumbered hunconfirmed hheld hevents ⊢
    split
    · -- it is held back, in the place of what was held back before
      refine ⟨?_, ?_, ?_, ?_, ?_, ?_⟩
      · exact (List.append_nil f.unconfirmed).symm ▸ hunconfirmed ▸ List.Subperm.refl _
      · intro q
        show ([] : List Publication).count q + [p].count q ≤ _
        rw [List.count_nil, Nat.zero_add]
        exact Nat.le_add_right _ _
      · show (g.events ++ [_]).countP Session.isDelivery = _
        rw [hevents, List.countP_append]
        rfl
      · refine ⟨hnumbered.lastNumber, hnumbered.unconfirmed, ?_⟩
        intro e he
        obtain rfl := Option.some.inj he
        exact hrange
      · simp [published]
      · simp
    · refine settles_publish (hnumbered.remember hrange p) (fun _ => hrange) ?_ ?_ hevents
      · show (g.unconfirmed ++ [(n, p)]).Subperm _
        rw [hunconfirmed]
      · intro q
        show _ + (g.heldBack.map Prod.snd).toList.count q ≤ _
        rw [hheld]
        exact Nat.le_refl _

/-- Carrying a request out sends what it asks for, or holds it back, or drops it. -/
theorem settles_send (hf : f.Numbered) {r : Request} (hr : r.Numbered) :
    Settles f f.unconfirmed r.publications (f.send r).1 (f.send r).2 := by
  cases r with
  | publish id p =>
    rw [send]
    split
    · exact settles_nothing hf (by simp) (retains_same _)
    · exact settles_sendPublication hf hr
  | release id =>
    exact settles_note hf (by simp) (by simp) (retains_same _)
  | disconnect =>
    exact settles_note hf (by simp) (by simp) (retains_same _)

theorem retains_countPing (f : Flight) : Retains f f.unconfirmed f.countPing := by
  rw [countPing]
  split
  · exact retains_same f
  · exact retains_same f

/-- Showing that it is there, a client publishes nothing. -/
theorem settles_ping (hf : f.Numbered) :
    Settles f f.unconfirmed [] f.ping.1 f.ping.2 := by
  have hcount := retains_countPing f
  rw [ping]
  split
  · exact settles_nothing hf (by simp) hcount
  split
  · exact settles_nothing hf (by simp) hcount
  · refine settles_note hf (by simp) (by simp) ?_
    exact ⟨hcount.unconfirmed, hcount.remaining, hcount.lastNumber, hcount.heldBack, hcount.events⟩

/-! #### Receiving -/

/-- What is left of the unconfirmed publications when a packet is taken in. -/
def unconfirmedAfter (f : Flight) : Incoming → List (UInt16 × Publication)
  | .receipt .acknowledged id => (f.forget id).unconfirmed
  | _ => f.unconfirmed

theorem forget_sublist (f : Flight) (id : UInt16) :
    (f.forget id).unconfirmed.Sublist f.unconfirmed := List.filter_sublist

/-- There is nothing to forget when no publication of a number is unconfirmed. -/
theorem forget_eq_self (id : UInt16) (h : ∀ e ∈ f.unconfirmed, e.1 ≠ id) :
    (f.forget id).unconfirmed = f.unconfirmed :=
  List.filter_eq_self.mpr fun e he => by simpa using h e he

theorem ne_of_not_isUnconfirmed {id : UInt16} (h : ¬f.isUnconfirmed id = true) :
    ∀ e ∈ f.unconfirmed, e.1 ≠ id := by
  have hnone : f.unconfirmed.lookup id = none := Option.not_isSome_iff_eq_none.mp h
  intro e he heq
  have hne := List.lookup_eq_none_iff.mp hnone e he
  simp [heq] at hne

/-- Taking off what is held back for a number takes it off or changes nothing. -/
theorem takeHeldBack_cases (f : Flight) (id : UInt16) :
    f.takeHeldBack id = (none, f) ∨
      ∃ p, f.heldBack = some (id, p) ∧
        f.takeHeldBack id = (some (id, p), { f with heldBack := none, heldBackPings := 0 }) := by
  rw [takeHeldBack]
  split
  · next n p hheld =>
    split
    · next hn =>
      subst hn
      exact Or.inr ⟨p, hheld, rfl⟩
    · exact Or.inl rfl
  · exact Or.inl rfl

/-- What is left when the publication of a number is confirmed. -/
def confirmed (f : Flight) (id : UInt16) : Flight :=
  { f.forget id with lastAcknowledged := id.toNat, due := f.due - 1 }

theorem Numbered.confirmed (hf : f.Numbered) (id : UInt16) : (f.confirmed id).Numbered :=
  hf.of_subset rfl (fun _ he => mem_of_mem_forget he) (fun _ he => he)

/-- A publication that was held back is sent: no more is held back than was. -/
theorem count_held {id : UInt16} {p : Publication} (hheld : f.heldBack = some (id, p))
    (hg : g.heldBack = none) (q : Publication) :
    [p].count q + g.held.count q ≤ ([] : List Publication).count q + f.held.count q := by
  simp [held, hheld, hg]

/-- An acknowledgement that is accepted. -/
theorem acknowledge_accepted {id : UInt16} (hid : ¬maxNumber < id.toNat)
    (h : f.isUnconfirmed id = true) :
    f.acknowledge id =
      match (f.confirmed id).takeHeldBack id with
      | (some (n, p), g) => (.ok (some (.publish n p)), (g.remember n p).note (.outgoing (.publish n)))
      | (none, g) => (.ok none, g) := by
  have h : { f with lastAcknowledged := id.toNat }.isUnconfirmed id = true := h
  rw [acknowledge, if_neg hid]
  dsimp only
  rw [if_pos h]
  rfl

theorem settles_acknowledge (hf : f.Numbered) (id : UInt16) :
    Settles f (f.forget id).unconfirmed [] (f.acknowledge id).1 (f.acknowledge id).2 := by
  by_cases hid : maxNumber < id.toNat
  · -- no unconfirmed publication has a number that was never given out
    have hself := forget_eq_self (f := f) id fun e he heq =>
      Nat.not_lt.mpr (heq ▸ hf.unconfirmed e he).2 hid
    rw [acknowledge, if_pos hid, hself]
    exact settles_nothing hf (by simp) (retains_same _)
  by_cases h : f.isUnconfirmed id = true
  · rw [acknowledge_accepted hid h]
    rcases takeHeldBack_cases (f.confirmed id) id with htake | ⟨p, hp, htake⟩
    · rw [htake]
      exact settles_nothing hf (by simp)
        ⟨List.Subperm.refl _, (forget_sublist f id).subset, rfl, rfl, rfl⟩
    · -- the publication that was held back takes the number over
      rw [htake]
      have hrange : InRange id := hf.heldBack _ hp
      refine settles_publish ?_ (fun _ => hrange) (List.Subperm.refl _) (count_held hp rfl) rfl
      refine Numbered.remember ?_ hrange p
      exact (hf.confirmed id).of_subset rfl (fun _ he => he) (by simp)
  · have hne : { f with lastAcknowledged := id.toNat }.isUnconfirmed id ≠ true := h
    rw [acknowledge, if_neg hid, forget_eq_self id (ne_of_not_isUnconfirmed h)]
    dsimp only
    rw [if_neg hne]
    exact settles_nothing hf (by simp) (retains_same _)

theorem settles_complete (hf : f.Numbered) (id : UInt16) :
    Settles f f.unconfirmed [] (f.complete id).1 (f.complete id).2 := by
  rw [complete]
  split
  · dsimp only
    have hnumbered : { f with released := f.released.erase id, due := f.due - 1 }.Numbered :=
      hf.of_subset rfl (fun _ he => he) (fun _ he => he)
    rcases takeHeldBack_cases { f with released := f.released.erase id, due := f.due - 1 } id with
      h | ⟨p, hp, h⟩
    · rw [h]
      exact settles_nothing hf (by simp) (retains_same _)
    · -- it is sent, but not remembered
      rw [h]
      refine settles_publish ?_ (fun _ => hf.heldBack _ hp) ?_ (count_held hp rfl) rfl
      · exact hnumbered.of_subset rfl (fun _ he => he) (by simp)
      · exact (List.sublist_append_left _ _).subperm
  · exact settles_nothing hf (by simp) (retains_same _)

/-- An operation that answers with a confirmation, or refuses, publishes nothing. -/
theorem settles_arrive (hf : f.Numbered) (id : UInt16) :
    Settles f f.unconfirmed [] (f.arrive id).1 (f.arrive id).2 := by
  rw [arrive]
  split
  · exact settles_note hf (by simp) (by simp)
      ⟨(forget_sublist f id).subperm, List.Subset.refl _, rfl, rfl, rfl⟩
  · exact settles_nothing hf (by simp) (retains_same _)

theorem settles_release (hf : f.Numbered) (id : UInt16) :
    Settles f f.unconfirmed [] (f.release id).1 (f.release id).2 := by
  rw [release]
  split
  · exact settles_note hf (by simp) (by simp) (retains_same _)
  · exact settles_nothing hf (by simp) (retains_same _)

theorem settles_welcome (hf : f.Numbered) (id : UInt16) (qos : Qos) :
    Settles f f.unconfirmed [] (.ok (f.welcome id qos).1) (f.welcome id qos).2 := by
  cases qos with
  | atMostOnce =>
    exact settles_nothing hf (by simp [welcome]) (retains_same _)
  | atLeastOnce | exactlyOnce =>
    exact settles_note hf (by simp) (by simp) (retains_same _)

/-- Whatever packet the broker sends, the client publishes at most what it had held back. -/
theorem settles_answer (hf : f.Numbered) (p : Incoming) :
    Settles f (f.unconfirmedAfter p) [] (f.answer p).1 (f.answer p).2 := by
  cases p with
  | publish id _ qos _ _ => exact settles_welcome hf id qos
  | pingResponse | subAck | unsubAck | connAck | misplaced =>
    exact settles_nothing hf (by simp [answer]) (retains_same _)
  | receipt r id =>
    cases r with
    | acknowledged => exact settles_acknowledge hf id
    | received => exact settles_arrive hf id
    | released => exact settles_release hf id
    | completed => exact settles_complete hf id

end Settles

/-! ### Asking again -/

/-- The publications that requests ask for. -/
def requested (rs : List Request) : List Publication := rs.flatMap Request.publications

/-- The unconfirmed publications that are asked for again, with their numbers. -/
def requestedAgain (f : Flight) : List (UInt16 × Publication) :=
  (numbersBehind f.lastAcknowledged).filterMap fun id => (f.unconfirmed.lookup id).map (Prod.mk id)

theorem nodup_numbersBehind (last : Nat) : (numbersBehind last).Nodup := by
  have hnumbers : ((List.range (maxNumber + 1)).map Nat.toUInt16).Nodup := by
    refine List.Nodup.map_on ?_ List.nodup_range
    intro m hm n hn heq
    have hm : m < maxNumber + 1 := List.mem_range.mp hm
    have hn : n < maxNumber + 1 := List.mem_range.mp hn
    rw [maxNumber] at hm hn
    have hnat : m % 65536 = n % 65536 := congrArg UInt16.toNat heq
    omega
  rw [numbersBehind]
  refine List.perm_append_comm.nodup_iff.mpr ?_
  rwa [List.take_append_drop]

theorem requestedAgain_subperm (f : Flight) : f.requestedAgain.Subperm f.unconfirmed := by
  refine List.subperm_of_subset ?_ ?_
  · refine List.Pairwise.filterMap _ ?_ (nodup_numbersBehind _)
    intro id id' hne e he e' he' heq
    obtain ⟨p, -, rfl⟩ := Option.map_eq_some_iff.mp he
    obtain ⟨q, -, rfl⟩ := Option.map_eq_some_iff.mp he'
    exact hne (congrArg Prod.fst heq)
  · intro e he
    obtain ⟨id, -, he⟩ := List.mem_filterMap.mp he
    obtain ⟨p, hp, rfl⟩ := Option.map_eq_some_iff.mp he
    obtain ⟨before, behind, heq, -⟩ := List.lookup_eq_some_iff.mp hp
    rw [heq]
    simp

/-- When the connection is lost, some of the unconfirmed publications are asked for again, each under
its number. -/
theorem requests_eq (f : Flight) :
    ∃ ids : List UInt16, f.requests =
      f.requestedAgain.map (fun e => .publish (some e.1) e.2) ++ ids.map .release := by
  refine ⟨(numbersBehind maxNumber).filter (· ∈ f.released), ?_⟩
  rw [requests, requestedAgain, List.map_filterMap]
  congr 2
  funext id
  cases f.unconfirmed.lookup id <;> rfl

theorem count_map_le {α β : Type} [BEq β] {xs ys : List α} (h : xs.Subperm ys) (f : α → β) (b : β) :
    (xs.map f).count b ≤ (ys.map f).count b := by
  obtain ⟨zs, hperm, hsub⟩ := h
  rw [(hperm.symm.map f).count_eq]
  exact (hsub.map f).count_le b

theorem requested_append (rs rs' : List Request) :
    requested (rs ++ rs') = requested rs ++ requested rs' := List.flatMap_append

theorem count_requested_requests (f : Flight) (p : Publication) :
    (requested f.requests).count p ≤ (f.unconfirmed.map Prod.snd).count p := by
  obtain ⟨ids, heq⟩ := f.requests_eq
  have hpublish : requested (f.requestedAgain.map fun e => .publish (some e.1) e.2) =
      f.requestedAgain.map Prod.snd := by
    rw [requested, List.flatMap_map]
    exact List.flatMap_pure_eq_map Prod.snd _
  have hrelease : requested (ids.map .release) = [] := by
    rw [requested, List.flatMap_map]
    exact List.flatMap_eq_nil_iff.mpr fun _ _ => rfl
  rw [heq, requested_append, hpublish, hrelease, List.append_nil]
  exact count_map_le f.requestedAgain_subperm Prod.snd p

/-- The numbers under which publications are asked for again were given out. -/
theorem Numbered.requests {f : Flight} (hf : f.Numbered) : ∀ r ∈ f.requests, r.Numbered := by
  obtain ⟨ids, heq⟩ := f.requests_eq
  rw [heq]
  intro r hr
  rcases List.mem_append.mp hr with hr | hr
  · obtain ⟨e, he, rfl⟩ := List.mem_map.mp hr
    exact hf.unconfirmed e (f.requestedAgain_subperm.subset he)
  · obtain ⟨id, -, rfl⟩ := List.mem_map.mp hr
    trivial

end Flight

end BrokerNode.Mqtt
