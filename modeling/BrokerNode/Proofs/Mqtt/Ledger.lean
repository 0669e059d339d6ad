/-
BrokerNode/Proofs/Mqtt/Ledger.lean

What becomes of publications, entered in a ledger.

The ledger knows nothing of the client's memory.  It is kept from the packets alone that the client
hands over to its connections and takes in from them (`Exchange`), and holds the publications that were
sent on the last connection and not acknowledged, and those that were acknowledged on any.

What the client remembers is held against it (`Balanced`).  Every publication that the client takes for
unconfirmed is one that the ledger has as sent and not acknowledged, so an acknowledgement that the
client accepts is one that the ledger counts; and no publication is in the ledger, held back or asked
for more often than it was put into the outbox.  As an operation only settles what it is asked for, it
keeps the balance (`Settles.balanced`).
-/
import BrokerNode.Proofs.Mqtt.Settlement

namespace BrokerNode.Mqtt

/-! ### The ledger -/

/-- A packet that passes between a client and its connections. -/
inductive Exchange where
  | handed (p : Packet)
  | taken (p : Incoming)

namespace Exchange

/-- The packets that were handed over. -/
def handedOver (h : List Exchange) : List Packet :=
  h.filterMap fun
    | .handed p => some p
    | .taken _ => none

/-- The packets that were taken in. -/
def takenIn (h : List Exchange) : List Incoming :=
  h.filterMap fun
    | .taken p => some p
    | .handed _ => none

/-- The publications that were handed over, with their numbers. -/
def published (h : List Exchange) : List (UInt16 × Publication) :=
  (handedOver h).filterMap Packet.publication?

theorem published_append (h more : List Exchange) :
    published (h ++ more) = published h ++ published more := by
  rw [published, handedOver, List.filterMap_append, List.filterMap_append]
  rfl

end Exchange

/-- What became of the publications that were sent. -/
structure Ledger where
  -- The publications that were sent on the last connection and not acknowledged, with their
  -- numbers.
  unanswered : List (UInt16 × Publication) := []
  -- The publications that were acknowledged, on any connection: one for each acknowledgement that
  -- carried the number of a publication that was sent and not acknowledged.
  acknowledged : List Publication := []

namespace Ledger

/-- On a new connection nothing was sent. -/
def onNewConnection (l : Ledger) : Ledger := { l with unanswered := [] }

/-- Enters an acknowledgement.  It counts if it carries the number of a publication that was sent and not
acknowledged. -/
def acknowledge (l : Ledger) (id : UInt16) : Ledger :=
  match l.unanswered.find? fun e => e.1 == id with
  | some e => { unanswered := l.unanswered.erase e, acknowledged := l.acknowledged ++ [e.2] }
  | none => l

/-- Enters a packet. -/
def enter (l : Ledger) : Exchange → Ledger
  | .handed (.connect _) => l.onNewConnection
  | .handed (.publish id p) => { l with unanswered := l.unanswered ++ [(id, p)] }
  | .handed (.receipt _ _) | .handed .ping | .handed .disconnect => l
  | .taken (.receipt .acknowledged id) => l.acknowledge id
  | .taken _ => l

/-- Enters packets, one after the other. -/
def enterAll (l : Ledger) (exchanges : List Exchange) : Ledger := exchanges.foldl enter l

/-- The ledger of all packets so far. -/
def ofHistory (h : List Exchange) : Ledger := enterAll {} h

/-- All publications in a ledger. -/
def publications (l : Ledger) : List Publication := l.acknowledged ++ l.unanswered.map Prod.snd

variable {l : Ledger} {id : UInt16}

theorem enterAll_append (l : Ledger) (before behind : List Exchange) :
    l.enterAll (before ++ behind) = (l.enterAll before).enterAll behind :=
  List.foldl_append

theorem ofHistory_append (h more : List Exchange) :
    ofHistory (h ++ more) = (ofHistory h).enterAll more := enterAll_append _ _ _

/-- An acknowledgement moves a publication, and removes none. -/
theorem publications_acknowledge (l : Ledger) (id : UInt16) :
    (l.acknowledge id).publications.Perm l.publications := by
  rw [acknowledge]
  split
  · next e he =>
    have hperm := (List.perm_cons_erase (List.mem_of_find?_eq_some he)).map Prod.snd
    rw [publications, publications, List.append_assoc]
    exact hperm.symm.append_left _
  · exact List.Perm.refl _

theorem length_acknowledged_le (l : Ledger) (id : UInt16) :
    l.acknowledged.length ≤ (l.acknowledge id).acknowledged.length := by
  rw [acknowledge]
  split
  · rw [List.length_append]
    exact Nat.le_add_right _ _
  · exact Nat.le_refl _

/-- An acknowledgement counts when a publication of its number was sent and not acknowledged. -/
theorem length_acknowledge {p : Publication} (h : (id, p) ∈ l.unanswered) :
    (l.acknowledge id).acknowledged.length = l.acknowledged.length + 1 := by
  rw [acknowledge]
  split
  · exact List.length_append
  · next hnone => simpa using List.find?_eq_none.mp hnone _ h

/-- What is left of some of the unanswered publications when those of a number are forgotten is still
unanswered when one of that number was acknowledged. -/
theorem filter_subperm_acknowledge {sent : List (UInt16 × Publication)}
    (h : sent.Subperm l.unanswered) :
    (sent.filter fun e => e.1 != id).Subperm (l.acknowledge id).unanswered := by
  rw [acknowledge]
  split
  · next e he =>
    -- the one that is acknowledged is among those that are forgotten
    have hid : e.1 = id := by simpa using List.find?_some he
    have hperm := (List.perm_cons_erase (List.mem_of_find?_eq_some he)).filter fun e => e.1 != id
    rw [List.filter_cons_of_neg (by simp [hid])] at hperm
    exact ((h.filter _).trans hperm.subperm).trans List.filter_sublist.subperm
  · exact List.filter_sublist.subperm.trans h

/-- What is taken in changes nothing in which publications there are. -/
theorem publications_taken (l : Ledger) (p : Incoming) :
    (l.enter (.taken p)).publications.Perm l.publications := by
  cases p with
  | receipt r id =>
    cases r with
    | acknowledged => exact l.publications_acknowledge id
    | _ => exact List.Perm.refl _
  | _ => exact List.Perm.refl _

theorem length_acknowledged_taken (l : Ledger) (p : Incoming) :
    l.acknowledged.length ≤ (l.enter (.taken p)).acknowledged.length := by
  cases p with
  | receipt r id =>
    cases r with
    | acknowledged => exact l.length_acknowledged_le id
    | _ => exact Nat.le_refl _
  | _ => exact Nat.le_refl _

theorem enter_handed {packet : Packet} (h : ∀ k, packet ≠ .connect k) (l : Ledger) :
    l.enter (.handed packet) =
      { l with unanswered := l.unanswered ++ packet.publication?.toList } := by
  have hnothing : l = { l with unanswered := l.unanswered ++ [] } := by rw [List.append_nil]
  cases packet with
  | connect k => exact absurd rfl (h k)
  | publish id p => rfl
  | receipt r id => exact hnothing
  | ping => exact hnothing
  | disconnect => exact hnothing

/-- On one connection the publications in a ledger are those before and those that are handed over. -/
theorem count_publications_enterAll {exchanges : List Exchange}
    (h : ∀ k, .handed (.connect k) ∉ exchanges) (l : Ledger) (p : Publication) :
    (l.enterAll exchanges).publications.count p =
      l.publications.count p + ((Exchange.published exchanges).map Prod.snd).count p := by
  induction exchanges generalizing l with
  | nil => rfl
  | cons x exchanges ih =>
    have hrest := ih fun k hk => h k (List.mem_cons_of_mem _ hk)
    show ((l.enter x).enterAll exchanges).publications.count p = _
    rw [hrest]
    cases x with
    | taken q =>
      rw [(l.publications_taken q).count_eq]
      rfl
    | handed packet =>
      have hpacket : ∀ k, packet ≠ .connect k := by
        rintro k rfl
        exact h k List.mem_cons_self
      have hpublished : Exchange.published (.handed packet :: exchanges) =
          packet.publication?.toList ++ Exchange.published exchanges := by
        rw [Exchange.published, Exchange.handedOver, List.filterMap_cons, List.filterMap_cons]
        cases packet <;> rfl
      rw [enter_handed hpacket, hpublished]
      simp only [publications, List.map_append, List.count_append]
      omega

end Ledger

namespace Flight

/-! ### Memory and ledger -/

/-- What a client remembers agrees with a ledger, when some publications were put into the outbox
(`deployed`), of which some still wait, and some deliveries were reported. -/
structure Balanced (deployed : List Publication) (delivered : Nat) (l : Ledger) (f : Flight)
    (waiting : List Publication) : Prop where
  unconfirmed : f.unconfirmed.Subperm l.unanswered
  publications : ∀ p, l.publications.count p + f.held.count p + waiting.count p ≤ deployed.count p
  deliveries : delivered + f.events.countP Session.isDelivery ≤ l.acknowledged.length
  numbered : f.Numbered

section Balanced

variable {deployed : List Publication} {delivered : Nat} {l : Ledger} {f : Flight}
  {waiting : List Publication}

/-- At the start there is nothing to enter. -/
theorem balanced_start : Balanced [] 0 {} {} [] where
  unconfirmed := List.Subperm.refl _
  publications _ := Nat.le_refl _
  deliveries := Nat.le_refl _
  numbered := ⟨by decide, by simp, by simp⟩

/-- It does not matter in which order publications wait, and they may be dropped. -/
theorem Balanced.of_count_le (h : Balanced deployed delivered l f waiting) {rest : List Publication}
    (hrest : ∀ p, rest.count p ≤ waiting.count p) : Balanced deployed delivered l f rest where
  unconfirmed := h.unconfirmed
  publications p := Nat.le_trans (Nat.add_le_add_left (hrest p) _) (h.publications p)
  deliveries := h.deliveries
  numbered := h.numbered

/-- One more publication is put into the outbox. -/
theorem Balanced.deploy (h : Balanced deployed delivered l f waiting) (p : Publication) :
    Balanced (deployed ++ [p]) delivered l f (waiting ++ [p]) where
  unconfirmed := h.unconfirmed
  publications q := by
    have hbefore := h.publications q
    rw [List.count_append, List.count_append]
    omega
  deliveries := h.deliveries
  numbered := h.numbered

/-- Deliveries may be overlooked. -/
theorem Balanced.fewer {k : Nat} (h : Balanced deployed (delivered + k) l f waiting) :
    Balanced deployed delivered l f waiting where
  unconfirmed := h.unconfirmed
  publications := h.publications
  deliveries := by
    have hdeliveries := h.deliveries
    omega
  numbered := h.numbered

/-- No more is in the ledger than was put into the outbox. -/
theorem Balanced.count_publications_le (h : Balanced deployed delivered l f waiting)
    (p : Publication) : l.publications.count p ≤ deployed.count p := by
  have hbefore := h.publications p
  omega

/-- Leaving an event; if it reports a delivery then one more must have been acknowledged. -/
theorem Balanced.note {e : Event}
    (h : Balanced deployed (delivered + [e].countP Session.isDelivery) l f waiting) :
    Balanced deployed delivered l (f.note e) waiting where
  unconfirmed := h.unconfirmed
  publications := h.publications
  deliveries := by
    have hdeliveries := h.deliveries
    show delivered + (f.events ++ [e]).countP Session.isDelivery ≤ _
    rw [List.countP_append]
    omega
  numbered := h.numbered.of_subset rfl (fun _ he => he) (fun _ he => he)

/-- Handing an event out. -/
theorem Balanced.report (h : Balanced deployed delivered l f waiting) {e : Event}
    {events : List Event} (heq : f.events = e :: events) :
    Balanced deployed (delivered + [e].countP Session.isDelivery) l { f with events } waiting where
  unconfirmed := h.unconfirmed
  publications := h.publications
  deliveries := by
    have hdeliveries := h.deliveries
    rw [heq, ← List.singleton_append, List.countP_append] at hdeliveries
    exact Nat.add_assoc delivered _ _ ▸ hdeliveries
  numbered := h.numbered.of_subset rfl (fun _ he => he) (fun _ he => he)

/-- The packet that is sent, if there is one, handed over. -/
def handedOver : Except Breach (Option Packet) → List Exchange
  | .ok packet => packet.toList.map .handed
  | .error _ => []

theorem enterAll_handedOver {result : Except Breach (Option Packet)}
    (h : ∀ k, result ≠ .ok (some (.connect k))) (l : Ledger) :
    l.enterAll (handedOver result) = { l with unanswered := l.unanswered ++ published result } := by
  have hnothing : l = { l with unanswered := l.unanswered ++ [] } := by rw [List.append_nil]
  cases result with
  | error b => exact hnothing
  | ok packet =>
    cases packet with
    | none => exact hnothing
    | some packet =>
      refine Ledger.enter_handed (fun k hk => h k ?_) l
      rw [hk]

theorem published_handedOver (result : Except Breach (Option Packet)) :
    Exchange.published (handedOver result) = published result := by
  cases result with
  | error b => rfl
  | ok packet =>
    cases packet with
    | none => rfl
    | some packet => cases packet <;> rfl

theorem introduction_notMem_handedOver {result : Except Breach (Option Packet)}
    (h : ∀ k, result ≠ .ok (some (.connect k))) (k : Connect) :
    .handed (.connect k) ∉ handedOver result := by
  cases result with
  | error b => simp [handedOver]
  | ok packet =>
    cases packet with
    | none => simp [handedOver]
    | some packet =>
      intro hmem
      cases List.mem_singleton.mp hmem
      exact h k rfl

/-- An operation keeps the balance. -/
theorem Settles.balanced {remaining : List (UInt16 × Publication)} {asked : List Publication}
    {result : Except Breach (Option Packet)} {g : Flight}
    (hs : Settles f remaining asked result g) (hremaining : remaining.Subperm l.unanswered)
    (hpublications : ∀ p, l.publications.count p + f.held.count p + (asked ++ waiting).count p ≤
      deployed.count p)
    (hdeliveries : delivered + f.events.countP Session.isDelivery ≤ l.acknowledged.length) :
    Balanced deployed delivered (l.enterAll (handedOver result)) g waiting where
  unconfirmed := by
    rw [enterAll_handedOver hs.noIntroduction]
    exact hs.unconfirmed.trans (hremaining.append (List.Subperm.refl _))
  publications p := by
    have hbefore := hpublications p
    have hstep := hs.publications p
    rw [List.count_append] at hbefore
    rw [Ledger.count_publications_enterAll (introduction_notMem_handedOver hs.noIntroduction),
      published_handedOver]
    omega
  deliveries := by
    rw [enterAll_handedOver hs.noIntroduction, hs.deliveries]
    exact hdeliveries
  numbered := hs.numbered

/-- Carrying a request out keeps the balance. -/
theorem Balanced.send {r : Request} (hr : r.Numbered)
    (h : Balanced deployed delivered l f (r.publications ++ waiting)) :
    Balanced deployed delivered (l.enterAll (handedOver (f.send r).1)) (f.send r).2 waiting :=
  (settles_send h.numbered hr).balanced h.unconfirmed h.publications h.deliveries

/-- Showing that the client is there keeps the balance. -/
theorem Balanced.ping (h : Balanced deployed delivered l f waiting) :
    Balanced deployed delivered (l.enterAll (handedOver f.ping.1)) f.ping.2 waiting :=
  (settles_ping h.numbered).balanced h.unconfirmed h.publications h.deliveries

/-- What is left of the unconfirmed publications is unanswered behind the packet. -/
theorem Balanced.unconfirmedAfter (h : Balanced deployed delivered l f waiting) (p : Incoming) :
    (f.unconfirmedAfter p).Subperm (l.enter (.taken p)).unanswered := by
  cases p with
  | receipt r id =>
    cases r with
    | acknowledged => exact Ledger.filter_subperm_acknowledge h.unconfirmed
    | _ => exact h.unconfirmed
  | _ => exact h.unconfirmed

/-- An acknowledgement that the client accepts counts in the ledger. -/
theorem Balanced.length_accepted (h : Balanced deployed delivered l f waiting) {p : Incoming}
    {packet : Option Packet} (hp : (f.answer p).1 = .ok packet) :
    l.acknowledged.length + [Event.incoming p].countP Session.isDelivery ≤
      (l.enter (.taken p)).acknowledged.length := by
  cases p with
  | receipt r id =>
    cases r with
    | acknowledged =>
      obtain ⟨q, hq⟩ := unconfirmed_of_acknowledge hp
      exact Nat.le_of_eq (Ledger.length_acknowledge (h.unconfirmed.subset hq)).symm
    | _ => exact Nat.le_refl _
  | _ => exact Nat.le_refl _

/-- Taking in a packet keeps the balance. -/
theorem Balanced.receive (h : Balanced deployed delivered l f waiting) (p : Incoming) :
    Balanced deployed delivered ((l.enter (.taken p)).enterAll (handedOver (f.receive p).1))
      (f.receive p).2 waiting := by
  have hsettles := settles_answer h.numbered p
  have hpublications : ∀ q, (l.enter (.taken p)).publications.count q + f.held.count q +
      ([] ++ waiting).count q ≤ deployed.count q := by
    intro q
    rw [(l.publications_taken p).count_eq]
    exact h.publications q
  rw [Flight.receive]
  cases ha : f.answer p with
  | mk result g =>
    rw [ha] at hsettles
    cases result with
    | error b =>
      refine hsettles.balanced (h.unconfirmedAfter p) hpublications ?_
      exact Nat.le_trans h.deliveries (l.length_acknowledged_taken p)
    | ok packet =>
      -- the event of the packet is a delivery only if the ledger counts one more
      refine Balanced.note (hsettles.balanced (h.unconfirmedAfter p) hpublications ?_)
      have haccepted := h.length_accepted (congrArg Prod.fst ha)
      have hdeliveries := h.deliveries
      omega

/-- Losing the connection keeps the balance: what was unconfirmed is asked for again. -/
theorem Balanced.afterLoss (h : Balanced deployed delivered l f waiting) :
    Balanced deployed delivered l.onNewConnection f.afterLoss (requested f.requests ++ waiting) where
  unconfirmed := List.Subperm.refl _
  publications p := by
    have hbefore := h.publications p
    have hrequested := count_requested_requests f p
    -- what is asked for again was sent and not acknowledged, and the ledger has it no more
    have hunconfirmed := count_map_le h.unconfirmed Prod.snd p
    have hall : l.onNewConnection.publications = l.acknowledged := List.append_nil _
    have hheld : f.afterLoss.held = f.held := rfl
    rw [Ledger.publications, List.count_append] at hbefore
    rw [hall, hheld, List.count_append]
    omega
  deliveries := h.deliveries
  numbered := h.numbered.of_subset rfl (by simp [Flight.afterLoss]) (fun _ he => he)

end Balanced

end Flight

end BrokerNode.Mqtt
