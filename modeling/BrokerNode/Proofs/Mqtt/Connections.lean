/-
BrokerNode/Proofs/Mqtt/Connections.lean

The traffic on the connections of a session.

Each connection begins with the introduction of the client, and nothing is published on it before an
answer that accepts the client (`IsOpened`).  What is published on it has a number that is given out,
and is one of the publications that the ledger has, so it was deployed before, and is not published
there more often than it was deployed (`IsOrderly`).

While a connection lasts that is an invariant of the session (`Orderly`), which each poll keeps.  It is
proved from what passes in the poll (`passes_poll`), without a look at the client's memory again.
-/
import BrokerNode.Proofs.Mqtt.Deliveries
import BrokerNode.Proofs.Mqtt.Introduction

namespace BrokerNode.Mqtt

open Connection Traffic

/-! ### Publications in traffic -/

namespace Traffic

/-- The publications that were written, with their numbers. -/
def published (traffic : List Traffic) : List (UInt16 × Publication) :=
  (written traffic).filterMap Packet.publication?

theorem published_append (t u : List Traffic) : published (t ++ u) = published t ++ published u := by
  rw [published, written_append, List.filterMap_append]
  rfl

theorem published_eq_nil_of_isPrefix {before traffic : List Traffic} (h : before <+: traffic)
    (hnone : published traffic = []) : published before = [] := by
  obtain ⟨behind, rfl⟩ := h
  rw [published_append] at hnone
  exact (List.append_eq_nil_iff.mp hnone).1

/-- What is published on one of several connections is published on all of them together. -/
theorem mem_published_flatten {ts : List (List Traffic)} {t : List Traffic} (ht : t ∈ ts)
    {e : UInt16 × Publication} (he : e ∈ published t) : e ∈ published ts.flatten := by
  obtain ⟨before, behind, rfl⟩ := List.append_of_mem ht
  rw [List.flatten_append, List.flatten_cons, published_append, published_append]
  exact List.mem_append_right _ (List.mem_append_left _ he)

/-- How the traffic on a connection begins. -/
structure IsOpened (k : Connect) (traffic : List Traffic) : Prop where
  introduction : traffic.head? = some (.sent (.connect k))
  acceptance : ∀ before, before <+: traffic → published before ≠ [] →
    ∃ known, .read (.connAck known .accepted) ∈ before

/-- What the traffic on a connection shows of a client that introduces itself as `k` and publishes on a
topic, when some definitions were deployed. -/
structure IsOrderly (k : Connect) (topic : String) (retain : Bool) (ds : List Definition)
    (traffic : List Traffic) : Prop extends IsOpened k traffic where
  -- Each publication has a number, is to be delivered at least once, and holds the envelope of a
  -- definition.
  publication : ∀ e ∈ published traffic, e.1 ≠ 0 ∧ e.2.qos = .atLeastOnce ∧ e.2.topic = topic ∧
    e.2.retain = retain ∧ ∃ d ∈ ds, e.2.body = (Envelope.ofDefinition d).body
  count_le : ∀ body, ((published traffic).map fun e => e.2.body).count body ≤
    (ds.map fun d => (Envelope.ofDefinition d).body).count body

/-- On a connection where nothing was published there is only the introduction to see. -/
theorem isOpened_of_published_eq_nil {k : Connect} {rest : List Traffic}
    (h : published (.sent (.connect k) :: rest) = []) : IsOpened k (.sent (.connect k) :: rest) where
  introduction := rfl
  acceptance _ hprefix hne := absurd (published_eq_nil_of_isPrefix hprefix h) hne

/-- Once a client was accepted it may publish. -/
theorem isOpened_of_accepted (k : Connect) (known : Bool) (rest : List Traffic) :
    IsOpened k (.sent (.connect k) :: .read (.connAck known .accepted) :: rest) where
  introduction := rfl
  acceptance before hprefix hne := by
    refine ⟨known, ?_⟩
    -- a start without the answer is the introduction at most
    cases before with
    | nil => exact absurd rfl hne
    | cons x before =>
      obtain ⟨hx, hbehind⟩ := List.cons_prefix_cons.mp hprefix
      subst hx
      cases before with
      | nil => exact absurd rfl hne
      | cons y before =>
        obtain ⟨rfl, -⟩ := List.cons_prefix_cons.mp hbehind
        exact List.mem_cons_of_mem _ List.mem_cons_self

end Traffic

/-- What is written was handed over, and so were the publications. -/
theorem Accords.published {h : List Exchange} {t : List Traffic} (ha : Accords h t) :
    (Traffic.published t).Sublist (Exchange.published h) := ha.written.filterMap _

/-! ### Packets of a connected client -/

/-- Packets that pass between a client and a connection that it has. -/
structure Exchange.Proper (exchanges : List Exchange) : Prop where
  noIntroduction : ∀ k, .handed (.connect k) ∉ exchanges
  inRange : ∀ e ∈ Exchange.published exchanges, e.2.qos ≠ .atMostOnce → InRange e.1

theorem proper_nil : Exchange.Proper [] := ⟨by simp, by simp [Exchange.published, Exchange.handedOver]⟩

theorem Exchange.Proper.append {x y : List Exchange} (hx : Proper x) (hy : Proper y) :
    Proper (x ++ y) where
  noIntroduction k hk := by
    rcases List.mem_append.mp hk with hk | hk
    · exact hx.noIntroduction k hk
    · exact hy.noIntroduction k hk
  inRange e he := by
    rw [published_append] at he
    rcases List.mem_append.mp he with he | he
    · exact hx.inRange e he
    · exact hy.inRange e he

theorem proper_taken (p : Incoming) : Exchange.Proper [.taken p] :=
  ⟨by simp, by simp [Exchange.published, Exchange.handedOver]⟩

/-- What an operation hands over is proper. -/
theorem Flight.Settles.proper {f g : Flight} {remaining : List (UInt16 × Publication)}
    {asked : List Publication} {result : Except Breach (Option Packet)}
    (hs : f.Settles remaining asked result g) : Exchange.Proper (handedOver result) where
  noIntroduction := introduction_notMem_handedOver hs.noIntroduction
  inRange := published_handedOver result ▸ hs.inRange

/-- Taking in a packet: what answers it is proper, and the numbers that are remembered were given
out. -/
theorem Flight.Numbered.receive {f : Flight} (hf : f.Numbered) (p : Incoming) :
    Exchange.Proper (handedOver (f.receive p).1) ∧ (f.receive p).2.Numbered := by
  have hsettles := settles_answer hf p
  rw [Flight.receive]
  cases ha : f.answer p with
  | mk result g =>
    rw [ha] at hsettles
    cases result with
    | error b => exact ⟨hsettles.proper, hsettles.numbered⟩
    | ok packet =>
      exact ⟨hsettles.proper, hsettles.numbered.of_subset rfl (fun _ he => he) (fun _ he => he)⟩

namespace Session

variable {topic : String} {retain : Bool} {ds : List Definition} {n : Nat} {h : List Exchange}
  {s : Session} {c : Connection} {k : Connect}

theorem proper_handled (count : Nat) {f : Flight} (hf : f.Numbered) :
    Exchange.Proper (handled count f c) := by
  induction count generalizing f c with
  | zero => exact proper_nil
  | succ count ih =>
    rw [handled]
    cases c.read with
    | nothing | garbled g | failed e => exact proper_nil
    | packet p c' =>
      obtain ⟨hproper, hnumbered⟩ := hf.receive p
      dsimp only
      cases hr : f.receive p with
      | mk result f' =>
        rw [hr] at hproper hnumbered
        cases result with
        | error b => exact proper_taken p
        | ok packet => exact (proper_taken p).append (hproper.append (ih hnumbered))

/-- What passes on a connection that a session has is proper. -/
theorem Accounted.proper (hs : Accounted topic retain ds n h s) (hc : s.connection = some c)
    (t : Turn) : Exchange.Proper (s.exchanged t) := by
  rw [exchanged, hc]
  dsimp only
  split
  · cases t with
    | read count refusal => exact proper_handled _ hs.balanced.numbered
    | request refusal =>
      dsimp only
      rw [carriedOut]
      split
      · next r s' hnext =>
        obtain ⟨hahead, pending, queue, rfl⟩ := nextRequest?_eq_some hnext
        have hr : r.Numbered := hs.requests r (hahead ▸ List.mem_cons_self)
        exact (Flight.settles_send hs.balanced.numbered hr).proper
      · exact proper_nil
    | ping => exact (Flight.settles_ping hs.balanced.numbered).proper
    | error e => exact proper_nil
  · exact proper_nil

/-! ### Orderly sessions -/

/-- The traffic on a connection that there is, when `h` has passed so far. -/
structure Ongoing (k : Connect) (h : List Exchange) (traffic : List Traffic) : Prop where
  accepted : ∃ known rest,
    traffic = .sent (.connect k) :: .read (.connAck known .accepted) :: rest
  count_le : ∀ p, ((published traffic).map Prod.snd).count p ≤
    (Ledger.ofHistory h).publications.count p

/-- The traffic on a connection that is over, when some publications were deployed. -/
structure Over (k : Connect) (deployed : List Publication) (traffic : List Traffic) : Prop
    extends IsOpened k traffic where
  count_le : ∀ p, ((published traffic).map Prod.snd).count p ≤ deployed.count p

/-- A session that introduces itself as `k`, where some publications were deployed and `h` has
passed. -/
structure Orderly (k : Connect) (deployed : List Publication) (h : List Exchange) (s : Session) :
    Prop where
  connect_eq : s.connect = k
  ongoing : ∀ c, s.connection = some c → Ongoing k h c.traffic
  past : ∀ t ∈ s.past, Over k deployed t
  inRange : ∀ e ∈ Exchange.published h, e.2.qos ≠ .atMostOnce → InRange e.1

section Orderly

variable {deployed : List Publication} {t u : List Traffic} {exchanges : List Exchange}

/-- The traffic grows as the history does. -/
theorem Ongoing.append (ht : Ongoing k h t) (hproper : Exchange.Proper exchanges)
    (haccords : Accords exchanges u) : Ongoing k (h ++ exchanges) (t ++ u) where
  accepted := by
    obtain ⟨known, rest, rfl⟩ := ht.accepted
    exact ⟨known, rest ++ u, rfl⟩
  count_le p := by
    rw [published_append, List.map_append, List.count_append, Ledger.ofHistory_append,
      Ledger.count_publications_enterAll hproper.noIntroduction]
    exact Nat.add_le_add (ht.count_le p) ((haccords.published.map Prod.snd).count_le p)

/-- What is in the ledger was deployed, so it also was when the connection is over. -/
theorem Ongoing.over (ht : Ongoing k h t)
    (hdeployed : ∀ p, (Ledger.ofHistory h).publications.count p ≤ deployed.count p) :
    Over k deployed t where
  toIsOpened := by
    obtain ⟨known, rest, rfl⟩ := ht.accepted
    exact isOpened_of_accepted k known rest
  count_le p := Nat.le_trans (ht.count_le p) (hdeployed p)

/-- A connection on which nothing was published. -/
theorem over_of_published_eq_nil (hnone : published (.sent (.connect k) :: t) = []) :
    Over k deployed (.sent (.connect k) :: t) where
  toIsOpened := isOpened_of_published_eq_nil hnone
  count_le p := by
    rw [hnone]
    exact Nat.zero_le _

theorem Over.of_count_le (ht : Over k deployed t) {more : List Publication}
    (hmore : ∀ p, deployed.count p ≤ more.count p) : Over k more t where
  toIsOpened := ht.toIsOpened
  count_le p := Nat.le_trans (ht.count_le p) (hmore p)

theorem report_connect (s : Session) : s.report.2.connect = s.connect := by
  rw [Session.report]
  split
  · rfl
  · rfl

theorem conclude_connect (s : Session) (c : Connection) (refusal : Option IoError)
    (result : Except Breach (List Packet)) :
    (s.conclude c refusal result).2.connect = s.connect := by
  have hconcluded := concluded s c refusal result
  generalize s.conclude c refusal result = x at hconcluded
  cases hconcluded with
  | breach | refused => rfl
  | sent packets => exact report_connect _

/-- A session introduces itself in the same way every time. -/
theorem poll_connect (s : Session) (turn : Turn) : (s.poll turn).2.connect = s.connect := by
  rw [Session.poll]
  split
  · have hestablished := established s turn
    generalize s.introduced turn = ex, s.establish turn = result at hestablished
    cases hestablished with
    | unreached | unanswered | refused | accepted => rfl
  · split
    · cases turn with
      | request refusal =>
        dsimp only
        rw [Session.carryOut]
        split
        · rfl
        · next r s' hnext =>
          obtain ⟨-, pending, queue, rfl⟩ := nextRequest?_eq_some hnext
          exact conclude_connect _ _ _ _
      | read count refusal => exact conclude_connect _ _ _ _
      | ping refusal => exact conclude_connect _ _ _ _
      | error e => exact conclude_connect _ _ _ _
    · exact report_connect s

/-- Connecting keeps a session orderly: nothing is published before the client is accepted. -/
theorem Orderly.establish (ho : Orderly k deployed h s) (hc : s.connection = none) (turn : Turn) :
    Orderly k deployed (h ++ s.introduced turn) (s.establish turn).2 := by
  obtain ⟨rfl, -, hpast, hinRange⟩ := ho
  -- nothing that passes is a publication
  have hnumbers : ∀ {exchanges}, Exchange.published exchanges = [] →
      ∀ e ∈ Exchange.published (h ++ exchanges), e.2.qos ≠ .atMostOnce → InRange e.1 := by
    intro exchanges hnone e he
    rw [Exchange.published_append, hnone, List.append_nil] at he
    exact hinRange e he
  have hrefused : ∀ {t}, published (.sent (.connect s.connect) :: t) = [] →
      ∀ u ∈ s.past ++ [.sent (.connect s.connect) :: t], Over s.connect deployed u := by
    intro t hnone u hu
    rcases List.mem_append.mp hu with hu | hu
    · exact hpast u hu
    · obtain rfl := List.mem_singleton.mp hu
      exact over_of_published_eq_nil hnone
  have hestablished := established s turn
  generalize s.introduced turn = ex, s.establish turn = result at hestablished
  cases hestablished with
  | unreached r hr => exact ⟨rfl, by simp [hc], hpast, hnumbers rfl⟩
  | unanswered r network hr => exact ⟨rfl, by simp [hc], hrefused rfl, hnumbers rfl⟩
  | refused f network p => exact ⟨rfl, by simp [hc], hrefused rfl, hnumbers rfl⟩
  | accepted network known c htraffic =>
    refine ⟨rfl, ?_, hpast, hnumbers rfl⟩
    intro c' hc'
    obtain rfl := Option.some.inj hc'
    rw [htraffic]
    exact ⟨⟨known, [], rfl⟩, fun p => Nat.zero_le _⟩

/-- What passes on a connection keeps a session orderly, whether the connection is kept or lost. -/
theorem Orderly.passes {s' : Session} (ho : Orderly k deployed h s) (hc : s.connection = some c)
    (hpasses : Passes s exchanges s') (hconnect : s'.connect = s.connect)
    (hproper : Exchange.Proper exchanges)
    (hdeployed : ∀ p, (Ledger.ofHistory (h ++ exchanges)).publications.count p ≤ deployed.count p) :
    Orderly k deployed (h ++ exchanges) s' := by
  have hconnect' : s'.connect = k := hconnect.trans ho.connect_eq
  have hcurrent : (s.connection.map Connection.traffic).getD [] = c.traffic := by rw [hc]; rfl
  have hinRange : ∀ e ∈ Exchange.published (h ++ exchanges), e.2.qos ≠ .atMostOnce → InRange e.1 := by
    intro e he
    rw [Exchange.published_append] at he
    rcases List.mem_append.mp he with he | he
    · exact ho.inRange e he
    · exact hproper.inRange e he
  cases hpasses with
  | nothing hconnection hpast hexchanges =>
    refine ⟨hconnect', ?_, hpast ▸ ho.past, hinRange⟩
    intro c' hc'
    rw [hexchanges, List.append_nil]
    exact ho.ongoing c' (hconnection ▸ hc')
  | kept hconnection hpast htraffic haccords =>
    refine ⟨hconnect', ?_, hpast ▸ ho.past, hinRange⟩
    intro c' hc'
    obtain rfl := Option.some.inj (hconnection.symm.trans hc')
    rw [htraffic, hcurrent]
    exact (ho.ongoing c hc).append hproper haccords
  | lost hconnection hpast haccords =>
    refine ⟨hconnect', by simp [hconnection], ?_, hinRange⟩
    intro t ht
    rw [hpast, hcurrent] at ht
    rcases List.mem_append.mp ht with ht | ht
    · exact ho.past t ht
    · -- the ledger had what was published there, and what it had was deployed
      obtain rfl := List.mem_singleton.mp ht
      exact ((ho.ongoing c hc).append hproper haccords).over hdeployed

/-- A poll keeps a session orderly. -/
theorem Orderly.poll (ho : Orderly k (publications topic retain ds) h s)
    (hs : Accounted topic retain ds n h s) (turn : Turn) :
    Orderly k (publications topic retain ds) (h ++ s.exchanged turn) (s.poll turn).2 := by
  cases hc : s.connection with
  | none =>
    rw [Session.poll, exchanged, hc]
    exact ho.establish hc turn
  | some c =>
    exact ho.passes hc (passes_poll s turn) (poll_connect s turn) (hs.proper hc turn)
      (hs.poll turn).count_le

/-- Whatever is done with a session, it stays orderly. -/
theorem invariant_orderly (topic : String) (retain : Bool) (k : Connect) :
    Invariant fun ds n h s => (Accounted topic retain ds n h s ∧ Accords h s.traffic.flatten) ∧
      Orderly k (publications topic retain ds) h s where
  poll hs turn := ⟨(invariant_accounted topic retain).poll hs.1 turn, hs.2.poll hs.1.1 turn⟩
  deploy hs _ _ hpublish := by
    refine ⟨(invariant_accounted topic retain).deploy hs.1 hpublish, hs.2.connect_eq, hs.2.ongoing,
      ?_, hs.2.inRange⟩
    intro t ht
    refine (hs.2.past t ht).of_count_le fun p => ?_
    rw [publications, publications, List.map_append, List.count_append]
    exact Nat.le_add_right _ _
  leave hs _ hput :=
    ⟨(invariant_accounted topic retain).leave hs.1 hput, hs.2.connect_eq, hs.2.ongoing, hs.2.past,
      hs.2.inRange⟩
  fewer n hs := ⟨(invariant_accounted topic retain).fewer n hs.1, hs.2⟩

end Orderly

theorem mem_publications {p : Publication} (hp : p ∈ publications topic retain ds) :
    p.qos = .atLeastOnce ∧ p.topic = topic ∧ p.retain = retain ∧
      ∃ d ∈ ds, p.body = (Envelope.ofDefinition d).body := by
  obtain ⟨d, hd, rfl⟩ := List.mem_map.mp hp
  exact ⟨rfl, rfl, rfl, d, hd, rfl⟩

/-- The traffic on a connection that is over, of a session whose numbers are given out. -/
theorem Over.isOrderly {t : List Traffic} (ht : Over k (publications topic retain ds) t)
    (hrange : ∀ e ∈ published t, e.2.qos ≠ .atMostOnce → InRange e.1) :
    IsOrderly k topic retain ds t where
  toIsOpened := ht.toIsOpened
  publication e he := by
    have hdeployed : e.2 ∈ publications topic retain ds := by
      refine List.count_pos_iff.mp (Nat.lt_of_lt_of_le ?_ (ht.count_le e.2))
      exact List.count_pos_iff.mpr (List.mem_map_of_mem he)
    obtain ⟨hqos, hprops⟩ := mem_publications hdeployed
    refine ⟨?_, hqos, hprops⟩
    intro hzero
    have hpos := (hrange e he (by rw [hqos]; decide)).1
    rw [hzero] at hpos
    exact absurd hpos (by decide)
  count_le body := by
    have hsubperm := List.subperm_ext_iff.mpr fun p _ => ht.count_le p
    have hcount := Flight.count_map_le hsubperm Publication.body body
    rw [List.map_map, publications, List.map_map] at hcount
    exact hcount

/-- How a client of a name introduces itself to a server. -/
structure IsIntroduction (clientId : String) (server : Server) (k : Connect) : Prop where
  clientId_eq : k.clientId = clientId
  level_eq : k.level = 4
  keepAlive_eq : k.keepAlive = 10
  cleanSession_eq : k.cleanSession = true
  will_eq : k.will = none
  username_iff : ∀ s, k.username = some s ↔ s ≠ "" ∧ ∃ c, server.credentials = some c ∧ c.username = s
  password_iff : ∀ s, k.password = some s ↔ s ≠ "" ∧ ∃ c, server.credentials = some c ∧ c.password = s
  -- What is written for it is read back, as long as its texts are not too long for their place.
  written : clientId.utf8ByteSize ≤ Frame.maxTextSize →
    (∀ c ∈ server.credentials, c.username.utf8ByteSize ≤ Frame.maxTextSize ∧
      c.password.utf8ByteSize ≤ Frame.maxTextSize) →
    Frame.body? 1 0 (Frame.connectBody k) = .ok (.misplaced (.connect k))

theorem bind_unlessEmpty_eq_some_iff {credentials : Option Credentials} {part : Credentials → String}
    {s : String} :
    credentials.bind (fun c => Options.unlessEmpty (part c)) = some s ↔
      s ≠ "" ∧ ∃ c, credentials = some c ∧ part c = s := by
  rw [Option.bind_eq_some_iff]
  have hpart : ∀ t, Options.unlessEmpty t = some s ↔ s ≠ "" ∧ t = s := by
    intro t
    rw [Options.unlessEmpty]
    split
    · next ht => simp [String.isEmpty_iff.mp ht, eq_comm]
    · next ht =>
      have hne : t ≠ "" := fun h => ht (String.isEmpty_iff.mpr h)
      rw [Option.some.injEq]
      exact ⟨fun h => ⟨h ▸ hne, h⟩, And.right⟩
  constructor
  · rintro ⟨c, hc, hs⟩
    obtain ⟨hne, hs⟩ := (hpart _).mp hs
    exact ⟨hne, c, hc, hs⟩
  · rintro ⟨hne, c, hc, hs⟩
    exact ⟨c, hc, (hpart _).mpr ⟨hne, hs⟩⟩

/-- The options of a client give its introduction. -/
theorem isIntroduction_ofServer (clientId : String) (server : Server) :
    IsIntroduction clientId server (Options.ofServer clientId server).connect where
  clientId_eq := rfl
  level_eq := rfl
  keepAlive_eq := rfl
  cleanSession_eq := rfl
  will_eq := rfl
  username_iff _ := bind_unlessEmpty_eq_some_iff
  password_iff _ := bind_unlessEmpty_eq_some_iff
  written hclientId hcredentials := by
    have hfits : Frame.Fits (Options.ofServer clientId server).connect := {
      level := Or.inl rfl
      keepAlive := show 10 < 65536 by decide
      clientId := hclientId
      will := by simp [Options.connect]
      username := by
        intro s hs
        obtain ⟨-, c, hc, rfl⟩ := bind_unlessEmpty_eq_some_iff.mp hs
        exact (hcredentials c hc).1
      password := by
        intro s hs
        obtain ⟨-, c, hc, rfl⟩ := bind_unlessEmpty_eq_some_iff.mp hs
        exact (hcredentials c hc).2 }
    rw [Frame.body?, Frame.connect?_connectBody hfits]
    rfl

/-- Whatever is done with a session, and whatever the broker does, the traffic on each connection is
orderly: the client introduces itself first, under its name and with those parts of the credentials of
the server that are there and not empty; it publishes only where it was accepted; each publication holds
the envelope of a definition that was deployed, and none is published more often on one connection than
it was deployed.  As this holds behind any actions, what is published was deployed before. -/
theorem traffic_isOrderly (clientId : String) (server : Server) (network : Network) (topic : String)
    (retain : Bool) (actions : List Action) :
    let s := start (Options.ofServer clientId server).connect network (.empty topic retain)
    ∃ k, IsIntroduction clientId server k ∧
      ∀ t ∈ (s.run actions).2.traffic, IsOrderly k topic retain (s.deployments actions) t := by
  intro s
  refine ⟨s.connect, isIntroduction_ofServer clientId server, ?_⟩
  intro t ht
  have hstart : Orderly s.connect (publications topic retain []) [] s :=
    ⟨rfl, by simp [s, start], by simp [s, start], by simp [Exchange.published, Exchange.handedOver]⟩
  obtain ⟨⟨haccounted, haccords⟩, horderly⟩ :=
    (invariant_orderly topic retain s.connect).run actions (s := s)
      ⟨⟨accounted_start _ network, accords_nil⟩, hstart⟩
  rw [List.nil_append, List.nil_append] at haccounted horderly
  rw [List.nil_append] at haccords
  have hover : Over s.connect (publications topic retain (s.deployments actions)) t := by
    rcases List.mem_append.mp ht with ht | ht
    · exact horderly.past t ht
    · obtain ⟨c, hc, rfl⟩ := Option.map_eq_some_iff.mp (Option.mem_toList.mp ht)
      exact (horderly.ongoing c hc).over haccounted.count_le
  refine hover.isOrderly fun e he => ?_
  exact horderly.inRange e (haccords.published.subset (mem_published_flatten ht he))

/-- A server that is logged in to with an empty password. -/
def passwordless : Server := ⟨"127.0.0.1", 1883, some ⟨"ü", ""⟩⟩

/-- The introduction to it has a name and no password; and no bytes introduce a client whose name is longer
than two bytes can say. -/
theorem passwordless_introduction :
    (∃ t k, ((start (Options.ofServer "日本" passwordless).connect
        (.broker [[[.connAck 0], [.pubAck none]]]) (.empty "é/t" false)).run
          [.await 5000 [.request]]).2.traffic = [t] ∧ t.head? = some (.sent (.connect k)) ∧
        passwordless.credentials.isSome = true ∧ k.username = some "ü" ∧ k.password = none) ∧
      ∀ body k, Frame.body? 1 0 body = .ok (.misplaced (.connect k)) →
        k.clientId ≠ String.ofList (List.replicate 65536 'a') := by
  refine ⟨⟨[.sent (.connect (Options.ofServer "日本" passwordless).connect),
    .read (.connAck false .accepted)], (Options.ofServer "日本" passwordless).connect, ?_⟩, ?_⟩
  · decide +kernel
  · intro body k hk hname
    obtain ⟨c, hc, hck⟩ := exists_of_map_eq_ok hk
    cases hck
    have hsize := Frame.utf8ByteSize_of_connect? hc
    rw [hname] at hsize
    rw [Text.utf8ByteSize_replicate rfl] at hsize
    exact absurd hsize (by decide)

end Session

end BrokerNode.Mqtt
