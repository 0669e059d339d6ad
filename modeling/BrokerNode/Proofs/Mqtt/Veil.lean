/-
BrokerNode/Proofs/Mqtt/Veil.lean

What a session does with the secrets that it carries.

A veil hides the password of an introduction, and of a publication everything in the body but its
size.  It can be drawn over whatever holds one of the two: requests, packets, what the client
remembers, a connection, a whole session.

A session does under the veil what it does without: each of its steps gives the same report and the
same session, veiled (`poll_veiled`), and so do waiting for the delivery and taking leave
(`await_veiled`, `shutdown_veiled`).  Hence no report, no outcome and no line depends on what is behind
the veil.
-/
import BrokerNode.Mqtt.Session
import BrokerNode.Proofs.Text.Bytes

namespace BrokerNode

/-! ### Veils -/

/-- Blank text of the same size. -/
def blank (s : String) : String := String.ofList (List.replicate s.utf8ByteSize ' ')

theorem utf8ByteSize_blank (s : String) : (blank s).utf8ByteSize = s.utf8ByteSize :=
  Text.utf8ByteSize_replicate rfl _

namespace Mqtt

/-- An introduction without its password. -/
def Connect.veiled (c : Connect) : Connect :=
  { c with password := c.password.map fun _ => "" }

/-- A publication without its body, of the same size. -/
def Publication.veiled (p : Publication) : Publication := { p with body := blank p.body }

/-- A veiled request. -/
def Request.veiled : Request → Request
  | .publish id p => .publish id p.veiled
  | .release id => .release id
  | .disconnect => .disconnect

/-- A veiled packet. -/
def Packet.veiled : Packet → Packet
  | .connect c => .connect c.veiled
  | .publish id p => .publish id p.veiled
  | .receipt r id => .receipt r id
  | .ping => .ping
  | .disconnect => .disconnect

/-- Veiled traffic; what the client reads is no secret. -/
def Traffic.veiled : Traffic → Traffic
  | .sent p => .sent p.veiled
  | .lost p => .lost p.veiled
  | .read p => .read p

/-- A veiled queue. -/
def Queue.veiled : Queue → Queue
  | .connected waiting => .connected (waiting.map Request.veiled)
  | .disconnected => .disconnected

/-- A veiled outbox. -/
def Outbox.veiled (o : Outbox) : Outbox := { o with queue := o.queue.veiled }

/-- What a client remembers, veiled. -/
def Flight.veiled (f : Flight) : Flight :=
  { f with
    unconfirmed := f.unconfirmed.map fun e => (e.1, e.2.veiled)
    heldBack := f.heldBack.map fun e => (e.1, e.2.veiled) }

/-- A veiled connection. -/
def Connection.veiled (c : Connection) : Connection :=
  { c with traffic := c.traffic.map Traffic.veiled }

/-- A packet read, and the veiled connection behind it. -/
def Connection.Reading.veiled : Connection.Reading → Connection.Reading
  | .packet p c => .packet p c.veiled
  | .nothing => .nothing
  | .garbled g => .garbled g
  | .failed e => .failed e

/-- A veiled session. -/
def Session.veiled (s : Session) : Session :=
  { s with
    connect := s.connect.veiled
    outbox := s.outbox.veiled
    pending := s.pending.map Request.veiled
    flight := s.flight.veiled
    connection := s.connection.map Connection.veiled
    past := s.past.map fun traffic => traffic.map Traffic.veiled }

@[simp] theorem Publication.size_veiled (p : Publication) (numbered : Bool) :
    p.veiled.size numbered = p.size numbered := by
  rw [size, size, veiled, utf8ByteSize_blank]

@[simp] theorem Packet.number_veiled (p : Packet) : p.veiled.number = p.number := by
  cases p <;> rfl

/-! ### Outboxes -/

theorem Queue.waiting_veiled (q : Queue) : q.veiled.waiting = q.waiting.map Request.veiled := by
  cases q <;> rfl

theorem Queue.drained_veiled (q : Queue) : q.veiled.drained = q.drained.veiled := by
  cases q <;> rfl

theorem Outbox.put_veiled (o : Outbox) (r : Request) :
    o.veiled.put r.veiled = (o.put r).map Outbox.veiled := by
  obtain ⟨topic, retain, queue⟩ := o
  cases queue with
  | connected waiting =>
    by_cases hplace : waiting.length < Queue.capacity
    · simp [put, veiled, Queue.veiled, Queue.push?, hplace, Except.map]
    · simp [put, veiled, Queue.veiled, Queue.push?, hplace, Except.map]
  | disconnected => rfl

/-! ### What the client remembers -/

namespace Flight

variable (f : Flight)

theorem lookup_veiled (id : UInt16) :
    f.veiled.unconfirmed.lookup id = (f.unconfirmed.lookup id).map Publication.veiled := by
  rw [List.lookup_eq_findSome?, List.lookup_eq_findSome?, veiled, List.findSome?_map,
    List.map_findSome?]
  congr 1
  funext e
  show (if id == e.1 then some e.2.veiled else none) =
    (if id == e.1 then some e.2 else none).map Publication.veiled
  split <;> rfl

theorem isUnconfirmed_veiled (id : UInt16) : f.veiled.isUnconfirmed id = f.isUnconfirmed id := by
  rw [isUnconfirmed, isUnconfirmed, lookup_veiled, Option.isSome_map]

theorem remember_veiled (id : UInt16) (p : Publication) :
    f.veiled.remember id p.veiled = (f.remember id p).veiled := by
  simp [remember, veiled]

theorem forget_veiled (id : UInt16) : f.veiled.forget id = (f.forget id).veiled := by
  simp [forget, veiled, List.filter_map, Function.comp_def]

theorem numberFor_veiled (id : Option UInt16) :
    f.veiled.numberFor id = ((f.numberFor id).1, (f.numberFor id).2.veiled) := by
  cases id <;> rfl

theorem takeHeldBack_veiled (id : UInt16) :
    f.veiled.takeHeldBack id =
      ((f.takeHeldBack id).1.map fun e => (e.1, e.2.veiled), (f.takeHeldBack id).2.veiled) := by
  cases hheld : f.heldBack with
  | none => simp [takeHeldBack, veiled, hheld]
  | some e =>
    obtain ⟨n, p⟩ := e
    by_cases hn : n = id
    · simp [takeHeldBack, veiled, hheld, hn]
    · simp [takeHeldBack, veiled, hheld, hn]

/-- What a step of the client gives, veiled. -/
def veiledStep (x : Except Breach (Option Packet) × Flight) : Except Breach (Option Packet) × Flight :=
  (x.1.map (Option.map Packet.veiled), x.2.veiled)

theorem sendPublication_veiled (id : Option UInt16) (p : Publication) :
    f.veiled.sendPublication id p.veiled =
      ((f.sendPublication id p).1.map Packet.veiled, (f.sendPublication id p).2.veiled) := by
  by_cases hqos : p.qos = .atMostOnce
  · have hqos' : p.veiled.qos = .atMostOnce := hqos
    rw [sendPublication, if_pos hqos', sendPublication, if_pos hqos]
    rfl
  · have hqos' : p.veiled.qos ≠ .atMostOnce := hqos
    rw [sendPublication, if_neg hqos', sendPublication, if_neg hqos, numberFor_veiled]
    dsimp only
    rw [isUnconfirmed_veiled]
    cases (f.numberFor id).2.isUnconfirmed (f.numberFor id).1 with
    | true => rfl
    | false =>
      rw [if_neg Bool.false_ne_true, if_neg Bool.false_ne_true, remember_veiled]
      rfl

theorem send_veiled (r : Request) : f.veiled.send r.veiled = veiledStep (f.send r) := by
  cases r with
  | publish id p =>
    rw [Request.veiled, send, send, Publication.size_veiled]
    split
    · rfl
    · rw [sendPublication_veiled]
      rfl
  | release id => rfl
  | disconnect => rfl

theorem countPing_veiled : f.veiled.countPing = f.countPing.veiled := by
  have hheld : f.veiled.heldBack.isSome = f.heldBack.isSome := Option.isSome_map
  rw [countPing, countPing, hheld]
  split <;> rfl

theorem ping_veiled : f.veiled.ping = veiledStep f.ping := by
  have hheld : f.countPing.veiled.heldBack.isSome = f.countPing.heldBack.isSome := Option.isSome_map
  have hopen : f.countPing.veiled.pingOpen = f.countPing.pingOpen := rfl
  have hpings : f.countPing.veiled.heldBackPings = f.countPing.heldBackPings := rfl
  rw [ping, ping, countPing_veiled, hheld, hopen, hpings]
  split
  · rfl
  split
  · rfl
  · rfl

theorem acknowledge_veiled (id : UInt16) :
    f.veiled.acknowledge id = veiledStep (f.acknowledge id) := by
  obtain ⟨g, hg⟩ : ∃ g : Flight, { f with lastAcknowledged := id.toNat } = g := ⟨_, rfl⟩
  have hnoted : { f.veiled with lastAcknowledged := id.toNat } = g.veiled := by
    rw [← hg]
    rfl
  have hrest : { (g.forget id).veiled with due := f.veiled.due - 1 } =
      veiled { g.forget id with due := f.due - 1 } := rfl
  rw [acknowledge, acknowledge]
  split
  · rfl
  dsimp only
  rw [hnoted, hg, isUnconfirmed_veiled]
  split
  · rw [forget_veiled, hrest, takeHeldBack_veiled]
    obtain ⟨held, f'⟩ := takeHeldBack { g.forget id with due := f.due - 1 } id
    cases held with
    | none => rfl
    | some e =>
      show (_, (f'.veiled.remember e.1 e.2.veiled).note _) = _
      rw [remember_veiled]
      rfl
  · rfl

theorem arrive_veiled (id : UInt16) : f.veiled.arrive id = veiledStep (f.arrive id) := by
  rw [arrive, arrive, isUnconfirmed_veiled, forget_veiled]
  cases f.isUnconfirmed id <;> rfl

theorem release_veiled (id : UInt16) : f.veiled.release id = veiledStep (f.release id) := by
  rw [release, release]
  show (if id ∈ f.received then _ else _) = _
  split <;> rfl

theorem complete_veiled (id : UInt16) : f.veiled.complete id = veiledStep (f.complete id) := by
  have hrest : { f.veiled with released := f.veiled.released.erase id, due := f.veiled.due - 1 } =
      veiled { f with released := f.released.erase id, due := f.due - 1 } := rfl
  rw [complete, complete]
  show (if id ∈ f.released then _ else _) = _
  split
  · dsimp only
    rw [hrest, takeHeldBack_veiled]
    obtain ⟨held, f'⟩ := takeHeldBack { f with released := f.released.erase id, due := f.due - 1 } id
    cases held <;> rfl
  · rfl

theorem welcome_veiled (id : UInt16) (qos : Qos) :
    f.veiled.welcome id qos = ((f.welcome id qos).1.map Packet.veiled, (f.welcome id qos).2.veiled) := by
  cases qos <;> rfl

theorem answer_veiled (p : Incoming) : f.veiled.answer p = veiledStep (f.answer p) := by
  cases p with
  | publish id topic qos retain payload => rw [answer, answer, welcome_veiled]; rfl
  | receipt r id =>
    cases r with
    | acknowledged => exact acknowledge_veiled f id
    | received => exact arrive_veiled f id
    | released => exact release_veiled f id
    | completed => exact complete_veiled f id
  | connAck known code | subAck id codes | unsubAck id | pingResponse | misplaced p => rfl

theorem receive_veiled (p : Incoming) : f.veiled.receive p = veiledStep (f.receive p) := by
  rw [receive, receive, answer_veiled, veiledStep]
  obtain ⟨result, f'⟩ := f.answer p
  cases result <;> rfl

theorem requests_veiled : f.veiled.requests = f.requests.map Request.veiled := by
  rw [requests, requests, List.map_append, List.map_filterMap, List.map_map]
  congr 1
  refine congrArg (fun g => List.filterMap g _) (funext fun id => ?_)
  rw [lookup_veiled, Option.map_map, Option.map_map]
  rfl

theorem afterLoss_veiled : f.veiled.afterLoss = f.afterLoss.veiled := rfl

end Flight

/-! ### Connections -/

namespace Connection

variable (c : Connection)

theorem write_veiled (p : Packet) : c.veiled.write p.veiled = (c.write p).veiled := by
  by_cases hclosed : c.closed
  · simp [write, veiled, hclosed, Traffic.veiled]
  · simp [write, veiled, hclosed, Traffic.veiled]

theorem writeAll_veiled (packets : List Packet) :
    c.veiled.writeAll (packets.map Packet.veiled) = (c.writeAll packets).veiled := by
  induction packets generalizing c with
  | nil => rfl
  | cons p packets ih =>
    show (c.veiled.write p.veiled).writeAll (packets.map Packet.veiled) = _
    rw [write_veiled, ih]
    rfl

theorem loseAll_veiled (packets : List Packet) :
    c.veiled.loseAll (packets.map Packet.veiled) = (c.loseAll packets).veiled := by
  have hlost : (packets.map Packet.veiled).map Traffic.lost =
      (packets.map Traffic.lost).map Traffic.veiled := by
    rw [List.map_map, List.map_map]
    rfl
  rw [loseAll, loseAll, veiled, veiled, List.map_append, hlost]

theorem read_veiled : c.veiled.read = c.read.veiled := by
  have hunread : c.veiled.unread = c.unread := rfl
  have hclosed : c.veiled.closed = c.closed := rfl
  rw [read, read, hunread, hclosed]
  cases Frame.read c.unread with
  | complete p rest => simp [veiled, Reading.veiled, Traffic.veiled]
  | garbled g => rfl
  | incomplete =>
    dsimp only
    split <;> rfl

end Connection

/-! ### Sessions -/

namespace Session

variable (s : Session)

theorem abandon_veiled (c : Connection) : s.veiled.abandon c.veiled = (s.abandon c).veiled := by
  simp [abandon, veiled, Outbox.veiled, Queue.drained_veiled, Queue.waiting_veiled,
    Flight.requests_veiled, Flight.afterLoss_veiled, Connection.veiled]

theorem answer_veiled (t : Turn) (c : Connection) : t.answer c.veiled = (t.answer c).veiled := by
  cases t with
  | error e => rfl
  | request refusal | read count refusal | ping refusal => exact Connection.read_veiled c

theorem establish_veiled (t : Turn) :
    s.veiled.establish t = ((s.establish t).1, (s.establish t).2.veiled) := by
  obtain ⟨connect, network, outbox, pending, flight, connection, past⟩ := s
  cases network with
  | failing e => rfl
  | mute => rfl
  | broker scripts =>
    have hwrite : (Connection.fresh (Network.next scripts).1).write (.connect connect.veiled) =
        ((Connection.fresh (Network.next scripts).1).write (.connect connect)).veiled :=
      Connection.write_veiled (Connection.fresh (Network.next scripts).1) (.connect connect)
    simp only [establish, veiled, hwrite, answer_veiled]
    cases t.answer ((Connection.fresh (Network.next scripts).1).write (.connect connect)) with
    | packet p c =>
      cases p with
      | connAck known code => cases code <;> simp [Connection.Reading.veiled, Connection.veiled]
      | _ => simp [Connection.Reading.veiled, Connection.veiled]
    | _ => simp [Connection.Reading.veiled, Connection.veiled]

theorem report_veiled : s.veiled.report = (s.report.1, s.report.2.veiled) := by
  have hevents : s.veiled.flight.events = s.flight.events := rfl
  rw [report, report, hevents]
  cases s.flight.events <;> rfl

theorem isFree_veiled : s.veiled.isFree = s.isFree := by
  show (decide (s.flight.due < Flight.maxNumber) && (s.flight.heldBack.map _).isNone) = _
  rw [Option.isNone_map]
  rfl

theorem nextRequest?_veiled :
    s.veiled.nextRequest? = s.nextRequest?.map fun x => (x.1.veiled, x.2.veiled) := by
  rw [nextRequest?, nextRequest?, isFree_veiled]
  obtain ⟨connect, network, ⟨topic, retain, queue⟩, pending, flight, connection, past⟩ := s
  cases pending with
  | cons r pending => rfl
  | nil =>
    show (if isFree _ then _ else none) = Option.map _ (if isFree _ then _ else none)
    split
    · cases queue with
      | connected waiting => cases waiting <;> rfl
      | disconnected => rfl
    · rfl

theorem conclude_veiled (c : Connection) (refusal : Option IoError)
    (result : Except Breach (List Packet)) :
    s.veiled.conclude c.veiled refusal (result.map (List.map Packet.veiled)) =
      ((s.conclude c refusal result).1, (s.conclude c refusal result).2.veiled) := by
  have hsent : ∀ packets, report { s.veiled with
      connection := some (c.veiled.writeAll (packets.map Packet.veiled)) } =
      ((report { s with connection := some (c.writeAll packets) }).1,
        (report { s with connection := some (c.writeAll packets) }).2.veiled) := by
    intro packets
    rw [Connection.writeAll_veiled]
    exact report_veiled { s with connection := some (c.writeAll packets) }
  cases result with
  | error b => exact congrArg (Prod.mk _) (abandon_veiled s c)
  | ok packets =>
    cases refusal with
    | none => exact hsent packets
    | some e =>
      cases packets with
      | nil => exact hsent []
      | cons packet packets =>
        show (_, s.veiled.abandon (c.veiled.loseAll ((packet :: packets).map Packet.veiled))) = _
        rw [Connection.loseAll_veiled, abandon_veiled]
        rfl

/-- The packet of an operation, veiled. -/
theorem map_toList_veiled (result : Except Breach (Option Packet)) :
    (result.map (Option.map Packet.veiled)).map Option.toList =
      (result.map Option.toList).map (List.map Packet.veiled) := by
  cases result with
  | error b => rfl
  | ok packet => cases packet <;> rfl

theorem carryOut_veiled (c : Connection) (refusal : Option IoError) :
    s.veiled.carryOut c.veiled refusal =
      ((s.carryOut c refusal).1, (s.carryOut c refusal).2.veiled) := by
  rw [carryOut, carryOut, nextRequest?_veiled]
  cases s.nextRequest? with
  | none => rfl
  | some x =>
    obtain ⟨r, s⟩ := x
    dsimp only [Option.map_some]
    have hsend : s.veiled.flight.send r.veiled = Flight.veiledStep (s.flight.send r) :=
      Flight.send_veiled s.flight r
    rw [hsend]
    obtain ⟨result, flight⟩ := s.flight.send r
    dsimp only [Flight.veiledStep]
    rw [map_toList_veiled]
    exact conclude_veiled { s with flight } c refusal _

theorem ping_veiled (c : Connection) (refusal : Option IoError) :
    s.veiled.ping c.veiled refusal = ((s.ping c refusal).1, (s.ping c refusal).2.veiled) := by
  have hping : s.veiled.flight.ping = Flight.veiledStep s.flight.ping := Flight.ping_veiled s.flight
  rw [ping, ping, hping]
  obtain ⟨result, flight⟩ := s.flight.ping
  dsimp only [Flight.veiledStep]
  rw [map_toList_veiled]
  exact conclude_veiled { s with flight } c refusal _

/-- What taking packets in gives, veiled. -/
def veiledIntake (x : Except Breach (List Packet) × Flight × Connection) :
    Except Breach (List Packet) × Flight × Connection :=
  (x.1.map (List.map Packet.veiled), x.2.1.veiled, x.2.2.veiled)

theorem takeIn_veiled (count : Nat) (f : Flight) (c : Connection) :
    takeIn count f.veiled c.veiled = veiledIntake (takeIn count f c) := by
  induction count generalizing f c with
  | zero => rfl
  | succ count ih =>
    rw [takeIn, takeIn, Connection.read_veiled]
    cases c.read with
    | nothing => rfl
    | garbled g => rfl
    | failed e => rfl
    | packet p c =>
      dsimp only [Connection.Reading.veiled]
      rw [Flight.receive_veiled]
      obtain ⟨result, f⟩ := f.receive p
      cases result with
      | error b => rfl
      | ok packet =>
        dsimp only [Flight.veiledStep, Except.map]
        rw [ih]
        obtain ⟨rest, f, c⟩ := takeIn count f c
        cases rest with
        | error b => rfl
        | ok packets => cases packet <;> rfl

theorem takeBurst_veiled (count : Nat) (f : Flight) (c : Connection) :
    takeBurst count f.veiled c.veiled = veiledIntake (takeBurst count f c) := by
  rw [takeBurst, takeBurst, Connection.read_veiled]
  cases c.read with
  | failed e => rfl
  | nothing | garbled g | packet p c' => exact takeIn_veiled (min count maxBurst) f c

theorem readBurst_veiled (c : Connection) (count : Nat) (refusal : Option IoError) :
    s.veiled.readBurst c.veiled count refusal =
      ((s.readBurst c count refusal).1, (s.readBurst c count refusal).2.veiled) := by
  have htake : takeBurst count s.veiled.flight c.veiled = veiledIntake (takeBurst count s.flight c) :=
    takeBurst_veiled count s.flight c
  rw [readBurst, readBurst, htake]
  obtain ⟨result, flight, c⟩ := takeBurst count s.flight c
  exact conclude_veiled { s with flight } c refusal result

/-- Under the veil a poll does what it does without. -/
theorem poll_veiled (t : Turn) : s.veiled.poll t = ((s.poll t).1, (s.poll t).2.veiled) := by
  have hconnection : s.veiled.connection = s.connection.map Connection.veiled := rfl
  have hevents : s.veiled.flight.events = s.flight.events := rfl
  rw [poll, poll, hconnection, hevents]
  cases s.connection with
  | none => exact establish_veiled s t
  | some c =>
    dsimp only [Option.map_some]
    split
    · cases t with
      | request refusal => exact carryOut_veiled s c refusal
      | read count refusal => exact readBurst_veiled s c count refusal
      | ping refusal => exact ping_veiled s c refusal
      | error e => exact conclude_veiled s c none (.error (.io e))
    · exact report_veiled s

/-- What is seen of something that was done: what came of it, the session under the veil and the log
lines. -/
def seen {α : Type} (x : α × Session × Log) : α × Session × Log := (x.1, x.2.1.veiled, x.2.2)

theorem seen_eq_iff {α : Type} {x y : α × Session × Log} :
    seen x = seen y ↔ x.1 = y.1 ∧ x.2.1.veiled = y.2.1.veiled ∧ x.2.2 = y.2.2 := by
  simp [seen]

/-- Under the veil, waiting for the delivery ends as it does without, with the same lines. -/
theorem await_veiled (limit : Nat) (turns : List Turn) :
    await limit turns s.veiled = seen (await limit turns s) := by
  induction turns generalizing s with
  | nil => rfl
  | cons t turns ih =>
    rw [await, await, poll_veiled]
    obtain ⟨report, s⟩ := s.poll t
    cases report with
    | event e =>
      dsimp only
      split
      · rfl
      · rw [ih]
        rfl
    | failed f => rfl
    | idle => exact ih s
    | unanswered => rfl

theorem flush_veiled (limit : Nat) (turns : List Turn) :
    flush limit turns s.veiled = seen (flush limit turns s) := by
  induction turns generalizing s with
  | nil => rfl
  | cons t turns ih =>
    rw [flush, flush, poll_veiled]
    obtain ⟨report, s⟩ := s.poll t
    cases report with
    | event e =>
      cases e with
      | incoming p => exact ih s
      | outgoing o =>
        cases o with
        | disconnect => rfl
        | publish id | receipt r id | heldBack id | ping => exact ih s
    | failed f => rfl
    | idle => exact ih s
    | unanswered =>
      dsimp only
      split <;> rfl

/-- Under the veil, leave is taken as it is without, with the same lines. -/
theorem shutdown_veiled (limit : Nat) (turns : List Turn) :
    shutdown limit turns s.veiled = seen (shutdown limit turns s) := by
  have hput : s.veiled.outbox.put .disconnect = (s.outbox.put .disconnect).map Outbox.veiled :=
    Outbox.put_veiled s.outbox .disconnect
  rw [shutdown, shutdown, hput]
  cases s.outbox.put .disconnect with
  | error r => rfl
  | ok outbox =>
    have hveil : { s.veiled with outbox := outbox.veiled } = veiled { s with outbox } := rfl
    dsimp only [Except.map]
    rw [hveil, flush_veiled]
    rfl

theorem traffic_veiled :
    s.veiled.traffic = s.traffic.map fun traffic => traffic.map Traffic.veiled := by
  rw [traffic, traffic, List.map_append]
  congr 1
  show ((s.connection.map Connection.veiled).map Connection.traffic).toList = _
  cases s.connection <;> rfl

end Session

end Mqtt

end BrokerNode
