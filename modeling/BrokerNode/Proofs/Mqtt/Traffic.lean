/-
BrokerNode/Proofs/Mqtt/Traffic.lean

The packets that a client writes to a connection.

What is written to a connection is sent as long as the broker has not closed it, and lost behind that.
Among the packets that are written, the introduction, the publications and the leave are the ones that
a client sends for its own ends (`ownPackets`); the others only keep the connection going.

Traffic only grows at its end.  What the broker receives is a prefix of what is written
(`Connection.IsFaithful`), because a connection that is closed stays so.
-/
import BrokerNode.Mqtt.Broker

namespace BrokerNode.Mqtt

namespace Traffic

/-- The packets of some traffic that the client wrote, whether the broker received them or not. -/
def written (traffic : List Traffic) : List Packet :=
  traffic.filterMap fun
    | .sent p => some p
    | .lost p => some p
    | .read _ => none

end Traffic

/-- Whether a packet only keeps a connection going: it answers the broker, or is a sign of life. -/
def Packet.isUpkeep : Packet → Bool
  | .receipt _ _ | .ping => true
  | .connect _ | .publish _ _ | .disconnect => false

/-- The packets of a list that do more than keep a connection going. -/
def ownPackets (packets : List Packet) : List Packet := packets.filter fun p => !p.isUpkeep

theorem ownPackets_upkeep {packets : List Packet} (h : ∀ p ∈ packets, p.isUpkeep = true) :
    ownPackets packets = [] := by
  rw [ownPackets, List.filter_eq_nil_iff]
  intro p hp
  simp [h p hp]

theorem ownPackets_append (ps qs : List Packet) :
    ownPackets (ps ++ qs) = ownPackets ps ++ ownPackets qs :=
  List.filter_append _ _

namespace Traffic

theorem written_append (t u : List Traffic) : written (t ++ u) = written t ++ written u :=
  List.filterMap_append

theorem received_append (t u : List Traffic) : received (t ++ u) = received t ++ received u :=
  List.filterMap_append

theorem written_map_lost (ps : List Packet) : written (ps.map .lost) = ps := by
  rw [written, List.filterMap_map]
  exact List.filterMap_some

theorem received_map_lost (ps : List Packet) : received (ps.map .lost) = [] := by
  rw [received, List.filterMap_map]
  exact List.filterMap_eq_nil_iff.mpr fun _ _ => rfl

/-- An acknowledgement was read behind the publication of its number. -/
def Acknowledged (traffic : List Traffic) (id : UInt16) : Prop :=
  ∃ before behind p, traffic = before ++ .read (.receipt .acknowledged id) :: behind ∧
    .publish id p ∈ written before

theorem Acknowledged.append {traffic : List Traffic} {id : UInt16} (h : Acknowledged traffic id)
    (more : List Traffic) : Acknowledged (traffic ++ more) id := by
  obtain ⟨before, behind, p, rfl, hp⟩ := h
  exact ⟨before, behind ++ more, p, by simp, hp⟩

end Traffic

namespace Connection

open Traffic

/-- What the broker received is a prefix of what was written, and all of it on an open connection. -/
structure IsFaithful (c : Connection) : Prop where
  ofOpen : c.closed = false → received c.traffic = written c.traffic
  isPrefix : received c.traffic <+: written c.traffic

theorem isFaithful_fresh (script : Script) : (fresh script).IsFaithful where
  ofOpen _ := rfl
  isPrefix := List.prefix_refl _

/-! ### Writing -/

theorem written_write (c : Connection) (p : Packet) :
    written (c.write p).traffic = written c.traffic ++ [p] := by
  rw [write]
  split
  · exact written_append _ _
  · exact written_append _ _

theorem IsFaithful.write {c : Connection} (h : c.IsFaithful) (p : Packet) :
    (c.write p).IsFaithful := by
  have hwritten := written_write c p
  by_cases hc : c.closed = true
  · -- the packet is lost, and the connection stays closed
    have hreceived : received (c.write p).traffic = received c.traffic := by
      rw [Connection.write, if_pos hc, received_append]
      exact List.append_nil _
    refine ⟨?_, ?_⟩
    · intro hopen
      rw [Connection.write, if_pos hc] at hopen
      exact absurd (hc.symm.trans hopen) (by decide)
    · rw [hreceived, hwritten]
      exact h.isPrefix.trans (List.prefix_append _ _)
  · -- the packet is received behind all that was written
    have hreceived : received (c.write p).traffic = received c.traffic ++ [p] := by
      rw [Connection.write, if_neg hc]
      exact received_append _ _
    have heq := h.ofOpen (Bool.eq_false_iff.mpr hc)
    rw [heq, ← hwritten] at hreceived
    exact ⟨fun _ => hreceived, hreceived ▸ List.prefix_refl _⟩

theorem exists_traffic_write (c : Connection) (p : Packet) :
    ∃ more, (c.write p).traffic = c.traffic ++ more := by
  rw [write]
  split
  · exact ⟨_, rfl⟩
  · exact ⟨_, rfl⟩

theorem written_writeAll (c : Connection) (ps : List Packet) :
    written (c.writeAll ps).traffic = written c.traffic ++ ps := by
  induction ps generalizing c with
  | nil => exact (List.append_nil _).symm
  | cons p ps ih =>
    show written ((c.write p).writeAll ps).traffic = _
    rw [ih, written_write, List.append_assoc]
    rfl

theorem IsFaithful.writeAll {c : Connection} (h : c.IsFaithful) (ps : List Packet) :
    (c.writeAll ps).IsFaithful := by
  induction ps generalizing c with
  | nil => exact h
  | cons p ps ih => exact ih (h.write p)

theorem exists_traffic_writeAll (c : Connection) (ps : List Packet) :
    ∃ more, (c.writeAll ps).traffic = c.traffic ++ more := by
  induction ps generalizing c with
  | nil => exact ⟨[], (List.append_nil _).symm⟩
  | cons p ps ih =>
    obtain ⟨more, hmore⟩ := exists_traffic_write c p
    obtain ⟨rest, hrest⟩ := ih (c.write p)
    exact ⟨more ++ rest, by rw [← List.append_assoc, ← hmore]; exact hrest⟩

theorem written_loseAll (c : Connection) (ps : List Packet) :
    written (c.loseAll ps).traffic = written c.traffic ++ ps := by
  rw [loseAll, written_append, written_map_lost]

theorem received_loseAll (c : Connection) (ps : List Packet) :
    received (c.loseAll ps).traffic = received c.traffic := by
  rw [loseAll, received_append, received_map_lost, List.append_nil]

/-! ### Reading -/

/-- Reading a packet leaves the connection as it was, but for what was read. -/
theorem read_packet {c c' : Connection} {p : Incoming} (h : c.read = .packet p c') :
    c'.traffic = c.traffic ++ [.read p] ∧ c'.closed = c.closed := by
  rw [read] at h
  split at h
  · cases h
    exact ⟨rfl, rfl⟩
  · cases h
  · split at h <;> cases h

theorem written_read {c c' : Connection} {p : Incoming} (h : c.read = .packet p c') :
    written c'.traffic = written c.traffic := by
  rw [(read_packet h).1, written_append]
  exact List.append_nil _

theorem IsFaithful.read {c c' : Connection} {p : Incoming} (hc : c.IsFaithful)
    (h : c.read = .packet p c') : c'.IsFaithful := by
  have hwritten := written_read h
  obtain ⟨htraffic, hclosed⟩ := read_packet h
  have hreceived : received c'.traffic = received c.traffic := by
    rw [htraffic, received_append]
    exact List.append_nil _
  refine ⟨?_, ?_⟩
  · intro hopen
    rw [hreceived, hwritten]
    exact hc.ofOpen (hclosed.symm.trans hopen)
  · rw [hreceived, hwritten]
    exact hc.isPrefix

end Connection

end BrokerNode.Mqtt
