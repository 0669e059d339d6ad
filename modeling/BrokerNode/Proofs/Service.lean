/-
BrokerNode/Proofs/Service.lean

What a run of the service keeps to, whatever its surroundings do.

A run that finds its settings and its definition queues one publication and waits (`queued`).  From then
on the broker decides: all that it can do is covered by the stages of a session.  Before that nothing is
written at all.  Hence every run is lawful (`Lawful`), with one exception: a run whose environment file
gives a value with the null character in it (`Environment.null_of_topUp`) is broken off, and its exit
code is neither that of a success nor that of a failure.
-/
import BrokerNode.Proofs.Mqtt.Session
import BrokerNode.Service

namespace BrokerNode

open Mqtt (Stage)

/-! ### Log lines without errors -/

/-- No line of a log is about a failure. -/
def Log.IsCalm (log : Log) : Prop := ∀ l ∈ log, l.level ≠ .error

namespace Log

theorem isCalm_nil : IsCalm [] := by
  intro l hl
  cases hl

/-- A log is calm if a look at each line says so. -/
theorem isCalm_of_all {log : Log} (h : (log.all fun l => l.level != .error) = true) :
    log.IsCalm := by
  simpa [IsCalm] using h

theorem IsCalm.cons {l : Line} {log : Log} (h : log.IsCalm) (hl : l.level ≠ .error) :
    IsCalm (l :: log) := by
  intro l' hl'
  rcases List.mem_cons.mp hl' with rfl | hl'
  · exact hl
  · exact h l' hl'

theorem IsCalm.append {log log' : Log} (h : log.IsCalm) (h' : log'.IsCalm) :
    IsCalm (log ++ log') := by
  intro l hl
  rcases List.mem_append.mp hl with hl | hl
  · exact h l hl
  · exact h' l hl

end Log

open Log (isCalm_nil)

namespace Mqtt.Session

theorem level_eventLine (e : Event) : (eventLine e).level ≠ .error := by
  unfold eventLine
  split <;> simp [line]

theorem isCalm_await (limit : Nat) (turns : List Turn) (s : Session) :
    Log.IsCalm (s.await limit turns).2.2 := by
  induction turns generalizing s with
  | nil => exact isCalm_nil
  | cons t turns ih =>
    rw [Session.await]
    split
    · next e _ _ =>
      split
      · exact isCalm_nil.cons (level_eventLine e)
      · exact (ih _).cons (level_eventLine e)
    · exact isCalm_nil
    · exact ih _
    · exact isCalm_nil

theorem isCalm_flush (limit : Nat) (turns : List Turn) (s : Session) :
    Log.IsCalm (s.flush limit turns).2.2 := by
  have hloss : ∀ f, Log.IsCalm [lossLine f] := fun f => isCalm_nil.cons (by simp [lossLine, line])
  induction turns generalizing s with
  | nil => exact isCalm_nil
  | cons t turns ih =>
    rw [Session.flush]
    split
    · exact isCalm_nil
    · exact ih _
    · exact hloss _
    · exact ih _
    · split
      · exact isCalm_nil
      · exact hloss _

theorem isCalm_shutdown (limit : Nat) (turns : List Turn) (s : Session) :
    Log.IsCalm (s.shutdown limit turns).2.2 := by
  rw [Session.shutdown]
  split
  · exact isCalm_nil
  · refine (isCalm_flush limit turns _).append ?_
    unfold leaveLine
    split
    · exact isCalm_nil.cons (by simp [line])
    · exact isCalm_nil.cons (by simp [line])
    · exact isCalm_nil

end Mqtt.Session

/-! ### Faults of the environment -/

namespace Environment

/-- A line of an environment file is at fault only for a value with the null character in it, and only
if its name is not set yet. -/
theorem null_of_supply {env : Environment} {a : Dotenv.Assignment} {f : Fault}
    (h : env.supply a = .error f) :
    f = .nullInValue a ∧ '\x00' ∈ a.value.toList ∧ env.value? a.name = none := by
  rw [supply] at h
  split at h
  · cases h
  · next hset =>
    split at h
    · next hnull =>
      cases h
      exact ⟨rfl, hnull, by simpa using hset⟩
    · cases h

/-- Topping up fails at the first such line, and for no other reason. -/
theorem null_of_topUp {env : Environment} {dotenv : Option ByteArray} {f : Fault}
    (h : env.topUp dotenv = .error f) :
    ∃ env' a, f = .nullInValue a ∧ '\x00' ∈ a.value.toList ∧ value? env' a.name = none := by
  have hfollow : ∀ lines (env : Environment), env.follow lines = .error f →
      ∃ env' a, f = .nullInValue a ∧ '\x00' ∈ a.value.toList ∧ value? env' a.name = none := by
    intro lines
    induction lines with
    | nil =>
      intro env h
      cases h
    | cons line lines ih =>
      intro env h
      rw [follow] at h
      split at h
      · exact ih env h
      · next a _ =>
        split at h
        · exact ih _ h
        · next f' hsupply =>
          cases h
          exact ⟨env, a, null_of_supply hsupply⟩
      · cases h
  cases dotenv with
  | none => cases h
  | some content => exact hfollow _ env h

end Environment

namespace Service

/-! ### The start -/

/-- The introduction of a run. -/
def introduction (s : Settings) (c : Circumstances) : Mqtt.Connect :=
  (Mqtt.Options.ofServer (clientId c.clientId) s.server).connect

/-- The publication of a run: the envelope of the node, at level 1. -/
def publication (s : Settings) (d : Definition) : Mqtt.Publication :=
  ⟨s.topic, .atLeastOnce, s.retain, (Envelope.ofDefinition d).body⟩

/-- The session of a run that is about to wait for the delivery. -/
def queued (s : Settings) (d : Definition) (c : Circumstances) : Mqtt.Session :=
  .start (introduction s c) c.network
    ⟨s.topic, s.retain, .connected [.publish none (publication s d)]⟩

/-- A run finds settings and a definition, and its topic can be published on. -/
structure Prepared (env : Environment) (dotenv : Option ByteArray)
    (read : String → Folder.FileResult) (s : Settings) (d : Definition) : Prop where
  settings : ∃ env', env.topUp dotenv = .ok env' ∧ Settings.ofVariables env'.value? = .ok s
  definition : Definition.ofFile (read s.definitionPath) = .ok d
  topic : Topic.isPublishable s.topic = true

theorem waiting_queued (s : Settings) (d : Definition) (c : Circumstances) :
    (queued s d c).Waiting (introduction s c) (publication s d) :=
  .ready ⟨rfl, rfl, rfl, rfl, rfl, rfl⟩

theorem qos_publication (s : Settings) (d : Definition) : (publication s d).qos ≠ .atMostOnce :=
  Mqtt.Qos.noConfusion

variable {env : Environment} {dotenv : Option ByteArray} {read : String → Folder.FileResult}
  {s : Settings} {d : Definition}

theorem Prepared.unique {s' : Settings} {d' : Definition} (h : Prepared env dotenv read s d)
    (h' : Prepared env dotenv read s' d') : s' = s ∧ d' = d := by
  obtain ⟨env₁, htop, hs⟩ := h.settings
  obtain ⟨env₂, htop', hs'⟩ := h'.settings
  obtain rfl : env₂ = env₁ := Except.ok.inj (htop'.symm.trans htop)
  obtain rfl : s' = s := Except.ok.inj (hs'.symm.trans hs)
  exact ⟨rfl, Except.ok.inj (h'.definition.symm.trans h.definition)⟩

/-- A deployment logs what it announces, and gives what publishing on the empty outbox gives. -/
theorem deploy_eq (s : Settings) (d : Definition) (c : Circumstances) :
    deploy s d c =
      let node := Node.ofDefinition c.nodeId.render d
      let outbox := Mqtt.Outbox.empty s.topic s.retain
      let announcements := [Mqtt.Outbox.announcement s.server, node.announcement d.payload]
      match outbox.publish (.ofDefinition d) with
      | .ok o => (.ok ⟨s, node, { connect s c with outbox := o }⟩, announcements ++ [outbox.queuedLine])
      | .error r => (.error (.output (.refused r)), announcements) := by
  have hempty : (connect s c).outbox = .empty s.topic s.retain := rfl
  simp only [deploy, Mqtt.Session.deploy, Node.deploy, Mqtt.Outbox.wire, hempty]
  cases (Mqtt.Outbox.empty s.topic s.retain).publish (.ofDefinition d) with
  | ok o => rfl
  | error r => rfl

/-- On a topic that can be published on, a deployment puts the publication into the outbox. -/
theorem deploy_publishable (h : Topic.isPublishable s.topic = true) (d : Definition)
    (c : Circumstances) :
    ∃ log, log.IsCalm ∧
      deploy s d c = (.ok ⟨s, Node.ofDefinition c.nodeId.render d, queued s d c⟩, log) := by
  have hpublish : (Mqtt.Outbox.empty s.topic s.retain).publish (.ofDefinition d) =
      .ok ⟨s.topic, s.retain, .connected [.publish none (publication s d)]⟩ := if_pos h
  rw [deploy_eq]
  dsimp only
  rw [hpublish]
  exact ⟨_, Log.isCalm_of_all rfl, rfl⟩

/-- On any other topic it fails. -/
theorem deploy_unpublishable (h : Topic.isPublishable s.topic ≠ true) (d : Definition)
    (c : Circumstances) :
    ∃ log, log.IsCalm ∧ deploy s d c = (.error (.output (.refused .notQueued)), log) := by
  have hpublish : (Mqtt.Outbox.empty s.topic s.retain).publish (.ofDefinition d) =
      .error .notQueued := if_neg h
  rw [deploy_eq]
  dsimp only
  rw [hpublish]
  exact ⟨_, Log.isCalm_of_all rfl, rfl⟩

/-- A run that is prepared comes to wait for the delivery. -/
theorem run_of_prepared (h : Prepared env dotenv read s d) (c : Circumstances) :
    ∃ log, log.IsCalm ∧ run env dotenv read c =
      { deliver s.timeLimit (queued s d c) c with
        log := log ++ (deliver s.timeLimit (queued s d c) c).log } := by
  obtain ⟨env', htop, hsettings⟩ := h.settings
  obtain ⟨log, hlog, hdeploy⟩ := deploy_publishable h.topic d c
  generalize Node.ofDefinition c.nodeId.render d = node at hdeploy
  have hstart : start env'.value? read c = (.ok ⟨s, node, queued s d c⟩,
      line .info ("Loaded broker node definition from " ++ s.definitionPath) :: log) := by
    rw [start, hsettings]
    dsimp only
    rw [h.definition]
    dsimp only
    rw [hdeploy]
  refine ⟨line .info ("Loaded broker node definition from " ++ s.definitionPath) :: log ++
    [line .info ("Broker node " ++ node.id ++ " instantiated")], ?_, ?_⟩
  · exact (hlog.cons Log.Level.noConfusion).append (Log.isCalm_of_all rfl)
  · rw [run, htop]
    dsimp only
    rw [hstart]
    simp

/-- A run that is not prepared fails before it is connected. -/
theorem run_of_not_prepared {env' : Environment} (htop : env.topUp dotenv = .ok env')
    (h : ∀ s d, ¬Prepared env dotenv read s d) (c : Circumstances) :
    ∃ p log, log.IsCalm ∧ run env dotenv read c = .failed p log [] := by
  have hstart : ∃ p log, log.IsCalm ∧ start env'.value? read c = (.error p, log) := by
    rw [start]
    cases hsettings : Settings.ofVariables env'.value? with
    | error p => exact ⟨_, _, Log.isCalm_nil, rfl⟩
    | ok s =>
      dsimp only
      cases hdefinition : Definition.ofFile (read s.definitionPath) with
      | error p => exact ⟨_, _, Log.isCalm_nil, rfl⟩
      | ok d =>
        have htopic : Topic.isPublishable s.topic ≠ true := fun htopic =>
          h s d ⟨⟨env', htop, hsettings⟩, hdefinition, htopic⟩
        obtain ⟨log, hlog, hdeploy⟩ := deploy_unpublishable htopic d c
        dsimp only
        rw [hdeploy]
        exact ⟨_, _, hlog.cons Log.Level.noConfusion, rfl⟩
  obtain ⟨p, log, hlog, hstart⟩ := hstart
  refine ⟨p, log, hlog, ?_⟩
  rw [run, htop]
  dsimp only
  rw [hstart]

/-! ### The delivery -/

section Deliver

variable (limit : Nat) (w : Mqtt.Session) (c : Circumstances)

/-- When the wait is successful, so is the run. -/
theorem deliver_of_ok (h : (w.await limit c.delivery).1 = .ok ()) :
    ∃ log, log.IsCalm ∧ deliver limit w c = {
      ending := .delivered
      log
      traffic := ((w.await limit c.delivery).2.1.shutdown limit c.leave).2.1.traffic } := by
  have hcalm := Mqtt.Session.isCalm_await limit c.delivery w
  rw [deliver]
  generalize w.await limit c.delivery = result at h hcalm
  obtain ⟨outcome, w', log⟩ := result
  subst h
  refine ⟨_, ?_, rfl⟩
  exact hcalm.append
    ((Mqtt.Session.isCalm_shutdown limit c.leave w').cons Log.Level.noConfusion)

/-- When the wait fails, the run fails with its problem. -/
theorem deliver_of_error {u : Mqtt.Session.Undelivered}
    (h : (w.await limit c.delivery).1 = .error u) :
    deliver limit w c = .failed (.ofUndelivered limit u) (w.await limit c.delivery).2.2
      (w.await limit c.delivery).2.1.traffic := by
  rw [deliver]
  generalize w.await limit c.delivery = result at h
  obtain ⟨outcome, w', log⟩ := result
  subst h
  rfl

end Deliver

/-! ### The run -/

/-- What a run keeps to. -/
structure Lawful (env : Environment) (dotenv : Option ByteArray)
    (read : String → Folder.FileResult) (c : Circumstances) : Prop where
  -- There is one connection at most.  What is written to it, but for what keeps it going, is a start of the
  -- introduction, the publication and the leave; what the broker receives is a start of what is
  -- written.
  traffic : (run env dotenv read c).traffic = [] ∨
    ∃ s d t, Prepared env dotenv read s d ∧ (run env dotenv read c).traffic = [t] ∧
      Mqtt.Traffic.received t <+: Mqtt.Traffic.written t ∧
      Mqtt.ownPackets (Mqtt.Traffic.written t) <+:
        [.connect (introduction s c), .publish 1 (publication s d), .disconnect]
  -- The exit code is zero if and only if a poll within the time limit reports an acknowledgement of
  -- the publication that was read when the publication had been written.
  delivered : (run env dotenv read c).exitCode = 0 ↔
    ∃ s d w before behind, Prepared env dotenv read s d ∧
      (.event (.incoming (.receipt .acknowledged 1)), w) ∈ (queued s d c).polls c.delivery ∧
      w.traffic = [before ++ .read (.receipt .acknowledged 1) :: behind] ∧
      .publish 1 (publication s d) ∈ Mqtt.Traffic.written before
  leave : ∀ t ∈ (run env dotenv read c).traffic, .disconnect ∈ Mqtt.Traffic.written t →
    (run env dotenv read c).exitCode = 0
  -- Any other exit code is one, and then the last line of the log, and no other, is an error: the
  -- problem in words.
  failed : (run env dotenv read c).exitCode ≠ 0 → (run env dotenv read c).exitCode = 1 ∧
    ∃ p before, (run env dotenv read c).ending = .failed p ∧ before.IsCalm ∧
      (run env dotenv read c).log = before ++ [line .error p.message]
  calm : (run env dotenv read c).exitCode = 0 → (run env dotenv read c).log.IsCalm
  steady : ∀ turns,
    (run env dotenv read { c with leave := turns }).exitCode = (run env dotenv read c).exitCode
  ends : ∀ s d, Prepared env dotenv read s d →
    ((queued s d c).await s.timeLimit c.delivery).1 = .ok () →
    (((queued s d c).await s.timeLimit c.delivery).2.1.shutdown s.timeLimit c.leave).1 ≠ .stuck

/-- The ways that a run can take when its environment can be topped up. -/
inductive Course (env : Environment) (dotenv : Option ByteArray)
    (read : String → Folder.FileResult) (c : Circumstances) : Run → Prop where
  | unprepared {p : Problem} {log : Log} (h : ∀ s d, ¬Prepared env dotenv read s d)
      (hlog : log.IsCalm) : Course env dotenv read c (.failed p log [])
  | undelivered {s : Settings} {d : Definition} {u : Mqtt.Session.Undelivered} {p : Problem}
      {log : Log} (h : Prepared env dotenv read s d)
      (hwait : ((queued s d c).await s.timeLimit c.delivery).1 = .error u) (hlog : log.IsCalm) :
      Course env dotenv read c
        (.failed p log ((queued s d c).await s.timeLimit c.delivery).2.1.traffic)
  | delivered {s : Settings} {d : Definition} {log : Log} (h : Prepared env dotenv read s d)
      (hwait : ((queued s d c).await s.timeLimit c.delivery).1 = .ok ()) (hlog : log.IsCalm) :
      Course env dotenv read c {
        ending := .delivered
        log
        traffic := (((queued s d c).await s.timeLimit c.delivery).2.1.shutdown s.timeLimit
          c.leave).2.1.traffic }

/-- Every run takes one of them. -/
theorem course_run {env' : Environment} (htop : env.topUp dotenv = .ok env') (c : Circumstances) :
    Course env dotenv read c (run env dotenv read c) := by
  -- settings, definition and topic decide whether the broker is ever asked
  by_cases hprepared : ∃ s d, Prepared env dotenv read s d
  · obtain ⟨s, d, h⟩ := hprepared
    obtain ⟨log, hlog, hrun⟩ := run_of_prepared h c
    rw [hrun]
    cases hwait : ((queued s d c).await s.timeLimit c.delivery).1 with
    | error u =>
      rw [deliver_of_error _ _ _ hwait]
      have hcalm := Mqtt.Session.isCalm_await s.timeLimit c.delivery (queued s d c)
      have hcourse := Course.undelivered (p := .ofUndelivered s.timeLimit u) h hwait
        (hlog.append hcalm)
      rw [Run.failed, List.append_assoc] at hcourse
      exact hcourse
    | ok =>
      obtain ⟨log', hlog', hdeliver⟩ := deliver_of_ok _ _ _ hwait
      rw [hdeliver]
      exact .delivered h hwait (hlog.append hlog')
  · have h : ∀ s d, ¬Prepared env dotenv read s d := fun s d h => hprepared ⟨s, d, h⟩
    obtain ⟨p, log, hlog, hrun⟩ := run_of_not_prepared htop h c
    rw [hrun]
    exact .unprepared h hlog

section ToppedUp

variable {env' : Environment} (htop : env.topUp dotenv = .ok env') (c : Circumstances)

include htop

/-- A run exits with zero if and only if it is prepared and the wait is successful. -/
theorem exitCode_eq_zero_iff : (run env dotenv read c).exitCode = 0 ↔
    ∃ s d, Prepared env dotenv read s d ∧
      ((queued s d c).await s.timeLimit c.delivery).1 = .ok () := by
  have hcourse : Course env dotenv read c (run env dotenv read c) := course_run htop c
  generalize run env dotenv read c = r at hcourse
  cases hcourse with
  | unprepared h hlog =>
    refine ⟨(by intro hzero; cases hzero), ?_⟩
    rintro ⟨s, d, hprepared, -⟩
    exact absurd hprepared (h s d)
  | undelivered h hwait hlog =>
    refine ⟨(by intro hzero; cases hzero), ?_⟩
    rintro ⟨s, d, hprepared, hok⟩
    obtain ⟨rfl, rfl⟩ := h.unique hprepared
    rw [hwait] at hok
    cases hok
  | delivered h hwait hlog => exact ⟨fun _ => ⟨_, _, h, hwait⟩, fun _ => rfl⟩

/-- A run that exits with anything else exits with one, and its problem is the last line of the log. -/
theorem failed_of_exitCode_ne_zero (h : (run env dotenv read c).exitCode ≠ 0) :
    (run env dotenv read c).exitCode = 1 ∧
      ∃ p before, (run env dotenv read c).ending = .failed p ∧ before.IsCalm ∧
        (run env dotenv read c).log = before ++ [line .error p.message] := by
  have hcourse : Course env dotenv read c (run env dotenv read c) := course_run htop c
  generalize run env dotenv read c = r at hcourse h
  cases hcourse with
  | unprepared _ hlog => exact ⟨rfl, _, _, rfl, hlog, rfl⟩
  | undelivered _ _ hlog => exact ⟨rfl, _, _, rfl, hlog, rfl⟩
  | delivered => exact absurd rfl h

theorem isCalm_of_exitCode_eq_zero (h : (run env dotenv read c).exitCode = 0) :
    (run env dotenv read c).log.IsCalm := by
  have hcourse : Course env dotenv read c (run env dotenv read c) := course_run htop c
  generalize run env dotenv read c = r at hcourse h
  cases hcourse with
  | unprepared => cases h
  | undelivered => cases h
  | delivered _ _ hlog => exact hlog

/-- Which runs exit with zero is decided before leave is taken, and so is the exit code. -/
theorem exitCode_eq_of_leave (turns : List Mqtt.Turn) :
    (run env dotenv read { c with leave := turns }).exitCode = (run env dotenv read c).exitCode := by
  have hsame : (run env dotenv read { c with leave := turns }).exitCode = 0 ↔
      (run env dotenv read c).exitCode = 0 := by
    rw [exitCode_eq_zero_iff htop, exitCode_eq_zero_iff htop]
    rfl
  by_cases hzero : (run env dotenv read c).exitCode = 0
  · rw [hzero]
    exact hsame.mpr hzero
  · rw [(failed_of_exitCode_ne_zero htop c hzero).1]
    exact (failed_of_exitCode_ne_zero htop _ fun h => hzero (hsame.mp h)).1

/-- All the traffic of a run is on one connection, where the introduction, the publication and the
leave come in this order. -/
theorem exists_traffic_run (read : String → Folder.FileResult) :
    (run env dotenv read c).traffic = [] ∨
      ∃ s d t, Prepared env dotenv read s d ∧ (run env dotenv read c).traffic = [t] ∧
        Mqtt.Traffic.received t <+: Mqtt.Traffic.written t ∧
        Mqtt.ownPackets (Mqtt.Traffic.written t) <+:
          Stage.left.sent (introduction s c) (publication s d) ∧
        (.disconnect ∈ Mqtt.Traffic.written t → (run env dotenv read c).exitCode = 0) := by
  have hcourse : Course env dotenv read c (run env dotenv read c) := course_run htop c
  generalize run env dotenv read c = r at hcourse
  cases hcourse with
  | unprepared => exact Or.inl rfl
  | @undelivered s d _ _ _ h =>
    obtain ⟨hwrites, -⟩ := (waiting_queued s d c).await (qos_publication s d) s.timeLimit c.delivery
    rcases hwrites with hnone | ⟨t, ht, hreceived, hwritten⟩
    · exact Or.inl hnone
    · -- the leave is not among what may have been written by then
      refine Or.inr ⟨s, d, t, h, ht, hreceived, hwritten.trans ⟨[.disconnect], rfl⟩, ?_⟩
      intro hmem
      have hleave := hwritten.subset (List.mem_filter.mpr ⟨hmem, rfl⟩)
      simp [Stage.sent] at hleave
  | @delivered s d _ h hwait =>
    obtain ⟨-, hpublished⟩ := (waiting_queued s d c).await (qos_publication s d) s.timeLimit c.delivery
    obtain ⟨_, hat⟩ := hpublished hwait
    obtain ⟨-, hwrites⟩ := hat.shutdown (qos_publication s d) s.timeLimit c.leave
    rcases hwrites with hnone | ⟨t, ht, hreceived, hwritten⟩
    · exact Or.inl hnone
    · exact Or.inr ⟨s, d, t, h, ht, hreceived, hwritten, fun _ => rfl⟩

end ToppedUp

/-- What a successful wait has seen. -/
theorem await_queued_iff (s : Settings) (d : Definition) (c : Circumstances) :
    ((queued s d c).await s.timeLimit c.delivery).1 = .ok () ↔
      ∃ w before behind,
        (.event (.incoming (.receipt .acknowledged 1)), w) ∈ (queued s d c).polls c.delivery ∧
        w.traffic = [before ++ .read (.receipt .acknowledged 1) :: behind] ∧
        .publish 1 (publication s d) ∈ Mqtt.Traffic.written before := by
  rw [Mqtt.Session.await_ok_iff]
  constructor
  · rintro ⟨id, w, hmem⟩
    obtain ⟨rfl, before, behind, htraffic, hbefore⟩ :=
      (waiting_queued s d c).acknowledged (qos_publication s d) hmem
    exact ⟨w, before, behind, hmem, htraffic, hbefore⟩
  · rintro ⟨w, before, behind, hmem, -⟩
    exact ⟨1, w, hmem⟩

/-- A run whose environment can be topped up is lawful. -/
theorem lawful_of_topUp {env' : Environment} (htop : env.topUp dotenv = .ok env')
    (c : Circumstances) : Lawful env dotenv read c where
  traffic := by
    rcases exists_traffic_run htop c read with hnone | ⟨s, d, t, h, ht, hr, hw, -⟩
    · exact Or.inl hnone
    · exact Or.inr ⟨s, d, t, h, ht, hr, hw⟩
  delivered := by
    rw [exitCode_eq_zero_iff htop]
    constructor
    · rintro ⟨s, d, h, hok⟩
      obtain ⟨w, before, behind, hreport⟩ := (await_queued_iff s d c).mp hok
      exact ⟨s, d, w, before, behind, h, hreport⟩
    · rintro ⟨s, d, w, before, behind, h, hreport⟩
      exact ⟨s, d, h, (await_queued_iff s d c).mpr ⟨w, before, behind, hreport⟩⟩
  leave := by
    intro t ht hleave
    rcases exists_traffic_run htop c read with hnone | ⟨s, d, u, _, hu, _, _, hzero⟩
    · rw [hnone] at ht
      cases ht
    · rw [hu] at ht
      obtain rfl := List.mem_singleton.mp ht
      exact hzero hleave
  failed := failed_of_exitCode_ne_zero htop c
  calm := isCalm_of_exitCode_eq_zero htop c
  steady := exitCode_eq_of_leave htop c
  ends := by
    intro s d h hok
    obtain ⟨-, hpublished⟩ := (waiting_queued s d c).await (qos_publication s d) s.timeLimit c.delivery
    obtain ⟨_, hat⟩ := hpublished hok
    exact (hat.shutdown (qos_publication s d) s.timeLimit c.leave).1

/-- A run whose environment cannot be topped up is broken off without a word. -/
theorem run_of_fault {f : Environment.Fault} (h : env.topUp dotenv = .error f)
    (read : String → Folder.FileResult) (c : Circumstances) :
    run env dotenv read c = { ending := .brokenOff f, log := [], traffic := [] } := by
  rw [run, h]

/-- Its exit code is neither that of a success nor that of a failure. -/
theorem not_lawful_of_fault {f : Environment.Fault} (h : env.topUp dotenv = .error f)
    (read : String → Folder.FileResult) (c : Circumstances) : ¬Lawful env dotenv read c := by
  intro hlawful
  have hcode : (run env dotenv read c).exitCode = 101 := by
    rw [run_of_fault h]
    rfl
  have hfailed := hlawful.failed
  rw [hcode] at hfailed
  exact absurd (hfailed (by decide)).1 (by decide)

/-- A run is lawful if and only if its environment file asks for nothing that an environment cannot
hold. -/
theorem lawful_iff_toppedUp (env : Environment) (dotenv : Option ByteArray)
    (read : String → Folder.FileResult) (c : Circumstances) :
    Lawful env dotenv read c ↔ ∃ env', env.topUp dotenv = .ok env' := by
  constructor
  · intro hlawful
    cases htop : env.topUp dotenv with
    | ok env' => exact ⟨env', rfl⟩
    | error f => exact absurd hlawful (not_lawful_of_fault htop read c)
  · rintro ⟨env', htop⟩
    exact lawful_of_topUp htop c

/-- A run whose broker acknowledges the publication only when the client shows that it is there. -/
example : (run ⟨["NODE_CONFIG_PATH=n", "MQTT_HOST=h", "MQTT_PORT=1",
      "MQTT_PUBLISH_TIMEOUT_MS=15000"].map Environment.bytes⟩ none (fun _ => .ok "[]".toUTF8) {
      nodeId := .random 0 0
      clientId := .random 0 0
      network := .broker [[[.connAck 0], [], [.pubAck (some 1)]]]
      delivery := [.request, .request, .read 10, .ping, .read 10]
      leave := [] }).exitCode = 0 := by
  decide +kernel

/-- A value with the null character in it breaks a run off. -/
theorem not_lawful_null_character :
    ¬Lawful ⟨[]⟩ (some "MQTT_USERNAME=a\x00b\n".toUTF8) (fun _ => .error .notFound) {
      nodeId := .random 0 0
      clientId := .random 0 0
      network := .failing .deserted
      delivery := []
      leave := [] } := by
  have hfault : (Environment.topUp ⟨[]⟩ (some "MQTT_USERNAME=a\x00b\n".toUTF8)).isOk = false := by
    decide +kernel
  cases htop : Environment.topUp ⟨[]⟩ (some "MQTT_USERNAME=a\x00b\n".toUTF8) with
  | ok env =>
    rw [htop] at hfault
    cases hfault
  | error f => exact not_lawful_of_fault htop _ _

end Service

end BrokerNode
