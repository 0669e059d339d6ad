/-
BrokerNode/Proofs/TimeLimit.lean

Time limits in messages.

A message that names a time limit ends in an amount of time, and the amount is the limit itself, neither
rounded nor cut off (`NamesLimit`).  This is so of every message that ends in the text of a duration
(`namesLimit_append`), of the problem of a run that was not acknowledged in time as well as of the line
about a leave that was not sent in time.  So limits can be told apart by their messages
(`NamesLimit.unique`), and the log of a run that ends at its limit says which limit that was
(`timeLimit_isNamed`).
-/
import BrokerNode.Proofs.Service
import BrokerNode.Proofs.Text.Duration

namespace BrokerNode

open Text (Amount lastWord)

/-- A message names a time limit in milliseconds: its last word is an amount of time without superfluous
zeros, and any amount that it can be taken for is the limit. -/
structure NamesLimit (message : String) (limit : Nat) : Prop where
  tidy : ∃ a : Amount, a.IsTidy ∧ lastWord message.toList = a.text
  exact : ∀ a : Amount, a.IsProper → lastWord message.toList = a.text → a.seconds = limit / 1000

/-- A message names one limit at most. -/
theorem NamesLimit.unique {message : String} {m n : Nat} (hm : NamesLimit message m)
    (hn : NamesLimit message n) : m = n := by
  obtain ⟨a, ha, hword⟩ := hm.tidy
  have hsame : (m : ℚ) / 1000 = n / 1000 :=
    (hm.exact a ha.toIsProper hword).symm.trans (hn.exact a ha.toIsProper hword)
  field_simp at hsame
  exact_mod_cast hsame

/-- A message that ends in the text of a duration names it. -/
theorem namesLimit_append {before : String} {s : List Char} (h : before.toList = s ++ [' '])
    (limit : Nat) : NamesLimit (before ++ String.ofList (Text.duration limit)) limit := by
  have htidy := Amount.isTidy_ofMilliseconds limit
  have hword : lastWord (before ++ String.ofList (Text.duration limit)).toList =
      (Amount.ofMilliseconds limit).text := by
    rw [String.toList_append, String.toList_ofList, h, List.append_assoc, Amount.duration_eq_text]
    exact Text.lastWord_append (Amount.space_notMem_text htidy.toIsProper) s
  refine ⟨⟨_, htidy, hword⟩, ?_⟩
  intro a ha hother
  -- the last word cannot be taken for another amount
  obtain rfl := Amount.text_injective ha htidy.toIsProper (hother.symm.trans hword)
  exact Amount.seconds_ofMilliseconds limit

/-- The line about a leave that was not sent in time names the limit. -/
theorem namesLimit_leaveLine {limit : Nat} {l : Log.Line}
    (h : l ∈ Mqtt.Session.leaveLine limit .timeLimit) : NamesLimit l.message limit := by
  obtain rfl := List.mem_singleton.mp h
  exact namesLimit_append (s := "Disconnect was not flushed within".toList) (by simp) limit

namespace Service

theorem namesLimit_message (limit : Nat) : NamesLimit (Problem.timeLimit limit).message limit :=
  namesLimit_append (s := "Broker did not acknowledge the envelope within".toList) (by simp) limit

/-- The message of a run that was not acknowledged within its time limit names the limit exactly, so
different limits have different messages; and it is the last line of the log when waiting for the
delivery ends at the limit. -/
theorem timeLimit_isNamed (limit : Nat) :
    NamesLimit (Problem.timeLimit limit).message limit ∧
    (∀ other, (Problem.timeLimit other).message = (Problem.timeLimit limit).message →
      other = limit) ∧
    ∀ w c, (w.await limit c.delivery).1 = .error .timeLimit →
      (deliver limit w c).log.getLast? = some (line .error (Problem.timeLimit limit).message) := by
  have hnames := namesLimit_message limit
  refine ⟨hnames, ?_, ?_⟩
  · intro other hsame
    have hother := namesLimit_message other
    rw [hsame] at hother
    exact hother.unique hnames
  · intro w c hwait
    rw [deliver_of_error limit w c hwait, Run.failed, List.getLast?_append]
    rfl

/-- A session with a broker that takes the connection and never answers. -/
def unansweredSession : Mqtt.Session :=
  .start { clientId := "c" } (.broker [[]]) (.empty "t" true)

/-- One poll of it. -/
def onePoll : Circumstances where
  nodeId := .random 0 0
  clientId := .random 0 0
  network := unansweredSession.network
  delivery := [.request]
  leave := []

theorem timeLimit_isNamed_unanswered :
    NamesLimit "Broker did not acknowledge the envelope within 1.5s" 1500 ∧
    (Problem.timeLimit 1499).message ≠ (Problem.timeLimit 1500).message ∧
    (deliver 1500 unansweredSession onePoll).log.getLast? =
      some (line .error "Broker did not acknowledge the envelope within 1.5s") := by
  obtain ⟨hnames, hother, hlast⟩ := timeLimit_isNamed 1500
  exact ⟨hnames, fun hsame => absurd (hother 1499 hsame) (by decide),
    hlast unansweredSession onePoll rfl⟩

end Service

end BrokerNode
