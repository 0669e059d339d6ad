/-
BrokerNode/Proofs/Runs.lean

Runs: actions performed one after the other.

Performing an action gives an outcome, the state afterwards and log lines; a run lists the outcomes with
their lines and ends in the last state.  So do the runs on a bench and on an outbox.  A run with one more
action performs it in the state in which the run ended (`IsRun.concat`), so what is proved of the action
that comes next, after any run, is proved of every action of every run.
-/
import BrokerNode.Log

namespace BrokerNode

/-- A run does one action after the other. -/
structure IsRun {σ α β : Type} (perform : σ → α → β × σ × Log)
    (run : σ → List α → List (β × Log) × σ) : Prop where
  nil : ∀ s, run s [] = ([], s)
  cons : ∀ s a actions, run s (a :: actions) =
    (((perform s a).1, (perform s a).2.2) :: (run (perform s a).2.1 actions).1,
      (run (perform s a).2.1 actions).2)

namespace IsRun

variable {σ α β : Type} {perform : σ → α → β × σ × Log} {run : σ → List α → List (β × Log) × σ}

/-- A run with one more action. -/
theorem concat (h : IsRun perform run) (s : σ) (actions : List α) (a : α) :
    run s (actions ++ [a]) =
      ((run s actions).1 ++ [((perform (run s actions).2 a).1, (perform (run s actions).2 a).2.2)],
        (perform (run s actions).2 a).2.1) := by
  induction actions generalizing s with
  | nil =>
    rw [List.nil_append, h.cons, h.nil, h.nil]
    rfl
  | cons b actions ih =>
    rw [List.cons_append, h.cons, h.cons, ih]
    rfl

end IsRun

end BrokerNode
