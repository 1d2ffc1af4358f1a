import Bsord.Kernel.Entries

/-! # The handler ends

A thread that is in its handlers and cannot go back to the program has a bounded number of steps left.  One
that has raised a signal itself therefore comes to the end of its handlers and ends the process.
-/

namespace Bsord.Kernel

open Library Panic

variable {Tid : Type} [DecidableEq Tid] {σ σ' : State Tid} {t : Tid} {signal : Signal} {label : Label Tid}
  {labels : List (Label Tid)}

/-! ## The steps of one thread -/

def ownRank (t : Tid) (σ : State Tid) : Nat := cost {t} σ + if σ.ended = none then 1 else 0

/-- What a thread does in its handlers, or is delivered, uses up a part of what handlers can do. -/
theorem cost_step_lt (spent : Spent σ) (advances : label.Advances t) (idle : ¬ label.Program t)
    (step : Step σ label σ') (live : σ'.ended = none) : cost {t} σ' < cost {t} σ := by
  have delivered : ∀ {σ : State Tid} {t' : Tid} {signal : Signal} {p : Process} {interrupted : Status},
      Spent σ → (σ.deliver t' signal p interrupted).ended = none →
        cost {t} (σ.deliver t' signal p interrupted) < cost {t} σ := by
    intro σ t' signal p interrupted spent live
    refine (cost_deliver {t} spent signal p interrupted).resolve_left fun dies => ?_
    rw [dies] at live
    cases live
  have lower := cost_step {t} spent step
  obtain ⟨_, action⟩ := step
  cases action with
  | work _ _ _ | exit _ _ _ => exact absurd advances idle
  | event _ _ _ _ | ret _ _ _ _ =>
    cases advances
    simp only [Label.inHandler, Label.thread, Finset.mem_singleton, and_self, if_true] at lower
    omega
  | fault _ _ _ | abort _ _ => exact delivered spent live
  | faultMasked _ _ _ | abortAgain _ _ => cases live
  | send _ | sendMasked _ => exact advances.elim
  | @release t' other _ _ _ =>
    have still : Spent (σ.setPending t' ((σ.threads t').pending.erase other)) := spent.congr rfl rfl
    exact Nat.lt_of_lt_of_le (delivered still live) (cost_setPending _)

theorem ownRank_step (spent : Spent σ) (idle : ¬ label.Program t) (step : Step σ label σ') :
    ownRank t σ' + (if label.Advances t then 1 else 0) ≤ ownRank t σ := by
  have lower := cost_step {t} spent step
  rw [ownRank, ownRank, if_pos step.1]
  by_cases live : σ'.ended = none
  · rw [if_pos live]
    split
    case isTrue advances =>
      have less := cost_step_lt spent advances idle step live
      omega
    case isFalse => omega
  · rw [if_neg live]
    split <;> omega

/-- A thread that does not go back to the program takes a bounded number of steps. -/
theorem countP_advances_le (run : Run Step (installed Tid) labels σ) {labels' : List (Label Tid)}
    (later : Run Step σ labels' σ') (idle : ∀ label ∈ labels', ¬ label.Program t) :
    labels'.countP (Label.Advances t ·) ≤ 5 * (handlerBound + 2) + 1 := by
  have restricted : Run (restrict Step fun _ label => ¬ label.Program t) σ labels' σ' :=
    later.to_restrict fun label mem _ => idle label mem
  have count := restricted.countP_add_rank_le (Label.Advances t ·) (ownRank t) Spent
    (fun spent step => spent.step step.2) (fun spent step => by simpa using ownRank_step spent step.1 step.2)
    (spent_of_run run)
  have bound := cost_le_of_run run {t}
  have rank : ownRank t σ ≤ cost {t} σ + 1 := by
    rw [ownRank]
    split <;> omega
  omega

/-! ## A thread that panics -/

/-- **A panic comes to its end**: once a thread has raised a signal itself, it takes no more than a fixed number
    of steps, whatever the other threads do in between, and it can take one until the process has ended. -/
theorem panic_terminates {labels labels' : List (Label Tid)} {σ σ₁ σ₂ : State Tid} {label : Label Tid}
    (run : Run Step (installed Tid) labels σ) (raises : label.Synchronous t signal)
    (raise : Step σ label σ₁) (later : Run Step σ₁ labels' σ₂) :
    labels'.countP (Label.Advances t ·) ≤ 5 * (handlerBound + 2) + 1 ∧
    (σ₂.ended = none → ∃ label σ₃, label.Advances t ∧ Step σ₂ label σ₃) := by
  have setting := run.invariant Installed Installed.step fun signal => .inr (installed_disposition signal)
  have start : Panicked t signal (σ.threads t).activations σ₁ :=
    doomed_of_synchronous setting raise raises
  constructor
  · refine countP_advances_le (run.snoc raise) later fun label mem program => ?_
    exact later.never (Panicked t signal (σ.threads t).activations) Panicked.step
      (fun panicked step => (panicked step.1).no_program program step) start mem
  · intro live
    obtain ⟨p⟩ := raises.process
    have doomed := later.invariant (Panicked t signal (σ.threads t).activations) Panicked.step start live
    exact exists_advance live doomed.inside p

/-- A thread faults, prints its report and is brought to the end of the process by its own steps. -/
theorem panic_terminates_sample : ∃ (labels : List (Label Bool)) (σ₁ σ₂ : State Bool),
    Step (installed Bool) (.fault true .segv worker) σ₁ ∧ Run Step σ₁ labels σ₂ ∧
    σ₂.ended = some (.signal .segv) ∧ 0 < labels.countP (Label.Advances true ·) ∧
    labels.countP (Label.Advances true ·) ≤ 5 * (handlerBound + 2) + 1 := by
  have raise : Step (installed Bool) (.fault true .segv worker)
      ((installed Bool).enter true .segv panicAction worker (.faulting .segv)) :=
    ⟨rfl, .fault (.inl rfl) (by decide) (Thread.clear rfl)⟩
  have raises : (Label.fault true .segv worker).Synchronous true .segv := ⟨rfl, rfl⟩
  obtain ⟨labels, report, _⟩ := run_report (σ := installed Bool) (t := true) rfl rfl .segv worker
    (.faulting .segv)
  have again : Step ((installed Bool).reported true .segv worker (.faulting .segv))
      (.fault true .segv worker) (((installed Bool).reported true .segv worker (.faulting .segv)).deliver
        true .segv worker (.faulting .segv)) :=
    ⟨rfl, .fault (.inr rfl) (by decide) (Thread.clear rfl)⟩
  have own : (Label.fault true .segv worker).Advances true := rfl
  refine ⟨_, _, _, raise, report.snoc again, rfl, ?_,
    (panic_terminates (.nil _) raises raise (report.snoc again)).1⟩
  rw [List.countP_append, List.countP_singleton]
  simp [own]

end Bsord.Kernel
