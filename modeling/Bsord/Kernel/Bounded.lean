import Bsord.Kernel.Termination

/-! # A signal that comes back

A signal whose report has been started has the default disposition, so that it ends the process when it is
raised again.  Only when it is sent to the thread that is inside its handler does this wait, and then the
thread has nothing left to do but to leave the handler.
-/

namespace Bsord.Kernel

open Library Panic

variable {Tid : Type} [DecidableEq Tid] {σ σ' : State Tid} {t : Tid} {signal : Signal} {label : Label Tid}
  {labels : List (Label Tid)}

def Label.Raises (t : Tid) (signal : Signal) : Label Tid → Prop
  | .fault t' raised _ | .send t' raised _ => t' = t ∧ raised = signal
  | .abort t' _ => t' = t ∧ signal = .abrt
  | .work _ | .exit _ | .event _ | .ret _ | .release _ _ _ => False

/-- A signal with the default disposition waits for the thread to leave the handler that masks it. -/
structure Held (t : Tid) (signal : Signal) (σ : State Tid) : Prop where
  pending : signal ∈ (σ.threads t).pending
  default : σ.disposition signal = .default

theorem deliver_default {p : Process} {interrupted : Status} (default : σ.disposition signal = .default) :
    (σ.deliver t signal p interrupted).ended = some (.signal signal) := by
  rw [State.deliver, default]
  rfl

theorem Held.deliver (held : Held t signal σ) {t' : Tid} {other : Signal} {p : Process}
    {interrupted : Status} : Held t signal (σ.deliver t' other p interrupted) := by
  simp only [State.deliver]
  split
  case h_1 => exact ⟨held.pending, held.default⟩
  case h_2 =>
    refine ⟨?_, enter_default held.default⟩
    simp only [State.enter, Function.update_apply]
    split
    case isTrue here => exact here ▸ held.pending
    case isFalse => exact held.pending

theorem Held.update (held : Held t signal σ) {t' : Tid} {thread : Thread}
    (threads : σ'.threads = Function.update σ.threads t' thread) (dispositions : σ'.disposition = σ.disposition)
    (own : t' = t → signal ∈ thread.pending) : Held t signal σ' where
  pending := thread_update (P := fun thread => signal ∈ thread.pending) threads held.pending own
  default := by rw [dispositions, held.default]

theorem Held.step (held : Held t signal σ) (step : Step σ label σ')
    (live : σ'.ended = none) : Held t signal σ' := by
  obtain ⟨_, action⟩ := step
  cases action with
  | work _ _ _ => exact held
  | event _ _ _ _ | ret _ _ _ _ =>
    refine held.update rfl rfl fun here => ?_
    rw [here]
    exact held.pending
  | fault _ _ _ | abort _ _ | send _ => exact held.deliver
  | exit _ _ _ | faultMasked _ _ _ | abortAgain _ _ => cases live
  | sendMasked _ =>
    refine held.update rfl rfl fun here => ?_
    rw [here]
    exact List.mem_insert_of_mem held.pending
  | @release t' other p waits unmasked =>
    by_cases same : t' = t ∧ other = signal
    · -- The signal itself is delivered, which ends the process.
      obtain ⟨rfl, rfl⟩ := same
      rw [deliver_default (by exact held.default)] at live
      cases live
    · have still : Held t signal (σ.setPending t' ((σ.threads t').pending.erase other)) := by
        refine held.update rfl rfl fun here => ?_
        have different : signal ≠ other := fun equal => same ⟨here, equal.symm⟩
        rw [here]
        exact (List.mem_erase_of_ne different).mpr held.pending
      exact still.deliver

omit [DecidableEq Tid] in
theorem Held.of_clear (held : Held t signal σ) (clear : (σ.threads t).Clear) : (σ.threads t).activations ≠ [] :=
  fun returned => Thread.not_masks returned signal (clear signal held.pending)

theorem Held.no_program (held : Held t signal σ) (program : label.Program t) : ¬ Step σ label σ' := by
  intro step
  obtain ⟨_, action⟩ := step
  cases action with
  | work idle _ clear | exit idle _ clear =>
    cases program
    exact held.of_clear clear idle
  | event _ _ _ _ | ret _ _ _ _ | fault _ _ _ | faultMasked _ _ _ | abort _ _ | abortAgain _ _ | send _
  | sendMasked _ | release _ _ => exact program.elim

theorem Held.no_own (held : Held t signal σ) (unmasked : ¬ (σ.threads t).Masks signal) (own : label.Own t) :
    ¬ Step σ label σ' := by
  intro step
  obtain ⟨_, action⟩ := step
  cases action with
  | work _ _ clear | exit _ _ clear | event _ _ _ clear | ret _ _ _ clear | fault _ _ clear
  | faultMasked _ _ clear | abort _ clear | abortAgain _ clear =>
    cases own
    exact unmasked (clear signal held.pending)
  | send _ | sendMasked _ | release _ _ => exact own.elim

theorem Held.release (held : Held t signal σ) (live : σ.ended = none)
    (unmasked : ¬ (σ.threads t).Masks signal) (p : Process) : ∃ σ', Step σ (.release t signal p) σ' :=
  ⟨_, live, .release held.pending unmasked⟩

theorem Held.ends (held : Held t signal σ) {p : Process} (step : Step σ (.release t signal p) σ') :
    σ'.ended = some (.signal signal) := by
  obtain ⟨_, action⟩ := step
  cases action with
  | release _ _ => exact deliver_default (by exact held.default)

theorem Held.progress (held : Held t signal σ) (live : σ.ended = none) (p : Process) :
    ∃ label σ', label.Advances t ∧ Step σ label σ' := by
  by_cases masked : (σ.threads t).Masks signal
  · exact exists_advance live (fun _ returned => Thread.not_masks returned signal masked) p
  · obtain ⟨σ', step⟩ := held.release live masked p
    exact ⟨.release t signal p, σ', rfl, step⟩

/-- From here on the thread never runs the program, takes no more than a fixed number of steps, and can take
    one as long as the process lives.  The delivery of the signal ends the process by it, and as soon as the
    thread does not mask the signal, that can happen, and the thread goes no further without a delivery. -/
def EndsOnReturn (t : Tid) (signal : Signal) (σ : State Tid) : Prop :=
  ∀ labels σ', Run Step σ labels σ' →
    (∀ label ∈ labels, ¬ label.Program t) ∧
    labels.countP (Label.Advances t ·) ≤ 5 * (handlerBound + 2) + 1 ∧
    (σ'.ended = none → ∀ p,
      (∃ label σ'', label.Advances t ∧ Step σ' label σ'') ∧
      (∀ σ'', Step σ' (.release t signal p) σ'' → σ''.ended = some (.signal signal)) ∧
      (¬ (σ'.threads t).Masks signal → (∃ σ'', Step σ' (.release t signal p) σ'') ∧
        ∀ label σ'', label.Own t → ¬ Step σ' label σ''))

theorem Held.endsOnReturn (run : Run Step (installed Tid) labels σ) (held : Held t signal σ) :
    EndsOnReturn t signal σ := by
  intro labels' σ' later
  let Waits (σ : State Tid) : Prop := σ.ended = none → Held t signal σ
  have preserved {σ label σ'} (waits : Waits σ) (step : Step σ label σ') : Waits σ' :=
    (waits step.1).step step
  have start : Waits σ := fun _ => held
  have idle : ∀ label ∈ labels', ¬ label.Program t := fun label mem program =>
    later.never Waits preserved (fun waits step => (waits step.1).no_program program step) start mem
  refine ⟨idle, countP_advances_le run later idle, fun live p => ?_⟩
  have held := later.invariant Waits preserved start live
  exact ⟨held.progress live p, fun σ'' step => held.ends step,
    fun unmasked => ⟨held.release live unmasked p, fun label σ'' own => held.no_own unmasked own⟩⟩

/-- A signal that is raised again ends the process at once, unless it is sent to the thread in its handler. -/
theorem Spent.raise (spent : Spent σ) (started : signal ∈ σ.started) (raises : label.Raises t signal)
    (step : Step σ label σ') :
    σ'.ended = some (.signal signal) ∨
      ((∃ p, label = .send t signal p) ∧ (σ.threads t).Masks signal ∧ Held t signal σ') := by
  have default := spent.default started
  obtain ⟨_, action⟩ := step
  cases action with
  | fault _ _ _ | abort _ _ | send _ =>
    obtain ⟨rfl, rfl⟩ := raises
    exact .inl (deliver_default default)
  | faultMasked _ _ _ | abortAgain _ _ =>
    obtain ⟨rfl, rfl⟩ := raises
    exact .inl rfl
  | @sendMasked t' raised p masked =>
    obtain ⟨rfl, rfl⟩ := raises
    refine .inr ⟨⟨p, rfl⟩, masked, ?_, default⟩
    simp only [State.setPending, State.setThread, Function.update_self]
    exact List.mem_insert_self
  | work _ _ _ | exit _ _ _ | event _ _ _ _ | ret _ _ _ _ | release _ _ => exact raises.elim

/-! ## Runs -/

/-- **The handler is bounded**: in every run each signal enters the handler at most once, so at most five
    reports are started and at most five handlers are active, nested in a thread or spread over many.  A
    signal that is raised after its report has been started ends the process at once.  Only when it is sent to
    the thread that is inside its handler it waits, and this thread then does no more than to get to the
    delivery, which ends the process. -/
theorem panic_bounded (run : Run Step (installed Tid) labels σ) :
    σ.started.Nodup ∧ σ.entered.length ≤ 5 ∧
    (∀ ts : List Tid, ts.Nodup → (ts.flatMap fun t => (σ.threads t).activations).length ≤ 5) ∧
    ∀ t signal label σ', signal ∈ σ.started → label.Raises t signal → Step σ label σ' →
      σ'.ended = some (.signal signal) ∨
        ((∃ p, label = .send t signal p) ∧ (σ.threads t).Masks signal ∧ EndsOnReturn t signal σ') := by
  have spent := spent_of_run run
  refine ⟨spent.once, spent.length_le, fun ts distinct => ?_, fun t signal label σ' started raises step => ?_⟩
  · exact Nat.le_trans ((ordered_of_run run).length_activations_le distinct) spent.length_le
  · refine (spent.raise started raises step).imp id fun deferred => ?_
    obtain ⟨sent, masked, held⟩ := deferred
    exact ⟨sent, masked, held.endsOnReturn (run.snoc step)⟩

/-- One thread faults.  While it is in the handler the same signal is raised by another thread, or sent to
    the first one. -/
theorem panic_bounded_sample : ∃ σ σ' σ'' : State Bool,
    Run Step (installed Bool) [.fault true .segv worker] σ ∧ σ.started = [.segv] ∧
      (σ.threads true).activations.length ≤ 5 ∧
      Step σ (.fault false .segv worker) σ' ∧ σ'.ended = some (.signal .segv) ∧
      Step σ (.send true .segv worker) σ'' ∧ σ''.ended = none ∧ EndsOnReturn true .segv σ'' := by
  have first : Step (installed Bool) (.fault true .segv worker)
      ((installed Bool).enter true .segv panicAction worker (.faulting .segv)) :=
    ⟨rfl, .fault (.inl rfl) (by decide) (Thread.clear rfl)⟩
  obtain ⟨_, _, active, again⟩ := panic_bounded (.single first)
  have second : Step ((installed Bool).enter true .segv panicAction worker (.faulting .segv))
      (.fault false .segv worker) _ := ⟨rfl, .fault (.inl rfl) (by decide) (Thread.clear rfl)⟩
  have sent : Step ((installed Bool).enter true .segv panicAction worker (.faulting .segv))
      (.send true .segv worker) _ :=
    ⟨rfl, .sendMasked ⟨_, List.mem_cons_self, List.mem_cons_self⟩⟩
  refine ⟨_, _, _, .single first, rfl, by simpa using active [true] (by decide), second, ?_, sent, rfl, ?_⟩
  · have raises : (Label.fault false .segv worker).Raises false .segv := ⟨rfl, rfl⟩
    refine (again false .segv _ _ List.mem_cons_self raises second).resolve_right fun deferred => ?_
    obtain ⟨⟨_, absurd⟩, _⟩ := deferred
    cases absurd
  · have raises : (Label.send true .segv worker).Raises true .segv := ⟨rfl, rfl⟩
    refine ((again true .segv _ _ List.mem_cons_self raises sent).resolve_left fun ended => ?_).2.2
    cases ended

/-- A signal that is sent to the thread in its handler does not end the process, which ends with `main`. -/
theorem panic_deferred : ∃ σ σ' σ'' : State Bool,
    Run Step (installed Bool) [.fault true .segv worker] σ ∧ .segv ∈ σ.started ∧
      Step σ (.send true .segv worker) σ' ∧ σ'.ended = none ∧
      Step σ' (.exit false) σ'' ∧ σ''.ended = some .exit := by
  have first : Step (installed Bool) (.fault true .segv worker)
      ((installed Bool).enter true .segv panicAction worker (.faulting .segv)) :=
    ⟨rfl, .fault (.inl rfl) (by decide) (Thread.clear rfl)⟩
  have sent : Step ((installed Bool).enter true .segv panicAction worker (.faulting .segv))
      (.send true .segv worker) _ :=
    ⟨rfl, .sendMasked ⟨_, List.mem_cons_self, List.mem_cons_self⟩⟩
  exact ⟨_, _, _, .single first, List.mem_cons_self, sent, rfl, ⟨rfl, .exit rfl rfl (Thread.clear rfl)⟩, rfl⟩

end Bsord.Kernel
