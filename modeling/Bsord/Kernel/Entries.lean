import Bsord.Kernel.Fatal
import Mathlib.Algebra.BigOperators.Group.Finset.Basic
import Mathlib.Data.List.Nodup
import Mathlib.Data.List.Perm.Subperm

/-! # How often the handler is entered

The dispositions of the process remember which reports have been started: entering the handler resets that
of its signal, and nothing sets it again.  So each signal enters the handler once, and handlers are nested no
deeper than there are signals.  Each report is a bounded number of steps, and with the number of reports the
steps of all handlers are bounded too, on however many threads and whatever happens in between.
-/

namespace Bsord.Kernel

open Library Panic

variable {Tid : Type} {σ σ' : State Tid} {t : Tid} {signal : Signal} {ts : Finset Tid} {label : Label Tid}
  {labels : List (Label Tid)}

def State.started (σ : State Tid) : List Signal := σ.entered.map Prod.snd

/-! ## The dispositions -/

/-- The signals of the reports started are back to their default, and the others have the handler. -/
structure Spent (σ : State Tid) : Prop where
  once : σ.started.Nodup
  disposition : ∀ signal,
    σ.disposition signal = if signal ∈ σ.started then .default else .handler panicAction

theorem Spent.installed : Spent (installed Tid) where
  once := .nil
  disposition := installed_disposition

theorem Spent.congr (spent : Spent σ) (entered : σ'.entered = σ.entered)
    (disposition : σ'.disposition = σ.disposition) : Spent σ' := by
  have started : σ'.started = σ.started := by
    rw [State.started, State.started, entered]
  refine ⟨started ▸ spent.once, fun signal => ?_⟩
  rw [disposition, started]
  exact spent.disposition signal

theorem Spent.default (spent : Spent σ) (started : signal ∈ σ.started) :
    σ.disposition signal = .default := by
  rw [spent.disposition, if_pos started]

theorem Spent.length_le (spent : Spent σ) : σ.entered.length ≤ 5 := by
  have all : σ.started ⊆ [.abrt, .bus, .fpe, .ill, .segv] := by
    intro signal _
    cases signal <;> decide
  have length := (List.subperm_of_subset spent.once all).length_le
  rwa [State.started, List.length_map] at length

/-! ## The handlers -/

theorem Ordered.length_activations_le (ordered : Ordered σ) {ts : List Tid} (distinct : ts.Nodup) :
    (ts.flatMap fun t => (σ.threads t).activations).length ≤ σ.entered.length := by
  have reports : (ts.flatMap fun t => (σ.threads t).activations).map Activation.report =
      ts.flatMap σ.reports := List.map_flatMap
  have nodup : (ts.flatMap σ.reports).Nodup :=
    List.nodup_flatMap.mpr ⟨fun t _ => ordered.nested t, distinct.imp (ordered.apart _ _)⟩
  have below : ts.flatMap σ.reports ⊆ List.range σ.entered.length := by
    intro report mem
    obtain ⟨t, _, mem⟩ := List.mem_flatMap.mp mem
    exact List.mem_range.mpr (ordered.numbered t report mem)
  have length := (List.subperm_of_subset nodup below).length_le
  rwa [← reports, List.length_map, List.length_range] at length

variable [DecidableEq Tid]

theorem Spent.deliver (spent : Spent σ) (signal : Signal) (p : Process) (interrupted : Status) :
    Spent (σ.deliver t signal p interrupted) := by
  by_cases started : signal ∈ σ.started
  · rw [State.deliver, spent.default started]
    exact spent.congr rfl rfl
  · have handled := spent.disposition signal
    rw [if_neg started] at handled
    rw [State.deliver, handled]
    have log : (σ.enter t signal panicAction p interrupted).started = σ.started ++ [signal] :=
      List.map_append
    constructor
    · show (σ.enter t signal panicAction p interrupted).started.Nodup
      rw [log]
      exact List.nodup_append_comm.mp (List.nodup_cons.mpr ⟨started, spent.once⟩)
    · intro other
      show (σ.enter t signal panicAction p interrupted).disposition other =
        if other ∈ (σ.enter t signal panicAction p interrupted).started then _ else _
      rw [log, enter_disposition rfl, Function.update_apply, spent.disposition]
      by_cases here : other = signal
      · simp [here]
      · simp [here]

theorem Spent.step (spent : Spent σ) (step : Step σ label σ') : Spent σ' := by
  obtain ⟨_, action⟩ := step
  cases action with
  | fault _ _ _ | abort _ _ | send _ => exact spent.deliver _ _ _
  | release _ _ => exact Spent.deliver (σ := σ.setPending _ _) (spent.congr rfl rfl) _ _ _
  | work _ _ _ | exit _ _ _ | event _ _ _ _ | ret _ _ _ _ | faultMasked _ _ _ | abortAgain _ _
  | sendMasked _ =>
    exact spent.congr rfl rfl

theorem spent_of_run (run : Run Step (installed Tid) labels σ) : Spent σ :=
  run.invariant Spent Spent.step Spent.installed

/-! ## The cost -/

/-- What the thread has to do before its handlers have returned. -/
def Thread.rest (thread : Thread) : Nat :=
  (thread.activations.map fun activation => activation.todo.length + 1).sum

/-- What the handlers of some threads can still do: those of the reports not yet started, and those of the
    handlers active now. -/
def cost (ts : Finset Tid) (σ : State Tid) : Nat :=
  (5 - σ.entered.length) * (handlerBound + 2) + ∑ t ∈ ts, (σ.threads t).rest

theorem sum_rest_of_ne {thread : Thread} (threads : σ'.threads = Function.update σ.threads t thread)
    (absent : t ∉ ts) : ∑ t ∈ ts, (σ'.threads t).rest = ∑ t ∈ ts, (σ.threads t).rest := by
  apply Finset.sum_congr rfl
  intro other mem
  have different : other ≠ t := fun same => absent (same ▸ mem)
  rw [threads, Function.update_of_ne different]

theorem sum_rest_update {thread : Thread} (threads : σ'.threads = Function.update σ.threads t thread)
    (mem : t ∈ ts) : ∑ t ∈ ts, (σ'.threads t).rest + (σ.threads t).rest =
      ∑ t ∈ ts, (σ.threads t).rest + thread.rest := by
  have same : ∑ other ∈ ts.erase t, (σ'.threads other).rest =
      ∑ other ∈ ts.erase t, (σ.threads other).rest :=
    sum_rest_of_ne threads (Finset.notMem_erase t ts)
  rw [← Finset.add_sum_erase ts _ mem, ← Finset.add_sum_erase ts (fun t => (σ.threads t).rest) mem, same,
    threads, Function.update_self]
  omega

theorem cost_update_le {thread : Thread} (threads : σ'.threads = Function.update σ.threads t thread)
    (entered : σ'.entered = σ.entered) (rest : thread.rest ≤ (σ.threads t).rest) :
    cost ts σ' ≤ cost ts σ := by
  rw [cost, cost, entered]
  by_cases mem : t ∈ ts
  · have sum := sum_rest_update threads mem
    omega
  · rw [sum_rest_of_ne threads mem]

omit [DecidableEq Tid] in
theorem cost_congr (threads : σ'.threads = σ.threads) (entered : σ'.entered = σ.entered) :
    cost ts σ' = cost ts σ := by
  rw [cost, cost, threads, entered]

/-- A delivery ends the process, or starts a report that pays for its handler. -/
theorem cost_deliver (ts : Finset Tid) (spent : Spent σ) (signal : Signal) (p : Process) (interrupted : Status) :
    σ.deliver t signal p interrupted = σ.die signal ∨
      cost ts (σ.deliver t signal p interrupted) < cost ts σ := by
  have length := (spent.deliver (t := t) signal p interrupted).length_le
  cases disposition : σ.disposition signal with
  | default => exact .inl (by rw [State.deliver, disposition])
  | handler action =>
    have enters : σ.deliver t signal p interrupted = σ.enter t signal action p interrupted := by
      rw [State.deliver, disposition]
    rw [enters] at length ⊢
    have started : (σ.enter t signal action p interrupted).entered.length = σ.entered.length + 1 :=
      List.length_append
    have script := length_events_panicHandler_le p signal.number
    rw [cost, cost, started]
    rw [started] at length
    -- Of the handlers that may still be entered there is one fewer, and its script costs no more than that.
    have fewer : (5 - σ.entered.length) * (handlerBound + 2) =
        (5 - (σ.entered.length + 1)) * (handlerBound + 2) + (handlerBound + 2) := by
      rw [← Nat.succ_mul]
      congr 1
      omega
    have threads : (σ.enter t signal action p interrupted).threads = Function.update σ.threads t _ := rfl
    right
    by_cases mem : t ∈ ts
    · have sum := sum_rest_update threads mem
      simp only [Thread.rest, List.map_cons, List.sum_cons] at sum ⊢
      omega
    · rw [sum_rest_of_ne threads mem]
      omega

theorem cost_deliver_le (spent : Spent σ) (signal : Signal) (p : Process) (interrupted : Status) :
    cost ts (σ.deliver t signal p interrupted) ≤ cost ts σ := by
  cases cost_deliver ts spent signal p interrupted with
  | inl dies =>
    rw [dies]
    exact Nat.le_of_eq (cost_congr rfl rfl)
  | inr lower => exact Nat.le_of_lt lower

/-! ## All threads -/

def Label.thread : Label Tid → Tid
  | .work t | .exit t | .event t | .ret t | .fault t _ _ | .abort t _ | .send t _ _ | .release t _ _ => t

theorem cost_setPending (pending : List Signal) : cost ts (σ.setPending t pending) ≤ cost ts σ :=
  cost_update_le rfl rfl (Nat.le_refl _)

theorem cost_step (ts : Finset Tid) (spent : Spent σ) (step : Step σ label σ') :
    cost ts σ' + (if label.inHandler ∧ label.thread ∈ ts then 1 else 0) ≤ cost ts σ := by
  obtain ⟨_, action⟩ := step
  cases action with
  | work _ _ _ => simp [Label.inHandler]
  | exit _ _ _ =>
    have same : cost ts σ.exit = cost ts σ := cost_congr rfl rfl
    simp [Label.inHandler, same]
  | @event t activation outer event todo inner next _ _ =>
    have threads : (σ.emit t activation event todo outer).threads = Function.update σ.threads t _ := rfl
    by_cases mem : t ∈ ts
    · have sum := sum_rest_update threads mem
      simp only [Thread.rest, inner, next, List.map_cons, List.sum_cons, List.length_cons] at sum
      simp only [cost, Thread.rest, Label.inHandler, Label.thread, mem, State.emit, and_self, if_true]
      simp only [State.emit] at sum
      omega
    · rw [if_neg fun both => mem both.2, Nat.add_zero]
      refine cost_update_le rfl rfl ?_
      simp [Thread.rest, inner, next]
  | @ret t activation outer inner done _ _ =>
    have threads : (σ.setThread t ⟨activation.interrupted, outer, (σ.threads t).pending⟩).threads =
      Function.update σ.threads t _ := rfl
    by_cases mem : t ∈ ts
    · have sum := sum_rest_update threads mem
      simp only [Thread.rest, inner, done, List.map_cons, List.sum_cons, List.length_nil] at sum
      simp only [cost, Thread.rest, Label.inHandler, Label.thread, mem, State.setThread, and_self, if_true]
      simp only [State.setThread] at sum
      omega
    · rw [if_neg fun both => mem both.2, Nat.add_zero]
      refine cost_update_le rfl rfl ?_
      simp [Thread.rest, inner]
  | fault _ _ _ | abort _ _ | send _ => simpa [Label.inHandler] using cost_deliver_le spent _ _ _
  | @faultMasked _ signal _ _ _ _ =>
    have same : cost ts (σ.die signal) = cost ts σ := cost_congr rfl rfl
    simp [Label.inHandler, same]
  | abortAgain _ _ =>
    have same : cost ts (σ.die .abrt) = cost ts σ := cost_congr rfl rfl
    simp [Label.inHandler, same]
  | sendMasked _ => simpa [Label.inHandler] using cost_setPending _
  | @release t other p waits _ =>
    have still : Spent (σ.setPending t ((σ.threads t).pending.erase other)) := spent.congr rfl rfl
    simpa [Label.inHandler] using Nat.le_trans (cost_deliver_le still _ _ _) (cost_setPending _)

omit [DecidableEq Tid] in
theorem cost_installed (ts : Finset Tid) : cost ts (installed Tid) = 5 * (handlerBound + 2) := by
  simp [cost, installed, Thread.rest]

theorem cost_le_of_run (run : Run Step (installed Tid) labels σ) (ts : Finset Tid) :
    cost ts σ ≤ 5 * (handlerBound + 2) := by
  have both := run.invariant (fun σ => Spent σ ∧ cost ts σ ≤ 5 * (handlerBound + 2))
    (fun both step => ⟨both.1.step step, by
      have lower := cost_step ts both.1 step
      omega⟩)
    ⟨.installed, Nat.le_of_eq (cost_installed ts)⟩
  exact both.2

/-- **All handlers together are bounded**: in every run of the process, on however many threads, the handlers
    make no more than a fixed number of steps, which does not depend on the stacks they walk. -/
theorem handlers_bounded (run : Run Step (installed Tid) labels σ) :
    labels.countP Label.inHandler ≤ 5 * (handlerBound + 2) := by
  let ts := (labels.map Label.thread).toFinset
  have within : ∀ label ∈ labels, label.thread ∈ ts := by
    intro label mem
    exact List.mem_toFinset.mpr (List.mem_map_of_mem mem)
  have bounded := run.countP_add_rank_le (fun label => label.inHandler && decide (label.thread ∈ ts))
    (cost ts) Spent Spent.step (fun spent step => by simpa using cost_step ts spent step) .installed
  have same : labels.countP (fun label => label.inHandler && decide (label.thread ∈ ts)) =
      labels.countP Label.inHandler := by
    apply List.countP_congr
    intro label mem
    simp [within label mem]
  rw [same, cost_installed] at bounded
  omega

theorem handlers_bounded_sample : ∃ (labels : List (Label Bool)) (σ : State Bool),
    Run Step (installed Bool) labels σ ∧ labels.countP Label.inHandler ≤ 5 * (handlerBound + 2) ∧
      σ.output = (script (worker, .segv)).map (0, ·) := by
  have raise : Step (installed Bool) (.fault true .segv worker)
      ((installed Bool).enter true .segv panicAction worker (.faulting .segv)) :=
    ⟨rfl, .fault (.inl rfl) (by decide) (Thread.clear rfl)⟩
  obtain ⟨labels, report, _⟩ := run_report (σ := installed Bool) (t := true) rfl rfl .segv worker
    (.faulting .segv)
  have run := Run.cons raise report
  exact ⟨_, _, run, handlers_bounded run, rfl⟩

end Bsord.Kernel
