import Bsord.System.Disconnect
import Bsord.Kernel.Termination

/-! # A worker that crashes

The system together with the signals of the server's process.  A step of `main` or of a worker is one of the
program that its thread runs, so a panic stops it; the return of `main` ends the process, and a signal whose
default action ends it takes the whole server away.
-/

namespace Bsord.System

open Library Client

/-! ## The machine -/

/-- The threads of the server. -/
inductive Thread where
  | main
  | worker (connection : Nat)
deriving DecidableEq

/-- The thread of the server that takes the step.  The kernel takes the data of a `send` for the thread that
    is in the call. -/
def Label.thread? : Label → Option Thread
  | .server (.work connection _) | .pushDown connection _ => some (.worker connection)
  | .server (.accept _) | .server (.pthreadCreate _) | .server .ret => some .main
  | .connect _ _ | .hangUp _ | .send _ _ | .pushUp _ _ | .receive _ _ | .resetUp _ | .resetDown _ | .kill => none

/-- What the step is for the kernel: the process ends when `main` returns. -/
def Label.kernel? (label : Label) : Option (Kernel.Label Thread) :=
  match label with
  | .server .ret => some (.exit .main)
  | label => label.thread?.map .work

structure Machine where
  system : State
  kernel : Kernel.State Thread

/-- The server listens, and `install_panic_handler` has been called before. -/
def booted (serverSock : Nat) : Machine := ⟨listening serverSock, Kernel.installed Thread⟩

/-- The thread has been created and has not returned. -/
def State.Has (s : State) : Thread → Prop
  | .main => True
  | .worker connection => ∃ w, s.server.workers connection = some w ∧ w.pc ≠ .done

inductive MachineLabel where
  | net (label : Label)
  /-- A step of the kernel's, or of a handler's, that the process survives. -/
  | signal (label : Kernel.Label Thread)
  | fatal (label : Kernel.Label Thread)

inductive Machine.Step (capacity : Nat) (m : Machine) : MachineLabel → Machine → Prop where
  | net {label : Label} {system : State} {kernel : Kernel.State Thread}
      (step : System.Step capacity m.system label system)
      (runs : ∀ seen, label.kernel? = some seen → Kernel.Step m.kernel seen kernel)
      (rests : label.kernel? = none → kernel = m.kernel) : Step capacity m (.net label) ⟨system, kernel⟩
  | signal {label : Kernel.Label Thread} {kernel : Kernel.State Thread} (running : m.system.running = true)
      (present : m.system.Has label.thread) (other : ∀ t, ¬ label.Program t)
      (step : Kernel.Step m.kernel label kernel) (live : kernel.ended = none) :
      Step capacity m (.signal label) { m with kernel }
  | fatal {label : Kernel.Label Thread} {kernel : Kernel.State Thread} (running : m.system.running = true)
      (present : m.system.Has label.thread) (other : ∀ t, ¬ label.Program t)
      (step : Kernel.Step m.kernel label kernel) (ended : kernel.ended ≠ none) :
      Step capacity m (.fatal label) { system := m.system.exit, kernel }

/-! ## Its two sides -/

def MachineLabel.system? : MachineLabel → Option Label
  | .net label => some label
  | .signal _ => none
  | .fatal _ => some .kill

def MachineLabel.kernel? : MachineLabel → Option (Kernel.Label Thread)
  | .net label => label.kernel?
  | .signal label | .fatal label => some label

variable {capacity connection : Nat} {m m' m₁ m₂ : Machine} {label : MachineLabel}
  {labels labels' : List MachineLabel} {v v' : View} {w : Server.Worker}

theorem Machine.Step.system (step : Machine.Step capacity m label m') {seen : Label}
    (same : label.system? = some seen) : System.Step capacity m.system seen m'.system := by
  cases step with
  | net step _ _ =>
    cases same
    exact step
  | signal _ _ _ _ _ => cases same
  | fatal running _ _ _ _ =>
    cases same
    exact .kill running

theorem Machine.Step.system_eq (step : Machine.Step capacity m label m') (unseen : label.system? = none) :
    m'.system = m.system := by
  cases step with
  | signal _ _ _ _ _ => rfl
  | net _ _ _ | fatal _ _ _ _ _ => cases unseen

theorem Machine.Step.kernel (step : Machine.Step capacity m label m') {seen : Kernel.Label Thread}
    (same : label.kernel? = some seen) : Kernel.Step m.kernel seen m'.kernel := by
  cases step with
  | net _ runs _ => exact runs seen same
  | signal _ _ _ step _ | fatal _ _ _ step _ =>
    cases same
    exact step

theorem Machine.Step.kernel_eq (step : Machine.Step capacity m label m') (unseen : label.kernel? = none) :
    m'.kernel = m.kernel := by
  cases step with
  | net _ _ rests => exact rests unseen
  | signal _ _ _ _ _ | fatal _ _ _ _ _ => cases unseen

theorem system_run (run : Run (Machine.Step capacity) m labels m') :
    Run (Step capacity) m.system (labels.filterMap MachineLabel.system?) m'.system :=
  run.project Machine.system MachineLabel.system? (fun step same => step.system same)
    fun step unseen => step.system_eq unseen

theorem kernel_run (run : Run (Machine.Step capacity) m labels m') :
    Run Kernel.Step m.kernel (labels.filterMap MachineLabel.kernel?) m'.kernel :=
  run.project Machine.kernel MachineLabel.kernel? (fun step same => step.kernel same)
    fun step unseen => step.kernel_eq unseen

/-! ## A worker that takes no more steps -/

def Foreign (connection : Nat) : MachineLabel → Prop
  | .net label => label.thread? ≠ some (.worker connection)
  | .signal _ | .fatal _ => True

/-- Only the steps of its worker change what the worker of a connection has passed on. -/
theorem View.Step.frozen {label : Label} (step : View.Step capacity connection v label v')
    (foreign : label.thread? ≠ some (.worker connection)) (thread : v.thread = some w) :
    v'.thread = some w ∧ v'.link.relayed (some w) = v.link.relayed (some w) := by
  cases step with
  | elsewhere _ | hangUp _ | send _ _ _ | pushUp _ _ _ _ | resetUp _ _ | resetDown _ _ | exit _ =>
    exact ⟨thread, rfl⟩
  | receive _ _ gives =>
    refine ⟨thread, ?_⟩
    cases gives <;> rfl
  | connect _ _ idle | start idle =>
    rw [idle] at thread
    cases thread
  | pushDown _ _ _ _ _ | work _ _ _ | serve _ _ _ => exact absurd rfl foreign

theorem Machine.Step.frozen (step : Machine.Step capacity m label m') (foreign : Foreign connection label)
    (routed : Routed m.system) (thread : m.system.server.workers connection = some w) :
    m'.system.server.workers connection = some w ∧
      (m'.system.links connection).relayed (some w) = (m.system.links connection).relayed (some w) := by
  cases seen : label.system? with
  | none =>
    rw [step.system_eq seen]
    exact ⟨thread, rfl⟩
  | some other =>
    have own : other.thread? ≠ some (.worker connection) := by
      cases label with
      | net _ =>
        cases seen
        exact foreign
      | signal _ => cases seen
      | fatal _ =>
        cases seen
        simp [Label.thread?]
    exact ((step.system seen).view routed connection).frozen own thread

theorem Machine.Step.routed (step : Machine.Step capacity m label m') (routed : Routed m.system) :
    Routed m'.system := by
  cases seen : label.system? with
  | none => exact step.system_eq seen ▸ routed
  | some other => exact routed.step (step.system seen)

theorem frozen_of_run (run : Run (Machine.Step capacity) m labels m')
    (foreign : ∀ label ∈ labels, Foreign connection label) (routed : Routed m.system)
    (thread : m.system.server.workers connection = some w) :
    m'.system.server.workers connection = some w ∧
      (m'.system.links connection).relayed (some w) = (m.system.links connection).relayed (some w) := by
  have inv := run.invariant_of_labels (Foreign connection)
    (fun m' => Routed m'.system ∧ m'.system.server.workers connection = some w ∧
      (m'.system.links connection).relayed (some w) = (m.system.links connection).relayed (some w)) foreign
    (fun foreign inv step => by
      have next := step.frozen foreign inv.1 inv.2.1
      exact ⟨step.routed inv.1, next.1, next.2.trans inv.2.2⟩)
    ⟨routed, thread, rfl⟩
  exact inv.2

theorem exists_program {label : Label} {t : Thread} (own : label.thread? = some t) :
    ∃ seen, label.kernel? = some seen ∧ seen.Program t := by
  have works : label.thread?.map Kernel.Label.work = some (.work t) := by rw [own]; rfl
  cases label with
  | server action =>
    cases action with
    | ret =>
      cases own
      exact ⟨.exit .main, rfl, rfl⟩
    | accept _ | pthreadCreate _ | work _ _ => exact ⟨.work t, works, rfl⟩
  | pushDown _ _ => exact ⟨.work t, works, rfl⟩
  | connect _ _ | hangUp _ | send _ _ | pushUp _ _ | receive _ _ | resetUp _ | resetDown _ | kill => cases own

theorem silent_of_panic {serverSock : Nat} {t : Thread} {signal : Panic.Signal}
    {raised : Kernel.Label Thread} (run : Run (Machine.Step capacity) (booted serverSock) labels m)
    (raises : raised.Synchronous t signal) (raise : Machine.Step capacity m (.signal raised) m₁)
    (later : Run (Machine.Step capacity) m₁ labels' m₂) {label : Label} (own : label.thread? = some t) :
    .net label ∉ labels' := by
  have setting := (kernel_run run).invariant Kernel.Installed Kernel.Installed.step fun signal =>
    .inr (Kernel.installed_disposition signal)
  -- From the signal on the thread is in a handler or about to raise the signal again, and never at work.
  have panicked : Kernel.Panicked t signal (m.kernel.threads t).activations m₁.kernel :=
    Kernel.doomed_of_synchronous setting (raise.kernel rfl) raises
  obtain ⟨seen, same, program⟩ := exists_program own
  have never := (kernel_run later).never _ Kernel.Panicked.step
    (fun panicked step => (panicked step.1).no_program program step) panicked
  exact fun mem => never (List.mem_filterMap.mpr ⟨.net label, mem, same⟩)

theorem run_quiet {s s' : State} {labels : List Label} (run : Run (Step capacity) s labels s')
    (stays : .server .ret ∉ labels) :
    Run (Machine.Step capacity) ⟨s, Kernel.installed Thread⟩ (labels.map .net)
      ⟨s', Kernel.installed Thread⟩ := by
  induction run with
  | nil => exact .nil _
  | @snoc _ _ labels label _ step ih =>
    simp only [List.mem_append, List.mem_singleton, not_or] at stays
    have works : ∀ seen, label.kernel? = some seen → ∃ t, seen = .work t := by
      intro seen same
      unfold Label.kernel? at same
      split at same
      case h_1 => exact absurd rfl stays.2
      case h_2 =>
        obtain ⟨t, _, rfl⟩ := Option.map_eq_some_iff.mp same
        exact ⟨t, rfl⟩
    rw [List.map_append]
    refine (ih stays.1).snoc (.net step (fun seen same => ?_) fun _ => rfl)
    obtain ⟨t, rfl⟩ := works seen same
    exact ⟨rfl, .work rfl rfl (Kernel.Thread.clear rfl)⟩

end Bsord.System
