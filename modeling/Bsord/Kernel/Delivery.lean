import Bsord.Library.Transition
import Bsord.Panic.Handler
import Mathlib.Logic.Function.Basic

/-! # Signals in a process of several threads

The kernel's side of the panic handler.  The disposition of a signal belongs to the process, the mask and
the pending signals to a thread, and a handler runs on top of what its thread was doing.  A step is one
event of a handler, one step of the program, the return from a handler, or a signal that is raised: by an
instruction that faults, by `abort`, or from outside.  A pending signal is delivered as soon as its thread
does not mask it, before the thread goes on.

Threads are of an arbitrary type; each has run the program since the handler was installed.  What libunwind
answers during a run of the handler is part of the step that enters it.
-/

namespace Bsord.Kernel

open Library Panic

/-- The parts of `struct sigaction` that `install_panic_handler` sets, besides the handler. -/
structure Sigaction where
  resetHand : Bool
  mask : List Signal

inductive Disposition where
  | default
  | handler (action : Sigaction)

def sigaction (signal : Signal) (action : Sigaction) (disposition : Signal → Disposition) :
    Signal → Disposition :=
  Function.update disposition signal (.handler action)

/-- `SA_RESETHAND`, and no signal masked but the one handled. -/
def panicAction : Sigaction := ⟨true, []⟩

def installPanicHandler (disposition : Signal → Disposition) : Signal → Disposition :=
  sigaction .segv panicAction (sigaction .ill panicAction (sigaction .fpe panicAction
    (sigaction .bus panicAction (sigaction .abrt panicAction disposition))))

/-! ## Threads -/

/-- What a piece of code, the program or a handler, is at. -/
inductive Status where
  | running
  /-- An instruction that raises the signal whenever it is executed. -/
  | faulting (signal : Signal)
  /-- Inside `abort`, after it has raised SIGABRT for the first time. -/
  | aborting
deriving DecidableEq

/-- A handler that has been entered and has not returned. -/
structure Activation where
  report : Nat
  mask : List Signal
  todo : List Event
  /-- The status of the code that the handler returns to. -/
  interrupted : Status

/-- A thread: the status of the code it is in, and the handlers it is in, the innermost first. -/
structure Thread where
  status : Status
  activations : List Activation
  pending : List Signal

def Thread.Masks (thread : Thread) (signal : Signal) : Prop :=
  ∃ activation ∈ thread.activations, signal ∈ activation.mask

instance (thread : Thread) (signal : Signal) : Decidable (thread.Masks signal) :=
  inferInstanceAs (Decidable (∃ activation ∈ thread.activations, _))

/-- The kernel has no signal to deliver before the thread goes on. -/
def Thread.Clear (thread : Thread) : Prop := ∀ signal ∈ thread.pending, thread.Masks signal

theorem Thread.not_masks {thread : Thread} (returned : thread.activations = []) (signal : Signal) :
    ¬ thread.Masks signal := by
  intro masked
  obtain ⟨activation, mem, _⟩ := masked
  rw [returned] at mem
  exact List.not_mem_nil mem

/-! ## The process -/

/-- How the process has ended: by the default action of a signal, or with `main`. -/
inductive Ending where
  | signal (signal : Signal)
  | exit
deriving DecidableEq

structure State (Tid : Type) where
  disposition : Signal → Disposition
  threads : Tid → Thread
  /-- The runs of the handler so far; a report is numbered by its place here. -/
  entered : List (Process × Signal)
  /-- The lines written so far, with the numbers of their reports. -/
  output : List (Nat × Line)
  ended : Option Ending

/-- The process as `install_panic_handler` leaves it. -/
def installed (Tid : Type) : State Tid where
  disposition := installPanicHandler fun _ => .default
  threads _ := ⟨.running, [], []⟩
  entered := []
  output := []
  ended := none

theorem installed_disposition {Tid : Type} (signal : Signal) :
    (installed Tid).disposition signal = .handler panicAction := by
  cases signal <;> rfl

variable {Tid : Type} [DecidableEq Tid]

namespace State

def setThread (σ : State Tid) (t : Tid) (thread : Thread) : State Tid :=
  { σ with threads := Function.update σ.threads t thread }

def die (σ : State Tid) (signal : Signal) : State Tid := { σ with ended := some (.signal signal) }

def exit (σ : State Tid) : State Tid := { σ with ended := some .exit }

def setPending (σ : State Tid) (t : Tid) (pending : List Signal) : State Tid :=
  σ.setThread t { σ.threads t with pending }

/-- Enter the handler; under `SA_RESETHAND` the disposition is reset in the same step. -/
def enter (σ : State Tid) (t : Tid) (signal : Signal) (action : Sigaction) (p : Process)
    (interrupted : Status) : State Tid where
  disposition := if action.resetHand then Function.update σ.disposition signal .default else σ.disposition
  threads := Function.update σ.threads t
    { status := .running
      activations :=
        { report := σ.entered.length
          mask := signal :: action.mask
          todo := (panicHandler p signal.number).events
          interrupted } :: (σ.threads t).activations
      pending := (σ.threads t).pending }
  entered := σ.entered ++ [(p, signal)]
  output := σ.output
  ended := σ.ended

def deliver (σ : State Tid) (t : Tid) (signal : Signal) (p : Process) (interrupted : Status) :
    State Tid :=
  match σ.disposition signal with
  | .default => σ.die signal
  | .handler action => σ.enter t signal action p interrupted

/-- The innermost handler of the thread goes past one event; a line is written in one step. -/
def emit (σ : State Tid) (t : Tid) (activation : Activation) (event : Event) (todo : List Event)
    (outer : List Activation) : State Tid where
  disposition := σ.disposition
  threads := Function.update σ.threads t
    { σ.threads t with activations := { activation with todo } :: outer }
  entered := σ.entered
  output := σ.output ++ (lines [event]).map (activation.report, ·)
  ended := σ.ended

end State

/-! ## Steps -/

inductive Label (Tid : Type) where
  | work (t : Tid)
  | exit (t : Tid)
  | event (t : Tid)
  | ret (t : Tid)
  | fault (t : Tid) (signal : Signal) (p : Process)
  | abort (t : Tid) (p : Process)
  | send (t : Tid) (signal : Signal) (p : Process)
  | release (t : Tid) (signal : Signal) (p : Process)

/-- The steps of a process that has not ended. -/
inductive Action (σ : State Tid) : Label Tid → State Tid → Prop where
  /-- A step of the program. -/
  | work {t : Tid} (program : (σ.threads t).activations = []) (running : (σ.threads t).status = .running)
      (clear : (σ.threads t).Clear) : Action σ (.work t) σ
  /-- The step of the program in which `main` returns, whatever the other threads are at. -/
  | exit {t : Tid} (program : (σ.threads t).activations = []) (running : (σ.threads t).status = .running)
      (clear : (σ.threads t).Clear) : Action σ (.exit t) σ.exit
  | event {t : Tid} {activation : Activation} {outer : List Activation} {event : Event} {todo : List Event}
      (inner : (σ.threads t).activations = activation :: outer) (next : activation.todo = event :: todo)
      (running : (σ.threads t).status = .running) (clear : (σ.threads t).Clear) :
      Action σ (.event t) (σ.emit t activation event todo outer)
  /-- The handler returns to the instruction that it interrupted. -/
  | ret {t : Tid} {activation : Activation} {outer : List Activation}
      (inner : (σ.threads t).activations = activation :: outer) (done : activation.todo = [])
      (running : (σ.threads t).status = .running) (clear : (σ.threads t).Clear) :
      Action σ (.ret t) (σ.setThread t ⟨activation.interrupted, outer, (σ.threads t).pending⟩)
  /-- A fault of the program or of a handler, or the same one again. -/
  | fault {t : Tid} {signal : Signal} {p : Process}
      (faults : (σ.threads t).status = .running ∨ (σ.threads t).status = .faulting signal)
      (unmasked : ¬ (σ.threads t).Masks signal) (clear : (σ.threads t).Clear) :
      Action σ (.fault t signal p) (σ.deliver t signal p (.faulting signal))
  | faultMasked {t : Tid} {signal : Signal} {p : Process}
      (faults : (σ.threads t).status = .running ∨ (σ.threads t).status = .faulting signal)
      (masked : (σ.threads t).Masks signal) (clear : (σ.threads t).Clear) :
      Action σ (.fault t signal p) (σ.die signal)
  /-- `abort` unblocks SIGABRT and raises it, -/
  | abort {t : Tid} {p : Process} (running : (σ.threads t).status = .running) (clear : (σ.threads t).Clear) :
      Action σ (.abort t p) (σ.deliver t .abrt p .aborting)
  /-- and when the handler returns, raises it again with the default action. -/
  | abortAgain {t : Tid} {p : Process} (aborting : (σ.threads t).status = .aborting)
      (clear : (σ.threads t).Clear) :
      Action σ (.abort t p) (σ.die .abrt)
  | send {t : Tid} {signal : Signal} {p : Process} (unmasked : ¬ (σ.threads t).Masks signal) :
      Action σ (.send t signal p) (σ.deliver t signal p (σ.threads t).status)
  | sendMasked {t : Tid} {signal : Signal} {p : Process} (masked : (σ.threads t).Masks signal) :
      Action σ (.send t signal p) (σ.setPending t ((σ.threads t).pending.insert signal))
  /-- A pending signal is delivered once it is unmasked, of several any one. -/
  | release {t : Tid} {signal : Signal} {p : Process} (waits : signal ∈ (σ.threads t).pending)
      (unmasked : ¬ (σ.threads t).Masks signal) :
      Action σ (.release t signal p) ((σ.setPending t ((σ.threads t).pending.erase signal)).deliver t
        signal p (σ.threads t).status)

def Step (σ : State Tid) (label : Label Tid) (σ' : State Tid) : Prop := σ.ended = none ∧ Action σ label σ'

end Bsord.Kernel
