import Bsord.Library.Transition
import Mathlib.Data.List.Basic

/-! # Processes that are started

The process operations of `main.py`: `start`, `stop`, `kill`, `wait` and `run`, the class `PlanoProcess` with
its `with` blocks, and the handler that is installed for SIGTERM.  What the module does with them is not given:
at any time it may call one, open a block or come to its end, raise an exception or catch one.  A process ends
when it likes to, also after a SIGTERM, and a SIGTERM reaches plano at any place.

The commands and their files, the messages and the `input` of `run` are left out, and Windows.
-/

namespace Bsord.Plano.Processes

open Library

/-! ## Processes -/

/-- The file that the output of a process is stashed in. -/
inductive StashFile where
  | none
  | kept
  | removed
deriving DecidableEq

/-- A `PlanoProcess`, and what the operating system knows of it. -/
structure Child where
  /-- The exit code, or the number of the signal that has ended the process, negated. -/
  ended : Option Int
  /-- `exit_code`, which is set when plano learns how the process has ended. -/
  exitCode : Option Int
  /-- A SIGTERM has been sent to the process. -/
  terminated : Bool
  stashFile : StashFile
deriving DecidableEq

namespace Child

def started (stash : Bool) : Child := ⟨none, none, false, if stash then .kept else .none⟩

def finish (code : Int) (child : Child) : Child := { child with ended := some code }

def poll (child : Child) : Child := { child with exitCode := child.ended }

/-- Nothing is sent to a process that has ended. -/
def terminate (child : Child) : Child :=
  if child.poll.exitCode.isSome then child.poll else { child.poll with terminated := true }

def removeStash (child : Child) : Child := { child with stashFile := .removed }

end Child

/-! ## States -/

inductive Exception where
  | planoError
  | planoTimeout
  | planoProcessError (code : Int)
  | fileNotFoundError
  | systemExit
  | other
deriving DecidableEq

/-- The place in plano, outside of the handler. -/
inductive Pc where
  /-- The module's own code. -/
  | running
  /-- `PlanoProcess.__init__` has a process that is not in `_child_processes` yet.  The call is one of `start`, or
      one of `run` that is going to check the exit code or not. -/
  | starting (child : Nat) (run : Option Bool)
  | waiting (child : Nat) (timeout check : Bool)
  /-- In `wait`, with the exit code known. -/
  | waited (child : Nat) (check : Bool)
  | removing (child : Nat) (check : Bool)
  | checking (child : Nat) (check : Bool)
  /-- `PlanoProcess.__exit__`, with the exception that the block is left by. -/
  | leaving (child : Nat) (raised : Option Exception)
  | raising (exception : Exception)
  | exited (raised : Option Exception)
deriving DecidableEq

def Pc.starting? : Pc → Option Nat
  | starting child _ => some child
  | _ => none

/-- After the block has been left. -/
def Pc.resume : Option Exception → Pc
  | some exception => raising exception
  | none => running

structure State where
  /-- All processes that have been started. -/
  children : List Child
  /-- `_child_processes`. -/
  childProcesses : List Nat
  /-- The processes of the `with` blocks that are open, the innermost first. -/
  blocks : List Nat
  pc : Pc
  /-- The processes that each handler under way has still to look at, the last handler first. -/
  handlers : List (List Nat)
  /-- The processes whose stashed output has been printed. -/
  printed : List Nat
deriving DecidableEq

def State.start : State := ⟨[], [], [], .running, [], []⟩

def State.update (s : State) (n : Nat) (change : Child → Child) : State :=
  { s with children := s.children.modify n change }

@[simp] theorem State.update_children (s : State) (n : Nat) (change : Child → Child) :
    (s.update n change).children = s.children.modify n change := rfl

@[simp] theorem State.update_pc (s : State) (n : Nat) (change : Child → Child) : (s.update n change).pc = s.pc := rfl

/-! ## Steps -/

inductive Label where
  | start
  | startFails
  | append
  | enter (child : Nat)
  | leave
  | terminate (child : Nat)
  | stop (child : Nat)
  | wait (child : Nat)
  | timeout
  | reap (child : Nat)
  | print (child : Nat)
  /-- There is no output to print, or none that is printed. -/
  | quiet
  | remove (child : Nat)
  | checked
  | raise
  | caught
  | ret
  /-- A process ends. -/
  | ends (child : Nat) (code : Int)
  | sigterm
  | handle (child : Nat)
  /-- The handler raises `SystemExit` in the code that it has interrupted, which may be about to add a process to
      `_child_processes`. -/
  | exit (starting : Option Nat)
deriving DecidableEq

/-- The steps of plano outside of the handler. -/
inductive Main (s : State) : Label → State → Prop where
  | start (at_ : s.pc = .running) (stash : Bool) (run : Option Bool) :
      Main s .start { s with
        children := s.children ++ [.started stash]
        pc := .starting s.children.length run }
  | startFails (at_ : s.pc = .running) : Main s .startFails { s with pc := .raising .planoError }
  | append {n : Nat} (at_ : s.pc = .starting n none) :
      Main s .append { s with childProcesses := s.childProcesses ++ [n], pc := .running }
  | appendRun {n : Nat} {check : Bool} (at_ : s.pc = .starting n (some check)) :
      Main s .append { s with childProcesses := s.childProcesses ++ [n], pc := .waiting n false check }
  | enter (at_ : s.pc = .running) {n : Nat} (known : n ∈ s.childProcesses) :
      Main s (.enter n) { s with blocks := n :: s.blocks }
  | leave (at_ : s.pc = .running) {n : Nat} {blocks : List Nat} (inner : s.blocks = n :: blocks) :
      Main s .leave { s with blocks := blocks, pc := .leaving n none }
  | unwind {exception : Exception} (at_ : s.pc = .raising exception) {n : Nat} {blocks : List Nat}
      (inner : s.blocks = n :: blocks) :
      Main s .leave { s with blocks := blocks, pc := .leaving n (some exception) }
  | left {n : Nat} {raised : Option Exception} (at_ : s.pc = .leaving n raised) :
      Main s (.terminate n) { s.update n .terminate with pc := .resume raised }
  | kill (at_ : s.pc = .running) {n : Nat} (known : n ∈ s.childProcesses) :
      Main s (.terminate n) (s.update n .terminate)
  | stop (at_ : s.pc = .running) {n : Nat} (known : n ∈ s.childProcesses) {child : Child}
      (found : s.children[n]? = some child) (alive : child.ended = none) (timeout : Bool) :
      Main s (.stop n) { s.update n .terminate with pc := .waiting n timeout false }
  | stopEnded (at_ : s.pc = .running) {n : Nat} (known : n ∈ s.childProcesses) {child : Child}
      (found : s.children[n]? = some child) (ended : child.ended ≠ none) : Main s (.stop n) (s.update n .poll)
  | wait (at_ : s.pc = .running) {n : Nat} (known : n ∈ s.childProcesses) (timeout check : Bool) :
      Main s (.wait n) { s with pc := .waiting n timeout check }
  | timeout {n : Nat} {check : Bool} (at_ : s.pc = .waiting n true check) {child : Child}
      (found : s.children[n]? = some child) (unknown : child.exitCode = none) :
      Main s .timeout { s with pc := .raising .planoTimeout }
  | reap {n : Nat} {timeout check : Bool} (at_ : s.pc = .waiting n timeout check) {child : Child}
      (found : s.children[n]? = some child) (ended : child.ended ≠ none) :
      Main s (.reap n) { s.update n .poll with pc := .waited n check }
  | noStash {n : Nat} {check : Bool} (at_ : s.pc = .waited n check) {child : Child}
      (found : s.children[n]? = some child) (unstashed : child.stashFile = .none) :
      Main s .quiet { s with pc := .checking n check }
  | print {n : Nat} {check : Bool} (at_ : s.pc = .waited n check) {child : Child}
      (found : s.children[n]? = some child) (kept : child.stashFile = .kept) {code : Int}
      (exited : child.exitCode = some code) (failed : 0 < code) :
      Main s (.print n) { s with printed := s.printed ++ [n], pc := .removing n check }
  /-- The file has been removed by an earlier call of `wait`. -/
  | printFails {n : Nat} {check : Bool} (at_ : s.pc = .waited n check) {child : Child}
      (found : s.children[n]? = some child) (removed : child.stashFile = .removed) {code : Int}
      (exited : child.exitCode = some code) (failed : 0 < code) :
      Main s .raise { s with pc := .raising .fileNotFoundError }
  | noPrint {n : Nat} {check : Bool} (at_ : s.pc = .waited n check) {child : Child}
      (found : s.children[n]? = some child) (stash : child.stashFile ≠ .none) {code : Int}
      (exited : child.exitCode = some code) (unfailed : code ≤ 0) :
      Main s .quiet { s with pc := .removing n check }
  | remove {n : Nat} {check : Bool} (at_ : s.pc = .removing n check) :
      Main s (.remove n) { s.update n .removeStash with pc := .checking n check }
  | checked {n : Nat} {check : Bool} (at_ : s.pc = .checking n check) {child : Child}
      (found : s.children[n]? = some child) {code : Int} (exited : child.exitCode = some code)
      (passes : check = false ∨ code ≤ 0) : Main s .checked { s with pc := .running }
  | checkFails {n : Nat} (at_ : s.pc = .checking n true) {child : Child} (found : s.children[n]? = some child)
      {code : Int} (exited : child.exitCode = some code) (failed : 0 < code) :
      Main s .raise { s with pc := .raising (.planoProcessError code) }
  | raise (at_ : s.pc = .running) (exception : Exception) : Main s .raise { s with pc := .raising exception }
  | caught {exception : Exception} (at_ : s.pc = .raising exception) : Main s .caught { s with pc := .running }
  | ret (at_ : s.pc = .running) (closed : s.blocks = []) : Main s .ret { s with pc := .exited none }
  | uncaught {exception : Exception} (at_ : s.pc = .raising exception) (closed : s.blocks = []) :
      Main s .ret { s with pc := .exited (some exception) }

inductive Step (s : State) : Label → State → Prop where
  | main (idle : s.handlers = []) {label : Label} {s' : State} (step : Main s label s') : Step s label s'
  | ends {n : Nat} {child : Child} (found : s.children[n]? = some child) (alive : child.ended = none) (code : Int) :
      Step s (.ends n code) (s.update n (.finish code))
  /-- `_default_sigterm_handler` is called between two steps, also of itself. -/
  | sigterm (running : ∀ raised, s.pc ≠ .exited raised) :
      Step s .sigterm { s with handlers := s.childProcesses :: s.handlers }
  | handle {n : Nat} {todo : List Nat} {handlers : List (List Nat)} (under : s.handlers = (n :: todo) :: handlers) :
      Step s (.handle n) { s.update n .terminate with handlers := todo :: handlers }
  | exit {handlers : List (List Nat)} (under : s.handlers = [] :: handlers) :
      Step s (.exit s.pc.starting?) { s with handlers := [], pc := .raising .systemExit }

end Bsord.Plano.Processes
