import Bsord.Server.Accept

/-! # The server from its start to its exit

All of `main` in `server.c`: what leads to the accept loop, and what follows from the first call that fails.  The
workers go on until `main` has returned.  A call sets `errno`, here that of the thread of `main`, only when it
fails, and then not to 0; the output to the terminal leaves it as it is.
-/

namespace Bsord.Server

open Library

/-- The calls with the listening socket that come before the accept loop. -/
inductive SetUp where
  | setsockopt
  | bind
  | listen
deriving DecidableEq

/-- The place in `main`. -/
inductive MainPc where
  | socket
  | setUp (call : SetUp)
  | serving
  | printError
  | shutdown
  | ret
  | returned
deriving DecidableEq

def SetUp.next : SetUp → MainPc
  | setsockopt => .setUp .bind
  | bind => .setUp .listen
  | listen => .serving

structure Process where
  pc : MainPc
  errno : Nat
  serverSock : Int
  /-- The error printed at the label `egress`. -/
  printed : Option Nat
  status : Option Nat
  /-- The accept loop and the workers, from when the server listens. -/
  server : Option State

def Process.start : Process := ⟨.socket, 0, 0, none, none, none⟩

/-- What `main` does, with the code of a failed call, and what the accept loop and the workers do. -/
inductive MainLabel where
  | socket (result : Except Nat Nat)
  | setUp (call : SetUp) (failure : Option Nat)
  | acceptFails (code : Nat)
  | serve (label : Label)
  | printError
  | shutdown (failure : Option Nat)
  | noShutdown
  | ret

inductive Process.Step (p : Process) : MainLabel → Process → Prop where
  | socket (at_ : p.pc = .socket) (sock : Nat) :
      Step p (.socket (.ok sock)) { p with pc := .setUp .setsockopt, serverSock := sock }
  | socketFails (at_ : p.pc = .socket) (code : Nat) (error : code ≠ 0) :
      Step p (.socket (.error code)) { p with pc := .printError, serverSock := -1, errno := code }
  | setUp {call : SetUp} (at_ : p.pc = .setUp call) : Step p (.setUp call none) { p with
      pc := call.next
      server := if call = .listen then some (listening p.serverSock.toNat) else p.server }
  | setUpFails {call : SetUp} (at_ : p.pc = .setUp call) (code : Nat) (error : code ≠ 0) :
      Step p (.setUp call (some code)) { p with pc := .printError, errno := code }
  /-- A step of a worker, at any time, or of the accept loop. -/
  | serve {s s' : State} {label : Label} (serves : p.server = some s) (running : p.pc ≠ .returned)
      (goes : label ≠ .accept none ∧ label ≠ .ret) (action : Action s label s') :
      Step p (.serve label) { p with server := some s' }
  | acceptFails {s s' : State} (at_ : p.pc = .serving) (serves : p.server = some s)
      (action : Action s (.accept none) s') (code : Nat) (error : code ≠ 0) :
      Step p (.acceptFails code) { p with pc := .printError, errno := code, server := some s' }
  | printError (at_ : p.pc = .printError) : Step p .printError { p with
      pc := .shutdown
      printed := if p.errno = 0 then none else some p.errno }
  | shutdown (at_ : p.pc = .shutdown) (positive : 0 < p.serverSock) (failure : Option Nat)
      (error : failure ≠ some 0) :
      Step p (.shutdown failure) { p with pc := .ret, errno := failure.getD p.errno }
  | noShutdown (at_ : p.pc = .shutdown) (positive : ¬ 0 < p.serverSock) :
      Step p .noShutdown { p with pc := .ret }
  | ret (at_ : p.pc = .ret) (serves : p.server = none) :
      Step p .ret { p with pc := .returned, status := some p.errno }
  | retServing {s s' : State} (at_ : p.pc = .ret) (serves : p.server = some s) (action : Action s .ret s') :
      Step p (.serve .ret) { p with pc := .returned, status := some p.errno, server := some s' }

/-! ## The server in the process -/

def MainLabel.label? : MainLabel → Option Label
  | serve label => some label
  | acceptFails _ => some (.accept none)
  | _ => none

/-- The server has run since it was listening, if it is, and `main` has not returned from it before it exits. -/
structure Process.Serves (labels : List MainLabel) (p : Process) : Prop where
  early : p.pc = .socket ∨ (∃ call, p.pc = .setUp call) → p.server = none
  silent : p.server = none → labels.filterMap MainLabel.label? = []
  runs : ∀ s, p.server = some s →
    Run Server.Step (listening p.serverSock.toNat) (labels.filterMap MainLabel.label?) s
  running : p.pc ≠ .returned → ∀ s, p.server = some s → s.pc ≠ .returned

variable {p p' : Process} {s s' : State} {labels : List MainLabel}

theorem Action.running {label : Label} (action : Action s label s') (running : s.pc ≠ .returned)
    (goes : label ≠ .ret) : s'.pc ≠ .returned := by
  cases action with
  | ret at_ => exact absurd rfl goes
  | work thread step reads =>
    rw [State.after_pc]
    exact running
  | accept | acceptFails | pthreadCreate | pthreadCreateFails => simp

theorem filterMap_snoc (labels : List MainLabel) (label : MainLabel) :
    (labels ++ [label]).filterMap MainLabel.label? = labels.filterMap MainLabel.label? ++ label.label?.toList := by
  cases shown : label.label? <;> simp [shown]

theorem Process.Serves.skip (serves : p.Serves labels) {label : MainLabel} (unseen : label.label? = none)
    (server : p'.server = p.server) (serverSock : p.server = none ∨ p'.serverSock = p.serverSock)
    (early : p.server = none ∨ (p'.pc ≠ .socket ∧ ∀ call, p'.pc ≠ .setUp call))
    (running : p.pc ≠ .returned) : p'.Serves (labels ++ [label]) where
  early at_ := by
    rw [server]
    rcases early with none | ⟨started, later⟩
    · exact none
    · rcases at_ with at_ | ⟨call, at_⟩
      · exact absurd at_ started
      · exact absurd at_ (later call)
  silent none := by
    rw [filterMap_snoc, unseen, serves.silent (server ▸ none)]
    rfl
  runs s found := by
    rw [server] at found
    -- The socket is assigned only before there is a server.
    have same : p'.serverSock = p.serverSock := serverSock.resolve_left (by simp [found])
    rw [filterMap_snoc, unseen, same]
    simpa using serves.runs s found
  running _ s found := serves.running running s (server ▸ found)

theorem Process.Serves.move (serves : p.Serves labels) {label : MainLabel} {seen : Label}
    (shown : label.label? = some seen) (before : p.server = some s) (after : p'.server = some s')
    (running : p.pc ≠ .returned) (action : Action s seen s') (serverSock : p'.serverSock = p.serverSock)
    (later : p'.pc = p.pc ∨ (p'.pc ≠ .socket ∧ ∀ call, p'.pc ≠ .setUp call))
    (goes : p'.pc = .returned ∨ seen ≠ .ret) : p'.Serves (labels ++ [label]) where
  early at_ := by
    rcases later with same | ⟨started, later⟩
    · rw [serves.early (same ▸ at_)] at before
      cases before
    · rcases at_ with at_ | ⟨call, at_⟩
      · exact absurd at_ started
      · exact absurd at_ (later call)
  silent none := by
    rw [after] at none
    cases none
  runs t found := by
    cases after.symm.trans found
    rw [filterMap_snoc, shown, serverSock]
    exact (serves.runs s before).snoc ⟨serves.running running s before, action⟩
  running still t found := by
    cases after.symm.trans found
    exact action.running (serves.running running s before) (goes.resolve_left still)

theorem Process.Serves.step (serves : p.Serves labels) {label : MainLabel} (step : p.Step label p') :
    p'.Serves (labels ++ [label]) := by
  cases step with
  | socket at_ sock =>
    have none := serves.early (.inl at_)
    exact serves.skip rfl rfl (.inl none) (.inl none) (by simp [at_])
  | socketFails at_ code error =>
    have none := serves.early (.inl at_)
    exact serves.skip rfl rfl (.inl none) (.inl none) (by simp [at_])
  | @setUp call at_ =>
    have none := serves.early (.inr ⟨call, at_⟩)
    cases call with
    | setsockopt | bind => exact serves.skip rfl rfl (.inr rfl) (.inl none) (by simp [at_])
    | listen =>
      refine ⟨by simp [SetUp.next], fun absent => (nomatch absent), ?_, ?_⟩
      · intro s found
        cases found
        rw [filterMap_snoc, serves.silent none]
        exact .nil _
      · intro _ s found
        cases found
        simp [listening]
  | setUpFails at_ code error => exact serves.skip rfl rfl (.inr rfl) (.inr (by simp)) (by simp [at_])
  | serve before running goes action =>
    exact serves.move rfl before rfl running action rfl (.inl rfl) (.inr goes.2)
  | acceptFails at_ before action code error =>
    exact serves.move rfl before rfl (by simp [at_]) action rfl (.inr (by simp)) (.inr (by simp))
  | printError at_ => exact serves.skip rfl rfl (.inr rfl) (.inr (by simp)) (by simp [at_])
  | shutdown at_ positive failure error => exact serves.skip rfl rfl (.inr rfl) (.inr (by simp)) (by simp [at_])
  | noShutdown at_ positive => exact serves.skip rfl rfl (.inr rfl) (.inr (by simp)) (by simp [at_])
  | ret at_ none => exact serves.skip rfl rfl (.inr rfl) (.inr (by simp)) (by simp [at_])
  | retServing at_ before action =>
    exact serves.move rfl before rfl (by simp [at_]) action rfl (.inr (by simp)) (.inl rfl)

theorem Process.start_serves : Process.start.Serves [] :=
  ⟨fun _ => rfl, fun _ => rfl, fun _ found => (nomatch found), fun _ _ found => (nomatch found)⟩

/-- What the accept loop and the workers do in the process is a run of the server from when it was listening, so what
    holds of all runs of the server holds in it. -/
theorem serves_of_run (run : Run Process.Step Process.start labels p) (found : p.server = some s) :
    Run Server.Step (listening p.serverSock.toNat) (labels.filterMap MainLabel.label?) s :=
  (run.invariant_history (fun labels p => p.Serves labels) (fun serves step => serves.step step)
    Process.start_serves).runs s found

theorem serves_of_run_accepted :
    ∃ (p : Process) (s : State), p.server = some s ∧ s.accepted = 1 ∧
      Run Server.Step (listening p.serverSock.toNat) [.accept (some 4)] s := by
  have run : Run Process.Step Process.start [.socket (.ok 3), .setUp .setsockopt none, .setUp .bind none,
      .setUp .listen none, .serve (.accept (some 4))] _ :=
    .cons (.socket rfl 3) <| .cons (.setUp rfl) <| .cons (.setUp rfl) <| .cons (.setUp rfl) <|
      .single (.serve rfl (by simp [SetUp.next]) (by simp) (.accept rfl 4 (by simp [listening]) rfl))
  exact ⟨_, _, rfl, rfl, serves_of_run run rfl⟩

/-! ## The exit status -/

/-- The code of a call of `main` that fails and leads to `egress`. -/
def MainLabel.failure : MainLabel → Option Nat
  | socket (.error code) => some code
  | setUp _ failure => failure
  | acceptFails code => some code
  | _ => none

def MainLabel.shutdownFailure : MainLabel → Option Nat
  | shutdown failure => failure
  | _ => none

def failures (labels : List MainLabel) : List Nat := labels.filterMap MainLabel.failure

def shutdownFailures (labels : List MainLabel) : List Nat := labels.filterMap MainLabel.shutdownFailure

def MainLabel.shuts : MainLabel → Nat
  | shutdown _ => 1
  | _ => 0

def shutdowns (labels : List MainLabel) : Nat := (labels.map MainLabel.shuts).sum

@[simp] theorem failures_snoc (labels : List MainLabel) (label : MainLabel) :
    failures (labels ++ [label]) = failures labels ++ label.failure.toList := by
  cases shown : label.failure <;> simp [failures, shown]

@[simp] theorem shutdownFailures_snoc (labels : List MainLabel) (label : MainLabel) :
    shutdownFailures (labels ++ [label]) = shutdownFailures labels ++ label.shutdownFailure.toList := by
  cases shown : label.shutdownFailure <;> simp [shutdownFailures, shown]

@[simp] theorem shutdowns_snoc (labels : List MainLabel) (label : MainLabel) :
    shutdowns (labels ++ [label]) = shutdowns labels + label.shuts := by
  simp [shutdowns]

/-- Nothing has been done about the listening socket, and `main` has not returned. -/
def Process.Before (labels : List MainLabel) (p : Process) : Prop :=
  p.status = none ∧ shutdowns labels = 0 ∧ shutdownFailures labels = []

/-- One call has failed, its error has been printed, and `errno` is that error or that of the shutdown. -/
def Process.After (labels : List MainLabel) (p : Process) : Prop :=
  p.errno ≠ 0 ∧ ∃ code, failures labels = [code] ∧ p.printed = some code ∧
    (shutdownFailures labels = [] ∧ p.errno = code ∨ shutdownFailures labels = [p.errno]) ∧
    shutdowns labels = if 0 < p.serverSock then 1 else 0

/-- What `main` has done when it is at a place. -/
def Process.Tells (labels : List MainLabel) (p : Process) : Prop :=
  match p.pc with
  | .socket | .setUp _ | .serving => failures labels = [] ∧ p.errno = 0 ∧ p.Before labels
  | .printError => p.errno ≠ 0 ∧ failures labels = [p.errno] ∧ p.Before labels
  | .shutdown => p.errno ≠ 0 ∧ failures labels = [p.errno] ∧ p.printed = some p.errno ∧ p.Before labels
  | .ret => p.After labels ∧ p.status = none
  | .returned => p.After labels ∧ p.status = some p.errno

attribute [local simp] Process.Tells Process.Before Process.After MainLabel.failure MainLabel.shutdownFailure
  MainLabel.shuts

theorem Process.Tells.step (tells : p.Tells labels) {label : MainLabel} (step : p.Step label p') :
    p'.Tells (labels ++ [label]) := by
  cases step with
  | socket at_ sock =>
    simp only [Process.Tells, at_] at tells
    simpa using tells
  | socketFails at_ code error =>
    simp only [Process.Tells, at_] at tells
    simpa [error] using ⟨tells.1, tells.2.2⟩
  | @setUp call at_ =>
    simp only [Process.Tells, at_] at tells
    cases call <;> simpa [SetUp.next] using tells
  | setUpFails at_ code error =>
    simp only [Process.Tells, at_] at tells
    simpa [error] using ⟨tells.1, tells.2.2⟩
  | serve before running goes action =>
    simpa using tells
  | acceptFails at_ before action code error =>
    simp only [Process.Tells, at_] at tells
    simpa [error] using ⟨tells.1, tells.2.2⟩
  | printError at_ =>
    simp only [Process.Tells, at_] at tells
    obtain ⟨failed, once, before⟩ := tells
    simpa [failed, once] using before
  | shutdown at_ positive failure error =>
    simp only [Process.Tells, at_] at tells
    obtain ⟨failed, once, printed, status, shut, silent⟩ := tells
    cases failure with
    | none => simp [failed, once, printed, status, shut, silent, positive]
    | some code =>
      have failedAgain : code ≠ 0 := by simpa using error
      simp [failedAgain, once, printed, status, shut, silent, positive]
  | noShutdown at_ positive =>
    simp only [Process.Tells, at_] at tells
    obtain ⟨failed, once, printed, status, shut, silent⟩ := tells
    simp only [Process.Tells, Process.After]
    simp [failed, once, printed, status, shut, silent, positive]
  | ret at_ none =>
    simp only [Process.Tells, at_] at tells
    simpa using tells.1
  | retServing at_ before action =>
    simp only [Process.Tells, at_] at tells
    simpa using tells.1

end Bsord.Server
