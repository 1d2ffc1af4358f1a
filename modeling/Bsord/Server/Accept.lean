import Bsord.Server.Worker
import Mathlib.Logic.Function.Basic

/-! # The server

The accept loop of `main` in `server.c`, with the workers it has started.  Connections are numbered in the
order in which they are accepted, and the worker of a connection goes by its number.  The descriptor table
says which connection each open descriptor belongs to; a descriptor that has been closed can be returned
by a later `accept`.
-/

namespace Bsord.Server

open Library

/-- The place in the accept loop. -/
inductive LoopPc where
  | accept
  | pthreadCreate (sock connection : Nat)
  | egress
  | returned
deriving DecidableEq

structure State where
  serverSock : Nat
  pc : LoopPc
  visited : Bool
  workers : Nat → Option Worker
  /-- The connection that an open descriptor belongs to. -/
  table : Nat → Option Nat
  accepted : Nat
  /-- The connections whose sockets have been closed, in order. -/
  closed : List Nat

/-- The server when it enters the accept loop. -/
def listening (serverSock : Nat) : State :=
  ⟨serverSock, .accept, false, fun _ => none, fun _ => none, 0, []⟩

/-- A step of the accept loop or of a worker, with the results that the kernel gives: `none` is a failed
    call.  A thread that is created comes with the buffer that its `malloc` will return. -/
inductive Label where
  | accept (sock : Option Nat)
  | pthreadCreate (buffer : Option Text)
  | ret
  | work (connection : Nat) (call : Call)
deriving DecidableEq

/-- What a worker's call does to the shared state. -/
def State.after (s : State) (sock : Nat) : Call → State
  | .writeVisited => { s with visited := true }
  | .close => { s with
      table := Function.update s.table sock none
      closed := s.closed ++ (s.table sock).toList }
  | _ => s

/-- The steps of a server whose `main` has not returned. -/
inductive Action (s : State) : Label → State → Prop where
  | accept (at_ : s.pc = .accept) (sock : Nat) (other : sock ≠ s.serverSock) (unused : s.table sock = none) :
      Action s (.accept (some sock)) { s with
        pc := .pthreadCreate sock s.accepted
        table := Function.update s.table sock (some s.accepted)
        accepted := s.accepted + 1 }
  | acceptFails (at_ : s.pc = .accept) : Action s (.accept none) { s with pc := .egress }
  | pthreadCreate {sock connection : Nat} (at_ : s.pc = .pthreadCreate sock connection) (buffer : Text) :
      Action s (.pthreadCreate (some buffer)) { s with
        pc := .accept
        workers := Function.update s.workers connection (some (Worker.start sock buffer)) }
  /-- The result of `pthread_create` is not looked at.  The thread that is named next is then not set; that call is
      taken to return, and where it ends the process instead, the run ends here. -/
  | pthreadCreateFails {sock connection : Nat} (at_ : s.pc = .pthreadCreate sock connection) :
      Action s (.pthreadCreate none) { s with pc := .accept }
  | ret (at_ : s.pc = .egress) : Action s .ret { s with pc := .returned }
  | work {connection : Nat} {worker worker' : Worker} {call : Call}
      (thread : s.workers connection = some worker) (step : Worker.Step worker call worker')
      (reads : ∀ visited, call = .readVisited visited → visited = s.visited) :
      Action s (.work connection call) { s.after worker.sock call with
        workers := Function.update s.workers connection (some worker') }

def Step (s : State) (label : Label) (s' : State) : Prop := s.pc ≠ .returned ∧ Action s label s'

/-! ## What a worker does in a run of the server -/

def Label.callOf (connection : Nat) : Label → Option Call
  | .work other call => if other = connection then some call else none
  | .accept _ | .pthreadCreate _ | .ret => none

/-- The calls of one worker in a run, in order. -/
def callsOf (connection : Nat) (labels : List Label) : List Call :=
  labels.filterMap (Label.callOf connection)

theorem callsOf_own (connection : Nat) (labels : List Label) (call : Call) :
    callsOf connection (labels ++ [.work connection call]) = callsOf connection labels ++ [call] := by
  simp [callsOf, Label.callOf]

theorem callsOf_other {connection : Nat} {label : Label} (silent : label.callOf connection = none)
    (labels : List Label) : callsOf connection (labels ++ [label]) = callsOf connection labels := by
  simp [callsOf, silent]

theorem mem_callsOf {connection : Nat} {labels : List Label} {call : Call} :
    call ∈ callsOf connection labels ↔ .work connection call ∈ labels := by
  rw [callsOf, List.mem_filterMap]
  constructor
  · intro found
    obtain ⟨label, mem, same⟩ := found
    cases label with
    | work other _ =>
      simp only [Label.callOf, Option.ite_none_right_eq_some, Option.some.injEq] at same
      rw [← same.1, ← same.2]
      exact mem
    | accept _ | pthreadCreate _ | ret => cases same
  · exact fun mem => ⟨_, mem, if_pos rfl⟩

variable {s s' : State}

/-- Connections are numbered in turn: a worker is only created for one that has none. -/
structure InTurn (s : State) : Prop where
  starting : ∀ sock connection, s.pc = .pthreadCreate sock connection →
    connection < s.accepted ∧ s.workers connection = none
  unserved : ∀ connection, s.accepted ≤ connection → s.workers connection = none

theorem InTurn.listening (serverSock : Nat) : InTurn (listening serverSock) where
  starting _ _ absurd := nomatch absurd
  unserved _ _ := rfl

theorem InTurn.move (inTurn : InTurn s) {pc : LoopPc}
    (still : ∀ sock connection, pc ≠ .pthreadCreate sock connection) : InTurn { s with pc } where
  starting sock connection at_ := absurd at_ (still sock connection)
  unserved := inTurn.unserved

theorem State.after_pc (s : State) (sock : Nat) (call : Call) : (s.after sock call).pc = s.pc := by
  cases call <;> rfl

theorem State.after_accepted (s : State) (sock : Nat) (call : Call) :
    (s.after sock call).accepted = s.accepted := by
  cases call <;> rfl

theorem InTurn.step {label : Label} (inTurn : InTurn s) (step : Step s label s') : InTurn s' := by
  obtain ⟨_, action⟩ := step
  cases action with
  | accept at_ sock other unused =>
    constructor
    · intro sock' connection starting
      cases starting
      exact ⟨Nat.lt_succ_self _, inTurn.unserved _ (Nat.le_refl _)⟩
    · exact fun connection beyond => inTurn.unserved connection (Nat.le_of_succ_le beyond)
  | acceptFails at_ | pthreadCreateFails at_ | ret at_ =>
    exact inTurn.move fun _ _ => LoopPc.noConfusion
  | @pthreadCreate sock connection at_ buffer =>
    constructor
    · exact fun _ _ absurd => nomatch absurd
    · intro other beyond
      have below := (inTurn.starting sock connection at_).1
      have different : other ≠ connection := by
        intro same
        rw [same] at beyond
        exact absurd below (Nat.not_lt.mpr beyond)
      show Function.update s.workers connection _ other = none
      rw [Function.update_of_ne different]
      exact inTurn.unserved other beyond
  | @work connection worker worker' call thread taken reads =>
    -- Only a worker takes such a step, so its connection is none of those without one.
    have others : ∀ other, s.workers other = none →
        Function.update s.workers connection (some worker') other = none := by
      intro other absent
      have different : other ≠ connection := by
        intro same
        rw [same, thread] at absent
        nomatch absent
      rw [Function.update_of_ne different, absent]
    constructor
    · intro sock other starting
      have starting : s.pc = .pthreadCreate sock other := (s.after_pc worker.sock call) ▸ starting
      have before := inTurn.starting sock other starting
      refine ⟨?_, others other before.2⟩
      show other < (s.after worker.sock call).accepted
      rw [State.after_accepted]
      exact before.1
    · intro other beyond
      have beyond : (s.after worker.sock call).accepted ≤ other := beyond
      rw [State.after_accepted] at beyond
      exact others other (inTurn.unserved other beyond)

/-- Every worker has done what `run` does with the results of its own calls. -/
structure Served (s : State) (labels : List Label) : Prop where
  idle : ∀ connection, s.workers connection = none → callsOf connection labels = []
  runs : ∀ connection worker, s.workers connection = some worker → ∃ buffer,
    Run Worker.Step (Worker.start worker.sock buffer) (callsOf connection labels) worker

theorem Served.skip {labels : List Label} (served : Served s labels) {label : Label}
    (workers : s'.workers = s.workers) (silent : ∀ connection, label.callOf connection = none) :
    Served s' (labels ++ [label]) := by
  constructor
  · intro connection absent
    rw [callsOf_other (silent connection)]
    exact served.idle connection (workers ▸ absent)
  · intro connection worker thread
    rw [callsOf_other (silent connection)]
    exact served.runs connection worker (workers ▸ thread)

theorem workers_update {connection : Nat} {worker : Worker}
    (workers : s'.workers = Function.update s.workers connection (some worker)) {other : Nat}
    {thread : Option Worker} (found : s'.workers other = thread) :
    (other = connection ∧ thread = some worker) ∨ (other ≠ connection ∧ s.workers other = thread) := by
  rw [workers] at found
  by_cases here : other = connection
  · rw [here, Function.update_self] at found
    exact .inl ⟨here, found.symm⟩
  · rw [Function.update_of_ne here] at found
    exact .inr ⟨here, found⟩

theorem Served.update {labels : List Label} (served : Served s labels) {label : Label} {connection : Nat}
    {worker : Worker} (workers : s'.workers = Function.update s.workers connection (some worker))
    (others : ∀ other, other ≠ connection → label.callOf other = none)
    (own : ∃ buffer, Run Worker.Step (Worker.start worker.sock buffer)
      (callsOf connection (labels ++ [label])) worker) : Served s' (labels ++ [label]) := by
  constructor
  · intro other absent
    cases workers_update workers absent with
    | inl here => nomatch here.2
    | inr elsewhere =>
      rw [callsOf_other (others other elsewhere.1)]
      exact served.idle other elsewhere.2
  · intro other worker' thread
    cases workers_update workers thread with
    | inl here =>
      cases here.2
      rw [here.1]
      exact own
    | inr elsewhere =>
      rw [callsOf_other (others other elsewhere.1)]
      exact served.runs other worker' elsewhere.2

theorem Served.step {labels : List Label} {label : Label} (served : Served s labels) (inTurn : InTurn s)
    (step : Step s label s') : Served s' (labels ++ [label]) := by
  obtain ⟨_, action⟩ := step
  cases action with
  | accept _ _ _ _ | acceptFails _ | pthreadCreateFails _ | ret _ => exact served.skip rfl fun _ => rfl
  | @pthreadCreate sock connection at_ buffer =>
    have absent := served.idle connection (inTurn.starting sock connection at_).2
    refine served.update rfl (fun _ _ => rfl) ⟨buffer, ?_⟩
    rw [callsOf_other rfl, absent]
    exact .nil _
  | @work connection worker worker' call thread taken reads =>
    obtain ⟨buffer, run⟩ := served.runs connection worker thread
    refine served.update rfl (fun other different => if_neg (Ne.symm different)) ⟨buffer, ?_⟩
    rw [callsOf_own, taken.sock]
    exact run.snoc taken

/-- **Workers**: in every run of the server, each worker has run `run` with the results of its own calls,
    whatever the accept loop and the other workers did in between. -/
theorem served_of_run {serverSock : Nat} {labels : List Label}
    (run : Run Step (listening serverSock) labels s) : Served s labels := by
  have both := run.invariant_history (fun labels s => Served s labels ∧ InTurn s)
    (fun both last => ⟨both.1.step both.2 last, both.2.step last⟩)
    ⟨⟨fun _ _ => rfl, fun _ _ absurd => nomatch absurd⟩, .listening serverSock⟩
  exact both.1

theorem Step.of_work {connection : Nat} {call : Call} (step : Step s (.work connection call) s') :
    ∃ worker worker', s.workers connection = some worker ∧ Worker.Step worker call worker' ∧
      s'.workers = Function.update s.workers connection (some worker') ∧ s'.accepted = s.accepted ∧
      s'.pc = s.pc := by
  obtain ⟨_, action⟩ := step
  cases action with
  | work thread taken reads =>
    exact ⟨_, _, thread, taken, rfl, s.after_accepted _ _, s.after_pc _ _⟩

end Bsord.Server
