import Bsord.Server.Sockets
import Bsord.Client.Threads
import Bsord.Library.Channel

/-! # The server and its clients

The server of `server.c` with the jobs of `client.c` that connect to it, and the network between them.
Connections are accepted in the order in which they are established.  Each has a stream in either
direction; its sender and its receiver are threads of a client, and the worker that serves it is found
through the descriptor table of the server.

Calls can fail at any time, a client can exit or be killed at any time, and so can the server.  What is queued
from a side that is gone is not safe: that side may have left data unread, be sent more, or be given up by the
kernel, and then the connection is reset.  Of the calls at the other side one fails with the error of the reset;
only the calls after it, of another thread, take the end of the stream for an orderly one.
-/

namespace Bsord.System

open Library Client

/-! ## Connections -/

structure Link where
  sender : Sender
  receiver : Receiver
  /-- The process of the client is there. -/
  alive : Bool
  /-- From the sender to the worker. -/
  up : Channel UInt8
  /-- From the worker to the receiver. -/
  down : Channel UInt8

def Link.unconnected : Link := ⟨.start false, .start false, false, .empty, .empty⟩

/-- A connection that has been established, with the threads that could be created; the client does not
    look at the results of `pthread_create`. -/
def Link.connected (sender receiver : Bool) : Link := ⟨.start sender, .start receiver, true, .empty, .empty⟩

def Link.hangUp (l : Link) : Link := { l with alive := false, up := l.up.close }

def Link.orphan (l : Link) : Link := { l with down := l.down.close }

/-- What a call of the sender does to the stream it writes. -/
inductive Takes (c : Channel UInt8) : SenderCall → Channel UInt8 → Prop where
  | send : Takes c (.send (some c.pushed)) c.settle
  | sendFails (nothing : c.pushed = 0) : Takes c (.send none) c
  | sleep : Takes c .sleep c
  | free : Takes c .free c

/-- What a call of the receiver does to the stream it reads, with the sender that shares its socket. -/
inductive Gives (r : Sender) (c : Channel UInt8) : ReceiverCall → Channel UInt8 → Prop where
  | copy {chunk rest : Text} (head : c.queue = chunk ++ rest) : Gives r c (.copy chunk) (c.leave rest)
  | recv {chunk : Text} (nonempty : chunk ≠ []) : Gives r c (.recv (some chunk)) c
  | recvFails : Gives r c (.recv none) c
  /-- After a reset that has dropped data the error comes first, unless the sender has taken it. -/
  | recvCloses (drained : c.queue = []) (closed : c.closed = true) (told : c.dropped = [] ∨ r.Left) :
      Gives r c (.recv (some [])) c
  | free : Gives r c .free c

/-- What a worker's call on its socket does to the connection. -/
inductive Link.Serves (l : Link) : Server.Call → Link → Prop where
  | setsockopt (err : Int) : Serves l (.setsockopt err) l
  | recv {chunk rest : Text} (nonempty : chunk ≠ []) (head : l.up.queue = chunk ++ rest) :
      Serves l (.recv (some chunk)) { l with up := l.up.leave rest }
  | recvFails : Serves l (.recv none) l
  /-- The worker leaves its loop with the error of a reset, so it is never told of the end after one. -/
  | recvCloses (drained : l.up.queue = []) (closed : l.up.closed = true) (whole : l.up.dropped = []) :
      Serves l (.recv (some [])) l
  | send {requested : Nat} :
      Serves l (.send requested (some l.down.pushed)) { l with down := l.down.settle }
  | sendFails {requested : Nat} (nothing : l.down.pushed = 0) : Serves l (.send requested none) l
  | close : Serves l .close l.orphan

/-- The data of the `send` that a worker is in. -/
def sendData (w : Server.Worker) : Text :=
  match w.pc with
  | .send received => w.buffer.take received
  | _ => []

/-! ## The system -/

structure State where
  server : Server.State
  /-- The process of the server is there. -/
  running : Bool
  /-- How many connections have been established. -/
  connected : Nat
  links : Nat → Link

/-- The server listens, and nobody has connected. -/
def listening (serverSock : Nat) : State :=
  ⟨Server.listening serverSock, true, 0, fun _ => .unconnected⟩

inductive Label where
  | connect (sender receiver : Bool)
  | hangUp (connection : Nat)
  | send (connection : Nat) (call : SenderCall)
  | pushUp (connection count : Nat)
  | receive (connection : Nat) (call : ReceiverCall)
  | pushDown (worker count : Nat)
  | resetUp (connection : Nat)
  | resetDown (connection : Nat)
  | server (label : Server.Label)
  | kill

namespace State

def setLink (s : State) (connection : Nat) (l : Link) : State :=
  { s with links := Function.update s.links connection l }

/-- The process of the server is gone. -/
def exit (s : State) : State := { s with running := false, links := fun connection => (s.links connection).orphan }

end State

/-- The steps of the system, where a stream has room for so many bytes. -/
inductive Step (capacity : Nat) (s : State) : Label → State → Prop where
  | connect (sender receiver : Bool) : Step capacity s (.connect sender receiver) { s with
      connected := s.connected + 1
      links := Function.update s.links s.connected (.connected sender receiver) }
  | hangUp {connection : Nat} (alive : (s.links connection).alive = true) :
      Step capacity s (.hangUp connection) (s.setLink connection (s.links connection).hangUp)
  | send {connection : Nat} {call : SenderCall} {sender : Sender} {up : Channel UInt8}
      (alive : (s.links connection).alive = true)
      (step : Sender.Step (s.links connection).sender call sender)
      (takes : Takes (s.links connection).up call up) :
      Step capacity s (.send connection call) (s.setLink connection { s.links connection with sender, up })
  /-- The kernel takes some bytes of the sender's call. -/
  | pushUp {connection count : Nat} (alive : (s.links connection).alive = true) (positive : 0 < count)
      (bound : (s.links connection).up.pushed + count ≤ (s.links connection).sender.data.length)
      (room : (s.links connection).up.queue.length + count ≤ capacity) :
      Step capacity s (.pushUp connection count) (s.setLink connection { s.links connection with
        up := (s.links connection).up.push (s.links connection).sender.data count })
  | receive {connection : Nat} {call : ReceiverCall} {receiver : Receiver} {down : Channel UInt8}
      (alive : (s.links connection).alive = true)
      (step : Receiver.Step (s.links connection).receiver call receiver)
      (gives : Gives (s.links connection).sender (s.links connection).down call down) :
      Step capacity s (.receive connection call)
        (s.setLink connection { s.links connection with receiver, down })
  /-- The kernel takes some bytes of a worker's call. -/
  | pushDown {worker connection count : Nat} {w : Server.Worker} (running : s.running = true)
      (thread : s.server.workers worker = some w) (socket : s.server.table w.sock = some connection)
      (positive : 0 < count) (bound : (s.links connection).down.pushed + count ≤ (sendData w).length)
      (room : (s.links connection).down.queue.length + count ≤ capacity) :
      Step capacity s (.pushDown worker count) (s.setLink connection { s.links connection with
        down := (s.links connection).down.push (sendData w) count })
  /-- The connection is reset after the client is gone. -/
  | resetUp {connection : Nat} {kept lost : Text} (closed : (s.links connection).up.closed = true)
      (parts : (s.links connection).up.queue = kept ++ lost) :
      Step capacity s (.resetUp connection)
        (s.setLink connection { s.links connection with up := (s.links connection).up.reset kept lost })
  /-- It is reset after its worker or the server is gone. -/
  | resetDown {connection : Nat} {kept lost : Text} (closed : (s.links connection).down.closed = true)
      (parts : (s.links connection).down.queue = kept ++ lost) :
      Step capacity s (.resetDown connection)
        (s.setLink connection { s.links connection with down := (s.links connection).down.reset kept lost })
  /-- There must be a connection to accept. -/
  | accept {sock : Option Nat} {server : Server.State} (running : s.running = true)
      (step : Server.Step s.server (.accept sock) server)
      (waiting : sock ≠ none → s.server.accepted < s.connected) :
      Step capacity s (.server (.accept sock)) { s with server }
  | pthreadCreate {buffer : Option Text} {server : Server.State} (running : s.running = true)
      (step : Server.Step s.server (.pthreadCreate buffer) server) :
      Step capacity s (.server (.pthreadCreate buffer)) { s with server }
  | ret {server : Server.State} (running : s.running = true) (step : Server.Step s.server .ret server) :
      Step capacity s (.server .ret) (State.exit { s with server })
  | work {worker : Nat} {call : Server.Call} {server : Server.State} (running : s.running = true)
      (offSocket : ¬ call.OnSocket) (step : Server.Step s.server (.work worker call) server) :
      Step capacity s (.server (.work worker call)) { s with server }
  | serve {worker connection : Nat} {call : Server.Call} {w : Server.Worker} {server : Server.State} {l : Link}
      (running : s.running = true) (thread : s.server.workers worker = some w)
      (socket : s.server.table w.sock = some connection)
      (step : Server.Step s.server (.work worker call) server) (serves : (s.links connection).Serves call l) :
      Step capacity s (.server (.work worker call)) (State.setLink { s with server } connection l)
  | kill (running : s.running = true) : Step capacity s .kill s.exit

/-! ## The server in the system -/

def Label.server? : Label → Option Server.Label
  | .server label => some label
  | _ => none

def serverLabels (labels : List Label) : List Server.Label := labels.filterMap Label.server?

variable {capacity : Nat} {s s' : State} {label : Label} {labels : List Label}

theorem Step.server (step : Step capacity s label s') {action : Server.Label}
    (own : label.server? = some action) : Server.Step s.server action s'.server := by
  cases step with
  | accept _ step _ | pthreadCreate _ step | ret _ step | work _ _ step | serve _ _ _ step _ =>
    cases own
    exact step
  | connect _ _ | hangUp _ | send _ _ _ | pushUp _ _ _ _ | receive _ _ _ | pushDown _ _ _ _ _ _
  | resetUp _ _ | resetDown _ _ | kill _ =>
    cases own

theorem Step.server_eq (step : Step capacity s label s') (other : label.server? = none) :
    s'.server = s.server := by
  cases step with
  | accept _ _ _ | pthreadCreate _ _ | ret _ _ | work _ _ _ | serve _ _ _ _ _ => cases other
  | connect _ _ | hangUp _ | send _ _ _ | pushUp _ _ _ _ | receive _ _ _ | pushDown _ _ _ _ _ _
  | resetUp _ _ | resetDown _ _ | kill _ =>
    rfl

/-- The network only restricts what the server can do: a run of the system is a run of the server. -/
theorem server_run {serverSock : Nat} (run : Run (Step capacity) (listening serverSock) labels s) :
    Run Server.Step (Server.listening serverSock) (serverLabels labels) s.server :=
  run.project State.server Label.server? (fun step own => step.server own) fun step other => step.server_eq other

/-! ## One connection of the system -/

/-- Workers serve the connections that their sockets belong to, no connection is accepted before it is
    established, and the process ends with `main`. -/
structure Routed (s : State) : Prop where
  attached : Server.Attached s.server
  inTurn : Server.InTurn s.server
  behind : s.server.accepted ≤ s.connected
  running : s.running = true → s.server.pc ≠ .returned

theorem Routed.listening (serverSock : Nat) : Routed (listening serverSock) where
  attached := .listening serverSock
  inTurn := .listening serverSock
  behind := Nat.le_refl 0
  running _ := Server.LoopPc.noConfusion

theorem Step.behind (step : Step capacity s label s') (behind : s.server.accepted ≤ s.connected) :
    s'.server.accepted ≤ s'.connected := by
  cases step with
  | connect _ _ => exact Nat.le_succ_of_le behind
  | accept _ step waiting =>
    obtain ⟨_, action⟩ := step
    cases action with
    | accept _ _ _ _ => exact waiting (Option.some_ne_none _)
    | acceptFails _ => exact behind
  | pthreadCreate _ step =>
    obtain ⟨_, action⟩ := step
    cases action with
    | pthreadCreate _ _ | pthreadCreateFails _ => exact behind
  | ret _ step =>
    obtain ⟨_, action⟩ := step
    cases action with
    | ret _ => exact behind
  | work _ _ step | serve _ _ _ step _ =>
    obtain ⟨_, _, _, _, _, accepted, _⟩ := step.of_work
    exact accepted ▸ behind
  | hangUp _ | send _ _ _ | pushUp _ _ _ _ | receive _ _ _ | pushDown _ _ _ _ _ _
  | resetUp _ _ | resetDown _ _ | kill _ => exact behind

theorem Step.running (step : Step capacity s label s') (before : s.running = true → s.server.pc ≠ .returned)
    (running : s'.running = true) : s'.server.pc ≠ .returned := by
  cases step with
  | accept _ step _ | pthreadCreate _ step =>
    obtain ⟨_, action⟩ := step
    cases action <;> exact Server.LoopPc.noConfusion
  | work _ _ step | serve _ _ _ step _ =>
    obtain ⟨_, _, _, _, _, _, pc⟩ := step.of_work
    exact pc ▸ before running
  | ret _ _ | kill _ => cases running
  | connect _ _ | hangUp _ | send _ _ _ | pushUp _ _ _ _ | receive _ _ _ | pushDown _ _ _ _ _ _
  | resetUp _ _ | resetDown _ _ =>
    exact before running

theorem Routed.step (routed : Routed s) (step : Step capacity s label s') : Routed s' := by
  have behind := step.behind routed.behind
  have running := step.running routed.running
  cases own : label.server? with
  | none =>
    have same := step.server_eq own
    exact ⟨same ▸ routed.attached, same ▸ routed.inTurn, behind, running⟩
  | some action =>
    have action := step.server own
    exact ⟨routed.attached.step routed.inTurn action, routed.inTurn.step action, behind, running⟩

theorem routed_of_run {serverSock : Nat} (run : Run (Step capacity) (listening serverSock) labels s) :
    Routed s :=
  run.invariant Routed Routed.step (.listening serverSock)

/-- A connection, with its worker when it has one. -/
structure View where
  link : Link
  thread : Option Server.Worker
  running : Bool

def State.view (s : State) (connection : Nat) : View :=
  ⟨s.links connection, s.server.workers connection, s.running⟩

def Label.At (connection : Nat) : Label → Prop
  | .hangUp other | .send other _ | .pushUp other _ | .receive other _ | .pushDown other _ | .resetUp other
  | .resetDown other | .server (.work other _) => connection = other
  | .connect _ _ | .server (.accept _) | .server (.pthreadCreate _) | .server .ret | .kill => False

/-- What a step of the system is for one connection. -/
inductive View.Step (capacity connection : Nat) (v : View) : Label → View → Prop where
  | elsewhere {label : Label} (other : ¬ label.At connection) : Step capacity connection v label v
  | connect (sender receiver : Bool) (idle : v.thread = none) :
      Step capacity connection v (.connect sender receiver) { v with link := .connected sender receiver }
  | hangUp (alive : v.link.alive = true) :
      Step capacity connection v (.hangUp connection) { v with link := v.link.hangUp }
  | send {call : SenderCall} {sender : Sender} {up : Channel UInt8} (alive : v.link.alive = true)
      (step : Sender.Step v.link.sender call sender) (takes : Takes v.link.up call up) :
      Step capacity connection v (.send connection call) { v with link := { v.link with sender, up } }
  | pushUp {count : Nat} (alive : v.link.alive = true) (positive : 0 < count)
      (bound : v.link.up.pushed + count ≤ v.link.sender.data.length)
      (room : v.link.up.queue.length + count ≤ capacity) :
      Step capacity connection v (.pushUp connection count)
        { v with link := { v.link with up := v.link.up.push v.link.sender.data count } }
  | receive {call : ReceiverCall} {receiver : Receiver} {down : Channel UInt8} (alive : v.link.alive = true)
      (step : Receiver.Step v.link.receiver call receiver) (gives : Gives v.link.sender v.link.down call down) :
      Step capacity connection v (.receive connection call) { v with link := { v.link with receiver, down } }
  | pushDown {count : Nat} {w : Server.Worker} (running : v.running = true) (thread : v.thread = some w)
      (positive : 0 < count) (bound : v.link.down.pushed + count ≤ (sendData w).length)
      (room : v.link.down.queue.length + count ≤ capacity) :
      Step capacity connection v (.pushDown connection count)
        { v with link := { v.link with down := v.link.down.push (sendData w) count } }
  | resetUp {kept lost : Text} (closed : v.link.up.closed = true) (parts : v.link.up.queue = kept ++ lost) :
      Step capacity connection v (.resetUp connection)
        { v with link := { v.link with up := v.link.up.reset kept lost } }
  | resetDown {kept lost : Text} (closed : v.link.down.closed = true)
      (parts : v.link.down.queue = kept ++ lost) :
      Step capacity connection v (.resetDown connection)
        { v with link := { v.link with down := v.link.down.reset kept lost } }
  | start {sock : Nat} {buffer : Text} (idle : v.thread = none) :
      Step capacity connection v (.server (.pthreadCreate (some buffer)))
        { v with thread := some (Server.Worker.start sock buffer) }
  | work {call : Server.Call} {w w' : Server.Worker} (thread : v.thread = some w)
      (offSocket : ¬ call.OnSocket) (step : Server.Worker.Step w call w') :
      Step capacity connection v (.server (.work connection call)) { v with thread := some w' }
  | serve {call : Server.Call} {w w' : Server.Worker} {l : Link} (thread : v.thread = some w)
      (step : Server.Worker.Step w call w') (serves : v.link.Serves call l) :
      Step capacity connection v (.server (.work connection call)) { v with link := l, thread := some w' }
  | exit {label : Label} (other : ¬ label.At connection) :
      Step capacity connection v label { v with link := v.link.orphan, running := false }

theorem sendData_of_ne {w : Server.Worker} (idle : ∀ received, w.pc ≠ .send received) : sendData w = [] := by
  rw [sendData]
  split
  case h_1 received at_ => exact absurd at_ (idle received)
  case h_2 => rfl

theorem holds_of_sendData {w : Server.Worker} {count : Nat} (positive : 0 < count)
    (bound : count ≤ (sendData w).length) : w.Holds := by
  have sending : ∃ received, w.pc = .send received := by
    by_contra idle
    rw [sendData_of_ne (not_exists.mp idle), List.length_nil] at bound
    omega
  obtain ⟨received, at_⟩ := sending
  simp [Server.Worker.Holds, at_, Server.Pc.holds]

theorem Routed.socket (routed : Routed s) {worker connection : Nat} {w : Server.Worker}
    (thread : s.server.workers worker = some w) (holds : w.Holds)
    (socket : s.server.table w.sock = some connection) : connection = worker := by
  rw [routed.attached.held worker w thread holds] at socket
  exact (Option.some.inj socket).symm

theorem Link.Serves.holds {l l' : Link} {w w' : Server.Worker} {call : Server.Call} (serves : l.Serves call l')
    (step : Server.Worker.Step w call w') : w.Holds := by
  cases serves with
  | setsockopt _ | recv _ _ | recvFails | recvCloses _ _ _ | send | sendFails _ | close =>
    exact step.holds_of_onSocket trivial

theorem view_other {connection other : Nat} {l : Link} (different : connection ≠ other) :
    (s.setLink other l).view connection = s.view connection := by
  simp only [State.view, State.setLink, Function.update_of_ne different]

theorem view_own {connection : Nat} {l : Link} :
    (s.setLink connection l).view connection = { s.view connection with link := l } := by
  simp only [State.view, State.setLink, Function.update_self]

theorem Step.view (routed : Routed s) (step : Step capacity s label s') (connection : Nat) :
    View.Step capacity connection (s.view connection) label (s'.view connection) := by
  -- Most steps change one link: they are steps of that connection, and nothing to the others.
  have setLink {other : Nat} {l : Link} {label : Label} (at_ : label.At connection → connection = other)
      (own : connection = other →
        View.Step capacity connection (s.view connection) label { s.view connection with link := l }) :
      View.Step capacity connection (s.view connection) label ((s.setLink other l).view connection) := by
    by_cases here : connection = other
    · subst here
      rw [view_own]
      exact own rfl
    · rw [view_other here]
      exact .elsewhere fun own => here (at_ own)
  cases step with
  | connect sender receiver =>
    by_cases here : connection = s.connected
    · subst here
      have idle := routed.inTurn.unserved _ routed.behind
      have view : State.view { s with
          connected := s.connected + 1
          links := Function.update s.links s.connected (.connected sender receiver) } s.connected =
          { s.view s.connected with link := .connected sender receiver } := by
        simp only [State.view, Function.update_self]
      rw [view]
      exact .connect sender receiver idle
    · have view : State.view { s with
          connected := s.connected + 1
          links := Function.update s.links s.connected (.connected sender receiver) } connection =
          s.view connection := by
        simp only [State.view, Function.update_of_ne here]
      rw [view]
      exact .elsewhere id
  | hangUp alive =>
    refine setLink id fun here => ?_
    subst here
    exact .hangUp alive
  | send alive step takes =>
    refine setLink id fun here => ?_
    subst here
    exact .send alive step takes
  | pushUp alive positive bound room =>
    refine setLink id fun here => ?_
    subst here
    exact .pushUp alive positive bound room
  | receive alive step gives =>
    refine setLink id fun here => ?_
    subst here
    exact .receive alive step gives
  | @pushDown worker other count w running thread socket positive bound room =>
    -- The socket is still held while data is being sent, so it is the one of the connection.
    have holds := holds_of_sendData positive (Nat.le_trans (Nat.le_add_left _ _) bound)
    cases routed.socket thread holds socket
    refine setLink id fun here => ?_
    subst here
    exact .pushDown running thread positive bound room
  | resetUp closed parts =>
    refine setLink id fun here => ?_
    subst here
    exact .resetUp closed parts
  | resetDown closed parts =>
    refine setLink id fun here => ?_
    subst here
    exact .resetDown closed parts
  | accept _ step _ =>
    obtain ⟨_, action⟩ := step
    cases action with
    | accept _ _ _ _ | acceptFails _ => exact .elsewhere id
  | pthreadCreate _ step =>
    obtain ⟨_, action⟩ := step
    cases action with
    | @pthreadCreate sock other at_ buffer =>
      have idle := (routed.inTurn.starting sock other at_).2
      by_cases here : connection = other
      · subst here
        simp only [State.view, Function.update_self]
        exact .start idle
      · simp only [State.view, Function.update_of_ne here]
        exact .elsewhere id
    | pthreadCreateFails _ => exact .elsewhere id
  | ret _ step =>
    obtain ⟨_, action⟩ := step
    cases action with
    | ret _ => exact .exit id
  | @work worker call server _ offSocket step =>
    obtain ⟨w, w', thread, work, workers, _⟩ := step.of_work
    simp only [State.view, workers]
    by_cases here : connection = worker
    · subst here
      rw [Function.update_self]
      exact .work thread offSocket work
    · rw [Function.update_of_ne here]
      exact .elsewhere here
  | @serve worker other call w server l _ thread socket step serves =>
    obtain ⟨w₁, w', thread₁, work, workers, _⟩ := step.of_work
    cases thread.symm.trans thread₁
    -- A call on the socket is served by the connection that the worker was created for.
    cases routed.socket thread (serves.holds work) socket
    simp only [State.view, State.setLink, workers]
    by_cases here : connection = worker
    · subst here
      rw [Function.update_self, Function.update_self]
      exact .serve thread work serves
    · rw [Function.update_of_ne here, Function.update_of_ne here]
      exact .elsewhere here
  | kill _ => exact .exit id

/-- A run of the system is a run of each of its connections, over the same labels. -/
theorem view_run {serverSock : Nat} (run : Run (Step capacity) (listening serverSock) labels s)
    (connection : Nat) :
    Run (View.Step capacity connection) ((listening serverSock).view connection) labels
      (s.view connection) := by
  induction run with
  | nil => exact .nil _
  | snoc before last ih =>
    exact ih.snoc (last.view (routed_of_run before) connection)

end Bsord.System
