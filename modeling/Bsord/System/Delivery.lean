import Bsord.System.Stream

/-! # What a client gets back

The streams and the worker of a connection put together, end to end.  The bytes that reach the receiver are
the first that the sender has sent; the others are on their way, have been left over by a `send`, or were
dropped when the connection was reset.
-/

namespace Bsord.System

open Library Client

variable {capacity : Nat} {s s' : State} {label : Label} {labels : List Label} {l : Link}
  {thread : Option Server.Worker} {w : Server.Worker}

/-! ## The worker between the streams -/

/-- The bytes that the worker has received and the kernel has not taken back. -/
def Link.unsent (l : Link) : Option Server.Worker → Text
  | some w => w.inHand.drop l.down.pushed
  | none => []

/-- How many bytes of the connection the calls of `send` have left over in a run. -/
def lostOn (connection : Nat) (labels : List Label) : Nat :=
  Server.lost (Server.callsOf connection (serverLabels labels))

theorem inHand_of_sendData (w : Server.Worker) : sendData w = w.inHand ∨ sendData w = [] := by
  cases at_ : w.pc with
  | send received => simp [sendData, Server.Worker.inHand, Server.Pc.inHand, at_]
  | setsockopt | recv | readVisited _ | testCounter _ | writeVisited _ | outer _ | egress | free | done =>
    simp [sendData, at_]

theorem Intact.relayed_append_unsent (intact : Intact l (some w)) :
    l.relayed (some w) ++ l.unsent (some w) = w.accepted ++ w.inHand := by
  cases inHand_of_sendData w with
  | inl same =>
    simp only [Link.relayed, accepted, passing, same, Link.unsent, List.append_assoc,
      List.take_append_drop]
  | inr empty =>
    have nothing := intact.boundDown
    simp only [passing, empty, List.length_nil, Nat.le_zero] at nothing
    simp [Link.relayed, accepted, Link.unsent, nothing]

theorem Intact.said_payload (intact : Intact l thread) : l.said = List.replicate l.said.length 120 := by
  rw [List.eq_replicate_iff]
  refine ⟨rfl, fun b mem => ?_⟩
  cases List.mem_append.mp mem with
  | inl before => exact intact.payload b before
  | inr now =>
    have now := List.mem_of_mem_take now
    rw [Sender.data] at now
    split at now
    case isTrue => exact mem_senderBuffer now
    case isFalse => cases now

/-- What the worker passes on of what it has heard, it passes on in order and once. -/
structure Passes (l : Link) (thread : Option Server.Worker) (lost : Nat) : Prop where
  order : (l.relayed thread ++ l.unsent thread).Sublist (heard thread)
  count : (heard thread).length = (l.relayed thread ++ l.unsent thread).length + lost

theorem Intact.passes (intact : Intact l (some w)) {calls : List Server.Call}
    (relaying : Server.Relaying calls w) : Passes l (some w) (Server.lost calls) where
  order := by
    rw [intact.relayed_append_unsent]
    exact relaying.order
  count := by
    rw [intact.relayed_append_unsent, List.length_append]
    exact relaying.count

theorem Intact.obtained_prefix (intact : Intact l thread) {lost : Nat} (passes : Passes l thread lost) :
    l.obtained <+: l.said := by
  have relayed : (l.relayed thread).Sublist l.said :=
    ((List.sublist_append_left _ _).trans passes.order).trans intact.up.prefix.sublist
  have obtained := intact.down.prefix.sublist.trans relayed
  -- As all bytes are the same, what is left out in between does not show.
  rw [intact.said_payload] at obtained ⊢
  rw [List.sublist_replicate_iff] at obtained
  obtain ⟨count, below, same⟩ := obtained
  rw [same, List.prefix_replicate_iff, List.length_replicate]
  exact ⟨below, rfl⟩

theorem Intact.accounted (intact : Intact l thread) {lost : Nat} (passes : Passes l thread lost) :
    l.said.length = l.obtained.length + l.down.queue.length + (l.unsent thread).length + lost +
      l.up.queue.length + (l.up.dropped.length + l.down.dropped.length) := by
  have up := congrArg List.length intact.up
  have down := congrArg List.length intact.down
  have count := passes.count
  simp only [List.length_append] at up down count
  omega

/-! ## Runs -/

theorem mem_serverLabels {action : Server.Label} : action ∈ serverLabels labels ↔ .server action ∈ labels := by
  rw [serverLabels, List.mem_filterMap]
  constructor
  · intro found
    obtain ⟨label, mem, same⟩ := found
    cases label with
    | server other =>
      cases same
      exact mem
    | connect _ _ | hangUp _ | send _ _ | pushUp _ _ | receive _ _ | pushDown _ _ | resetUp _ | resetDown _
    | kill => cases same
  · exact fun mem => ⟨_, mem, rfl⟩

theorem serverLabels_silent (silent : label.server? = none) :
    serverLabels (labels ++ [label]) = serverLabels labels := by
  simp [serverLabels, silent]

theorem mem_callsOf {connection : Nat} {call : Server.Call} :
    call ∈ Server.callsOf connection (serverLabels labels) ↔ .server (.work connection call) ∈ labels := by
  rw [Server.mem_callsOf, mem_serverLabels]

/-- The worker of the connection does not enter `outer`. -/
def Uncrashed (connection : Nat) (labels : List Label) : Prop :=
  ∀ buffer, .server (.work connection (.outer buffer)) ∉ labels

theorem Uncrashed.calls {connection : Nat} (uncrashed : Uncrashed connection labels) :
    ∀ call ∈ Server.callsOf connection (serverLabels labels), ¬ call.Crashes := by
  intro call mem crashes
  cases call with
  | outer buffer => exact uncrashed buffer (mem_callsOf.mp mem)
  | setsockopt _ | recv _ | readVisited _ | testCounter | writeVisited | send _ _ | close | free =>
    exact crashes

theorem relaying_of_uncrashed {serverSock connection : Nat}
    (run : Run (Step capacity) (listening serverSock) labels s) (uncrashed : Uncrashed connection labels)
    (thread : s.server.workers connection = some w) :
    Server.Relaying (Server.callsOf connection (serverLabels labels)) w := by
  obtain ⟨_, own⟩ := (Server.served_of_run (server_run run)).runs connection w thread
  exact Server.relaying_of_run own uncrashed.calls

theorem passes_of_run {serverSock connection : Nat}
    (run : Run (Step capacity) (listening serverSock) labels s) (uncrashed : Uncrashed connection labels) :
    Passes (s.links connection) (s.server.workers connection) (lostOn connection labels) := by
  have intact := intact_of_run run connection
  cases thread : s.server.workers connection with
  | none =>
    -- Without a worker nothing has been passed on, and nothing lost.
    have idle := (Server.served_of_run (server_run run)).idle connection thread
    have nothing : (s.links connection).relayed none = [] := List.take_nil
    rw [lostOn, idle]
    refine ⟨?_, ?_⟩
    · rw [nothing]
      exact List.nil_sublist _
    · rw [nothing]
      rfl
  | some w =>
    rw [thread] at intact
    exact intact.passes (relaying_of_uncrashed run uncrashed thread)

/-! ## One connection -/

/-- The system with one connection, which has been accepted on descriptor 4. -/
def single (w : Server.Worker) (l : Link) : State where
  server := { Server.listening 3 with
    workers := Function.update (fun _ => none) 0 (some w)
    table := Function.update (fun _ => none) 4 (some 0)
    accepted := 1 }
  running := true
  connected := 1
  links := Function.update (fun _ => .unconnected) 0 l

theorem single_setLink (w : Server.Worker) (l l' : Link) : (single w l).setLink 0 l' = single w l' := by
  simp only [State.setLink, single, Function.update_idem]

theorem run_single (capacity : Nat) (buffer : Text) : Run (Step capacity) (listening 3)
    [.connect true true, .server (.accept (some 4)), .server (.pthreadCreate (some buffer))]
    (single (Server.Worker.start 4 buffer) (.connected true true)) := by
  have connect : Step capacity (listening 3) (.connect true true) _ := .connect true true
  have accept : Step capacity { listening 3 with
      connected := 1
      links := Function.update (fun _ => .unconnected) 0 (.connected true true) }
      (.server (.accept (some 4))) _ :=
    .accept rfl ⟨Server.LoopPc.noConfusion, .accept rfl 4 (by simp [listening, Server.listening]) rfl⟩
      fun _ => Nat.one_pos
  have create : Step capacity { listening 3 with
      server := { Server.listening 3 with
        pc := .pthreadCreate 4 0
        table := Function.update (fun _ => none) 4 (some 0)
        accepted := 1 }
      connected := 1
      links := Function.update (fun _ => .unconnected) 0 (.connected true true) }
      (.server (.pthreadCreate (some buffer))) _ :=
    .pthreadCreate rfl ⟨Server.LoopPc.noConfusion, .pthreadCreate rfl buffer⟩
  exact .cons connect (.cons accept (.single create))

variable {w' : Server.Worker} {l' : Link} {call : Server.Call}

/-- The call leaves the state that the workers share as it is, with the flag false. -/
def Plain (call : Server.Call) : Prop :=
  (∀ (s : Server.State) (sock : Nat), s.after sock call = s) ∧ ∀ visited, call = .readVisited visited → visited = false

theorem single_thread (w : Server.Worker) (l : Link) : (single w l).server.workers 0 = some w := rfl

theorem single_step (l : Link) (plain : Plain call) (work : Server.Worker.Step w call w') :
    Server.Step (single w l).server (.work 0 call) (single w' l).server := by
  have step : Server.Action (single w l).server (.work 0 call) _ :=
    .work (single_thread w l) work plain.2
  rw [plain.1] at step
  simp only [single, Function.update_idem] at step
  exact ⟨Server.LoopPc.noConfusion, step⟩

theorem single_work (plain : Plain call) (offSocket : ¬ call.OnSocket) (work : Server.Worker.Step w call w') :
    Step capacity (single w l) (.server (.work 0 call)) (single w' l) :=
  .work rfl offSocket (single_step l plain work)

theorem single_serve (sock : w.sock = 4) (plain : Plain call) (work : Server.Worker.Step w call w')
    (serves : l.Serves call l') : Step capacity (single w l) (.server (.work 0 call)) (single w' l') := by
  have socket : (single w l).server.table w.sock = some 0 := by
    rw [sock]
    rfl
  have step : Step capacity (single w l) (.server (.work 0 call)) _ :=
    .serve rfl (single_thread w l) socket (single_step l plain work) serves
  rw [show State.setLink { single w l with server := (single w' l).server } 0 l' = single w' l' from
    single_setLink w' l l'] at step
  exact step

theorem single_send {call : SenderCall} {sender : Sender} {up : Channel UInt8} (alive : l.alive = true)
    (send : Sender.Step l.sender call sender) (takes : Takes l.up call up) :
    Step capacity (single w l) (.send 0 call) (single w { l with sender, up }) := by
  have step : Step capacity (single w l) (.send 0 call) _ := .send alive send takes
  rw [single_setLink] at step
  exact step

theorem single_pushUp {count : Nat} (alive : l.alive = true) (positive : 0 < count)
    (bound : l.up.pushed + count ≤ l.sender.data.length) (room : l.up.queue.length + count ≤ capacity) :
    Step capacity (single w l) (.pushUp 0 count)
      (single w { l with up := l.up.push l.sender.data count }) := by
  have step : Step capacity (single w l) (.pushUp 0 count) _ := .pushUp alive positive bound room
  rw [single_setLink] at step
  exact step

theorem single_receive {call : ReceiverCall} {receiver : Receiver} {down : Channel UInt8}
    (alive : l.alive = true) (receive : Receiver.Step l.receiver call receiver)
    (gives : Gives l.sender l.down call down) :
    Step capacity (single w l) (.receive 0 call) (single w { l with receiver, down }) := by
  have step : Step capacity (single w l) (.receive 0 call) _ := .receive alive receive gives
  rw [single_setLink] at step
  exact step

theorem single_pushDown {count : Nat} (sock : w.sock = 4) (positive : 0 < count)
    (bound : l.down.pushed + count ≤ (sendData w).length) (room : l.down.queue.length + count ≤ capacity) :
    Step capacity (single w l) (.pushDown 0 count)
      (single w { l with down := l.down.push (sendData w) count }) := by
  have socket : (single w l).server.table w.sock = some 0 := by
    rw [sock]
    rfl
  have step : Step capacity (single w l) (.pushDown 0 count) _ :=
    .pushDown rfl (single_thread w l) socket positive bound room
  rw [single_setLink] at step
  exact step

def threeBytes (pc : Server.Pc) (i : Nat) : Server.Worker :=
  ⟨pc, 4, [120, 120, 120], i, [120, 120, 120], []⟩

def threeBack (filled : Text) (down : Channel UInt8) : Link :=
  ⟨⟨.sleep, [120, 120, 120]⟩, ⟨.recv, filled, 0, []⟩, true, .empty, down⟩

theorem plain_of_local {call : Server.Call} (quiet : ∀ (s : Server.State) (sock : Nat), s.after sock call = s)
    (silent : ∀ visited, call ≠ .readVisited visited) : Plain call :=
  ⟨quiet, fun visited same => absurd same (silent visited)⟩

theorem run_threeBytes (room : 3 ≤ capacity) : ∃ labels, Run (Step capacity) (listening 3) labels
    (single (threeBytes (.send 3) 1) (threeBack [] .empty)) ∧ Uncrashed 0 labels ∧ lostOn 0 labels = 0 := by
  have push : Step capacity (single (Server.Worker.start 4 []) (.connected true true)) (.pushUp 0 3)
      (single (Server.Worker.start 4 []) { Link.connected true true with up := ⟨[120, 120, 120], 3, false, []⟩ }) := by
    refine single_pushUp rfl (by simp) ?_ (by simpa [Link.connected, Channel.empty] using room)
    show 3 ≤ senderBuffer.length
    rw [senderBuffer, List.length_replicate]
    simp [bufferSize]
  have send : Step capacity (single (Server.Worker.start 4 [])
      { Link.connected true true with up := ⟨[120, 120, 120], 3, false, []⟩ }) (.send 0 (.send (some 3)))
      (single (Server.Worker.start 4 []) { threeBack [] .empty with up := ⟨[120, 120, 120], 0, false, []⟩ }) :=
    single_send rfl (.send rfl 3 (by simp [bufferSize])) .send
  have opened : Step capacity (single (Server.Worker.start 4 [])
      { threeBack [] .empty with up := ⟨[120, 120, 120], 0, false, []⟩ }) (.server (.work 0 (.setsockopt 0)))
      (single { Server.Worker.start 4 [] with pc := .recv }
        { threeBack [] .empty with up := ⟨[120, 120, 120], 0, false, []⟩ }) :=
    single_serve rfl (plain_of_local (fun _ _ => rfl) fun _ => Server.Call.noConfusion) (.setsockopt rfl 0)
      (.setsockopt 0)
  have recv : Step capacity (single { Server.Worker.start 4 [] with pc := .recv }
        { threeBack [] .empty with up := ⟨[120, 120, 120], 0, false, []⟩ })
      (.server (.work 0 (.recv (some [120, 120, 120]))))
      (single (threeBytes (.readVisited 3) 0) (threeBack [] .empty)) :=
    single_serve rfl (plain_of_local (fun _ _ => rfl) fun _ => Server.Call.noConfusion)
      (.recv rfl [120, 120, 120] (by simp) (by simp [Server.bufferSize])) (.recv (by simp) rfl)
  have read : Step capacity (single (threeBytes (.readVisited 3) 0) (threeBack [] .empty))
      (.server (.work 0 (.readVisited false)))
      (single (threeBytes (.testCounter 3) 0) (threeBack [] .empty)) :=
    single_work ⟨fun _ _ => rfl, fun _ same => (Server.Call.readVisited.inj same).symm⟩ id
      (.readVisited rfl false)
  have test : Step capacity (single (threeBytes (.testCounter 3) 0) (threeBack [] .empty))
      (.server (.work 0 .testCounter)) (single (threeBytes (.send 3) 1) (threeBack [] .empty)) :=
    single_work (plain_of_local (fun _ _ => rfl) fun _ => Server.Call.noConfusion) id (.testCounter rfl)
  refine ⟨_, (run_single capacity []).append (.cons push (.cons send (.cons opened (.cons recv (.cons read
    (.single test)))))), fun buffer mem => ?_, rfl⟩
  simp at mem

/-! ## Delivery -/

end Bsord.System
