import Bsord.System.Delivery

/-! # No deadlock

The worker of a connection reads nothing while it waits in `send`, and the sender may have filled the stream
that it reads.  All the same no connection locks up, since the receiver is a thread of its own: whatever is on
its way, the worker, the receiver and the kernel bring it home by themselves.
-/

namespace Bsord.System

open Library Client

/-! ## Steps that bring bytes home -/

/-- A step of the worker in its loop: nothing fails, and `send` waits until all its data is taken. -/
def Onward : Server.Call → Prop
  | .setsockopt err => err = 0
  | .recv (some chunk) => chunk ≠ []
  | .readVisited _ | .testCounter | .writeVisited => True
  | .send requested (some sent) => sent = requested
  | .recv none | .outer _ | .send _ none | .close | .free => False

/-- A step of the receiver in its loop, with a buffer that is full when `recv` returns. -/
def Fills : ReceiverCall → Prop
  | .copy _ => True
  | .recv (some chunk) => chunk.length = bufferSize
  | .recv none | .free => False

/-- The step is one of the worker or the receiver of the connection, or the kernel's for one of them, and none
    of its calls fails. -/
def Label.Drains (connection : Nat) : Label → Prop
  | .server (.work worker call) => worker = connection ∧ Onward call
  | .pushDown worker _ => worker = connection
  | .receive other call => other = connection ∧ Fills call
  | .server (.accept _) | .server (.pthreadCreate _) | .server .ret | .connect _ _ | .hangUp _ | .send _ _
  | .pushUp _ _ | .resetUp _ | .resetDown _ | .kill => False

variable {capacity : Nat} {s s' : State} {label : Label} {labels : List Label} {l l' : Link}
  {w w' : Server.Worker} {call : Server.Call} {connection lost : Nat} {said : Text}

/-! ## The rank -/

/-- The steps that the worker has to make at its place until the next `recv`. -/
def stage : Server.Pc → Nat
  | .readVisited _ => 5
  | .testCounter _ => 4
  | .writeVisited _ => 3
  | .outer _ => 2
  | .setsockopt | .send _ => 1
  | .recv | .egress | .free | .done => 0

/-- A bound for the steps that the bytes on their way can take part in. -/
def load (l : Link) (w : Server.Worker) : Nat :=
  10 * l.up.queue.length + stage w.pc + 3 * (w.inHand.length - l.down.pushed) +
    2 * l.down.queue.length + l.receiver.filled.length

theorem inHand_nil (out : w.pc.inHand = some 0 ∨ w.pc.inHand = none) : w.inHand = [] := by
  rw [Server.Worker.inHand]
  cases out with
  | inl zero => simp only [zero, List.take_zero]
  | inr none => simp only [none]

theorem Link.Serves.keeps (serves : l.Serves call l') :
    l'.said = l.said ∧ l'.alive = l.alive ∧ l'.receiver = l.receiver ∧ l'.up.dropped = l.up.dropped ∧
      l'.down.dropped = l.down.dropped := by
  cases serves <;> exact ⟨rfl, rfl, rfl, rfl, rfl⟩

theorem inHand_of_onward (onward : Onward call) (step : Server.Worker.Step w call w') :
    w'.pc.inHand ≠ none := by
  cases step with
  | setsockopt at_ err =>
    have zero : err = 0 := onward
    simp [zero, Server.Pc.inHand]
  | readVisited at_ visited =>
    split <;> simp [Server.Pc.inHand]
  | testCounter at_ =>
    split <;> simp [Server.Pc.inHand]
  | recv at_ _ _ _ | writeVisited at_ | send at_ _ _ => simp [Server.Pc.inHand]
  | recvCloses at_ => exact absurd rfl onward
  | recvFails _ | outer _ _ | sendFails _ | close _ | free _ => exact onward.elim

theorem load_serve (intact : Intact l (some w)) (onward : Onward call)
    (step : Server.Worker.Step w call w') (serves : l.Serves call l') : load l' w' < load l w := by
  cases step with
  | setsockopt at_ err =>
    cases serves with
    | setsockopt _ =>
      have zero : err = 0 := onward
      have before := inHand_nil (w := w) (.inl (by rw [at_]; rfl))
      have after := inHand_nil (w := { w with pc := .recv }) (.inl rfl)
      simp [load, stage, at_, zero, before, after]
  | recv at_ chunk nonempty bound =>
    cases serves with
    | recvCloses _ _ _ => exact absurd rfl nonempty
    | recv _ head =>
      -- A byte weighs less in the worker's hands than in the stream before it, and the kernel has taken
      -- nothing of this chunk yet.
      have nothing := intact.pushed_eq_zero_down (by simp [at_])
      have before := inHand_nil (w := w) (.inl (by rw [at_]; rfl))
      have after : Server.Worker.inHand { w with
          pc := .readVisited chunk.length
          buffer := chunk ++ w.buffer.drop chunk.length
          received := w.received ++ chunk } = chunk := List.take_left
      have positive := List.length_pos_iff.mpr nonempty
      simp only [load, stage, at_, before, after, head, nothing, Channel.leave, List.length_append,
        List.length_nil]
      omega
  | @send requested at_ sent bound =>
    cases serves with
    | send =>
      have after := inHand_nil (w := { w with
        pc := .recv
        accepted := w.accepted ++ (w.buffer.take requested).take l.down.pushed }) (.inl rfl)
      simp only [load, stage, at_, after, Channel.settle, List.length_nil]
      omega
  | recvCloses at_ => exact absurd rfl onward
  | readVisited _ _ | testCounter _ | writeVisited _ => cases serves
  | recvFails _ | outer _ _ | sendFails _ | close _ | free _ => exact onward.elim

theorem load_work (onward : Onward call) (offSocket : ¬ call.OnSocket)
    (step : Server.Worker.Step w call w') : load l w' < load l w := by
  cases step with
  | readVisited at_ visited =>
    cases visited with
    | true => simp [load, stage, at_, Server.Worker.inHand, Server.Pc.inHand]
    | false => simp [load, stage, at_, Server.Worker.inHand, Server.Pc.inHand]
  | testCounter at_ =>
    split <;> simp [load, stage, at_, Server.Worker.inHand, Server.Pc.inHand]
  | writeVisited at_ => simp [load, stage, at_, Server.Worker.inHand, Server.Pc.inHand]
  | setsockopt _ _ | recvFails _ | recvCloses _ | recv _ _ _ _ | sendFails _ | send _ _ _ | close _ =>
    exact absurd trivial offSocket
  | outer _ _ | free _ => exact onward.elim

theorem length_sendData_le (w : Server.Worker) : (sendData w).length ≤ w.inHand.length := by
  cases inHand_of_sendData w with
  | inl same => rw [same]
  | inr empty => simp [empty]

theorem load_pushDown {count : Nat} (positive : 0 < count)
    (bound : l.down.pushed + count ≤ (sendData w).length) :
    load { l with down := l.down.push (sendData w) count } w < load l w := by
  have room := length_sendData_le w
  simp only [load, Channel.push, List.length_append, List.length_take, List.length_drop]
  omega

theorem load_receive {call : ReceiverCall} {receiver : Receiver} {down : Channel UInt8} (fills : Fills call)
    (step : Receiver.Step l.receiver call receiver) (gives : Gives l.sender l.down call down) :
    load { l with receiver, down } w < load l w ∧ receiver.pc = .recv := by
  cases step with
  | copy at_ chunk nonempty bound =>
    cases gives with
    | copy head =>
      have positive := List.length_pos_iff.mpr nonempty
      refine ⟨?_, at_⟩
      simp only [load, head, Channel.leave, List.length_append]
      omega
  | recv at_ nonempty =>
    have full : l.receiver.filled.length = bufferSize := fills
    refine ⟨?_, at_⟩
    rw [gives.eq_of_recv]
    simp [load, full, bufferSize]
  | recvFails _ _ | free _ => exact fills.elim
  | recvCloses _ _ =>
    have empty : 0 = bufferSize := fills
    simp [bufferSize] at empty

theorem lost_of_onward (onward : Onward call) : call.lost = 0 := by
  cases call with
  | send requested sent =>
    cases sent with
    | none => exact onward.elim
    | some sent =>
      have full : sent = requested := onward
      simp [Server.Call.lost, full]
  | setsockopt _ | recv _ | readVisited _ | testCounter | writeVisited | outer _ | close | free => rfl

theorem uncrashed_of_onward (onward : Onward call) : ¬ call.Crashes := by
  cases call with
  | outer _ => exact onward.elim
  | setsockopt _ | recv _ | readVisited _ | testCounter | writeVisited | send _ _ | close | free => exact id

/-! ## The connection while it drains -/

/-- Both processes are there, the worker is in its loop and the receiver in `recv`. -/
structure Live (connection : Nat) (s : State) : Prop where
  running : s.running = true
  alive : (s.links connection).alive = true
  receiving : (s.links connection).receiver.pc = .recv
  serving : ∃ w, s.server.workers connection = some w ∧ w.pc.inHand ≠ none

/-- Besides, the sender has said so much, and so much of it has been left over. -/
structure Draining (lost : Nat) (said : Text) (v : View) : Prop where
  running : v.running = true
  alive : v.link.alive = true
  receiving : v.link.receiver.pc = .recv
  said : v.link.said = said
  whole : v.link.up.dropped = [] ∧ v.link.down.dropped = []
  intact : Intact v.link v.thread
  worker : ∃ w calls, v.thread = some w ∧ w.pc.inHand ≠ none ∧ Server.Relaying calls w ∧
    Server.lost calls = lost

def View.rank (v : View) : Nat :=
  match v.thread with
  | some w => load v.link w
  | none => 0

variable {v v' : View}

theorem View.rank_lt (thread : v.thread = some w) (thread' : v'.thread = some w')
    (lower : load v'.link w' < load v.link w) : v'.rank < v.rank := by
  rw [View.rank, View.rank, thread, thread']
  exact lower

theorem Draining.setWorker (draining : Draining lost said v) (onward : Onward call) (thread : v.thread = some w)
    (step : Server.Worker.Step w call w') (intact : Intact l (some w'))
    (keeps : l.said = v.link.said ∧ l.alive = v.link.alive ∧ l.receiver = v.link.receiver ∧
      l.up.dropped = v.link.up.dropped ∧ l.down.dropped = v.link.down.dropped)
    (lower : load l w' < load v.link w) :
    Draining lost said { v with link := l, thread := some w' } ∧
      View.rank { v with link := l, thread := some w' } < v.rank := by
  obtain ⟨w₁, calls, thread₁, _, relaying, left⟩ := draining.worker
  cases thread.symm.trans thread₁
  constructor
  · obtain ⟨said, alive, receiver, up, down⟩ := keeps
    refine ⟨draining.running, ?_, ?_, ?_, ⟨up.trans draining.whole.1, down.trans draining.whole.2⟩, intact, w',
      calls ++ [call], rfl, inHand_of_onward onward step, relaying.step (uncrashed_of_onward onward) step, ?_⟩
    · rw [alive, draining.alive]
    · rw [receiver, draining.receiving]
    · rw [said, draining.said]
    · rw [Server.lost_snoc, lost_of_onward onward, left, Nat.add_zero]
  · exact View.rank_lt thread rfl lower

theorem Draining.step (draining : Draining lost said v) (drains : label.Drains connection)
    (step : View.Step capacity connection v label v') : Draining lost said v' ∧ v'.rank < v.rank := by
  have intact := draining.intact.step ⟨fun _ => draining.whole.1, fun _ _ _ _ => draining.whole.2⟩ step
  cases step with
  | elsewhere other | exit other =>
    refine absurd ?_ other
    cases label with
    | server action =>
      cases action with
      | work worker call => exact drains.1.symm
      | accept _ | pthreadCreate _ | ret => exact drains.elim
    | pushDown worker count => exact drains.symm
    | receive other call => exact drains.1.symm
    | connect _ _ | hangUp _ | send _ _ | pushUp _ _ | resetUp _ | resetDown _ | kill => exact drains.elim
  | receive _ step gives =>
    obtain ⟨w, calls, thread, rest⟩ := draining.worker
    obtain ⟨lower, receiving⟩ := load_receive (w := w) drains.2 step gives
    have whole := gives.keeps.2.trans draining.whole.2
    exact ⟨⟨draining.running, draining.alive, receiving, draining.said, ⟨draining.whole.1, whole⟩, intact, w, calls,
      thread, rest⟩,
      View.rank_lt thread thread lower⟩
  | @pushDown count w _ thread positive bound _ =>
    exact ⟨⟨draining.running, draining.alive, draining.receiving, draining.said, draining.whole, intact,
      draining.worker⟩,
      View.rank_lt thread thread (load_pushDown positive bound)⟩
  | work thread offSocket step =>
    exact draining.setWorker drains.2 thread step intact ⟨rfl, rfl, rfl, rfl, rfl⟩ (load_work drains.2 offSocket step)
  | serve thread step serves =>
    have before := draining.intact
    rw [thread] at before
    exact draining.setWorker drains.2 thread step intact serves.keeps
      (load_serve before drains.2 step serves)
  | connect _ _ _ | hangUp _ | send _ _ _ | pushUp _ _ _ _ | resetUp _ _ | resetDown _ _ | start _ =>
    exact drains.elim

/-! ## Progress -/

/-- Nothing is on its way to the receiver, and the worker waits for the sender, or is in `outer`. -/
structure Settled (connection : Nat) (s : State) : Prop where
  empty : (s.links connection).down.queue = []
  room : (s.links connection).receiver.filled.length < bufferSize
  waits : ∃ w, s.server.workers connection = some w ∧
    ((∃ received, w.pc = .outer received) ∨ w.pc = .recv ∧ (s.links connection).up.queue = [])

theorem Draining.reads (draining : Draining lost said (s.view connection))
    (more : (s.links connection).down.queue ≠ [] ∨ ¬ (s.links connection).receiver.filled.length < bufferSize) :
    ∃ label s', label.Drains connection ∧ Step capacity s label s' := by
  have bound : (s.links connection).receiver.filled.length ≤ bufferSize := draining.intact.boundFilled
  -- With room in the buffer the kernel copies a byte into it; otherwise `recv` returns what is in it.
  by_cases room : (s.links connection).receiver.filled.length < bufferSize
  · cases queue : (s.links connection).down.queue with
    | nil => exact absurd more (by simp [queue, room])
    | cons b rest =>
      have copy : Receiver.Step (s.links connection).receiver (.copy [b]) _ :=
        .copy draining.receiving [b] (by simp) (Nat.succ_le_of_lt room)
      exact ⟨.receive connection (.copy [b]), _, ⟨rfl, trivial⟩, .receive draining.alive copy (.copy queue)⟩
  · have full : (s.links connection).receiver.filled.length = bufferSize := by omega
    have nonempty : (s.links connection).receiver.filled ≠ [] := by
      intro empty
      rw [empty] at full
      cases full
    have recv := Receiver.Step.recv draining.receiving nonempty
    exact ⟨.receive connection (.recv (some _)), _, ⟨rfl, full⟩,
      .receive draining.alive recv (.recv nonempty)⟩

theorem Draining.works (draining : Draining lost said (s.view connection)) (routed : Routed s)
    (thread : s.server.workers connection = some w) (call : Server.Call) (onward : Onward call)
    (work : Server.Worker.Step w call w')
    (reads : ∀ visited, call = .readVisited visited → visited = s.server.visited)
    (serves : call.OnSocket → ∃ l, (s.links connection).Serves call l) :
    ∃ label s', label.Drains connection ∧ Step capacity s label s' := by
  have step : Server.Step s.server (.work connection call) _ :=
    ⟨routed.running draining.running, .work thread work reads⟩
  by_cases onSocket : call.OnSocket
  · obtain ⟨l, serves⟩ := serves onSocket
    have socket := routed.attached.held connection w thread (work.holds_of_onSocket onSocket)
    exact ⟨.server (.work connection call), _, ⟨rfl, onward⟩, .serve draining.running thread socket step serves⟩
  · exact ⟨.server (.work connection call), _, ⟨rfl, onward⟩, .work draining.running onSocket step⟩

/-- Until the connection has settled, the worker, the receiver or the kernel can go on. -/
theorem Draining.progress (draining : Draining lost said (s.view connection)) (routed : Routed s)
    (room : 0 < capacity) (unsettled : ¬ Settled connection s) :
    ∃ label s', label.Drains connection ∧ Step capacity s label s' := by
  -- The receiver's side comes first; when nothing is left to do there, the worker is not held up by it.
  by_cases more : (s.links connection).down.queue ≠ [] ∨
      ¬ (s.links connection).receiver.filled.length < bufferSize
  · exact draining.reads more
  simp only [not_or, not_not] at more
  obtain ⟨w, calls, thread, inLoop, relaying, _⟩ := draining.worker
  cases at_ : w.pc with
  | setsockopt =>
    exact draining.works routed thread (.setsockopt 0) rfl (.setsockopt at_ 0)
      (fun _ absurd => Server.Call.noConfusion absurd) fun _ => ⟨_, .setsockopt 0⟩
  | recv =>
    cases queue : (s.links connection).up.queue with
    | nil => exact absurd ⟨more.1, more.2, w, thread, .inr ⟨at_, queue⟩⟩ unsettled
    | cons b rest =>
      have nonempty : [b] ≠ [] := by simp
      exact draining.works routed thread (.recv (some [b])) nonempty
        (.recv at_ [b] nonempty (by simp [Server.bufferSize])) (fun _ absurd => Server.Call.noConfusion absurd)
        fun _ => ⟨_, .recv nonempty queue⟩
  | readVisited received =>
    exact draining.works routed thread (.readVisited s.server.visited) trivial (.readVisited at_ _)
      (fun _ same => (Server.Call.readVisited.inj same).symm) fun absurd => absurd.elim
  | testCounter received =>
    exact draining.works routed thread (.testCounter) trivial (.testCounter at_)
      (fun _ absurd => Server.Call.noConfusion absurd) fun absurd => absurd.elim
  | writeVisited received =>
    exact draining.works routed thread (.writeVisited) trivial (.writeVisited at_)
      (fun _ absurd => Server.Call.noConfusion absurd) fun absurd => absurd.elim
  | outer received => exact absurd ⟨more.1, more.2, w, thread, .inl ⟨received, at_⟩⟩ unsettled
  | send received =>
    -- What the worker sends is all in its buffer, and the kernel has taken `pushed` bytes of it.
    have fits := relaying.room received (by rw [at_]; rfl)
    have length : (sendData w).length = received := by
      simp only [sendData, at_, List.length_take]
      omega
    have thread' : (s.view connection).thread = some w := thread
    have bound := draining.intact.boundDown
    rw [thread', passing, length] at bound
    by_cases taken : (s.links connection).down.pushed = received
    · -- All of the data has been taken, and `send` returns.
      refine draining.works routed thread (.send received (some (s.links connection).down.pushed)) taken
        (.send at_ _ bound) (fun _ absurd => Server.Call.noConfusion absurd) fun _ => ⟨_, .send⟩
    · have holds : w.Holds := by simp [Server.Worker.Holds, at_, Server.Pc.holds]
      have socket := routed.attached.held connection w thread holds
      have room : (s.links connection).down.pushed < received := Nat.lt_of_le_of_ne bound taken
      refine ⟨.pushDown connection 1, _, rfl, .pushDown draining.running thread socket Nat.one_pos ?_ ?_⟩
      · omega
      · simp only [more.1, List.length_nil]
        omega
  | egress | free | done => exact absurd (by rw [at_]; rfl) inLoop

/-! ## Runs -/

theorem draining_of_run {serverSock : Nat} (run : Run (Step capacity) (listening serverSock) labels s)
    (uncrashed : Uncrashed connection labels) (live : Live connection s) :
    Draining (lostOn connection labels) (s.links connection).said (s.view connection) := by
  obtain ⟨w, thread, inLoop⟩ := live.serving
  have whole := (closing_of_run run connection).whole
  exact ⟨live.running, live.alive, live.receiving, rfl,
    ⟨whole.up live.alive, whole.down w live.running thread (holds_of_inHand inLoop)⟩,
    intact_of_run run connection, w, _, thread, inLoop, relaying_of_uncrashed run uncrashed thread, rfl⟩

theorem Draining.settled (draining : Draining lost said (s.view connection)) (settled : Settled connection s)
    (uncrashed : ∀ w received, s.server.workers connection = some w → w.pc ≠ .outer received) :
    (s.links connection).obtained <+: said ∧ (s.links connection).obtained.length + lost = said.length := by
  obtain ⟨w, calls, thread, _, relaying, left⟩ := draining.worker
  have thread' : s.server.workers connection = some w := thread
  have intact := draining.intact
  rw [thread] at intact
  have passes := intact.passes relaying
  rw [left] at passes
  rw [← draining.said]
  refine ⟨intact.obtained_prefix passes, ?_⟩
  -- The worker waits with nothing in hand and nothing queued on either side, so that the accounts of the
  -- bytes leave no place for any.
  obtain ⟨w₁, thread₁, waits⟩ := settled.waits
  cases thread'.symm.trans thread₁
  cases waits with
  | inl crashes =>
    obtain ⟨received, at_⟩ := crashes
    exact absurd at_ (uncrashed w received thread')
  | inr idle =>
    have unsent := inHand_nil (w := w) (.inl (by rw [idle.1]; rfl))
    have count := intact.accounted passes
    rw [draining.whole.1, draining.whole.2] at count
    simp only [State.view, Link.unsent, unsent, settled.empty, idle.2, List.drop_nil, List.length_nil,
      Nat.add_zero] at count
    exact count.symm

/-- **No deadlock**: take any state that the system reaches with a connection live and its worker never in
    `outer`.  The worker, the receiver and the kernel alone can make only so many steps there, and as long as
    the connection has not settled they can make another one.  Once it has, with the worker still not in
    `outer`, the receiver has all that the sender had sent but for what was lost before. -/
theorem drains_home {serverSock : Nat} (run : Run (Step capacity) (listening serverSock) labels s)
    (uncrashed : Uncrashed connection labels) (room : 0 < capacity) (live : Live connection s)
    {labels' : List Label}
    (drain : Run (restrict (Step capacity) fun _ label => label.Drains connection) s labels' s') :
    labels'.length ≤ (s.view connection).rank ∧
    (¬ Settled connection s' → ∃ label s'', label.Drains connection ∧ Step capacity s' label s'') ∧
    (Settled connection s' →
      (∀ w received, s'.server.workers connection = some w → w.pc ≠ .outer received) →
      (s'.links connection).obtained <+: (s.links connection).said ∧
      (s'.links connection).obtained.length + lostOn connection labels = (s.links connection).said.length) := by
  -- The invariant is about the bytes that had been sent when the draining began.
  let said := (s.links connection).said
  let Inv (s : State) := Routed s ∧ Draining (lostOn connection labels) said (s.view connection)
  have start : Inv s := ⟨routed_of_run run, draining_of_run run uncrashed live⟩
  have step {s label s'} (inv : Inv s)
      (step : restrict (Step capacity) (fun _ label => label.Drains connection) s label s') :
      Inv s' ∧ (s'.view connection).rank < (s.view connection).rank := by
    have next := inv.2.step step.1 (step.2.view inv.1 connection)
    exact ⟨⟨inv.1.step step.2, next.1⟩, next.2⟩
  have here := drain.invariant Inv (fun inv last => (step inv last).1) start
  have length := drain.length_add_rank_le (fun s => (s.view connection).rank) Inv
    (fun inv last => (step inv last).1) (fun inv last => (step inv last).2) start
  exact ⟨by omega, here.2.progress here.1 room, here.2.settled⟩

theorem drains_home_sample : ∃ labels labels' s s', Run (Step 65536) (listening 3) labels s ∧ Live 0 s ∧
    Run (restrict (Step 65536) fun _ label => label.Drains 0) s labels' s' ∧ Settled 0 s' ∧
    labels'.length ≤ (s.view 0).rank ∧ (s'.links 0).obtained.length = 3 := by
  obtain ⟨labels, run, uncrashed, whole⟩ := @run_threeBytes 65536 (by simp)
  have live : Live 0 (single (threeBytes (.send 3) 1) (threeBack [] .empty)) :=
    ⟨rfl, rfl, rfl, _, rfl, by simp [threeBytes, Server.Pc.inHand]⟩
  have push : Step 65536 (single (threeBytes (.send 3) 1) (threeBack [] .empty)) (.pushDown 0 3)
      (single (threeBytes (.send 3) 1) (threeBack [] ⟨[120, 120, 120], 3, false, []⟩)) :=
    single_pushDown rfl (by simp) (by decide) (by decide)
  have copy : Step 65536 (single (threeBytes (.send 3) 1) (threeBack [] ⟨[120, 120, 120], 3, false, []⟩))
      (.receive 0 (.copy [120, 120, 120]))
      (single (threeBytes (.send 3) 1) (threeBack [120, 120, 120] ⟨[], 3, false, []⟩)) :=
    single_receive rfl (.copy rfl [120, 120, 120] (by simp) (by simp [threeBack, bufferSize])) (.copy rfl)
  have back : Step 65536 (single (threeBytes (.send 3) 1) (threeBack [120, 120, 120] ⟨[], 3, false, []⟩))
      (.server (.work 0 (.send 3 (some 3))))
      (single { threeBytes .recv 1 with accepted := [120, 120, 120] }
        (threeBack [120, 120, 120] .empty)) :=
    single_serve rfl (plain_of_local (fun _ _ => rfl) fun _ => Server.Call.noConfusion)
      (.send rfl 3 (Nat.le_refl 3)) .send
  have first : (Label.pushDown 0 3).Drains 0 := rfl
  have second : (Label.receive 0 (.copy [120, 120, 120])).Drains 0 := ⟨rfl, trivial⟩
  have third : (Label.server (.work 0 (.send 3 (some 3)))).Drains 0 := ⟨rfl, rfl⟩
  have drain : Run (restrict (Step 65536) fun _ label => label.Drains 0) _ _ _ :=
    .cons ⟨first, push⟩ (.cons ⟨second, copy⟩ (.single ⟨third, back⟩))
  obtain ⟨length, _, home⟩ := drains_home run uncrashed (by simp) live drain
  have settled : Settled 0 (single { threeBytes .recv 1 with accepted := [120, 120, 120] }
      (threeBack [120, 120, 120] .empty)) :=
    ⟨rfl, by simp [single, threeBack, bufferSize], _, rfl, .inr ⟨rfl, rfl⟩⟩
  have all := (home settled fun w received thread => by cases thread; exact Server.Pc.noConfusion).2
  rw [whole] at all
  exact ⟨_, _, _, _, run, live, drain, settled, length, all⟩

end Bsord.System
