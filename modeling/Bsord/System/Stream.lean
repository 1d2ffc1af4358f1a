import Bsord.System.Closing

/-! # What passes through a connection

A byte of the sender is queued, received by the worker, in its hand or sent back, queued again and read by
the receiver, in this order and once, in every interleaving of the clients, the workers, the accept loop and
the kernel.  What does not come back has been left over by a `send` of the worker, or dropped when the
connection was reset.
-/

namespace Bsord.System

open Library Client

/-! ## The ends of the streams -/

/-- The bytes of the sender that the kernel has taken, those of the present call included. -/
def Link.said (l : Link) : Text := l.sender.accepted ++ l.sender.data.take l.up.pushed

/-- The bytes that have reached the buffer of the receiver. -/
def Link.obtained (l : Link) : Text := l.receiver.received ++ l.receiver.filled

/-- What the worker of a connection has received, -/
def heard : Option Server.Worker → Text
  | some w => w.received
  | none => []

/-- what its calls of `send` have accepted, -/
def accepted : Option Server.Worker → Text
  | some w => w.accepted
  | none => []

/-- and the data of the call that it is in. -/
def passing : Option Server.Worker → Text
  | some w => sendData w
  | none => []

/-- The bytes of the worker that the kernel has taken. -/
def Link.relayed (l : Link) (thread : Option Server.Worker) : Text :=
  accepted thread ++ (passing thread).take l.down.pushed

/-- Nothing is lost, added or put out of order between the two ends of a stream. -/
structure Intact (l : Link) (thread : Option Server.Worker) : Prop where
  up : l.up.Carries l.said (heard thread)
  down : l.down.Carries (l.relayed thread) l.obtained
  boundUp : l.up.pushed ≤ l.sender.data.length
  boundDown : l.down.pushed ≤ (passing thread).length
  boundFilled : l.receiver.filled.length ≤ bufferSize
  payload : ∀ b ∈ l.sender.accepted, b = 120
  total : l.receiver.totalReceived = UInt64.ofNat l.receiver.received.length

variable {l l' : Link} {thread : Option Server.Worker} {w w' : Server.Worker}

theorem Intact.connected (sender receiver : Bool) : Intact (.connected sender receiver) none where
  up := rfl
  down := rfl
  boundUp := Nat.zero_le _
  boundDown := Nat.le_refl 0
  boundFilled := Nat.zero_le _
  payload _ mem := nomatch mem
  total := rfl

theorem Intact.unconnected : Intact .unconnected none where
  up := rfl
  down := rfl
  boundUp := Nat.zero_le _
  boundDown := Nat.le_refl 0
  boundFilled := Nat.zero_le _
  payload _ mem := nomatch mem
  total := rfl

theorem Intact.hangUp (intact : Intact l thread) : Intact l.hangUp thread where
  up := intact.up
  down := intact.down
  boundUp := intact.boundUp
  boundDown := intact.boundDown
  boundFilled := intact.boundFilled
  payload := intact.payload
  total := intact.total

theorem Intact.orphan (intact : Intact l thread) : Intact l.orphan thread where
  up := intact.up
  down := intact.down
  boundUp := intact.boundUp
  boundDown := intact.boundDown
  boundFilled := intact.boundFilled
  payload := intact.payload
  total := intact.total

/-! ## Steps of the client -/

theorem data_of_ne {r : Sender} (idle : r.pc ≠ .send) : r.data = [] := if_neg idle

theorem mem_senderBuffer {b : UInt8} (mem : b ∈ senderBuffer) : b = 120 := List.eq_of_mem_replicate mem

theorem Intact.pushed_eq_zero (intact : Intact l thread) (idle : l.sender.pc ≠ .send) :
    l.up.pushed = 0 := by
  have bound := intact.boundUp
  rw [data_of_ne idle] at bound
  exact Nat.le_zero.mp bound

theorem Intact.send (intact : Intact l thread) {call : SenderCall} {sender : Sender} {up : Channel UInt8}
    (step : Sender.Step l.sender call sender) (takes : Takes l.up call up) :
    Intact { l with sender, up } thread := by
  have carries := intact.up
  cases step with
  | sendFails at_ =>
    cases takes with
    | sendFails nothing =>
      refine ⟨?_, intact.down, ?_, intact.boundDown, intact.boundFilled, intact.payload, intact.total⟩
      · simp only [Link.said, nothing, Channel.Carries, List.take_zero] at carries ⊢
        exact carries
      · simp [nothing]
  | send at_ sent bound =>
    cases takes with
    | send =>
      refine ⟨?_, intact.down, Nat.zero_le _, intact.boundDown, intact.boundFilled, fun b mem => ?_, intact.total⟩
      · simp only [Link.said, Sender.data, at_, if_true, Channel.Carries] at carries
        simp only [Link.said, Channel.Carries, Channel.settle, List.take_zero, List.append_nil]
        exact carries
      · cases List.mem_append.mp mem with
        | inl before => exact intact.payload b before
        | inr now => exact mem_senderBuffer (List.mem_of_mem_take now)
  | sleep at_ =>
    cases takes with
    | sleep =>
      -- Outside of `send` the kernel has taken no data that the sender has yet to count.
      have idle := intact.pushed_eq_zero (by simp [at_])
      refine ⟨?_, intact.down, ?_, intact.boundDown, intact.boundFilled, intact.payload, intact.total⟩
      · simp only [Link.said, idle, Channel.Carries, List.take_zero] at carries ⊢
        exact carries
      · simp [idle]
  | free at_ =>
    cases takes with
    | free =>
      have idle := intact.pushed_eq_zero (by simp [at_])
      refine ⟨?_, intact.down, ?_, intact.boundDown, intact.boundFilled, intact.payload, intact.total⟩
      · simp only [Link.said, idle, Channel.Carries, List.take_zero] at carries ⊢
        exact carries
      · simp [idle]

theorem Intact.pushUp (intact : Intact l thread) (whole : l.up.dropped = []) {count : Nat}
    (bound : l.up.pushed + count ≤ l.sender.data.length) :
    Intact { l with up := l.up.push l.sender.data count } thread where
  up := intact.up.push whole count
  down := intact.down
  boundUp := bound
  boundDown := intact.boundDown
  boundFilled := intact.boundFilled
  payload := intact.payload
  total := intact.total

/-- A `recv` that returns leaves the stream as it is; the kernel has copied before. -/
theorem Gives.eq_of_recv {r : Sender} {c c' : Channel UInt8} {chunk : Text}
    (gives : Gives r c (.recv (some chunk)) c') : c' = c := by
  cases gives <;> rfl

theorem Intact.receive (intact : Intact l thread) {call : ReceiverCall} {receiver : Receiver}
    {down : Channel UInt8} (step : Receiver.Step l.receiver call receiver)
    (gives : Gives l.sender l.down call down) :
    Intact { l with receiver, down } thread := by
  have carries := intact.down
  cases step with
  | copy at_ chunk nonempty bound =>
    cases gives with
    | copy head =>
      refine ⟨intact.up, ?_, intact.boundUp, intact.boundDown, ?_, intact.payload, intact.total⟩
      · simp only [Link.obtained, ← List.append_assoc]
        exact carries.leave head
      · rw [List.length_append]
        exact bound
  | recv at_ nonempty =>
    rw [gives.eq_of_recv]
    refine ⟨intact.up, ?_, intact.boundUp, intact.boundDown, Nat.zero_le _, intact.payload, ?_⟩
    · simp only [Link.obtained, List.append_nil]
      exact carries
    -- The total is kept modulo the size of the counter.
    · simp only [List.length_append, UInt64.ofNat_add, intact.total]
  | recvFails at_ empty =>
    cases gives with
    | recvFails =>
      exact ⟨intact.up, carries, intact.boundUp, intact.boundDown, intact.boundFilled, intact.payload, intact.total⟩
  | recvCloses at_ empty =>
    rw [gives.eq_of_recv]
    exact ⟨intact.up, carries, intact.boundUp, intact.boundDown, intact.boundFilled, intact.payload, intact.total⟩
  | free at_ =>
    cases gives with
    | free =>
      exact ⟨intact.up, carries, intact.boundUp, intact.boundDown, intact.boundFilled, intact.payload, intact.total⟩

/-! ## Resets -/

theorem Intact.resetUp (intact : Intact l thread) {kept lost : Text} (parts : l.up.queue = kept ++ lost) :
    Intact { l with up := l.up.reset kept lost } thread where
  up := intact.up.reset parts
  down := intact.down
  boundUp := intact.boundUp
  boundDown := intact.boundDown
  boundFilled := intact.boundFilled
  payload := intact.payload
  total := intact.total

theorem Intact.resetDown (intact : Intact l thread) {kept lost : Text} (parts : l.down.queue = kept ++ lost) :
    Intact { l with down := l.down.reset kept lost } thread where
  up := intact.up
  down := intact.down.reset parts
  boundUp := intact.boundUp
  boundDown := intact.boundDown
  boundFilled := intact.boundFilled
  payload := intact.payload
  total := intact.total

/-! ## Steps of the worker -/

theorem Intact.pushDown (intact : Intact l (some w)) (whole : l.down.dropped = []) {count : Nat}
    (bound : l.down.pushed + count ≤ (sendData w).length) :
    Intact { l with down := l.down.push (sendData w) count } (some w) where
  up := intact.up
  down := intact.down.push whole count
  boundUp := intact.boundUp
  boundDown := bound
  boundFilled := intact.boundFilled
  payload := intact.payload
  total := intact.total

theorem Intact.start (intact : Intact l none) (sock : Nat) (buffer : Text) :
    Intact l (some (Server.Worker.start sock buffer)) where
  up := intact.up
  down := intact.down
  boundUp := intact.boundUp
  boundDown := intact.boundDown
  boundFilled := intact.boundFilled
  payload := intact.payload
  total := intact.total

theorem Intact.congr (intact : Intact l (some w)) (nothing : l.down.pushed = 0)
    (received : w'.received = w.received) (accepted : w'.accepted = w.accepted) : Intact l (some w') := by
  have down := intact.down
  have up := intact.up
  refine ⟨?_, ?_, intact.boundUp, nothing ▸ Nat.zero_le _, intact.boundFilled, intact.payload, intact.total⟩
  · simp only [heard, received] at up ⊢
    exact up
  · simp only [Link.relayed, System.accepted, nothing, List.take_zero, accepted] at down ⊢
    exact down

theorem Intact.pushed_eq_zero_down (intact : Intact l (some w)) (idle : ∀ received, w.pc ≠ .send received) :
    l.down.pushed = 0 := by
  have bound := intact.boundDown
  simp only [passing, sendData_of_ne idle] at bound
  exact Nat.le_zero.mp bound

theorem Intact.work (intact : Intact l (some w)) {call : Server.Call} (offSocket : ¬ call.OnSocket)
    (step : Server.Worker.Step w call w') : Intact l (some w') := by
  cases step with
  | setsockopt _ _ | recvFails _ | recvCloses _ | recv _ _ _ _ | sendFails _ | send _ _ _ | close _ =>
    exact absurd trivial offSocket
  | readVisited at_ _ | testCounter at_ | writeVisited at_ | outer at_ _ | free at_ =>
    exact intact.congr (intact.pushed_eq_zero_down (by simp [at_])) rfl rfl

theorem Intact.serve (intact : Intact l (some w)) {call : Server.Call}
    (step : Server.Worker.Step w call w') (serves : l.Serves call l') : Intact l' (some w') := by
  cases step with
  | setsockopt at_ err =>
    cases serves with
    | setsockopt _ => exact intact.congr (intact.pushed_eq_zero_down (by simp [at_])) rfl rfl
  | recvFails at_ =>
    cases serves with
    | recvFails => exact intact.congr (intact.pushed_eq_zero_down (by simp [at_])) rfl rfl
  | recvCloses at_ =>
    cases serves with
    | recv absurd _ => exact (absurd rfl).elim
    | recvCloses _ _ _ => exact intact.congr (intact.pushed_eq_zero_down (by simp [at_])) rfl rfl
  | recv at_ chunk nonempty bound =>
    cases serves with
    | recv _ head =>
      have nothing := intact.pushed_eq_zero_down (by simp [at_])
      have down := intact.down
      refine ⟨intact.up.leave head, ?_, intact.boundUp, nothing ▸ Nat.zero_le _, intact.boundFilled, intact.payload,
        intact.total⟩
      simp only [Link.relayed, nothing, List.take_zero] at down ⊢
      exact down
    | recvCloses _ _ _ => exact absurd rfl nonempty
  | sendFails at_ =>
    cases serves with
    | sendFails nothing => exact intact.congr nothing rfl rfl
  | @send received at_ sent bound =>
    cases serves with
    | send =>
      have down := intact.down
      refine ⟨intact.up, ?_, intact.boundUp, Nat.zero_le _, intact.boundFilled, intact.payload, intact.total⟩
      -- What was taken of the call is accepted now.
      simp only [Link.relayed, accepted, passing, sendData, at_] at down
      simp only [Link.relayed, accepted, Channel.settle, List.take_zero, List.append_nil]
      exact down
  | close at_ =>
    cases serves with
    | close =>
      have closing : Intact l (some { w with pc := .free }) :=
        intact.congr (intact.pushed_eq_zero_down (by simp [at_])) rfl rfl
      exact closing.orphan
  | readVisited _ _ | testCounter _ | writeVisited _ | outer _ _ | free _ => cases serves

/-! ## Runs -/

variable {capacity connection : Nat} {v v' : View} {s : State} {label : Label} {labels : List Label}

theorem Intact.step (intact : Intact v.link v.thread) (whole : v.Whole)
    (step : View.Step capacity connection v label v') :
    Intact v'.link v'.thread := by
  cases step with
  | elsewhere _ => exact intact
  | connect sender receiver idle =>
    rw [idle]
    exact .connected sender receiver
  | hangUp _ => exact intact.hangUp
  | send _ step takes => exact intact.send step takes
  | pushUp alive _ bound _ => exact intact.pushUp (whole.up alive) bound
  | receive _ step gives => exact intact.receive step gives
  | pushDown running thread positive bound _ =>
    have holds := holds_of_sendData positive (Nat.le_trans (Nat.le_add_left _ _) bound)
    have whole := whole.down _ running thread holds
    rw [thread] at intact ⊢
    exact intact.pushDown whole bound
  | resetUp _ parts => exact intact.resetUp parts
  | resetDown _ parts => exact intact.resetDown parts
  | start idle =>
    rw [idle] at intact
    exact intact.start _ _
  | work thread offSocket step =>
    rw [thread] at intact
    exact intact.work offSocket step
  | serve thread step serves =>
    rw [thread] at intact
    exact intact.serve step serves
  | exit _ => exact intact.orphan

theorem intact_of_run {serverSock : Nat} (run : Run (Step capacity) (listening serverSock) labels s)
    (connection : Nat) : Intact (s.links connection) (s.server.workers connection) := by
  have both := (view_run run connection).invariant_history
    (fun labels v => Closing connection labels v ∧ Intact v.link v.thread)
    (fun both step => ⟨both.1.step step, both.2.step both.1.whole step⟩) ⟨.unconnected, .unconnected⟩
  exact both.2

end Bsord.System
