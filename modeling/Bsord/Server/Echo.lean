import Bsord.Server.Accept

/-! # What is received is sent back

The worker passes the whole of each chunk to `send` once and does not look at the count that comes back.
The bytes accepted are the bytes received as long as every `send` accepts all it is given; what one leaves
over is never sent.
-/

namespace Bsord.Server

open Library

variable {w w' : Worker} {call : Call}

/-- At the top of an iteration all bytes received have been accepted, and before they are accepted in the
    order in which they were received. -/
structure Echoes (w : Worker) : Prop where
  top : w.pc = .recv → w.accepted = w.received
  leading : w.accepted <+: w.received

/-- How many of the bytes received have not been passed to `send` yet, while the loop goes on. -/
def Pc.inHand : Pc → Option Nat
  | .setsockopt | .recv => some 0
  | .readVisited received | .testCounter received | .writeVisited received | .outer received
  | .send received => some received
  | .egress | .free | .done => none

/-- All bytes received have been accepted or stand at the head of the buffer. -/
structure Holding (w : Worker) : Prop where
  leading : w.accepted <+: w.received
  inHand : ∀ received, w.pc.inHand = some received →
    received ≤ w.buffer.length ∧ w.received = w.accepted ++ w.buffer.take received

theorem Holding.echoes (holding : Holding w) : Echoes w where
  leading := holding.leading
  top at_ := by
    have same := (holding.inHand 0 (by rw [at_]; rfl)).2
    rw [same, List.take_zero, List.append_nil]

theorem Holding.start (sock : Nat) (buffer : Text) : Holding (Worker.start sock buffer) where
  leading := List.nil_prefix
  inHand received same := by
    cases same
    exact ⟨Nat.zero_le _, rfl⟩

theorem Holding.moves (holding : Holding w) (i : Nat) {pc : Pc}
    (same : ∀ received, pc.inHand = some received → w.pc.inHand = some received) :
    Holding { w with pc, i } where
  leading := holding.leading
  inHand received at_ := holding.inHand received (same received at_)

/-- A `send` that does not fail accepts all that it is given. -/
def Call.Full : Call → Prop
  | .send requested (some sent) => sent = requested
  | _ => True

def Call.Crashes : Call → Prop
  | .outer _ => True
  | _ => False

theorem full_iff {calls : List Call} : (∀ call ∈ calls, call.Full) ↔
    ∀ requested sent, .send requested (some sent) ∈ calls → sent = requested := by
  constructor
  · intro full requested sent mem
    exact full _ mem
  · intro all call mem
    cases call with
    | send requested sent =>
      cases sent with
      | none => exact trivial
      | some sent => exact all requested sent mem
    | setsockopt _ | recv _ | readVisited _ | testCounter | writeVisited | outer _ | close | free =>
      exact trivial

theorem Holding.step (holding : Holding w) (uncrashed : ¬ call.Crashes) (full : call.Full)
    (step : Worker.Step w call w') : Holding w' := by
  cases step with
  | setsockopt at_ err =>
    apply holding.moves w.i
    rw [at_]
    split <;> simp [Pc.inHand]
  | recvFails at_ | recvCloses at_ | sendFails at_ | close at_ | free at_ =>
    exact holding.moves w.i fun received absurd => by cases absurd
  | recv at_ chunk nonempty bound =>
    -- Nothing was in hand, and the chunk is at the head of the buffer now.
    have same := (holding.inHand 0 (by rw [at_]; rfl)).2
    rw [List.take_zero, List.append_nil] at same
    refine ⟨holding.leading.trans (List.prefix_append _ _), fun received inHand => ?_⟩
    cases inHand
    refine ⟨by simp, ?_⟩
    rw [List.take_left, same]
  | readVisited at_ visited =>
    apply holding.moves w.i
    rw [at_]
    split <;> exact fun _ same => same
  | testCounter at_ =>
    apply holding.moves
    rw [at_]
    split <;> exact fun _ same => same
  | writeVisited at_ =>
    apply holding.moves w.i
    rw [at_]
    exact fun _ same => same
  | outer at_ buffer => exact absurd trivial uncrashed
  | @send requested at_ sent bound =>
    -- What was in hand is accepted as a whole.
    have all : sent = requested := full
    have same := (holding.inHand requested (by rw [at_]; rfl)).2
    rw [all, List.take_take, Nat.min_self, ← same]
    refine ⟨List.prefix_refl _, fun received inHand => ?_⟩
    cases inHand
    exact ⟨Nat.zero_le _, by simp⟩

/-! ## Runs -/

theorem Holding.full_of_echoes (holding : Holding w) (step : Worker.Step w call w')
    (echoes : Echoes w') : call.Full := by
  cases step with
  | @send requested at_ sent bound =>
    obtain ⟨room, same⟩ := holding.inHand requested (by rw [at_]; rfl)
    have top := echoes.top rfl
    show sent = requested
    have length := congrArg List.length (top.trans same)
    simp only [List.length_append, List.length_take] at length
    omega
  | setsockopt _ _ | recvFails _ | recvCloses _ | recv _ _ _ _ | readVisited _ _ | testCounter _
  | writeVisited _ | outer _ _ | sendFails _ | close _ | free _ => exact trivial

/-- **Echo**: in a run that does not enter `outer`, the law holds in every state up to the end exactly when
    every `send` that did not fail accepted all the bytes it was given. -/
theorem echo_iff {sock : Nat} {buffer : Text} {calls : List Call} {w : Worker}
    (run : Run Worker.Step (Worker.start sock buffer) calls w)
    (uncrashed : ∀ call ∈ calls, ¬ call.Crashes) :
    (∀ before reached, before <+: calls → Run Worker.Step (Worker.start sock buffer) before reached →
      Echoes reached) ↔
    ∀ requested sent, .send requested (some sent) ∈ calls → sent = requested := by
  have law := run.law_iff (fun call => ¬ call.Crashes) Call.Full Holding Echoes uncrashed
    (fun uncrashed full holding step => holding.step uncrashed full step) Holding.echoes
    (fun holding step echoes => holding.full_of_echoes step echoes) (.start sock buffer)
  rw [law, full_iff]

/-- In the server, every worker that has not entered `outer` and whose sends have accepted all they were
    given keeps the law, whatever becomes of the other connections. -/
theorem connection_echoes {serverSock connection : Nat} {labels : List Label} {s : State}
    (run : Run Step (listening serverSock) labels s) (thread : s.workers connection = some w)
    (uncrashed : ∀ buffer, .work connection (.outer buffer) ∉ labels)
    (full : ∀ requested sent, .work connection (.send requested (some sent)) ∈ labels → sent = requested) :
    Echoes w := by
  obtain ⟨buffer, own⟩ := (served_of_run run).runs connection w thread
  have uncrashed : ∀ call ∈ callsOf connection labels, ¬ call.Crashes := by
    intro call mem crashes
    cases call with
    | outer buffer => exact uncrashed buffer (mem_callsOf.mp mem)
    | setsockopt _ | recv _ | readVisited _ | testCounter | writeVisited | send _ _ | close | free =>
      exact crashes
  have full : ∀ call ∈ callsOf connection labels, call.Full :=
    full_iff.mpr fun requested sent mem => full requested sent (mem_callsOf.mp mem)
  have holding : Holding w := own.invariant_of_labels (fun call => ¬ call.Crashes ∧ call.Full) Holding
    (fun call mem => ⟨uncrashed call mem, full call mem⟩)
    (fun allowed holding step => holding.step allowed.1 allowed.2 step) (.start _ buffer)
  exact holding.echoes

/-! ## A short send -/

theorem run_iteration (at_ : w.pc = .recv) (chunk : Text) (nonempty : chunk ≠ [])
    (bound : chunk.length ≤ bufferSize) (sent : Nat) (short : sent ≤ chunk.length) :
    ∃ w', Run Worker.Step w
        [.recv (some chunk), .readVisited true, .send chunk.length (some sent)] w' ∧
      w'.pc = .recv ∧ w'.received = w.received ++ chunk ∧
      w'.accepted = w.accepted ++ chunk.take sent := by
  have recv := Worker.Step.recv at_ chunk nonempty bound
  have read := Worker.Step.readVisited (w := { w with
    pc := .readVisited chunk.length
    buffer := chunk ++ w.buffer.drop chunk.length
    received := w.received ++ chunk }) rfl true
  have send := Worker.Step.send (w := { w with
    pc := .send chunk.length
    buffer := chunk ++ w.buffer.drop chunk.length
    received := w.received ++ chunk }) rfl sent short
  refine ⟨_, .cons recv (.cons read (.single send)), rfl, rfl, ?_⟩
  rw [List.take_left]

theorem echo_sample : ∃ w, Run Worker.Step (Worker.start 4 (List.replicate bufferSize 0))
    [.setsockopt 0, .recv (some [1, 2]), .readVisited true, .send 2 (some 2)] w ∧
      w.received = [1, 2] ∧ Echoes w := by
  obtain ⟨w, run, at_, received, accepted⟩ := run_iteration (w := { Worker.start 4
    (List.replicate bufferSize 0) with pc := .recv }) rfl [1, 2] (by decide) (by decide) 2 (Nat.le_refl 2)
  have whole := Run.cons (Worker.Step.setsockopt (w := Worker.start 4 _) rfl 0) run
  refine ⟨w, whole, received, (echo_iff whole ?_).mpr ?_ _ w (List.prefix_refl _) whole⟩
  · intro call mem
    simp only [List.mem_cons, List.not_mem_nil, or_false] at mem
    rcases mem with rfl | rfl | rfl | rfl
    all_goals exact id
  · intro requested sent mem
    simp at mem
    omega

/-- A byte that `send` leaves over is lost. -/
theorem echo_loses : ∃ calls w, Run Worker.Step (Worker.start 4 (List.replicate bufferSize 0)) calls w ∧
    (∀ call ∈ calls, ¬ call.Crashes) ∧ w.received = [1, 2, 3] ∧ w.accepted = [1, 3] ∧ ¬ Echoes w := by
  obtain ⟨w, first, at_, received, accepted⟩ := run_iteration (w := { Worker.start 4
    (List.replicate bufferSize 0) with pc := .recv }) rfl [1, 2] (by decide) (by decide) 1 (by decide)
  obtain ⟨w', second, _, received', accepted'⟩ := run_iteration at_ [3] (by decide) (by decide) 1
    (by decide)
  rw [received] at received'
  rw [accepted] at accepted'
  refine ⟨_, w', (Run.cons (Worker.Step.setsockopt (w := Worker.start 4 _) rfl 0) first).append second,
    ?_, received', accepted', fun echoes => ?_⟩
  · intro call mem
    simp at mem
    rcases mem with rfl | rfl | rfl | rfl | rfl | rfl | rfl
    all_goals exact id
  · have leading := echoes.leading
    rw [received', accepted'] at leading
    revert leading
    decide

/-! ## What sends leave over -/

def Worker.inHand (w : Worker) : Text :=
  match w.pc.inHand with
  | some received => w.buffer.take received
  | none => []

def Call.lost : Call → Nat
  | .send requested sent => requested - sent.getD 0
  | _ => 0

def lost (calls : List Call) : Nat := (calls.map Call.lost).sum

theorem lost_snoc (calls : List Call) (call : Call) : lost (calls ++ [call]) = lost calls + call.lost := by
  simp [lost]

/-- The worker sends back what it has received, in order and without repetition, and each byte it has
    received is accepted, in hand or lost to a `send`. -/
structure Relaying (calls : List Call) (w : Worker) : Prop where
  room : ∀ received, w.pc.inHand = some received → received ≤ w.buffer.length
  order : (w.accepted ++ w.inHand).Sublist w.received
  count : w.received.length = w.accepted.length + w.inHand.length + lost calls

theorem Relaying.start (sock : Nat) (buffer : Text) : Relaying [] (Worker.start sock buffer) where
  room received same := by
    cases same
    exact Nat.zero_le _
  order := List.nil_sublist _
  count := rfl

theorem Relaying.moves {calls : List Call} (relaying : Relaying calls w) (i : Nat) {pc : Pc}
    (quiet : call.lost = 0) (same : pc.inHand = w.pc.inHand) :
    Relaying (calls ++ [call]) { w with pc, i } := by
  have inHand : Worker.inHand { w with pc, i } = w.inHand := by
    simp only [Worker.inHand, same]
  refine ⟨fun received at_ => relaying.room received (same ▸ at_), ?_, ?_⟩
  · rw [inHand]
    exact relaying.order
  · rw [inHand, lost_snoc, quiet]
    exact relaying.count

theorem Relaying.leaves {calls : List Call} (relaying : Relaying calls w) {pc : Pc}
    (quiet : call.lost = 0) (empty : w.inHand = []) (out : pc.inHand = none) :
    Relaying (calls ++ [call]) { w with pc } := by
  have inHand : Worker.inHand { w with pc } = w.inHand := by
    rw [empty, Worker.inHand, out]
  refine ⟨fun received at_ => ?_, ?_, ?_⟩
  · rw [out] at at_
    cases at_
  · rw [inHand]
    exact relaying.order
  · rw [inHand, lost_snoc, quiet]
    exact relaying.count

theorem Relaying.step {calls : List Call} (relaying : Relaying calls w) (uncrashed : ¬ call.Crashes)
    (step : Worker.Step w call w') : Relaying (calls ++ [call]) w' := by
  cases step with
  | setsockopt at_ err =>
    split
    · exact relaying.leaves rfl (by simp [Worker.inHand, at_, Pc.inHand]) rfl
    · exact relaying.moves w.i rfl (by rw [at_]; rfl)
  | recvFails at_ | recvCloses at_ =>
    exact relaying.leaves rfl (by simp [Worker.inHand, at_, Pc.inHand]) rfl
  | close at_ | free at_ => exact relaying.moves w.i rfl (by rw [at_]; rfl)
  | recv at_ chunk nonempty bound =>
    have before : w.inHand = [] := by simp [Worker.inHand, at_, Pc.inHand]
    have order := relaying.order
    have count := relaying.count
    rw [before, List.append_nil] at order
    rw [before] at count
    have after (buffer received : Text) : Worker.inHand { w with
        pc := .readVisited chunk.length
        buffer := chunk ++ buffer
        received } = chunk := List.take_left
    refine ⟨fun received at_ => ?_, ?_, ?_⟩
    · cases at_
      simp
    · rw [after]
      exact order.append (List.Sublist.refl chunk)
    · rw [after, lost_snoc]
      simp only [List.length_append, List.length_nil, Call.lost] at count ⊢
      omega
  | readVisited at_ visited =>
    refine relaying.moves w.i rfl ?_
    rw [at_]
    split <;> rfl
  | testCounter at_ =>
    refine relaying.moves _ rfl ?_
    rw [at_]
    split <;> rfl
  | writeVisited at_ => exact relaying.moves w.i rfl (by rw [at_]; rfl)
  | outer at_ buffer => exact absurd trivial uncrashed
  | @sendFails requested at_ =>
    have room := relaying.room requested (by rw [at_]; rfl)
    have inHand : w.inHand = w.buffer.take requested := by simp [Worker.inHand, at_, Pc.inHand]
    have order := relaying.order
    have count := relaying.count
    rw [inHand] at order count
    have after : Worker.inHand { w with pc := .egress } = [] := rfl
    refine ⟨fun received absurd => (nomatch absurd), ?_, ?_⟩
    · rw [after, List.append_nil]
      exact (List.sublist_append_left _ _).trans order
    · rw [after, lost_snoc]
      simp only [List.length_take, Call.lost, Option.getD_none, List.length_nil] at count ⊢
      omega
  | @send requested at_ sent bound =>
    have room := relaying.room requested (by rw [at_]; rfl)
    have inHand : w.inHand = w.buffer.take requested := by simp [Worker.inHand, at_, Pc.inHand]
    have order := relaying.order
    have count := relaying.count
    rw [inHand] at order count
    have after : Worker.inHand { w with
        pc := .recv
        accepted := w.accepted ++ (w.buffer.take requested).take sent } = [] := rfl
    refine ⟨fun received at_ => ?_, ?_, ?_⟩
    · cases at_
      exact Nat.zero_le _
    · rw [after, List.append_nil]
      exact ((List.Sublist.refl w.accepted).append (List.take_sublist _ _)).trans order
    · rw [after, lost_snoc]
      simp only [List.length_append, List.length_take, Call.lost, Option.getD_some,
        List.length_nil] at count ⊢
      omega

theorem relaying_of_run {sock : Nat} {buffer : Text} {calls : List Call}
    (run : Run Worker.Step (Worker.start sock buffer) calls w)
    (uncrashed : ∀ call ∈ calls, ¬ call.Crashes) : Relaying calls w := by
  refine run.invariant_history (fun calls w => (∀ call ∈ calls, ¬ call.Crashes) → Relaying calls w)
    (fun before step uncrashed => ?_) (fun _ => .start sock buffer) uncrashed
  have earlier := before fun call mem => uncrashed call (List.mem_append_left _ mem)
  exact earlier.step (uncrashed _ (List.mem_append_right _ List.mem_cons_self)) step

end Bsord.Server
