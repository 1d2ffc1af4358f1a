import Bsord.Server.Accept

/-! # The crash injection

A worker that reads `visited` as false for its third chunk goes on to set the flag and to call `outer`.
Other workers can read the flag before it is set, and nothing makes them wait: the injection is made once
as long as no worker does so for its own third chunk.
-/

namespace Bsord.Server

open Library

/-! ## Entries into `outer` -/

/-- The worker sets the flag, and is in `outer` from then on. -/
def Label.injects : Label → Bool
  | .work _ .writeVisited => true
  | _ => false

def injections (labels : List Label) : Nat := labels.countP Label.injects

/-- The worker has read the flag as false for its third chunk and has not set it yet. -/
def Worker.armed (w : Worker) : Bool :=
  match w.pc with
  | .testCounter _ => w.i == 2
  | .writeVisited _ => true
  | _ => false

def State.Armed (s : State) (connection : Nat) : Prop :=
  ∃ worker, s.workers connection = some worker ∧ worker.armed = true

/-- No worker reads the flag as false for its third chunk while another is between such a read and its
    write. -/
def Alone (s : State) : Label → Prop
  | .work connection (.readVisited false) => ∀ worker, s.workers connection = some worker →
      worker.i = 2 → ∀ other, other ≠ connection → ¬ s.Armed other
  | _ => True

variable {w w' : Worker} {call : Call} {s s' : State} {connection : Nat} {labels : List Label}

/-- Only a read of the flag arms a worker, and the write disarms it. -/
theorem Worker.Step.armed (step : Worker.Step w call w') (armed : w'.armed = true) :
    (w.armed = true ∧ call ≠ .writeVisited) ∨ (call = .readVisited false ∧ w.i = 2) := by
  cases step with
  | readVisited at_ visited =>
    cases visited with
    | false => exact .inr ⟨rfl, by simpa [Worker.armed] using armed⟩
    | true => nomatch armed
  | testCounter at_ =>
    refine .inl ⟨?_, Call.noConfusion⟩
    by_cases third : w.i = 2
    · simp [Worker.armed, at_, third]
    · simp [Worker.armed, third] at armed
  | setsockopt at_ err =>
    by_cases failed : err = 0
    · simp [Worker.armed, failed] at armed
    · simp [Worker.armed, failed] at armed
  | recvFails _ | recvCloses _ | recv _ _ _ _ | writeVisited _ | outer _ _ | sendFails _ | send _ _ _
  | close _ | free _ => nomatch armed

theorem Worker.Step.armed_of_writes (step : Worker.Step w .writeVisited w') : w.armed = true := by
  cases step with
  | writeVisited at_ => simp [Worker.armed, at_]

/-! ## The invariant -/

theorem injections_snoc (labels : List Label) (label : Label) :
    injections (labels ++ [label]) = injections labels + if label.injects then 1 else 0 := by
  simp [injections, List.countP_append, List.countP_singleton]

/-- The flag counts the injections, and nobody is armed once it is set. -/
structure Injected (labels : List Label) (s : State) : Prop where
  counted : injections labels = if s.visited then 1 else 0
  alone : ∀ first second, s.Armed first → s.Armed second → first = second
  spent : s.visited = true → ∀ connection, ¬ s.Armed connection

theorem Injected.listening (serverSock : Nat) : Injected [] (listening serverSock) where
  counted := rfl
  alone _ _ first := by
    obtain ⟨_, absurd, _⟩ := first
    nomatch absurd
  spent absurd := nomatch absurd

theorem Injected.keep (injected : Injected labels s) {label : Label} (silent : label.injects = false)
    (visited : s'.visited = s.visited) (fewer : ∀ other, s'.Armed other → s.Armed other) :
    Injected (labels ++ [label]) s' where
  counted := by
    rw [injections_snoc, silent, visited]
    exact injected.counted
  alone first second armed too := injected.alone first second (fewer first armed) (fewer second too)
  spent set other armed := injected.spent (visited ▸ set) other (fewer other armed)

theorem armed_update {worker : Worker}
    (workers : s'.workers = Function.update s.workers connection (some worker)) {other : Nat}
    (armed : s'.Armed other) :
    (other = connection ∧ worker.armed = true) ∨ (other ≠ connection ∧ s.Armed other) := by
  obtain ⟨worker', thread, armed⟩ := armed
  cases workers_update workers thread with
  | inl here =>
    cases here.2
    exact .inl ⟨here.1, armed⟩
  | inr elsewhere => exact .inr ⟨elsewhere.1, worker', elsewhere.2, armed⟩

theorem State.after_visited (s : State) (sock : Nat) (ne : call ≠ .writeVisited) :
    (s.after sock call).visited = s.visited := by
  cases call with
  | writeVisited => exact absurd rfl ne
  | setsockopt _ | recv _ | readVisited _ | testCounter | outer _ | send _ _ | close | free => rfl

theorem Injected.write (injected : Injected labels s) (thread : s.workers connection = some w)
    (step : Worker.Step w .writeVisited w') (visited : s'.visited = true)
    (workers : s'.workers = Function.update s.workers connection (some w')) :
    Injected (labels ++ [.work connection .writeVisited]) s' := by
  have armed : s.Armed connection := ⟨w, thread, step.armed_of_writes⟩
  have unset : s.visited = false := by
    by_contra set
    exact injected.spent (Bool.eq_true_of_not_eq_false set) connection armed
  have nobody : ∀ other, ¬ s'.Armed other := by
    intro other still
    cases armed_update workers still with
    | inl own =>
      cases step.armed own.2 with
      | inl before => exact before.2 rfl
      | inr read => nomatch read.1
    | inr different => exact different.1 (injected.alone other connection different.2 armed)
  refine ⟨?_, fun first _ absurd => (nobody first absurd).elim, fun _ => nobody⟩
  rw [injections_snoc, injected.counted, unset, visited]
  rfl

theorem Injected.arm (injected : Injected labels s) (unset : s.visited = false)
    (alone : ∀ other, other ≠ connection → ¬ s.Armed other) (visited : s'.visited = s.visited)
    (workers : s'.workers = Function.update s.workers connection (some w')) :
    Injected (labels ++ [.work connection (.readVisited false)]) s' := by
  have own : ∀ other, s'.Armed other → other = connection := by
    intro other armed
    cases armed_update workers armed with
    | inl own => exact own.1
    | inr different => exact absurd different.2 (alone other different.1)
  refine ⟨?_, fun first second armed too => ?_, fun set => ?_⟩
  · rw [injections_snoc, injected.counted, visited]
    rfl
  · rw [own first armed, own second too]
  · rw [visited, unset] at set
    nomatch set

theorem Injected.step {label : Label} (injected : Injected labels s)
    (step : restrict Step Alone s label s') : Injected (labels ++ [label]) s' := by
  obtain ⟨alone, _, action⟩ := step
  cases action with
  | accept _ _ _ _ | acceptFails _ | pthreadCreateFails _ | ret _ =>
    exact injected.keep rfl rfl fun _ armed => armed
  | pthreadCreate at_ buffer =>
    refine injected.keep rfl rfl fun other armed => ?_
    cases armed_update rfl armed with
    | inl own => nomatch own.2
    | inr different => exact different.2
  | @work connection worker worker' call thread step reads =>
    by_cases writes : call = .writeVisited
    · subst writes
      exact injected.write thread step rfl rfl
    · have visited := s.after_visited worker.sock writes
      by_cases arms : call = .readVisited false ∧ worker.i = 2
      · obtain ⟨rfl, third⟩ := arms
        exact injected.arm (reads false rfl).symm (alone worker thread third) visited rfl
      · refine injected.keep ?_ visited fun other armed => ?_
        · cases call with
          | writeVisited => exact absurd rfl writes
          | setsockopt _ | recv _ | readVisited _ | testCounter | outer _ | send _ _ | close | free => rfl
        · cases armed_update rfl armed with
          | inl own =>
            cases step.armed own.2 with
            | inl before => exact ⟨worker, own.1 ▸ thread, before.1⟩
            | inr read => exact absurd read arms
          | inr different => exact different.2

/-! ## What an armed worker can do -/

/-- The step is of the accept loop or of the worker of the connection. -/
def Label.Spares (connection : Nat) : Label → Prop
  | .work other _ => other = connection
  | .accept _ | .pthreadCreate _ | .ret => True

def SameElsewhere (connection : Nat) (s s' : State) : Prop :=
  ∀ other, other ≠ connection → s'.workers other = s.workers other

theorem SameElsewhere.refl (connection : Nat) (s : State) : SameElsewhere connection s s :=
  fun _ _ => rfl

theorem SameElsewhere.trans {s'' : State} (first : SameElsewhere connection s s')
    (second : SameElsewhere connection s' s'') : SameElsewhere connection s s'' :=
  fun other different => (second other different).trans (first other different)

theorem SameElsewhere.update {worker : Option Worker}
    (workers : s'.workers = Function.update s.workers connection worker) : SameElsewhere connection s s' := by
  intro other different
  rw [workers, Function.update_of_ne different]

theorem write_step (guard : State → Label → Prop) (allowed : guard s (.work connection .writeVisited))
    (live : s.pc ≠ .returned) (thread : s.workers connection = some w) {received : Nat}
    (at_ : w.pc = .writeVisited received) :
    ∃ s', restrict Step guard s (.work connection .writeVisited) s' ∧ s'.visited = true ∧ s'.pc = s.pc ∧
      SameElsewhere connection s s' := by
  have step : Action s (.work connection .writeVisited) _ :=
    .work thread (.writeVisited at_) fun _ absurd => nomatch absurd
  exact ⟨_, ⟨allowed, live, step⟩, rfl, rfl, .update rfl⟩

/-- Whatever the flag has become since, an armed worker goes on into `outer`. -/
theorem State.Armed.injects (guard : State → Label → Prop)
    (allowed : ∀ s' label, SameElsewhere connection s s' → label.Spares connection → guard s' label)
    (armed : s.Armed connection) (live : s.pc ≠ .returned) :
    ∃ labels s', Run (restrict Step guard) s labels s' ∧ injections labels = 1 ∧
      .work connection .writeVisited ∈ labels ∧ s'.visited = true ∧ s'.pc = s.pc ∧
      SameElsewhere connection s s' := by
  obtain ⟨worker, thread, armed⟩ := armed
  cases at_ : worker.pc with
  | writeVisited received =>
    have allowed := allowed s (.work connection .writeVisited) (.refl _ s) rfl
    obtain ⟨s', write, set, pc, others⟩ := write_step guard allowed live thread at_
    exact ⟨_, s', .single write, rfl, .head _, set, pc, others⟩
  | testCounter received =>
    have third : worker.i = 2 := by simpa [Worker.armed, at_] using armed
    let tested : Worker := { worker with pc := .writeVisited received, i := worker.i + 1 }
    let s₁ : State := { s with workers := Function.update s.workers connection (some tested) }
    have test : Action s (.work connection .testCounter) s₁ := by
      have step := Worker.Step.testCounter at_
      rw [if_pos third] at step
      exact .work thread step fun _ absurd => nomatch absurd
    have here : s₁.workers connection = some tested := Function.update_self ..
    have same : SameElsewhere connection s s₁ := .update rfl
    obtain ⟨s', write, set, pc, others⟩ := write_step guard (allowed s₁ _ same rfl) live here rfl
    have allowed := allowed s (.work connection .testCounter) (.refl _ s) rfl
    have run := Run.cons ⟨allowed, live, test⟩ (.single write)
    exact ⟨_, s', run, rfl, .tail _ (.head _), set, pc, same.trans others⟩
  | setsockopt | recv | readVisited _ | outer _ | send _ | egress | free | done =>
    rw [Worker.armed, at_] at armed
    nomatch armed

theorem State.Armed.congr (armed : s.Armed connection) (same : s'.workers connection = s.workers connection) :
    s'.Armed connection := by
  obtain ⟨worker, thread, armed⟩ := armed
  exact ⟨worker, same.trans thread, armed⟩

theorem State.Armed.injects_both (armed : s.Armed connection) {other : Nat} (different : other ≠ connection)
    (too : s.Armed other) (live : s.pc ≠ .returned) :
    ∃ labels s', Run Step s labels s' ∧ injections labels = 2 := by
  obtain ⟨labels₁, s₁, first, one, _, _, pc, others⟩ :=
    armed.injects (fun _ _ => True) (fun _ _ _ _ => trivial) live
  have still := too.congr (others other different)
  obtain ⟨labels₂, s₂, second, another, _⟩ :=
    still.injects (fun _ _ => True) (fun _ _ _ _ => trivial) (pc ▸ live)
  refine ⟨labels₁ ++ labels₂, s₂, first.of_restrict.append second.of_restrict, ?_⟩
  simp only [injections, List.countP_append] at one another ⊢
  rw [one, another]

theorem armed_both {label : Label} (step : Step s label s') (together : ¬ Alone s label) :
    ∃ connection other, other ≠ connection ∧ s'.Armed connection ∧ s'.Armed other ∧
      s'.pc ≠ .returned := by
  obtain ⟨live, action⟩ := step
  cases action with
  | accept _ _ _ _ | acceptFails _ | pthreadCreate _ _ | pthreadCreateFails _ | ret _ =>
    exact absurd trivial together
  | @work connection worker worker' call thread step reads =>
    cases step with
    | setsockopt _ _ | recvFails _ | recvCloses _ | recv _ _ _ _ | testCounter _ | writeVisited _
    | outer _ _ | sendFails _ | send _ _ _ | close _ | free _ => exact absurd trivial together
    | @readVisited received at_ visited =>
      cases visited with
      | true => exact absurd trivial together
      | false =>
        simp only [Alone, not_forall, not_not] at together
        obtain ⟨_, same, third, other, different, armed⟩ := together
        cases thread.symm.trans same
        refine ⟨connection, other, different, ⟨_, Function.update_self .., ?_⟩, ?_, live⟩
        · simp [Worker.armed, third]
        · exact armed.congr (Function.update_of_ne different ..)

/-! ## Runs -/

/-- **The injection**: `outer` is entered at most once in every run in which no worker reads the flag as false
    for its third chunk while another one is between such a read and its write.  Once a worker does so, the
    run can go on to enter `outer` twice. -/
theorem injected_once {serverSock : Nat}
    (run : Run (restrict Step Alone) (listening serverSock) labels s) :
    injections labels ≤ 1 ∧
    ∀ label s', Step s label s' → ¬ Alone s label →
      ∃ labels' s'', Run Step s' labels' s'' ∧ 2 ≤ injections (labels ++ label :: labels') := by
  constructor
  · have injected := run.invariant_history Injected Injected.step (.listening serverSock)
    rw [injected.counted]
    split <;> decide
  · intro label s' step together
    obtain ⟨connection, other, different, armed, too, live⟩ := armed_both step together
    obtain ⟨labels', s'', continued, two⟩ := armed.injects_both different too live
    refine ⟨labels', s'', continued, ?_⟩
    simp only [injections, List.countP_append, List.countP_cons] at two ⊢
    omega

/-! ## Two third chunks at once -/

/-- The call leaves the state that the workers share as it is. -/
def Call.Quiet (visited : Bool) : Call → Prop
  | .readVisited read => read = visited
  | .writeVisited | .close => False
  | .setsockopt _ | .recv _ | .testCounter | .outer _ | .send _ _ | .free => True

theorem run_worker (guard : State → Label → Prop)
    (allowed : ∀ s' label, SameElsewhere connection s s' → label.Spares connection → guard s' label)
    {calls : List Call} (run : Run Worker.Step w calls w') (quiet : ∀ call ∈ calls, call.Quiet s.visited)
    (live : s.pc ≠ .returned) (thread : s.workers connection = some w) :
    Run (restrict Step guard) s (calls.map (.work connection))
      { s with workers := Function.update s.workers connection (some w') } := by
  induction run with
  | nil =>
    rw [← thread, Function.update_eq_self]
    exact .nil s
  | @snoc middle last calls call _ step ih =>
    have before := ih fun call mem => quiet call (List.mem_append_left _ mem)
    have quietly := quiet call (List.mem_append_right _ List.mem_cons_self)
    let s₁ : State := { s with workers := Function.update s.workers connection (some middle) }
    have action : Action s₁ (.work connection call) { s₁.after middle.sock call with
        workers := Function.update s₁.workers connection (some last) } := by
      refine .work (Function.update_self ..) step fun visited same => ?_
      rw [same] at quietly
      exact quietly
    have after : s₁.after middle.sock call = s₁ := by
      cases call with
      | writeVisited | close => exact quietly.elim
      | setsockopt _ | recv _ | readVisited _ | testCounter | outer _ | send _ _ | free => rfl
    rw [after] at action
    simp only [s₁, Function.update_idem] at action
    rw [List.map_append]
    exact before.snoc ⟨allowed s₁ _ (.update rfl) rfl, live, action⟩

theorem run_read (at_ : w.pc = .recv) : ∃ w', Run Worker.Step w [.recv (some [0]), .readVisited false] w' ∧
    w'.pc = .testCounter 1 ∧ w'.i = w.i := by
  have recv := Worker.Step.recv at_ [0] (by simp) (by decide)
  have read := Worker.Step.readVisited (w := { w with
    pc := .readVisited 1, buffer := [0] ++ w.buffer.drop 1, received := w.received ++ [0] }) rfl false
  exact ⟨_, .cons recv (.single read), rfl, rfl⟩

theorem run_chunk (at_ : w.pc = .recv) (early : w.i ≠ 2) : ∃ w', Run Worker.Step w
    [.recv (some [0]), .readVisited false, .testCounter, .send 1 (some 1)] w' ∧
      w'.pc = .recv ∧ w'.i = w.i + 1 := by
  obtain ⟨w₁, read, at₁, i₁⟩ := run_read at_
  have test := Worker.Step.testCounter at₁
  rw [i₁, if_neg early] at test
  have send := Worker.Step.send (w := { w₁ with pc := .send 1, i := w.i + 1 }) rfl 1 (Nat.le_refl 1)
  exact ⟨_, read.append (.cons test (.single send)), rfl, rfl⟩

theorem run_two (sock : Nat) : ∃ calls w, Run Worker.Step (Worker.start sock []) calls w ∧
    w.pc = .recv ∧ w.i = 2 ∧ ∀ call ∈ calls, call.Quiet false := by
  have opened := Worker.Step.setsockopt (w := Worker.start sock []) rfl 0
  obtain ⟨w₁, first, at₁, i₁⟩ := run_chunk (w := { Worker.start sock [] with pc := .recv }) rfl
    (Nat.zero_ne_add_one 1)
  have i₁ : w₁.i = 1 := i₁
  obtain ⟨w₂, second, at₂, i₂⟩ := run_chunk at₁ (by simp [i₁])
  refine ⟨_, w₂, (Run.cons opened first).append second, at₂, by simp [i₂, i₁], fun call mem => ?_⟩
  simp only [List.cons_append, List.nil_append, List.mem_cons, List.not_mem_nil, or_false] at mem
  rcases mem with rfl | rfl | rfl | rfl | rfl | rfl | rfl | rfl | rfl
  all_goals simp [Call.Quiet]

theorem run_third (sock : Nat) : ∃ calls w, Run Worker.Step (Worker.start sock []) calls w ∧
    w.armed = true ∧ ∀ call ∈ calls, call.Quiet false := by
  obtain ⟨calls, w, two, at_, third, quiet⟩ := run_two sock
  obtain ⟨w', read, at_', i'⟩ := run_read at_
  refine ⟨_, w', two.append read, by simp [Worker.armed, at_', i', third], fun call mem => ?_⟩
  cases List.mem_append.mp mem with
  | inl before => exact quiet call before
  | inr last =>
    simp only [List.mem_cons, List.not_mem_nil, or_false] at last
    rcases last with rfl | rfl <;> simp [Call.Quiet]

def State.connected (s : State) (sock : Nat) (worker : Worker) : State := { s with
  pc := .accept
  workers := Function.update s.workers s.accepted (some worker)
  table := Function.update s.table sock (some s.accepted)
  accepted := s.accepted + 1 }

theorem State.connected_armed (armed : w.armed = true) (sock : Nat) : (s.connected sock w).Armed s.accepted :=
  ⟨w, Function.update_self .., armed⟩

theorem State.connected_elsewhere (s : State) (sock : Nat) : SameElsewhere s.accepted s (s.connected sock w) :=
  .update rfl

theorem run_connected (guard : State → Label → Prop)
    (allowed : ∀ s' label, SameElsewhere s.accepted s s' → label.Spares s.accepted → guard s' label)
    (at_ : s.pc = .accept) {sock : Nat} (other : sock ≠ s.serverSock) (unused : s.table sock = none)
    {calls : List Call} (run : Run Worker.Step (Worker.start sock []) calls w)
    (quiet : ∀ call ∈ calls, call.Quiet s.visited) :
    ∃ labels, Run (restrict Step guard) s labels (s.connected sock w) := by
  let s₁ : State := { s with
    pc := .pthreadCreate sock s.accepted
    table := Function.update s.table sock (some s.accepted)
    accepted := s.accepted + 1 }
  let s₂ := s.connected sock (Worker.start sock [])
  have live : s.pc ≠ .returned := by simp [at_]
  have accept : restrict Step guard s (.accept (some sock)) s₁ :=
    ⟨allowed s _ (.refl _ s) trivial, live, .accept at_ sock other unused⟩
  have create : restrict Step guard s₁ (.pthreadCreate (some [])) s₂ :=
    ⟨allowed s₁ _ (.refl _ s) trivial, LoopPc.noConfusion, .pthreadCreate rfl []⟩
  have thread : s₂.workers s.accepted = some (Worker.start sock []) := Function.update_self ..
  have work := run_worker guard
    (fun s' label same => allowed s' label ((s.connected_elsewhere sock).trans same)) run quiet
    LoopPc.noConfusion thread
  simp only [State.connected, Function.update_idem] at work
  exact ⟨_, .cons accept (.cons create work)⟩

theorem Alone.of_spares (unarmed : ∀ other, other ≠ connection → ¬ s.Armed other)
    (same : SameElsewhere connection s s') {label : Label} (spares : label.Spares connection) : Alone s' label := by
  cases label with
  | accept _ | pthreadCreate _ | ret => exact trivial
  | work reader call =>
    cases call with
    | readVisited visited =>
      cases visited with
      | true => exact trivial
      | false =>
        intro worker thread _ other different armed
        have own : reader = connection := spares
        rw [own] at different
        exact unarmed other different (armed.congr (same other different).symm)
    | setsockopt _ | recv _ | testCounter | writeVisited | outer _ | send _ _ | close | free => exact trivial

/-- Two connections have both sent two chunks back.  The second one injects the crash with its third chunk, and the
    first one reads the flag for its own after that. -/
theorem injected_once_sample : ∃ labels s, Run Step (listening 3) labels s ∧
    .work 1 .writeVisited ∈ labels ∧ .work 0 (.readVisited true) ∈ labels ∧ injections labels ≤ 1 := by
  obtain ⟨calls, w₀, two, at₀, third, quiet⟩ := run_two 4
  have nobody : ∀ other, other ≠ 0 → ¬ (listening 3).Armed other := by
    rintro other _ ⟨_, thread, _⟩
    nomatch thread
  obtain ⟨labels₀, first⟩ := run_connected (s := listening 3) Alone (fun _ _ same => .of_spares nobody same) rfl
    (by simp [listening]) rfl two quiet
  -- The first worker waits for its third chunk, so that it is not armed.
  let s₁ := (listening 3).connected 4 w₀
  have thread₀ : s₁.workers 0 = some w₀ := by simp [s₁, State.connected, listening]
  have unarmed : ∀ other, other ≠ 1 → ¬ s₁.Armed other := by
    rintro other _ ⟨worker, thread, armed⟩
    cases workers_update rfl thread with
    | inl here =>
      cases here.2
      simp [Worker.armed, at₀] at armed
    | inr elsewhere => nomatch elsewhere.2
  obtain ⟨calls', w₁, run, armed, quiet'⟩ := run_third 5
  obtain ⟨labels₁, second⟩ := run_connected (s := s₁) Alone (fun _ _ same => .of_spares unarmed same) rfl
    (by simp [s₁, State.connected, listening]) rfl run quiet'
  have elsewhere := s₁.connected_elsewhere (w := w₁) 5
  obtain ⟨labels₂, s₂, writes, one, writer, set, pc, same⟩ := (State.connected_armed armed 5).injects Alone
    (fun s' label same => .of_spares unarmed (elsewhere.trans same)) LoopPc.noConfusion
  have before := (first.append second).append writes
  have spent := (before.invariant_history Injected Injected.step (.listening 3)).spent set
  have still : s₂.workers 0 = some w₀ := ((elsewhere.trans same) 0 Nat.zero_ne_one).trans thread₀
  have recv := Worker.Step.recv at₀ [0] (by simp) (by decide)
  have read := Run.cons recv (.single (.readVisited rfl true))
  have after := run_worker Alone (fun _ _ same => .of_spares (fun other _ => spent other) same) read
    (by simp [Call.Quiet, set]) (pc ▸ LoopPc.noConfusion) still
  have whole := before.append after
  refine ⟨_, _, whole.of_restrict, ?_, by simp, (injected_once whole).1⟩
  exact List.mem_append_left _ (List.mem_append_right _ writer)

/-- Two connections both read the flag for their third chunk before it is set. -/
theorem injects_again : ∃ labels s, Run Step (listening 3) labels s ∧ ¬ injections labels ≤ 1 := by
  obtain ⟨calls, w, run, armed, quiet⟩ := run_third 4
  obtain ⟨labels, first⟩ := run_connected (s := listening 3) (fun _ _ => True) (fun _ _ _ _ => trivial) rfl
    (by simp [listening]) rfl run quiet
  obtain ⟨calls', w', run', too, quiet'⟩ := run_third 5
  obtain ⟨labels', second⟩ := run_connected (s := (listening 3).connected 4 w) (fun _ _ => True)
    (fun _ _ _ _ => trivial) rfl (by simp [State.connected, listening]) rfl run' quiet'
  have alone : ((listening 3).connected 4 w).Armed 0 := State.connected_armed armed 4
  have still := alone.congr (((listening 3).connected 4 w).connected_elsewhere (w := w') 5 0 Nat.zero_ne_one)
  obtain ⟨labels'', s, writes, two⟩ :=
    still.injects_both Nat.one_ne_zero (State.connected_armed too 5) LoopPc.noConfusion
  refine ⟨_, s, (first.of_restrict.append second.of_restrict).append writes, ?_⟩
  simp only [injections, List.countP_append] at two ⊢
  omega

end Bsord.Server
