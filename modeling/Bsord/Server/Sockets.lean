import Bsord.Server.Accept

/-! # The sockets of the server

Every accepted socket passes from the accept loop to a worker, which closes it; the descriptor may then
be returned by a later `accept`.  One owner at a time holds each open socket, as long as every thread is
created: the accept loop does not look at the result of `pthread_create`.
-/

namespace Bsord.Server

open Library

/-! ## Owners -/

/-- The accept loop, in its current iteration, or the live worker of the connection holds the socket. -/
def State.Holds (s : State) (sock connection : Nat) : Prop :=
  s.pc = .pthreadCreate sock connection ∨
    ∃ worker, s.workers connection = some worker ∧ worker.Holds ∧ worker.sock = sock

/-- Every accepted socket has one owner and is closed once. -/
structure OneOwner (s : State) : Prop where
  /-- The open sockets are those held, each by the owner of the connection it belongs to. -/
  open_iff : ∀ sock connection, s.table sock = some connection ↔ s.Holds sock connection
  unique : ∀ sock first second, s.Holds sock first → s.Holds sock second → first = second
  uses : ∀ connection worker call worker', s.workers connection = some worker →
    Worker.Step worker call worker' → call.OnSocket → s.table worker.sock = some connection
  loopOrWorker : ∀ sock connection, s.pc = .pthreadCreate sock connection →
    s.workers connection = none
  /-- A connection that nobody holds any more has had its socket closed. -/
  closed : ∀ connection < s.accepted, (∀ sock, ¬ s.Holds sock connection) →
    s.closed.count connection = 1
  closedOnce : ∀ connection, s.closed.count connection ≤ 1

/-! ## The invariant -/

/-- Besides, every accepted connection has a worker or is about to get one, and the sockets closed are
    those of the workers that are past their `close`. -/
structure Owned (s : State) : Prop where
  open_iff : ∀ sock connection, s.table sock = some connection ↔ s.Holds sock connection
  starting : ∀ sock connection, s.pc = .pthreadCreate sock connection → s.workers connection = none
  served : ∀ connection, connection < s.accepted ↔
    (∃ worker, s.workers connection = some worker) ∨ ∃ sock, s.pc = .pthreadCreate sock connection
  counted : ∀ connection, s.closed.count connection =
    match s.workers connection with
    | some worker => if worker.pc.holds then 0 else 1
    | none => 0

variable {s s' : State}

theorem Owned.unique (owned : Owned s) {sock first second : Nat} (held : s.Holds sock first)
    (heldToo : s.Holds sock second) : first = second := by
  have one := (owned.open_iff sock first).mpr held
  have other := (owned.open_iff sock second).mpr heldToo
  rw [one] at other
  exact Option.some.inj other

theorem Owned.oneOwner (owned : Owned s) : OneOwner s where
  open_iff := owned.open_iff
  unique _ _ _ := owned.unique
  uses connection worker _ _ thread step onSocket :=
    (owned.open_iff worker.sock connection).mpr
      (.inr ⟨worker, thread, step.holds_of_onSocket onSocket, rfl⟩)
  loopOrWorker := owned.starting
  closed connection accepted unheld := by
    cases (owned.served connection).mp accepted with
    | inl served =>
      obtain ⟨worker, thread⟩ := served
      have released : ¬ worker.pc.holds = true := fun holds =>
        unheld worker.sock (.inr ⟨worker, thread, holds, rfl⟩)
      rw [owned.counted, thread]
      exact if_neg released
    | inr starting =>
      obtain ⟨sock, starting⟩ := starting
      exact absurd (.inl starting) (unheld sock)
  closedOnce connection := by
    rw [owned.counted]
    split
    · split <;> decide
    · decide

theorem listening_unheld (serverSock sock connection : Nat) : ¬ (listening serverSock).Holds sock connection := by
  intro held
  cases held with
  | inl starting => nomatch starting
  | inr held =>
    obtain ⟨worker, thread, _⟩ := held
    nomatch thread

theorem Owned.listening (serverSock : Nat) : Owned (listening serverSock) where
  open_iff sock connection := by
    constructor
    · intro absurd
      nomatch absurd
    · intro held
      exact absurd held (listening_unheld serverSock sock connection)
  starting _ _ absurd := nomatch absurd
  served connection := by
    constructor
    · intro below
      exact absurd below (Nat.not_lt_zero connection)
    · intro served
      cases served with
      | inl served =>
        obtain ⟨worker, thread⟩ := served
        nomatch thread
      | inr starting =>
        obtain ⟨sock, starting⟩ := starting
        nomatch starting
  counted _ := rfl

theorem Owned.move (owned : Owned s) {pc : LoopPc}
    (empty : ∀ sock connection, s.pc ≠ .pthreadCreate sock connection)
    (still : ∀ sock connection, pc ≠ .pthreadCreate sock connection) : Owned { s with pc } where
  open_iff sock connection := by
    rw [owned.open_iff]
    simp only [State.Holds, empty, still, false_or]
  starting sock connection at_ := absurd at_ (still sock connection)
  served connection := by
    rw [owned.served]
    simp only [empty, still]
  counted := owned.counted

theorem Owned.accept (owned : Owned s) (at_ : s.pc = .accept) {sock : Nat} (unused : s.table sock = none) :
    Owned { s with
      pc := .pthreadCreate sock s.accepted
      table := Function.update s.table sock (some s.accepted)
      accepted := s.accepted + 1 } := by
  have empty : ∀ sock connection, s.pc ≠ .pthreadCreate sock connection := by
    rw [at_]
    exact fun _ _ => LoopPc.noConfusion
  have unserved : s.workers s.accepted = none := by
    cases thread : s.workers s.accepted with
    | none => rfl
    | some worker =>
      have below := (owned.served s.accepted).mpr (.inl ⟨worker, thread⟩)
      omega
  refine ⟨fun sock' connection => ?_, fun sock' connection starting => ?_, fun connection => ?_, owned.counted⟩
  · have held := owned.open_iff sock' connection
    simp only [State.Holds, empty, false_or] at held
    simp only [State.Holds, LoopPc.pthreadCreate.injEq, ← held, Function.update_apply]
    split
    case isTrue here =>
      rw [here, unused]
      simp
    case isFalse different =>
      simp [Ne.symm different]
  · cases starting
    exact unserved
  · -- The new connection is the one that the accept loop has in hand.
    have served := owned.served connection
    simp only [empty, exists_false, or_false] at served
    simp only [LoopPc.pthreadCreate.injEq, ← served]
    constructor
    · intro below
      by_cases last : connection = s.accepted
      · exact .inr ⟨sock, rfl, last.symm⟩
      · exact .inl (by omega)
    · intro below
      cases below with
      | inl below => omega
      | inr last =>
        obtain ⟨_, _, last⟩ := last
        omega

theorem Owned.create (owned : Owned s) {sock connection : Nat} (at_ : s.pc = .pthreadCreate sock connection)
    (buffer : Text) :
    Owned { s with
      pc := .accept
      workers := Function.update s.workers connection (some (Worker.start sock buffer)) } := by
  have absent := owned.starting sock connection at_
  refine ⟨fun sock' other => ?_, fun _ _ absurd => (nomatch absurd), fun other => ?_, fun other => ?_⟩
  · rw [owned.open_iff]
    simp only [State.Holds, at_, LoopPc.pthreadCreate.injEq, Function.update_apply]
    split
    case isTrue here =>
      rw [here, absent]
      simp [Worker.start, Worker.Holds, Pc.holds]
    case isFalse different =>
      simp [Ne.symm different]
  · rw [owned.served]
    simp only [at_, LoopPc.pthreadCreate.injEq, Function.update_apply]
    split
    case isTrue here => simp [here]
    case isFalse different => simp [Ne.symm different]
  · rw [owned.counted]
    by_cases here : other = connection
    · rw [here, absent]
      simp [Worker.start, Pc.holds]
    · simp [here]

theorem State.after_of_ne_close (s : State) (sock : Nat) {call : Call} (ne : call ≠ .close) :
    (s.after sock call).table = s.table ∧ (s.after sock call).closed = s.closed ∧
      (s.after sock call).pc = s.pc ∧ (s.after sock call).accepted = s.accepted := by
  cases call with
  | close => exact absurd rfl ne
  | writeVisited | setsockopt _ | recv _ | readVisited _ | testCounter | outer _ | send _ _ | free =>
    exact ⟨rfl, rfl, rfl, rfl⟩

theorem Owned.started (owned : Owned s) {connection : Nat} {worker : Worker}
    (thread : s.workers connection = some worker) (sock : Nat) : s.pc ≠ .pthreadCreate sock connection := by
  intro starting
  have absent := owned.starting sock connection starting
  rw [thread] at absent
  nomatch absent

theorem Owned.frame (owned : Owned s) {connection : Nat} {worker worker' : Worker}
    (thread : s.workers connection = some worker) (pc : s'.pc = s.pc) (accepted : s'.accepted = s.accepted)
    (workers : s'.workers = Function.update s.workers connection (some worker')) :
    (∀ sock other, s'.pc = .pthreadCreate sock other → s'.workers other = none) ∧
      ∀ other, other < s'.accepted ↔
        (∃ worker, s'.workers other = some worker) ∨ ∃ sock, s'.pc = .pthreadCreate sock other := by
  rw [pc, accepted, workers]
  constructor
  · intro sock other starting
    have different : other ≠ connection := by
      intro own
      rw [own] at starting
      exact owned.started thread sock starting
    rw [Function.update_of_ne different]
    exact owned.starting sock other starting
  · intro other
    rw [owned.served]
    by_cases own : other = connection
    · simp [own, thread]
    · simp [own]

theorem Owned.keep (owned : Owned s) {connection : Nat} {worker worker' : Worker}
    (thread : s.workers connection = some worker) (same : worker'.sock = worker.sock)
    (keeps : worker'.Holds ↔ worker.Holds) (pc : s'.pc = s.pc) (accepted : s'.accepted = s.accepted)
    (table : s'.table = s.table) (closed : s'.closed = s.closed)
    (workers : s'.workers = Function.update s.workers connection (some worker')) : Owned s' := by
  obtain ⟨starting, served⟩ := owned.frame thread pc accepted workers
  refine ⟨fun sock other => ?_, starting, served, fun other => ?_⟩
  · rw [table, owned.open_iff]
    simp only [State.Holds, pc, workers]
    by_cases own : other = connection
    · simp [own, thread, same, keeps]
    · simp [own]
  · rw [closed, owned.counted, workers]
    by_cases own : other = connection
    · simp only [Worker.Holds] at keeps
      simp [own, thread, keeps]
    · simp [own]

theorem Owned.close (owned : Owned s) {connection : Nat} {worker worker' : Worker}
    (thread : s.workers connection = some worker) (holds : worker.Holds) (released : ¬ worker'.Holds)
    (pc : s'.pc = s.pc) (accepted : s'.accepted = s.accepted)
    (table : s'.table = Function.update s.table worker.sock none)
    (closed : s'.closed = s.closed ++ (s.table worker.sock).toList)
    (workers : s'.workers = Function.update s.workers connection (some worker')) : Owned s' := by
  obtain ⟨starting, served⟩ := owned.frame thread pc accepted workers
  have opened := (owned.open_iff worker.sock connection).mpr (.inr ⟨worker, thread, holds, rfl⟩)
  refine ⟨fun sock other => ?_, starting, served, fun other => ?_⟩
  · have held : s'.Holds sock other ↔ other ≠ connection ∧ s.Holds sock other := by
      simp only [State.Holds, pc, workers]
      by_cases own : other = connection
      · simp [own, owned.started thread sock, released]
      · simp [own]
    rw [held, table, ← owned.open_iff]
    by_cases here : sock = worker.sock
    · simp [here, opened, eq_comm]
    · rw [Function.update_of_ne here]
      constructor
      · intro open_
        refine ⟨fun own => here ?_, open_⟩
        rw [own] at open_
        -- A connection has one socket, that of its worker.
        cases (owned.open_iff sock connection).mp open_ with
        | inl starting => exact absurd starting (owned.started thread sock)
        | inr held =>
          obtain ⟨_, thread', _, same⟩ := held
          rw [thread] at thread'
          cases thread'
          exact same.symm
      · exact fun both => both.2
  · rw [closed, opened, Option.toList_some, List.count_append, owned.counted, List.count_singleton, workers]
    by_cases own : other = connection
    · have held : worker.pc.holds = true := holds
      have free : worker'.pc.holds = false := by simpa [Worker.Holds] using released
      simp [own, thread, held, free]
    · simp [own, Ne.symm own]

theorem Owned.work (owned : Owned s) {connection : Nat} {worker worker' : Worker} {call : Call}
    (thread : s.workers connection = some worker) (step : Worker.Step worker call worker') :
    Owned { s.after worker.sock call with
      workers := Function.update s.workers connection (some worker') } := by
  cases step.holds with
  | inl closes =>
    obtain ⟨rfl, holds, released⟩ := closes
    exact owned.close thread holds released rfl rfl rfl rfl rfl
  | inr keeps =>
    obtain ⟨ne, keeps⟩ := keeps
    obtain ⟨table, closed, pc, accepted⟩ := s.after_of_ne_close worker.sock ne
    exact owned.keep thread step.sock keeps pc accepted table closed rfl

theorem Owned.step (owned : Owned s) {label : Label} (created : label ≠ .pthreadCreate none)
    (step : Step s label s') : Owned s' := by
  obtain ⟨_, action⟩ := step
  cases action with
  | accept at_ sock other unused => exact owned.accept at_ unused
  | acceptFails at_ =>
    apply owned.move
    · simp [at_]
    · exact fun _ _ => LoopPc.noConfusion
  | pthreadCreate at_ buffer => exact owned.create at_ buffer
  | pthreadCreateFails at_ => exact absurd rfl created
  | ret at_ =>
    apply owned.move
    · simp [at_]
    · exact fun _ _ => LoopPc.noConfusion
  | work thread step reads => exact owned.work thread step

/-- A connection whose thread is not created leaves its socket open with no owner. -/
theorem Owned.created_of_oneOwner (owned : Owned s) {label : Label} (step : Step s label s')
    (law : OneOwner s') : label ≠ .pthreadCreate none := by
  rintro rfl
  cases step.2 with
  | @pthreadCreateFails sock connection at_ =>
    -- The loop forgets the socket, and no worker has it.
    have opened := (owned.open_iff sock connection).mpr (.inl at_)
    cases (law.open_iff sock connection).mp opened with
    | inl starting => nomatch starting
    | inr held =>
      obtain ⟨worker, thread, _⟩ := held
      have absent : s.workers connection = none := owned.starting sock connection at_
      have thread : s.workers connection = some worker := thread
      rw [absent] at thread
      nomatch thread

/-! ## Runs -/

/-- **Sockets**: the law holds in every state of a run exactly when every `pthread_create` of the run has
    succeeded. -/
theorem oneOwner_iff {serverSock : Nat} {labels : List Label}
    (run : Run Step (listening serverSock) labels s) :
    (∀ before reached, before <+: labels → Run Step (listening serverSock) before reached →
      OneOwner reached) ↔
    .pthreadCreate none ∉ labels := by
  have law := run.law_iff (fun _ => True) (· ≠ .pthreadCreate none) Owned OneOwner (fun _ _ => trivial)
    (fun _ created owned step => owned.step created step) Owned.oneOwner
    (fun owned step law => owned.created_of_oneOwner step law) (.listening serverSock)
  rw [law]
  constructor
  · intro created mem
    exact created _ mem rfl
  · intro absent label mem same
    rw [same] at mem
    exact absent mem

theorem run_accept : Run Step (listening 3) [.accept (some 4)] { listening 3 with
    pc := .pthreadCreate 4 0
    table := Function.update (listening 3).table 4 (some 0)
    accepted := 1 } :=
  .single ⟨LoopPc.noConfusion, .accept rfl 4 (by decide) rfl⟩

/-- Two connections are served, the first one ends, and its descriptor is given to a third one. -/
theorem oneOwner_sample : ∃ s, Run Step (listening 3)
    [.accept (some 4), .pthreadCreate (some []), .accept (some 5), .pthreadCreate (some []),
      .work 0 (.setsockopt 1), .work 0 .close, .accept (some 4), .pthreadCreate (some [])] s ∧
    s.table 4 = some 2 ∧ s.table 5 = some 1 ∧ s.closed = [0] ∧ OneOwner s := by
  have first := run_accept.snoc ⟨LoopPc.noConfusion, .pthreadCreate rfl []⟩
  have second := first.append <|
    .cons ⟨LoopPc.noConfusion, .accept rfl 5 (by decide) rfl⟩ <|
    .single ⟨LoopPc.noConfusion, .pthreadCreate rfl []⟩
  have setsockopt : Worker.Step (Worker.start 4 []) (.setsockopt 1) _ := .setsockopt rfl 1
  have close : Worker.Step { Worker.start 4 [] with pc := .egress } .close _ := .close rfl
  have ended := second.append <|
    .cons ⟨LoopPc.noConfusion, @Action.work _ 0 _ _ _ rfl setsockopt fun _ absurd => nomatch absurd⟩ <|
    .single ⟨LoopPc.noConfusion, @Action.work _ 0 _ _ _ rfl close fun _ absurd => nomatch absurd⟩
  have run := ended.append <|
    .cons ⟨LoopPc.noConfusion, .accept rfl 4 (by decide) rfl⟩ <|
    .single ⟨LoopPc.noConfusion, .pthreadCreate rfl []⟩
  refine ⟨_, run, rfl, rfl, rfl, (oneOwner_iff run).mpr ?_ _ _ (List.prefix_refl _) run⟩
  decide

/-- The socket of a connection whose thread could not be created is never closed. -/
theorem oneOwner_leaks : ∃ s, Run Step (listening 3) [.accept (some 4), .pthreadCreate none] s ∧
    s.table 4 = some 0 ∧ (∀ sock, ¬ s.Holds sock 0) ∧ s.closed = [] ∧ ¬ OneOwner s := by
  have unheld : ∀ sock, ¬ State.Holds { listening 3 with
      table := Function.update (listening 3).table 4 (some 0)
      accepted := 1 } sock 0 := fun sock => listening_unheld 3 sock 0
  refine ⟨_, run_accept.snoc ⟨LoopPc.noConfusion, .pthreadCreateFails rfl⟩, rfl, unheld, rfl, fun law => ?_⟩
  exact unheld 4 ((law.open_iff 4 0).mp rfl)

/-! ## The connection behind a socket -/

/-- The sockets in use are open, each for the connection it is used for.  Unlike the law above this does not
    depend on the threads being created. -/
structure Attached (s : State) : Prop where
  starting : ∀ sock connection, s.pc = .pthreadCreate sock connection → s.table sock = some connection
  held : ∀ connection worker, s.workers connection = some worker → worker.Holds →
    s.table worker.sock = some connection

theorem Attached.listening (serverSock : Nat) : Attached (listening serverSock) where
  starting _ _ absurd := nomatch absurd
  held _ _ absurd := nomatch absurd

theorem Attached.move (attached : Attached s) {pc : LoopPc}
    (still : ∀ sock connection, pc ≠ .pthreadCreate sock connection) : Attached { s with pc } where
  starting sock connection at_ := absurd at_ (still sock connection)
  held := attached.held

theorem Attached.work (attached : Attached s) {connection : Nat} {worker worker' : Worker} {call : Call}
    (inTurn : InTurn s) (thread : s.workers connection = some worker)
    (step : Worker.Step worker call worker') :
    Attached { s.after worker.sock call with
      workers := Function.update s.workers connection (some worker') } := by
  cases step.holds with
  | inl closes =>
    obtain ⟨rfl, holds, released⟩ := closes
    have own := attached.held connection worker thread holds
    -- The descriptor that is closed is open for this connection and so for no other one.
    have apart : ∀ sock other, other ≠ connection → s.table sock = some other →
        Function.update s.table worker.sock none sock = some other := by
      intro sock other different open_
      rw [Function.update_of_ne, open_]
      rintro rfl
      rw [own] at open_
      exact different (Option.some.inj open_).symm
    constructor
    · intro sock other starting
      have unserved := (inTurn.starting sock other starting).2
      refine apart sock other ?_ (attached.starting sock other starting)
      rintro rfl
      rw [thread] at unserved
      nomatch unserved
    · intro other worker'' thread' holds'
      cases workers_update rfl thread' with
      | inl here =>
        cases here.2
        exact absurd holds' released
      | inr elsewhere =>
        exact apart _ other elsewhere.1 (attached.held other worker'' elsewhere.2 holds')
  | inr keeps =>
    obtain ⟨ne, keeps⟩ := keeps
    obtain ⟨table, _, pc, _⟩ := s.after_of_ne_close worker.sock ne
    constructor
    · intro sock other starting
      show (s.after worker.sock call).table sock = some other
      have starting : (s.after worker.sock call).pc = .pthreadCreate sock other := starting
      rw [table]
      rw [pc] at starting
      exact attached.starting sock other starting
    · intro other worker'' thread' holds'
      show (s.after worker.sock call).table worker''.sock = some other
      rw [table]
      cases workers_update rfl thread' with
      | inl here =>
        cases here.2
        rw [step.sock, here.1]
        exact attached.held connection worker thread (keeps.mp holds')
      | inr elsewhere => exact attached.held other worker'' elsewhere.2 holds'

theorem Attached.step {label : Label} (attached : Attached s) (inTurn : InTurn s)
    (step : Step s label s') : Attached s' := by
  obtain ⟨_, action⟩ := step
  cases action with
  | accept at_ sock other unused =>
    constructor
    · intro sock' connection starting
      cases starting
      exact Function.update_self ..
    · intro connection worker thread holds
      have open_ := attached.held connection worker thread holds
      show Function.update s.table sock (some s.accepted) worker.sock = some connection
      rw [Function.update_of_ne, open_]
      intro same
      rw [same, unused] at open_
      nomatch open_
  | acceptFails _ | pthreadCreateFails _ | ret _ => exact attached.move fun _ _ => LoopPc.noConfusion
  | @pthreadCreate sock connection at_ buffer =>
    constructor
    · exact fun _ _ absurd => nomatch absurd
    · intro other worker thread holds
      cases workers_update rfl thread with
      | inl here =>
        cases here.2
        rw [here.1]
        exact attached.starting sock connection at_
      | inr elsewhere => exact attached.held other worker elsewhere.2 holds
  | work thread step reads => exact attached.work inTurn thread step

end Bsord.Server
