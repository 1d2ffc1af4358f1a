import Bsord.System.Network
import Bsord.Server.Echo

/-! # Why the ends of a connection close

Neither end closes its side of a connection early: the client closes its sockets when it exits, and a worker
closes its own when it leaves its loop.  Data is dropped only from a side that has been closed.
-/

namespace Bsord.System

open Library Client

def Fails : Server.Call → Prop
  | .setsockopt err => err ≠ 0
  | .recv none | .send _ none => True
  | .recv (some _) | .readVisited _ | .testCounter | .writeVisited | .outer _ | .send _ (some _) | .close
  | .free => False

/-- A call of the connection's worker has failed. -/
def Failed (connection : Nat) (labels : List Label) : Prop :=
  ∃ call, Fails call ∧ .server (.work connection call) ∈ labels

def SendFailed (connection : Nat) (labels : List Label) : Prop := .send connection (.send none) ∈ labels

variable {capacity connection : Nat} {s s' : State} {v v' : View} {label : Label} {labels : List Label}
  {l l' : Link} {w w' : Server.Worker} {call : Server.Call}

theorem Failed.snoc (failed : Failed connection labels) (label : Label) :
    Failed connection (labels ++ [label]) := by
  obtain ⟨call, fails, mem⟩ := failed
  exact ⟨call, fails, List.mem_append_left _ mem⟩

/-- Why an end of the connection has been closed and what was queued from there dropped, and why its worker and
    its sender have left their loops. -/
structure Closing (connection : Nat) (labels : List Label) (v : View) : Prop where
  up : v.link.up.closed = true → v.link.alive = false
  down : v.link.down.closed = true → v.running = false ∨ ∃ w, v.thread = some w ∧ ¬ w.Holds
  cutUp : v.link.up.dropped ≠ [] → v.link.up.closed = true
  cutDown : v.link.down.dropped ≠ [] → v.link.down.closed = true ∧ .resetDown connection ∈ labels
  left : ∀ w, v.thread = some w → w.pc.inHand = none → v.link.alive = false ∨ Failed connection labels
  told : v.link.sender.Left → SendFailed connection labels

theorem Sender.start_not_left (created : Bool) : ¬ (Sender.start created).Left := by
  cases created <;> simp [Sender.start, Sender.Left]

theorem Closing.unconnected : Closing connection [] ⟨.unconnected, none, true⟩ where
  up absurd := nomatch absurd
  down absurd := nomatch absurd
  cutUp absurd := (absurd rfl).elim
  cutDown absurd := (absurd rfl).elim
  left _ absurd := nomatch absurd
  told left := (Sender.start_not_left _ left).elim

theorem Closing.keep (closing : Closing connection labels v) (label : Label) (thread : v'.thread = v.thread)
    (running : v'.running = v.running) (down : v'.link.down.closed = v.link.down.closed)
    (up : v'.link.up.closed = v.link.up.closed ∨ v'.link.up.closed = true ∧ v'.link.alive = false)
    (alive : v.link.alive = false → v'.link.alive = false)
    (cutUp : v'.link.up.dropped = v.link.up.dropped ∨ v'.link.up.closed = true)
    (cutDown : v'.link.down.dropped = v.link.down.dropped ∨
      v'.link.down.closed = true ∧ label = .resetDown connection)
    (told : v'.link.sender.Left → v.link.sender.Left ∨ label = .send connection (.send none)) :
    Closing connection (labels ++ [label]) v' where
  up closed := up.elim (fun same => alive (closing.up (same ▸ closed))) And.right
  down closed := by
    rw [running, thread]
    exact closing.down (down ▸ closed)
  cutUp cut := by
    refine cutUp.elim (fun same => ?_) id
    have before := closing.cutUp (same ▸ cut)
    exact up.elim (fun same => same.trans before) And.left
  cutDown cut := by
    cases cutDown with
    | inl same =>
      obtain ⟨closed, mem⟩ := closing.cutDown (same ▸ cut)
      exact ⟨down.trans closed, List.mem_append_left _ mem⟩
    | inr now => exact ⟨now.1, List.mem_append_right _ (List.mem_singleton.mpr now.2.symm)⟩
  left w here out := (closing.left w (thread ▸ here) out).imp alive fun failed => failed.snoc label
  told left := by
    cases told left with
    | inl before => exact List.mem_append_left _ (closing.told before)
    | inr now => exact List.mem_append_right _ (List.mem_singleton.mpr now.symm)

theorem Gives.keeps {r : Sender} {c c' : Channel UInt8} {call : ReceiverCall} (gives : Gives r c call c') :
    c'.closed = c.closed ∧ c'.dropped = c.dropped := by
  cases gives <;> exact ⟨rfl, rfl⟩

theorem Takes.keeps {c c' : Channel UInt8} {call : SenderCall} (takes : Takes c call c') :
    c'.closed = c.closed ∧ c'.dropped = c.dropped := by
  cases takes <;> exact ⟨rfl, rfl⟩

theorem left_of_step {r r' : Sender} {call : SenderCall} (step : Sender.Step r call r') (left : r'.Left) :
    r.Left ∨ call = .send none := by
  cases step with
  | sendFails _ => exact .inr rfl
  | free at_ => exact .inl (.inl at_)
  | send _ _ _ | sleep _ => simp [Sender.Left] at left

/-- A worker's call on its socket leaves the client as it is and drops nothing, and only `close` closes. -/
theorem Link.Serves.ends (serves : l.Serves call l') :
    l'.alive = l.alive ∧ l'.sender = l.sender ∧ l'.up.closed = l.up.closed ∧ l'.up.dropped = l.up.dropped ∧
      l'.down.dropped = l.down.dropped ∧ (l'.down.closed = l.down.closed ∨ call = .close ∧ l'.down.closed = true) := by
  cases serves with
  | close => exact ⟨rfl, rfl, rfl, rfl, rfl, .inr ⟨rfl, rfl⟩⟩
  | setsockopt _ | recv _ _ | recvFails | recvCloses _ _ _ | send | sendFails _ =>
    exact ⟨rfl, rfl, rfl, rfl, rfl, .inl rfl⟩

theorem leaves_of_step (step : Server.Worker.Step w call w') (out : w'.pc.inHand = none) :
    w.pc.inHand = none ∨ Fails call ∨ call = .recv (some []) := by
  cases step with
  | setsockopt at_ err =>
    -- The option could not be set, or the worker would be in its loop.
    by_cases failed : err = 0
    · simp [failed, Server.Pc.inHand] at out
    · exact .inr (.inl failed)
  | recvFails _ | sendFails _ => exact .inr (.inl trivial)
  | recvCloses _ => exact .inr (.inr rfl)
  | readVisited at_ visited =>
    revert out
    split <;> simp [Server.Pc.inHand]
  | testCounter at_ =>
    revert out
    split <;> simp [Server.Pc.inHand]
  | recv _ _ _ _ | writeVisited _ | outer _ _ | send _ _ _ => cases out
  | close at_ | free at_ => exact .inl (by rw [at_]; rfl)

theorem Closing.setWorker (closing : Closing connection labels v) (thread : v.thread = some w)
    (step : Server.Worker.Step w call w')
    (ends : l.alive = v.link.alive ∧ l.sender = v.link.sender ∧ l.up.closed = v.link.up.closed ∧
      l.up.dropped = v.link.up.dropped ∧ l.down.dropped = v.link.down.dropped ∧
      (l.down.closed = v.link.down.closed ∨ call = .close ∧ l.down.closed = true))
    (drained : call = .recv (some []) → v.link.up.closed = true) :
    Closing connection (labels ++ [.server (.work connection call)])
      { v with link := l, thread := some w' } := by
  obtain ⟨alive, sender, up, cutUp, cutDown, down⟩ := ends
  refine ⟨fun closed => ?up, fun closed => ?down, fun cut => ?cutUp, fun cut => ?cutDown,
    fun w₁ here out => ?left, fun left => ?told⟩
  case up => exact alive.trans (closing.up (up ▸ closed))
  case down =>
    -- Either this is the call of `close`, or the stream was closed before and stays so.
    cases step.holds with
    | inl closes => exact .inr ⟨w', rfl, closes.2.2⟩
    | inr keeps =>
      have same := down.resolve_right fun closes => keeps.1 closes.1
      refine (closing.down (same ▸ closed)).imp id fun gone => ?_
      obtain ⟨w₁, thread₁, released⟩ := gone
      cases thread.symm.trans thread₁
      exact ⟨w', rfl, fun holds => released (keeps.2.mp holds)⟩
  case cutUp => exact up.trans (closing.cutUp (cutUp ▸ cut))
  case cutDown =>
    obtain ⟨closed, mem⟩ := closing.cutDown (cutDown ▸ cut)
    exact ⟨down.elim (fun same => same.trans closed) And.right, List.mem_append_left _ mem⟩
  case left =>
    cases here
    show l.alive = false ∨ _
    rw [alive]
    -- Whatever took the worker out of its loop is among the labels, or the client has gone.
    rcases leaves_of_step step out with before | fails | ended
    · exact (closing.left w thread before).imp id fun failed => failed.snoc _
    · exact .inr ⟨call, fails, List.mem_append_right _ List.mem_cons_self⟩
    · exact .inl (closing.up (drained ended))
  case told => exact List.mem_append_left _ (closing.told (sender ▸ left))

theorem Closing.step (closing : Closing connection labels v)
    (step : View.Step capacity connection v label v') : Closing connection (labels ++ [label]) v' := by
  cases step with
  | elsewhere _ => exact closing.keep label rfl rfl rfl (.inl rfl) id (.inl rfl) (.inl rfl) .inl
  | connect sender receiver idle =>
    refine ⟨fun absurd => (nomatch absurd), fun absurd => (nomatch absurd), fun absurd => (absurd rfl).elim,
      fun absurd => (absurd rfl).elim, fun w thread => ?_, fun left => (Sender.start_not_left _ left).elim⟩
    have thread : v.thread = some w := thread
    rw [idle] at thread
    nomatch thread
  | hangUp _ => exact closing.keep _ rfl rfl rfl (.inr ⟨rfl, rfl⟩) (fun _ => rfl) (.inl rfl) (.inl rfl) .inl
  | send _ step takes =>
    refine closing.keep _ rfl rfl rfl (.inl takes.keeps.1) id (.inl takes.keeps.2) (.inl rfl) fun left => ?_
    exact (left_of_step step left).imp id fun fails => by rw [fails]
  | pushUp _ _ _ _ | pushDown _ _ _ _ _ =>
    exact closing.keep _ rfl rfl rfl (.inl rfl) id (.inl rfl) (.inl rfl) .inl
  | receive _ _ gives =>
    exact closing.keep _ rfl rfl gives.keeps.1 (.inl rfl) id (.inl rfl) (.inl gives.keeps.2) .inl
  | resetUp closed _ => exact closing.keep _ rfl rfl rfl (.inl rfl) id (.inr closed) (.inl rfl) .inl
  | resetDown closed _ => exact closing.keep _ rfl rfl rfl (.inl rfl) id (.inl rfl) (.inr ⟨closed, rfl⟩) .inl
  | start idle =>
    refine ⟨closing.up, fun closed => ?_, closing.cutUp, fun cut => ?_, fun w thread out => ?_, fun left => ?_⟩
    · refine .inl ((closing.down closed).resolve_right fun gone => ?_)
      obtain ⟨w, thread, _⟩ := gone
      rw [idle] at thread
      nomatch thread
    · exact (closing.cutDown cut).imp id (List.mem_append_left _)
    · cases thread
      nomatch out
    · exact List.mem_append_left _ (closing.told left)
  | work thread offSocket step =>
    refine closing.setWorker thread step ⟨rfl, rfl, rfl, rfl, rfl, .inl rfl⟩ fun ended => ?_
    rw [ended] at offSocket
    exact absurd trivial offSocket
  | serve thread step serves =>
    refine closing.setWorker thread step serves.ends fun ended => ?_
    subst ended
    cases serves with
    | recv absurd _ => exact (absurd rfl).elim
    | recvCloses _ closed _ => exact closed
  | exit _ =>
    exact ⟨closing.up, fun _ => .inl rfl, closing.cutUp,
      fun cut => (closing.cutDown cut).imp (fun _ => rfl) (List.mem_append_left _),
      fun w thread out => (closing.left w thread out).imp id fun failed => failed.snoc label,
      fun left => List.mem_append_left _ (closing.told left)⟩

theorem closing_of_run {serverSock : Nat} (run : Run (Step capacity) (listening serverSock) labels s)
    (connection : Nat) : Closing connection labels (s.view connection) :=
  (view_run run connection).invariant_history (Closing connection) Closing.step .unconnected

/-! ## Streams from which nothing is dropped -/

theorem holds_of_inHand (inLoop : w.pc.inHand ≠ none) : w.Holds := by
  rw [Server.Worker.Holds]
  cases at_ : w.pc with
  | free | done =>
    rw [at_] at inLoop
    exact absurd rfl inLoop
  | setsockopt | recv | readVisited _ | testCounter _ | writeVisited _ | outer _ | send _ | egress => rfl

/-- Nothing is dropped of what a client that is there has sent, nor of what a worker has that holds its
    socket. -/
structure View.Whole (v : View) : Prop where
  up : v.link.alive = true → v.link.up.dropped = []
  down : ∀ w, v.running = true → v.thread = some w → w.Holds → v.link.down.dropped = []

theorem Closing.whole (closing : Closing connection labels v) : v.Whole where
  up alive := by
    by_contra cut
    have gone := closing.up (closing.cutUp cut)
    rw [alive] at gone
    cases gone
  down w running thread holds := by
    by_contra cut
    cases closing.down (closing.cutDown cut).1 with
    | inl gone =>
      rw [running] at gone
      cases gone
    | inr released =>
      obtain ⟨w', thread', released⟩ := released
      cases thread.symm.trans thread'
      exact released holds

end Bsord.System
