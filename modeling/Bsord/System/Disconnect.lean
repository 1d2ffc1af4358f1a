import Bsord.System.Delivery

/-! # The end of a connection

A receiver that is told that the stream has ended has been let down by the server.  It has all that it is going
to get, which is all that its worker has passed on unless the connection was reset.
-/

namespace Bsord.System

open Library Client

variable {capacity connection : Nat} {s s' : State} {labels : List Label} {w : Server.Worker}

theorem filled_of_recv {r r' : Receiver} {chunk : Text} (step : Receiver.Step r (.recv (some chunk)) r') :
    r.filled = chunk := by
  cases step with
  | recv _ _ => rfl
  | recvCloses _ empty => exact empty

theorem Gives.drained {r : Sender} {c c' : Channel UInt8} (gives : Gives r c (.recv (some [])) c') :
    c.queue = [] ∧ c.closed = true ∧ (c.dropped = [] ∨ r.Left) := by
  cases gives with
  | recv absurd => exact (absurd rfl).elim
  | recvCloses drained closed told => exact ⟨drained, closed, told⟩

/-- What a receiver knows when it is told that the stream has ended. -/
theorem ended_of_step (routed : Routed s)
    (step : Step capacity s (.receive connection (.recv (some []))) s') :
    (s.links connection).alive = true ∧ (s.links connection).receiver.filled = [] ∧
      (s.links connection).down.queue = [] ∧ (s.links connection).down.closed = true ∧
      ((s.links connection).down.dropped = [] ∨ (s.links connection).sender.Left) := by
  have seen := step.view routed connection
  generalize s'.view connection = v' at seen
  cases seen with
  | elsewhere other | exit other => exact absurd rfl other
  | receive alive step gives => exact ⟨alive, filled_of_recv step, gives.drained⟩

/-- **Disconnection**: a receiver is told that the connection has ended only because the server is gone or a
    call of its worker has failed, and then it has received all that the worker has passed on but for what a
    reset has dropped; if that is anything, a call of the sender has failed.  A worker is told so only after it
    has received all that the sender has passed on, and because the client is gone. -/
theorem disconnects {serverSock : Nat} (run : Run (Step capacity) (listening serverSock) labels s)
    (connection : Nat) :
    (∀ s', Step capacity s (.receive connection (.recv (some []))) s' →
      (s.links connection).relayed (s.server.workers connection) =
        (s.links connection).receiver.received ++ (s.links connection).down.dropped ∧
      ((s.links connection).down.dropped ≠ [] →
        .resetDown connection ∈ labels ∧ SendFailed connection labels) ∧
      (s.running = false ∨ Failed connection labels)) ∧
    (∀ s', Step capacity s (.server (.work connection (.recv (some [])))) s' →
      heard (s.server.workers connection) = (s.links connection).said ∧
      (s.links connection).alive = false) := by
  have intact := intact_of_run run connection
  have closing := closing_of_run run connection
  have routed := routed_of_run run
  constructor
  · intro s' step
    -- Nothing is queued and nothing is in the buffer, so all that was passed on has been received or dropped.
    obtain ⟨alive, empty, drained, closed, told⟩ := ended_of_step routed step
    have all := intact.down.eq_of_empty drained
    rw [Link.obtained, empty, List.append_nil] at all
    refine ⟨all, fun cut => ⟨(closing.cutDown cut).2, closing.told (told.resolve_left cut)⟩, ?_⟩
    refine (closing.down closed).imp id fun gone => ?_
    obtain ⟨w, thread, released⟩ := gone
    -- The worker has not left because of the client, which is there to be told.
    have out : w.pc.inHand = none := not_not.mp fun inLoop => released (holds_of_inHand inLoop)
    refine (closing.left w thread out).resolve_left fun absent => ?_
    have absent : (s.links connection).alive = false := absent
    rw [absent] at alive
    cases alive
  · intro s' step
    have seen := step.view routed connection
    generalize s'.view connection = v' at seen
    cases seen with
    | elsewhere other | exit other => exact absurd rfl other
    | work _ offSocket _ => exact absurd trivial offSocket
    | serve _ _ serves =>
      cases serves with
      | recv absurd _ => exact (absurd rfl).elim
      | recvCloses drained closed whole =>
        have all := intact.up.eq_of_empty drained
        have whole : (s.links connection).up.dropped = [] := whole
        rw [whole, List.append_nil] at all
        exact ⟨all.symm, closing.up closed⟩

/-- A worker that has sent back three bytes fails, and the connection is reset when one of them has arrived.
    The sender gets the error, and the receiver is told that the connection has ended. -/
theorem disconnects_sample : ∃ labels s s', Run (Step 65536) (listening 3) labels s ∧
    Step 65536 s (.receive 0 (.recv (some []))) s' ∧ s.running = true ∧
    (s.links 0).receiver.received = [120] ∧
    (s.links 0).relayed (s.server.workers 0) = [120] ++ [120, 120] ∧
    SendFailed 0 labels ∧ Failed 0 labels := by
  obtain ⟨labels, run, _⟩ := @run_threeBytes 65536 (by simp)
  have push : Step 65536 (single (threeBytes (.send 3) 1) (threeBack [] .empty)) (.pushDown 0 3)
      (single (threeBytes (.send 3) 1) (threeBack [] ⟨[120, 120, 120], 3, false, []⟩)) :=
    single_pushDown rfl (by simp) (by decide) (by decide)
  have back : Step 65536 (single (threeBytes (.send 3) 1) (threeBack [] ⟨[120, 120, 120], 3, false, []⟩))
      (.server (.work 0 (.send 3 (some 3))))
      (single { threeBytes .recv 1 with accepted := [120, 120, 120] }
        (threeBack [] ⟨[120, 120, 120], 0, false, []⟩)) :=
    single_serve rfl (plain_of_local (fun _ _ => rfl) fun _ => Server.Call.noConfusion)
      (.send rfl 3 (Nat.le_refl 3)) .send
  have fails : Step 65536 (single { threeBytes .recv 1 with accepted := [120, 120, 120] }
        (threeBack [] ⟨[120, 120, 120], 0, false, []⟩)) (.server (.work 0 (.recv none)))
      (single { threeBytes .egress 1 with accepted := [120, 120, 120] }
        (threeBack [] ⟨[120, 120, 120], 0, false, []⟩)) :=
    single_serve rfl (plain_of_local (fun _ _ => rfl) fun _ => Server.Call.noConfusion) (.recvFails rfl)
      .recvFails
  obtain ⟨s, close, links, running, thread⟩ : ∃ s : State, Step 65536
      (single { threeBytes .egress 1 with accepted := [120, 120, 120] }
        (threeBack [] ⟨[120, 120, 120], 0, false, []⟩)) (.server (.work 0 .close)) s ∧
      s.links 0 = threeBack [] ⟨[120, 120, 120], 0, true, []⟩ ∧ s.running = true ∧
      s.server.workers 0 = some { threeBytes .free 1 with accepted := [120, 120, 120] } :=
    ⟨_, .serve rfl rfl rfl ⟨Server.LoopPc.noConfusion, .work rfl (.close rfl) fun _ absurd => nomatch absurd⟩
      .close, rfl, rfl, rfl⟩
  let link (sender : Sender) (receiver : Receiver) (queue : Text) : Link :=
    ⟨sender, receiver, true, .empty, ⟨queue, 0, true, [120, 120]⟩⟩
  let s₁ := s.setLink 0 (link ⟨.sleep, [120, 120, 120]⟩ ⟨.recv, [], 0, []⟩ [120])
  let s₂ := s₁.setLink 0 (link ⟨.send, [120, 120, 120]⟩ ⟨.recv, [], 0, []⟩ [120])
  let s₃ := s₂.setLink 0 (link ⟨.free, [120, 120, 120]⟩ ⟨.recv, [], 0, []⟩ [120])
  let s₄ := s₃.setLink 0 (link ⟨.free, [120, 120, 120]⟩ ⟨.recv, [120], 0, []⟩ [])
  let s₅ := s₄.setLink 0 (link ⟨.free, [120, 120, 120]⟩ ⟨.recv, [], 0 + UInt64.ofNat 1, [120]⟩ [])
  have reset : Step 65536 s (.resetDown 0) s₁ := by
    have step : Step 65536 s (.resetDown 0) _ :=
      @Step.resetDown _ _ 0 [120] [120, 120] (by rw [links]; rfl) (by rw [links]; rfl)
    rw [links] at step
    exact step
  have wake : Step 65536 s₁ (.send 0 .sleep) s₂ := .send rfl (.sleep rfl) .sleep
  have error : Step 65536 s₂ (.send 0 (.send none)) s₃ := .send rfl (.sendFails rfl) (.sendFails rfl)
  have copy : Step 65536 s₃ (.receive 0 (.copy [120])) s₄ :=
    .receive rfl (.copy rfl [120] (by simp) (by show 1 ≤ bufferSize; simp [bufferSize])) (.copy rfl)
  have received : Step 65536 s₄ (.receive 0 (.recv (some [120]))) s₅ :=
    .receive rfl (.recv rfl (List.cons_ne_nil _ _)) (.recv (by simp))
  have told : Step 65536 s₅ (.receive 0 (.recv (some []))) _ :=
    .receive rfl (.recvCloses rfl rfl) (.recvCloses rfl rfl (.inr (.inl rfl)))
  have whole := run.append (.cons push (.cons back (.cons fails (.cons close (.cons reset (.cons wake
    (.cons error (.cons copy (.single received)))))))))
  obtain ⟨all, cut, cause⟩ := (disconnects whole 0).1 _ told
  exact ⟨_, s₅, _, whole, told, running, rfl, all, (cut (List.cons_ne_nil _ _)).2,
    cause.resolve_left fun gone => Bool.noConfusion (gone.symm.trans running)⟩

end Bsord.System
