import Bsord.Library.Numeral
import Bsord.Library.Transition

/-! # The worker of a connection

The function `run` of `server.c`, one call or one access to shared data at a time.  What the kernel and
the other threads decide is in the label of a step: the results of the calls, and the value read from the
shared flag `visited`.  The two logs have all bytes that `recv` has returned and that `send` has accepted
on the connection.

The output to the terminal is left out, and so is what `outer` may do to the process; where `outer`
returns, it may have overwritten the buffer.
-/

namespace Bsord.Server

open Library

def bufferSize : Nat := 16384

/-- The place in `run`, with the variable `received` where it is live. -/
inductive Pc where
  | setsockopt
  | recv
  | readVisited (received : Nat)
  | testCounter (received : Nat)
  | writeVisited (received : Nat)
  | outer (received : Nat)
  | send (received : Nat)
  | egress
  | free
  | done
deriving DecidableEq

structure Worker where
  pc : Pc
  sock : Nat
  buffer : Text
  i : Nat
  received : Text
  accepted : Text
deriving DecidableEq

/-- A worker at the start of `run`, with the buffer as `malloc` has returned it. -/
def Worker.start (sock : Nat) (buffer : Text) : Worker := ⟨.setsockopt, sock, buffer, 0, [], []⟩

/-- A call with its result; `none` is the result -1. -/
inductive Call where
  | setsockopt (err : Int)
  | recv (chunk : Option Text)
  | readVisited (visited : Bool)
  | testCounter
  | writeVisited
  | outer (buffer : Text)
  | send (requested : Nat) (sent : Option Nat)
  | close
  | free
deriving DecidableEq

inductive Worker.Step (w : Worker) : Call → Worker → Prop where
  | setsockopt (at_ : w.pc = .setsockopt) (err : Int) :
      Step w (.setsockopt err) { w with pc := if err ≠ 0 then .egress else .recv }
  | recvFails (at_ : w.pc = .recv) : Step w (.recv none) { w with pc := .egress }
  | recvCloses (at_ : w.pc = .recv) : Step w (.recv (some [])) { w with pc := .egress }
  | recv (at_ : w.pc = .recv) (chunk : Text) (nonempty : chunk ≠ []) (bound : chunk.length ≤ bufferSize) :
      Step w (.recv (some chunk)) { w with
        pc := .readVisited chunk.length
        buffer := chunk ++ w.buffer.drop chunk.length
        received := w.received ++ chunk }
  /-- The second operand of `&&` is evaluated only when the flag reads false. -/
  | readVisited {received : Nat} (at_ : w.pc = .readVisited received) (visited : Bool) :
      Step w (.readVisited visited)
        { w with pc := if visited then .send received else .testCounter received }
  | testCounter {received : Nat} (at_ : w.pc = .testCounter received) :
      Step w .testCounter
        { w with pc := if w.i = 2 then .writeVisited received else .send received, i := w.i + 1 }
  | writeVisited {received : Nat} (at_ : w.pc = .writeVisited received) :
      Step w .writeVisited { w with pc := .outer received }
  | outer {received : Nat} (at_ : w.pc = .outer received) (buffer : Text) :
      Step w (.outer buffer) { w with pc := .send received, buffer }
  | sendFails {received : Nat} (at_ : w.pc = .send received) :
      Step w (.send received none) { w with pc := .egress }
  /-- The loop goes on whatever count `send` returns. -/
  | send {received : Nat} (at_ : w.pc = .send received) (sent : Nat) (bound : sent ≤ received) :
      Step w (.send received (some sent))
        { w with pc := .recv, accepted := w.accepted ++ (w.buffer.take received).take sent }
  | close (at_ : w.pc = .egress) : Step w .close { w with pc := .free }
  | free (at_ : w.pc = .free) : Step w .free { w with pc := .done }

def Pc.holds : Pc → Bool
  | .free | .done => false
  | _ => true

def Worker.Holds (w : Worker) : Prop := w.pc.holds = true

def Call.OnSocket : Call → Prop
  | .setsockopt _ | .recv _ | .send _ _ | .close => True
  | .readVisited _ | .testCounter | .writeVisited | .outer _ | .free => False

variable {w w' : Worker} {call : Call}

theorem Worker.Step.sock (step : Worker.Step w call w') : w'.sock = w.sock := by
  cases step <;> rfl

/-- Only `close` gives the socket up, and it is called with the socket still held. -/
theorem Worker.Step.holds (step : Worker.Step w call w') :
    (call = .close ∧ w.Holds ∧ ¬ w'.Holds) ∨ (call ≠ .close ∧ (w'.Holds ↔ w.Holds)) := by
  cases step with
  | close at_ => exact .inl ⟨rfl, by simp [Worker.Holds, at_, Pc.holds], by simp [Worker.Holds, Pc.holds]⟩
  | setsockopt at_ err =>
    refine .inr ⟨Call.noConfusion, ?_⟩
    split <;> simp [Worker.Holds, at_, Pc.holds]
  | readVisited at_ visited =>
    refine .inr ⟨Call.noConfusion, ?_⟩
    split <;> simp [Worker.Holds, at_, Pc.holds]
  | testCounter at_ =>
    refine .inr ⟨Call.noConfusion, ?_⟩
    split <;> simp [Worker.Holds, at_, Pc.holds]
  | recvFails at_ | recvCloses at_ | recv at_ _ _ _ | writeVisited at_ | outer at_ _ | sendFails at_
  | send at_ _ _ | free at_ =>
    exact .inr ⟨Call.noConfusion, by simp [Worker.Holds, at_, Pc.holds]⟩

theorem Worker.Step.holds_of_onSocket (step : Worker.Step w call w') (onSocket : call.OnSocket) : w.Holds := by
  cases step with
  | setsockopt at_ _ | recvFails at_ | recvCloses at_ | recv at_ _ _ _ | sendFails at_ | send at_ _ _
  | close at_ =>
    simp [Worker.Holds, at_, Pc.holds]
  | readVisited _ _ | testCounter _ | writeVisited _ | outer _ _ | free _ => cases onSocket

end Bsord.Server
