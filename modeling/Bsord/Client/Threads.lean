import Bsord.Library.Numeral
import Bsord.Library.Transition

/-! # The threads of a job

The functions `run_sender` and `run_receiver` of `client.c`, one call at a time.  Both use the socket of
their job; neither closes it.  The logs have all bytes that `send` has accepted and that `recv` has
returned.  The receiver waits in `recv` until its buffer is full, and the kernel copies into the buffer
what there is in the meantime.

The output to the terminal is left out.
-/

namespace Bsord.Client

open Library

def bufferSize : Nat := 16384

/-- The buffer that `run_sender` fills with `memset`. -/
def senderBuffer : Text := List.replicate bufferSize 120

/-! ## The sender -/

/-- The place in `run_sender`. -/
inductive SenderPc where
  | send
  | sleep
  | free
  | done
  /-- The thread could not be created. -/
  | absent
deriving DecidableEq

structure Sender where
  pc : SenderPc
  accepted : Text
deriving DecidableEq

/-- A call of the sender with its result; `none` is the result -1. -/
inductive SenderCall where
  | send (sent : Option Nat)
  | sleep
  | free
deriving DecidableEq

inductive Sender.Step (r : Sender) : SenderCall → Sender → Prop where
  | sendFails (at_ : r.pc = .send) : Step r (.send none) { r with pc := .free }
  /-- The count is not looked at; the next call sends the whole buffer again. -/
  | send (at_ : r.pc = .send) (sent : Nat) (bound : sent ≤ bufferSize) :
      Step r (.send (some sent)) { r with pc := .sleep, accepted := r.accepted ++ senderBuffer.take sent }
  | sleep (at_ : r.pc = .sleep) : Step r .sleep { r with pc := .send }
  | free (at_ : r.pc = .free) : Step r .free { r with pc := .done }

/-- A sender at the start of `run_sender`, when its thread could be created. -/
def Sender.start (created : Bool) : Sender := ⟨if created then .send else .absent, []⟩

/-- A call of `send` has failed. -/
def Sender.Left (r : Sender) : Prop := r.pc = .free ∨ r.pc = .done

/-- The data of the call that the sender is in. -/
def Sender.data (r : Sender) : Text := if r.pc = .send then senderBuffer else []

/-! ## The receiver -/

/-- The place in `run_receiver`. -/
inductive ReceiverPc where
  | recv
  | free
  | done
deriving DecidableEq

structure Receiver where
  pc : ReceiverPc
  /-- The part of the buffer that the present call has filled. -/
  filled : Text
  /-- `total_received`, a `size_t`. -/
  totalReceived : UInt64
  received : Text
deriving DecidableEq

/-- What the kernel copies, and a call of the receiver with its result. -/
inductive ReceiverCall where
  | copy (chunk : Text)
  | recv (chunk : Option Text)
  | free
deriving DecidableEq

inductive Receiver.Step (r : Receiver) : ReceiverCall → Receiver → Prop where
  | copy (at_ : r.pc = .recv) (chunk : Text) (nonempty : chunk ≠ [])
      (bound : r.filled.length + chunk.length ≤ bufferSize) :
      Step r (.copy chunk) { r with filled := r.filled ++ chunk }
  /-- A signal, an error or the end of the stream lets the call return before the buffer is full. -/
  | recv (at_ : r.pc = .recv) (nonempty : r.filled ≠ []) :
      Step r (.recv (some r.filled)) { r with
        filled := []
        totalReceived := r.totalReceived + UInt64.ofNat r.filled.length
        received := r.received ++ r.filled }
  | recvFails (at_ : r.pc = .recv) (empty : r.filled = []) : Step r (.recv none) { r with pc := .free }
  | recvCloses (at_ : r.pc = .recv) (empty : r.filled = []) :
      Step r (.recv (some [])) { r with pc := .free }
  | free (at_ : r.pc = .free) : Step r .free { r with pc := .done }

/-- A receiver at the start of `run_receiver`, when its thread could be created. -/
def Receiver.start (created : Bool) : Receiver := ⟨if created then .recv else .done, [], 0, []⟩

end Bsord.Client
