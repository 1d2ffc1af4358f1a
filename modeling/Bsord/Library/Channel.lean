import Mathlib.Data.List.Basic

/-! # One-way streams

A stream from a writer to a reader.  The call in which the writer hands over its data is not one step:
what the stream has room for goes in bit by bit, and the reader can take it out before the call returns.
A stream can be reset, and then it drops the last part of what is queued.  The law of a stream is that what
was written is what was read with what is still queued and what was dropped behind it.
-/

namespace Library

structure Channel (β : Type) where
  queue : List β
  /-- How much of the data of the writer's present call has gone in. -/
  pushed : Nat
  /-- The writer's end has been closed. -/
  closed : Bool
  dropped : List β

namespace Channel

variable {β : Type}

def empty : Channel β := ⟨[], 0, false, []⟩

def push (c : Channel β) (data : List β) (count : Nat) : Channel β :=
  { c with queue := c.queue ++ (data.drop c.pushed).take count, pushed := c.pushed + count }

def settle (c : Channel β) : Channel β := { c with pushed := 0 }

/-- The reader takes out all but the rest of the queue. -/
def leave (c : Channel β) (rest : List β) : Channel β := { c with queue := rest }

def close (c : Channel β) : Channel β := { c with closed := true }

/-- A reset drops the last part of the queue. -/
def reset (c : Channel β) (kept lost : List β) : Channel β :=
  { c with queue := kept, dropped := lost ++ c.dropped }

/-- What was written, the part of the present call that has gone in included, and what was read. -/
def Carries (c : Channel β) (written read : List β) : Prop := written = read ++ c.queue ++ c.dropped

variable {c : Channel β} {written read : List β}

theorem Carries.empty : (empty : Channel β).Carries [] [] := rfl

theorem Carries.push {data : List β} (carries : c.Carries (written ++ data.take c.pushed) read)
    (whole : c.dropped = []) (count : Nat) :
    (c.push data count).Carries (written ++ data.take (c.push data count).pushed) read := by
  rw [Carries, whole, List.append_nil] at carries
  show written ++ data.take (c.pushed + count) =
    read ++ (c.queue ++ (data.drop c.pushed).take count) ++ c.dropped
  rw [whole, List.append_nil, List.take_add, ← List.append_assoc, ← List.append_assoc, carries]

theorem Carries.leave {chunk rest : List β} (carries : c.Carries written read)
    (head : c.queue = chunk ++ rest) : (c.leave rest).Carries written (read ++ chunk) := by
  show written = read ++ chunk ++ rest ++ c.dropped
  rw [List.append_assoc read, ← head, carries]

theorem Carries.reset {kept lost : List β} (carries : c.Carries written read)
    (parts : c.queue = kept ++ lost) : (c.reset kept lost).Carries written read := by
  show written = read ++ kept ++ (lost ++ c.dropped)
  rw [carries, parts]
  simp only [List.append_assoc]

theorem Carries.prefix (carries : c.Carries written read) : read <+: written :=
  ⟨c.queue ++ c.dropped, by rw [← List.append_assoc, carries]⟩

theorem Carries.eq_of_empty (carries : c.Carries written read) (drained : c.queue = []) :
    written = read ++ c.dropped := by
  rw [carries, drained, List.append_nil]

end Channel

end Library
