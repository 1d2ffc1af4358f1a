import Mathlib.Control.Monad.Writer
import Mathlib.Order.Basic

/-! # Computations that emit events

`Trace ε` is Mathlib's writer monad over lists of events.  A computation is known by the value it
returns and by the events it emits, and the simp set below pushes both through `pure`, `bind`, `emit`
and `if`, so that a program written with `do` is unfolded to its list of events by `simp`.
-/

namespace Library

/-- A computation that emits events of type `ε`. -/
abbrev Trace (ε α : Type) := Writer (List ε) α

namespace Trace

variable {ε α β : Type}

def emit (event : ε) : Trace ε Unit := tell [event]

def value (trace : Trace ε α) : α := (WriterT.run trace).1

def events (trace : Trace ε α) : List ε := (WriterT.run trace).2

@[simp] theorem value_pure (a : α) : value (pure a : Trace ε α) = a := rfl
@[simp] theorem events_pure (a : α) : events (pure a : Trace ε α) = [] := rfl
@[simp] theorem events_emit (event : ε) : events (emit event) = [event] := rfl

@[simp] theorem value_bind (trace : Trace ε α) (next : α → Trace ε β) :
    value (trace >>= next) = value (next (value trace)) := rfl

@[simp] theorem events_bind (trace : Trace ε α) (next : α → Trace ε β) :
    events (trace >>= next) = events trace ++ events (next (value trace)) := rfl

@[simp] theorem value_ite (c : Prop) [Decidable c] (yes no : Trace ε α) :
    value (if c then yes else no) = if c then value yes else value no := apply_ite _ _ _ _

@[simp] theorem events_ite (c : Prop) [Decidable c] (yes no : Trace ε α) :
    events (if c then yes else no) = if c then events yes else events no := apply_ite _ _ _ _

end Trace

end Library
