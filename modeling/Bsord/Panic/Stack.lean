import Bsord.Panic.Walk

/-! # One stack behind all cursors

libunwind computes what a cursor sees from the context alone, so cursors initialised from the same
context agree.  `SameStack` says so of the results and of the IP and SP, `SameFrames` of all registers.
Both speak of the steps up to the first result that is not positive and of the registers at frames;
what a cursor yields behind the end of the stack is left open.
-/

namespace Bsord.Panic

open Library Library.Trace

structure SameStack (u : Unwinder) : Prop where
  ret : ∀ first second i, (∀ j < i, 0 < u.ret first j) → u.ret first i = u.ret second i
  ip : ∀ first second i, Reaches u first i →
    u.registersAt first i .ip = u.registersAt second i .ip
  sp : ∀ first second i, Reaches u first i →
    u.registersAt first i .sp = u.registersAt second i .sp

structure SameFrames (u : Unwinder) : Prop extends SameStack u where
  registers : ∀ first second i, Reaches u first i → u.registersAt first i = u.registersAt second i

variable {u : Unwinder} {i : Nat}

theorem SameStack.reaches (same : SameStack u) (first second : Pass) (reaches : Reaches u first i) :
    Reaches u second i := by
  intro j bound
  rw [← same.ret first second j fun k before => reaches k (by omega)]
  exact reaches j bound

/-! ## A steady libunwind -/

/-- A libunwind all of whose calls but `unw_step` succeed and whose cursors all see the same steps.
    The messages are the ones of `unw_strerror` for these codes. -/
def steady (steps : Nat → StepResult) : Unwinder where
  getcontext := 0
  initLocal _ := 0
  initial _ _ := 0
  step _ := steps
  strerror code :=
    if code = 0 then ascii "no error"
    else if code = -10 then ascii "no unwind info found"
    else ascii "unspecified (general) error"

theorem steady_sameFrames (steps : Nat → StepResult) : SameFrames (steady steps) where
  ret _ _ _ _ := rfl
  ip _ _ _ _ := rfl
  sp _ _ _ _ := rfl
  registers _ _ _ _ := rfl

def ipSpRegisters (ip sp : UInt64) : Registers
  | .ip => ip
  | .sp => sp
  | _ => 0

/-- The steps over a list of frames, given by IP and SP, and behind them one result for ever. -/
def frameSteps (frames : List (UInt64 × UInt64)) (ends : StepResult) (i : Nat) : StepResult :=
  match frames[i]? with
  | some (ip, sp) => ⟨1, ipSpRegisters ip sp⟩
  | none => ends

def sampleThreadName : ThreadName := ⟨ascii "worker", by decide⟩

/-- The worker thread of the sample report, over some libunwind. -/
def sampleProcess (u : Unwinder) : Process where
  unwinder := u
  pid := 2000049
  tid := 2000053
  programInvocationName := ascii "server"
  threadName := sampleThreadName

end Bsord.Panic
