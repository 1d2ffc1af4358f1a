import Mathlib.Data.Prod.Basic

/-! # Dynamic scope by saving and restoring

A block changes globals when it is entered, and puts them back when it is left, be it by an exception.  Programs
that change globals by their blocks alone are run on the globals (`Program.run`), or read without any: what they
see is what the blocks around them give (`Program.read`).  Where each block restores what can be seen, the two
agree, and a run leaves things as they were.
-/

namespace Library.Scoped

/-- Programs with blocks `β` that see a `ν`, emit events `ω` and raise exceptions `ε`. -/
inductive Program (β ν ω ε : Type) where
  | done
  | raise (exception : ε)
  | emit (events : ν → List ω)
  | look (next : ν → Program β ν ω ε)
  | seq (first second : Program β ν ω ε)
  | within (block : β) (body : Program β ν ω ε)
  | attempt (body : Program β ν ω ε) (handler : ε → Program β ν ω ε)

/-- What blocks do to the globals `σ`, with what they save of them. -/
structure Blocks (β σ ω ε : Type) (Saved : β → Type) where
  enter : (block : β) → σ → List ω × Except ε (Saved block) × σ
  leave : (block : β) → Saved block → σ → List ω × Option ε × σ

/-- What is seen in a block, and the events at its ends. -/
structure Scopes (β ν ω ε : Type) where
  enter : β → ν → List ω × Except ε ν
  leave (block : β) (outside inside : ν) : List ω

variable {β σ ν ω ε : Type} {Saved : β → Type}

/-- A block around anything: when an exception is raised in leaving it, it is the one that counts. -/
def Blocks.around (blocks : Blocks β σ ω ε Saved) (block : β) (body : σ → List ω × Option ε × σ) (globals : σ) :
    List ω × Option ε × σ :=
  match blocks.enter block globals with
  | (entering, .error exception, globals) => (entering, some exception, globals)
  | (entering, .ok saved, globals) =>
    let (events, ended, globals) := body globals
    let (leaving, raised, globals) := blocks.leave block saved globals
    (entering ++ events ++ leaving, raised.or ended, globals)

namespace Program

def run (blocks : Blocks β σ ω ε Saved) (view : σ → ν) : Program β ν ω ε → σ → List ω × Option ε × σ
  | done, globals => ([], none, globals)
  | raise exception, globals => ([], some exception, globals)
  | emit events, globals => (events (view globals), none, globals)
  | look next, globals => run blocks view (next (view globals)) globals
  | seq first second, globals =>
    match run blocks view first globals with
    | (events, some exception, globals) => (events, some exception, globals)
    | (events, none, globals) =>
      let (later, ended, globals) := run blocks view second globals
      (events ++ later, ended, globals)
  | within block body, globals => blocks.around block (run blocks view body) globals
  | attempt body handler, globals =>
    match run blocks view body globals with
    | (events, none, globals) => (events, none, globals)
    | (events, some exception, globals) =>
      let (later, ended, globals) := run blocks view (handler exception) globals
      (events ++ later, ended, globals)

def read (scopes : Scopes β ν ω ε) : Program β ν ω ε → ν → List ω × Option ε
  | done, _ => ([], none)
  | raise exception, _ => ([], some exception)
  | emit events, seen => (events seen, none)
  | look next, seen => read scopes (next seen) seen
  | seq first second, seen =>
    match read scopes first seen with
    | (events, some exception) => (events, some exception)
    | (events, none) =>
      let (later, ended) := read scopes second seen
      (events ++ later, ended)
  | within block body, seen =>
    match scopes.enter block seen with
    | (entering, .error exception) => (entering, some exception)
    | (entering, .ok inside) =>
      let (events, ended) := read scopes body inside
      (entering ++ events ++ scopes.leave block seen inside, ended)
  | attempt body handler, seen =>
    match read scopes body seen with
    | (events, none) => (events, none)
    | (events, some exception) =>
      let (later, ended) := read scopes (handler exception) seen
      (events ++ later, ended)

def Uses (allowed : β → Prop) : Program β ν ω ε → Prop
  | done => True
  | raise _ => True
  | emit _ => True
  | look next => ∀ seen, Uses allowed (next seen)
  | seq first second => Uses allowed first ∧ Uses allowed second
  | within block body => allowed block ∧ Uses allowed body
  | attempt body handler => Uses allowed body ∧ ∀ exception, Uses allowed (handler exception)

theorem Uses.mono {allowed others : β → Prop} (implies : ∀ block, allowed block → others block)
    {program : Program β ν ω ε} (uses : program.Uses allowed) : program.Uses others := by
  induction program with
  | done | raise | emit => trivial
  | look next ih => exact fun seen => ih seen (uses seen)
  | seq first second ihFirst ihSecond => exact ⟨ihFirst uses.1, ihSecond uses.2⟩
  | within block body ih => exact ⟨implies block uses.1, ih uses.2⟩
  | attempt body handler ihBody ihHandler =>
    exact ⟨ihBody uses.1, fun exception => ihHandler exception (uses.2 exception)⟩

end Program

/-- The block shows its scope when it is entered, and when it is left with the same to be seen as then, what was
    to be seen before.  If it cannot be entered, it changes nothing that is seen. -/
structure Blocks.Restores (blocks : Blocks β σ ω ε Saved) (view : σ → ν) (scopes : Scopes β ν ω ε) (block : β) :
    Prop where
  refuses : ∀ globals entering exception left,
    blocks.enter block globals = (entering, .error exception, left) →
    scopes.enter block (view globals) = (entering, .error exception) ∧ view left = view globals
  enters : ∀ globals entering saved inside,
    blocks.enter block globals = (entering, .ok saved, inside) →
    scopes.enter block (view globals) = (entering, .ok (view inside))
  leaves : ∀ globals entering saved inside ended,
    blocks.enter block globals = (entering, .ok saved, inside) → view ended = view inside →
    let left := blocks.leave block saved ended
    left.1 = scopes.leave block (view globals) (view inside) ∧ left.2.1 = none ∧ view left.2.2 = view globals

/-- A run has the events and the end that were read, and leaves what is seen as it was. -/
def Agrees (view : σ → ν) (globals : σ) (ran : List ω × Option ε × σ) (said : List ω × Option ε) : Prop :=
  (ran.1, ran.2.1) = said ∧ view ran.2.2 = view globals

variable {blocks : Blocks β σ ω ε Saved} {view : σ → ν} {scopes : Scopes β ν ω ε}

theorem agrees_within {block : β} (restores : blocks.Restores view scopes block) {body : Program β ν ω ε}
    (agrees : ∀ globals, Agrees view globals (body.run blocks view globals) (body.read scopes (view globals)))
    (globals : σ) :
    Agrees view globals (blocks.around block (body.run blocks view) globals)
      ((body.within block).read scopes (view globals)) := by
  rw [Blocks.around, Program.read]
  rcases entered : blocks.enter block globals with ⟨entering, exception | saved, inside⟩
  · obtain ⟨scope, seen⟩ := restores.refuses globals _ _ _ entered
    rw [scope]
    exact ⟨rfl, seen⟩
  · obtain ⟨said, seen⟩ := agrees inside
    obtain ⟨leaving, unraised, restored⟩ := restores.leaves globals _ _ _ _ entered seen
    rw [restores.enters globals _ _ _ entered]
    refine ⟨?_, restored⟩
    simp only [leaving, unraised, ← said, Option.none_or]

/-- Programs whose blocks restore what is seen run as they read. -/
theorem run_agrees {program : Program β ν ω ε} (restores : program.Uses (blocks.Restores view scopes)) (globals : σ) :
    Agrees view globals (program.run blocks view globals) (program.read scopes (view globals)) := by
  induction program generalizing globals with
  | done | raise | emit => exact ⟨rfl, rfl⟩
  | look next ih => exact ih (view globals) (restores (view globals)) globals
  | within block body ih => exact agrees_within restores.1 (ih restores.2) globals
  | seq first second ihFirst ihSecond =>
    have agrees := ihFirst restores.1 globals
    rw [Program.run, Program.read]
    generalize first.run blocks view globals = ran at agrees
    obtain ⟨events, exception | exception, left⟩ := ran
    · obtain ⟨said, seen⟩ := agrees
      obtain ⟨later, kept⟩ := ihSecond restores.2 left
      rw [seen] at later kept
      exact ⟨by simp [← said, ← later], kept⟩
    · exact ⟨by rw [← agrees.1], agrees.2⟩
  | attempt body handler ihBody ihHandler =>
    have agrees := ihBody restores.1 globals
    rw [Program.run, Program.read]
    generalize body.run blocks view globals = ran at agrees
    obtain ⟨events, exception | exception, left⟩ := ran
    · exact ⟨by rw [← agrees.1], agrees.2⟩
    · obtain ⟨said, seen⟩ := agrees
      obtain ⟨later, kept⟩ := ihHandler exception (restores.2 exception) left
      rw [seen] at later kept
      exact ⟨by simp [← said, ← later], kept⟩

end Library.Scoped
