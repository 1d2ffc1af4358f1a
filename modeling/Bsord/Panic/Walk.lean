import Bsord.Panic.Handler

/-! # What the two passes over the stack do

`print_registers` and `print_backtrace` walk the stack in loops of their own.  Each gets one lemma here
that gives its result and its trace in closed form, by how the walk ends: `printRegisters_spec` and
`printBacktrace_spec`.  Later modules case on these and never unfold the loops.
-/

namespace Bsord.Panic

open Library Library.Trace

variable {u : Unwinder} {pass : Pass} {i j n : Nat}

/-! ## Steps of a cursor -/

abbrev Unwinder.ret (u : Unwinder) (pass : Pass) (i : Nat) : Int := (u.step pass i).ret

abbrev Unwinder.registersAt (u : Unwinder) (pass : Pass) (i : Nat) : Registers :=
  (u.step pass i).registers

/-- The IP read after step `i` is one that the heuristic takes for the program's own code. -/
def Low (u : Unwinder) (pass : Pass) (i : Nat) : Prop := u.registersAt pass i .ip < 0x3fffffffffff

instance : Decidable (Low u pass i) := inferInstanceAs (Decidable (_ < _))

/-- Step `i` reaches a frame: it and all steps before it have positive results. -/
def Reaches (u : Unwinder) (pass : Pass) (i : Nat) : Prop := ∀ j ≤ i, 0 < u.ret pass j

instance : Decidable (Reaches u pass i) := inferInstanceAs (Decidable (∀ j ≤ i, _))

theorem Reaches.mono (reaches : Reaches u pass i) (le : j ≤ i) : Reaches u pass j :=
  fun k bound => reaches k (by omega)

def stepEvents (u : Unwinder) (pass : Pass) (n : Nat) : List Event :=
  (List.range n).map fun i => .step (u.ret pass i)

@[simp] theorem cursor_pass : (u.cursor pass i).pass = pass := by cases i <;> rfl
@[simp] theorem cursor_position : (u.cursor pass i).position = i := by cases i <;> rfl

@[simp] theorem value_unwInitLocal :
    value (unwInitLocal u pass) = (u.initLocal pass, u.cursor pass 0) := rfl

@[simp] theorem events_unwInitLocal :
    events (unwInitLocal u pass) = [.initLocal (u.initLocal pass)] := rfl

@[simp] theorem value_unwStep :
    value (unwStep u (u.cursor pass i)) = (u.ret pass i, u.cursor pass (i + 1)) := by
  cases i <;> rfl

@[simp] theorem events_unwStep :
    events (unwStep u (u.cursor pass i)) = [.step (u.ret pass i)] := by
  cases i <;> rfl

@[simp] theorem unwGetReg_cursor (register : Register) :
    unwGetReg (u.cursor pass (i + 1)) register = u.registersAt pass i register := rfl

@[simp] theorem events_print (line : Line) : events (print line) = [.print line] := rfl

@[simp] theorem events_printLibunwindError (err : Int) :
    events (printLibunwindError u err) = [.print (.error (u.strerror err))] := rfl

@[simp] theorem lines_stepEvents : lines (stepEvents u pass n) = [] := by
  simp [lines, stepEvents]

/-! ## The search loop -/

/-- The search went on past its first `n` steps: none failed and none read a low IP.  The result 0 of a
    step behind the end of the stack does not stop it. -/
def Searched (u : Unwinder) (n : Nat) : Prop :=
  ∀ i < n, 0 ≤ u.ret .registers i ∧ ¬ Low u .registers i

instance : Decidable (Searched u n) := inferInstanceAs (Decidable (∀ i < n, _ ∧ _))

theorem Searched.le (searched : Searched u j) (stops : u.ret .registers i < 0 ∨ Low u .registers i) :
    j ≤ i := by
  by_contra beyond
  obtain ⟨nonnegative, high⟩ := searched i (by omega)
  cases stops with
  | inl negative => omega
  | inr low => exact high low

theorem Searched.unique (searched : Searched u i) (stops : u.ret .registers i < 0 ∨ Low u .registers i)
    (searchedTo : Searched u j) (stopsThere : u.ret .registers j < 0 ∨ Low u .registers j) : i = j :=
  Nat.le_antisymm (searched.le stopsThere) (searchedTo.le stops)

theorem searchLoop_succ (err : Int) (iterations k : Nat) (ip sp : UInt64) :
    searchLoop u err (iterations + 1) k (u.cursor .registers k) ip sp =
      (emit (.step (u.ret .registers k)) >>= fun _ =>
        if u.ret .registers k < 0 then
          printLibunwindError u err >>= fun _ => pure (.returned (-1))
        else if Low u .registers k then
          pure (.left k (u.cursor .registers (k + 1)) (u.registersAt .registers k .ip)
            (u.registersAt .registers k .sp))
        else searchLoop u err iterations (k + 1) (u.cursor .registers (k + 1))
          (u.registersAt .registers k .ip) (u.registersAt .registers k .sp)) := by
  cases k <;> rfl

theorem searchLoop_stopped (err : Int) {d : Nat} : ∀ {k iterations : Nat} (ip sp : UInt64),
    (∀ j, k ≤ j → j < k + d → 0 ≤ u.ret .registers j ∧ ¬ Low u .registers j) →
    u.ret .registers (k + d) < 0 ∨ Low u .registers (k + d) → d < iterations →
    (searchLoop u err iterations k (u.cursor .registers k) ip sp).value =
      (if u.ret .registers (k + d) < 0 then .returned (-1)
        else .left (k + d) (u.cursor .registers (k + d + 1)) (u.registersAt .registers (k + d) .ip)
          (u.registersAt .registers (k + d) .sp)) ∧
    (searchLoop u err iterations k (u.cursor .registers k) ip sp).events =
      (List.range' k (d + 1)).map (fun i => .step (u.ret .registers i)) ++
        (if u.ret .registers (k + d) < 0 then [.print (.error (u.strerror err))] else []) := by
  -- The induction is on the iterations that go on, from any place in the loop.
  induction d with
  | zero =>
    intro k iterations ip sp _ stops bound
    obtain ⟨iterations, rfl⟩ : ∃ m, iterations = m + 1 := ⟨iterations - 1, by omega⟩
    simp only [searchLoop_succ, Nat.add_zero] at stops ⊢
    by_cases negative : u.ret .registers k < 0
    · simp [negative]
    · simp [negative, stops.resolve_left negative]
  | succ d ih =>
    intro k iterations ip sp passes stops bound
    obtain ⟨iterations, rfl⟩ : ∃ m, iterations = m + 1 := ⟨iterations - 1, by omega⟩
    obtain ⟨nonnegative, high⟩ := passes k (Nat.le_refl k) (by omega)
    have shift : k + (d + 1) = k + 1 + d := by omega
    rw [shift] at stops ⊢
    have bound : d < iterations := by omega
    obtain ⟨value, events⟩ := ih
      (u.registersAt .registers k .ip) (u.registersAt .registers k .sp)
      (fun j le lt => passes j (by omega) (by omega)) stops bound
    simp only [searchLoop_succ, value_bind, events_bind, if_neg (Int.not_lt.mpr nonnegative),
      if_neg high, value, events, events_emit]
    exact ⟨trivial, by rw [List.range'_succ (n := d + 1)]; rfl⟩

theorem searchLoop_exhausted (err : Int) : ∀ (iterations k : Nat) (ip sp : UInt64),
    (∀ j, k ≤ j → j < k + iterations → 0 ≤ u.ret .registers j ∧ ¬ Low u .registers j) → ∃ ip' sp',
    (searchLoop u err iterations k (u.cursor .registers k) ip sp).value =
      .left (k + iterations) (u.cursor .registers (k + iterations)) ip' sp' ∧
    (searchLoop u err iterations k (u.cursor .registers k) ip sp).events =
      (List.range' k iterations).map (fun i => .step (u.ret .registers i)) := by
  intro iterations
  induction iterations with
  | zero => exact fun _ _ _ _ => ⟨_, _, rfl, rfl⟩
  | succ iterations ih =>
    intro k ip sp passes
    obtain ⟨nonnegative, high⟩ := passes k (Nat.le_refl k) (by omega)
    obtain ⟨ip', sp', value, events⟩ := ih (k + 1)
      (u.registersAt .registers k .ip) (u.registersAt .registers k .sp)
      fun j le lt => passes j (by omega) (by omega)
    have shift : k + (iterations + 1) = k + 1 + iterations := by omega
    refine ⟨ip', sp', ?_⟩
    simp only [searchLoop_succ, value_bind, events_bind, if_neg (Int.not_lt.mpr nonnegative),
      if_neg high, value, events, events_emit, shift]
    exact ⟨trivial, by rw [List.range'_succ]; rfl⟩

/-! ## `print_registers` -/

/-- The four ways `print_registers` can end, with the index it returns and its trace. -/
inductive RegisterPass (u : Unwinder) : Int → List Event → Prop where
  | noCursor (failed : u.initLocal .registers ≠ 0) :
      RegisterPass u (-1)
        [.initLocal (u.initLocal .registers), .print (.error (u.strerror (u.initLocal .registers)))]
  | failed (i : Nat) (cursor : u.initLocal .registers = 0) (bound : i < backtraceLimit)
      (searched : Searched u i) (negative : u.ret .registers i < 0) :
      RegisterPass u (-1)
        (.initLocal 0 :: stepEvents u .registers (i + 1) ++ [.print (.error (u.strerror 0))])
  | found (i : Nat) (cursor : u.initLocal .registers = 0) (bound : i < backtraceLimit)
      (searched : Searched u i) (nonnegative : 0 ≤ u.ret .registers i) (low : Low u .registers i) :
      RegisterPass u i
        (.initLocal 0 :: stepEvents u .registers (i + 1) ++
          (registerLines (u.registersAt .registers i)).map .print)
  | exhausted (cursor : u.initLocal .registers = 0) (searched : Searched u backtraceLimit) :
      RegisterPass u backtraceLimit
        (.initLocal 0 :: stepEvents u .registers backtraceLimit ++
          [.initLocal (u.initLocal .fallback), .step (u.ret .fallback 0)] ++
          (registerLines (u.registersAt .fallback 0)).map .print)

theorem first_below (property : Nat → Prop) (limit : Nat) :
    (∀ i < limit, ¬ property i) ∨ ∃ i < limit, (∀ j < i, ¬ property j) ∧ property i := by
  classical
  by_cases occurs : ∃ i, i < limit ∧ property i
  · obtain ⟨bound, holds⟩ := Nat.find_spec occurs
    exact .inr ⟨Nat.find occurs, bound,
      fun j before holds => Nat.find_min occurs before ⟨by omega, holds⟩, holds⟩
  · exact .inl fun i bound holds => occurs ⟨i, bound, holds⟩

theorem search_cases (u : Unwinder) :
    Searched u backtraceLimit ∨ ∃ i < backtraceLimit, Searched u i ∧
      (u.ret .registers i < 0 ∨ Low u .registers i) := by
  have goesOn : ∀ i, ¬ (u.ret .registers i < 0 ∨ Low u .registers i) →
      0 ≤ u.ret .registers i ∧ ¬ Low u .registers i :=
    fun i passes => ⟨Int.not_lt.mp fun negative => passes (.inl negative), fun low => passes (.inr low)⟩
  rcases first_below (fun i => u.ret .registers i < 0 ∨ Low u .registers i) backtraceLimit with
    none | ⟨i, bound, before, stops⟩
  · exact .inl fun i bound => goesOn i (none i bound)
  · exact .inr ⟨i, bound, fun j lt => goesOn j (before j lt), stops⟩

/-- The search meets a failed step before a low IP. -/
def SearchFails (u : Unwinder) : Prop :=
  ∃ i < backtraceLimit, Searched u i ∧ u.ret .registers i < 0

def GivesUp (u : Unwinder) : Prop := u.initLocal .registers ≠ 0 ∨ SearchFails u

theorem SearchFails.not_found (fails : SearchFails u) (searched : Searched u i)
    (nonnegative : 0 ≤ u.ret .registers i) (low : Low u .registers i) : False := by
  obtain ⟨j, _, before, negative⟩ := fails
  have same := before.unique (.inl negative) searched (.inr low)
  rw [same] at negative
  omega

theorem SearchFails.not_exhausted (fails : SearchFails u) (searched : Searched u backtraceLimit) :
    False := by
  obtain ⟨j, bound, _, negative⟩ := fails
  have := searched.le (.inl negative)
  omega

theorem events_printRegistersX8664 (i : Nat) :
    (printRegistersX8664 (u.cursor pass (i + 1))).events =
      ((registerLines (u.registersAt pass i)).drop 2).map .print := rfl

theorem printRegisters_noCursor (failed : u.initLocal .registers ≠ 0) :
    RegisterPass u (printRegisters u).value (printRegisters u).events := by
  have result : (printRegisters u).value = -1 := by simp [printRegisters, failed]
  have trace : (printRegisters u).events = [.initLocal (u.initLocal .registers),
      .print (.error (u.strerror (u.initLocal .registers)))] := by
    simp [printRegisters, failed]
  rw [result, trace]
  exact .noCursor failed

theorem printRegisters_stopped (cursor : u.initLocal .registers = 0) (bound : i < backtraceLimit)
    (searched : Searched u i) (stops : u.ret .registers i < 0 ∨ Low u .registers i) :
    RegisterPass u (printRegisters u).value (printRegisters u).events := by
  obtain ⟨left, steps⟩ := searchLoop_stopped (u := u) 0 (d := i) (k := 0) 0 0
    (fun j _ lt => searched j (by omega)) (by simpa using stops) bound
  rw [Nat.zero_add] at left steps
  -- A failed step comes before the test of its IP.
  by_cases negative : u.ret .registers i < 0
  · have result : (printRegisters u).value = -1 := by simp [printRegisters, cursor, left, negative]
    have trace : (printRegisters u).events =
        .initLocal 0 :: stepEvents u .registers (i + 1) ++ [.print (.error (u.strerror 0))] := by
      simp [printRegisters, cursor, left, steps, negative, stepEvents, List.range_eq_range']
    rw [result, trace]
    exact .failed i cursor bound searched negative
  · have inside : i ≠ backtraceLimit := by omega
    have result : (printRegisters u).value = i := by
      simp [printRegisters, cursor, left, negative, inside]
    have trace : (printRegisters u).events = .initLocal 0 :: stepEvents u .registers (i + 1) ++
        (registerLines (u.registersAt .registers i)).map .print := by
      simp [printRegisters, cursor, left, steps, negative, inside, stepEvents, List.range_eq_range',
        events_printRegistersX8664]
      rfl
    rw [result, trace]
    exact .found i cursor bound searched (by omega) (stops.resolve_left negative)

theorem printRegisters_exhausted (cursor : u.initLocal .registers = 0)
    (searched : Searched u backtraceLimit) :
    RegisterPass u (printRegisters u).value (printRegisters u).events := by
  obtain ⟨ip, sp, left, steps⟩ := searchLoop_exhausted (u := u) 0 backtraceLimit 0 0 0
    fun j _ lt => searched j (by omega)
  rw [Nat.zero_add] at left
  have result : (printRegisters u).value = backtraceLimit := by simp [printRegisters, cursor, left]
  have trace : (printRegisters u).events = .initLocal 0 :: stepEvents u .registers backtraceLimit ++
      [.initLocal (u.initLocal .fallback), .step (u.ret .fallback 0)] ++
      (registerLines (u.registersAt .fallback 0)).map .print := by
    simp [printRegisters, cursor, left, steps, stepEvents, List.range_eq_range',
      events_printRegistersX8664]
    rfl
  rw [result, trace]
  exact .exhausted cursor searched

theorem printRegisters_spec (u : Unwinder) :
    RegisterPass u (printRegisters u).value (printRegisters u).events := by
  by_cases cursor : u.initLocal .registers = 0
  · cases search_cases u with
    | inl searched => exact printRegisters_exhausted cursor searched
    | inr stopped =>
      obtain ⟨i, bound, searched, stops⟩ := stopped
      exact printRegisters_stopped cursor bound searched stops
  · exact printRegisters_noCursor cursor

theorem printRegisters_found (cursor : u.initLocal .registers = 0) (bound : i < backtraceLimit)
    (searched : Searched u i) (nonnegative : 0 ≤ u.ret .registers i) (low : Low u .registers i) :
    (printRegisters u).value = i ∧
      printed (printRegisters u) = registerLines (u.registersAt .registers i) := by
  have spec := printRegisters_spec u
  rw [printed]
  generalize (printRegisters u).value = index, (printRegisters u).events = trace at spec
  cases spec with
  | noCursor failed => exact absurd cursor failed
  | failed j _ below before negative =>
    exact (SearchFails.not_found ⟨j, below, before, negative⟩ searched nonnegative low).elim
  | found j _ _ before _ lowThere =>
    have same := before.unique (.inr lowThere) searched (.inr low)
    subst same
    exact ⟨rfl, by simp⟩
  | exhausted _ all => exact absurd low (all i bound).2

theorem printRegisters_fallback (cursor : u.initLocal .registers = 0)
    (searched : Searched u backtraceLimit) :
    (printRegisters u).value = backtraceLimit ∧
      printed (printRegisters u) = registerLines (u.registersAt .fallback 0) := by
  have spec := printRegisters_spec u
  rw [printed]
  generalize (printRegisters u).value = index, (printRegisters u).events = trace at spec
  cases spec with
  | noCursor failed => exact absurd cursor failed
  | failed j _ below before negative =>
    exact (SearchFails.not_exhausted ⟨j, below, before, negative⟩ searched).elim
  | found j _ below _ _ low => exact absurd low (searched j below).2
  | exhausted _ _ => exact ⟨rfl, by simp⟩

theorem value_printRegisters_neg_iff (u : Unwinder) : (printRegisters u).value < 0 ↔ GivesUp u := by
  have spec := printRegisters_spec u
  generalize (printRegisters u).value = index, (printRegisters u).events = trace at spec
  cases spec with
  | noCursor failed => exact ⟨fun _ => .inl failed, fun _ => by omega⟩
  | failed i cursor bound searched negative =>
    exact ⟨fun _ => .inr ⟨i, bound, searched, negative⟩, fun _ => by omega⟩
  | found i cursor bound searched nonnegative low =>
    refine ⟨fun negative => by omega, fun givesUp => ?_⟩
    cases givesUp with
    | inl failed => exact absurd cursor failed
    | inr fails => exact (fails.not_found searched nonnegative low).elim
  | exhausted cursor searched =>
    refine ⟨fun negative => by omega, fun givesUp => ?_⟩
    cases givesUp with
    | inl failed => exact absurd cursor failed
    | inr fails => exact (fails.not_exhausted searched).elim

/-! ## `print_backtrace` -/

def frameField (u : Unwinder) (index : Int) (programInvocationName : Text) (i : Nat) : Text :=
  if (i : Int) = index then annotationField (u.registersAt .backtrace i .ip) programInvocationName else []

/-- The line that `print_backtrace` prints after step `i`. -/
def frameLine (u : Unwinder) (index : Int) (programInvocationName : Text) (i : Nat) : Line :=
  .frame i (u.registersAt .backtrace i .ip) (u.registersAt .backtrace i .sp)
    (frameField u index programInvocationName i)

/-- The trace of iterations `k` to `k + m - 1`, all of which print a frame. -/
def frameEvents (u : Unwinder) (index : Int) (programInvocationName : Text) (k m : Nat) : List Event :=
  (List.range' k m).flatMap fun i =>
    [.step (u.ret .backtrace i), .print (frameLine u index programInvocationName i)]

/-- How the loop of `print_backtrace` ends behind `m` frames: at the limit, at the end of the stack or
    at an error. -/
inductive BacktraceEnd (u : Unwinder) (m : Nat) : List Event → Prop where
  | limit (full : m = backtraceLimit) : BacktraceEnd u m []
  | stackEnd (below : m < backtraceLimit) (zero : u.ret .backtrace m = 0) : BacktraceEnd u m [.step 0]
  | failed (below : m < backtraceLimit) (negative : u.ret .backtrace m < 0) :
      BacktraceEnd u m
        [.step (u.ret .backtrace m), .print (.error (u.strerror (u.ret .backtrace m)))]

/-- The ways `print_backtrace` can end, with its trace. -/
inductive BacktracePass (u : Unwinder) (index : Int) (programInvocationName : Text) :
    List Event → Prop where
  | noCursor (failed : u.initLocal .backtrace ≠ 0) :
      BacktracePass u index programInvocationName
        [.initLocal (u.initLocal .backtrace), .print (.error (u.strerror (u.initLocal .backtrace)))]
  | walked (m : Nat) (ending : List Event) (cursor : u.initLocal .backtrace = 0)
      (bound : m ≤ backtraceLimit) (positive : ∀ i < m, 0 < u.ret .backtrace i)
      (ends : BacktraceEnd u m ending) :
      BacktracePass u index programInvocationName
        (.initLocal 0 :: .print .backtraceHeader ::
          frameEvents u index programInvocationName 0 m ++ ending)

@[simp] theorem lines_frameEvents (index : Int) (programInvocationName : Text) (m : Nat) :
    lines (frameEvents u index programInvocationName 0 m) =
      (List.range m).map (frameLine u index programInvocationName) := by
  simp [lines, frameEvents, List.filterMap_flatMap, List.range_eq_range', List.map_eq_flatMap]

theorem backtraceLoop_succ (index : Int) (programInvocationName : Text) (iterations k : Nat) :
    (backtraceLoop u index programInvocationName (iterations + 1) k (u.cursor .backtrace k)).events =
      .step (u.ret .backtrace k) ::
        if u.ret .backtrace k < 0 then [.print (.error (u.strerror (u.ret .backtrace k)))]
        else if u.ret .backtrace k = 0 then []
        else .print (frameLine u index programInvocationName k) ::
          (backtraceLoop u index programInvocationName iterations (k + 1)
            (u.cursor .backtrace (k + 1))).events := by
  simp only [backtraceLoop, value_unwStep, events_unwStep, events_bind, events_ite, events_print,
    events_printLibunwindError, events_pure, unwGetReg_cursor, frameLine, frameField,
    List.cons_append, List.nil_append]

theorem backtraceLoop_positive (index : Int) (programInvocationName : Text) {m : Nat} :
    ∀ (k iterations : Nat), (∀ j, k ≤ j → j < k + m → 0 < u.ret .backtrace j) →
    (backtraceLoop u index programInvocationName (m + iterations) k (u.cursor .backtrace k)).events =
      frameEvents u index programInvocationName k m ++
        (backtraceLoop u index programInvocationName iterations (k + m)
          (u.cursor .backtrace (k + m))).events := by
  induction m with
  | zero => intro k iterations _; simp [frameEvents]
  | succ m ih =>
    intro k iterations positive
    have here := positive k (Nat.le_refl k) (by omega)
    have rest := ih (k + 1) iterations
      fun j le lt => positive j (by omega) (by omega)
    have count : m + 1 + iterations = m + iterations + 1 := by omega
    have shift : k + (m + 1) = k + 1 + m := by omega
    rw [count, shift, backtraceLoop_succ, if_neg (by omega), if_neg (by omega), rest]
    simp only [frameEvents, List.range'_succ, List.flatMap_cons, List.cons_append, List.nil_append]

theorem printBacktrace_spec (u : Unwinder) (index : Int) (programInvocationName : Text) :
    BacktracePass u index programInvocationName (printBacktrace u index programInvocationName).events := by
  by_cases cursor : u.initLocal .backtrace = 0
  case neg =>
    have trace : (printBacktrace u index programInvocationName).events =
        [.initLocal (u.initLocal .backtrace), .print (.error (u.strerror (u.initLocal .backtrace)))] := by
      simp [printBacktrace, cursor]
    rw [trace]
    exact .noCursor cursor
  case pos =>
    have trace : (printBacktrace u index programInvocationName).events =
        .initLocal 0 :: .print .backtraceHeader ::
          (backtraceLoop u index programInvocationName backtraceLimit 0 (u.cursor .backtrace 0)).events := by
      simp [printBacktrace, cursor]
    rcases first_below (fun i => u.ret .backtrace i ≤ 0) backtraceLimit with
      all | ⟨m, bound, before, stops⟩
    · -- All 64 steps are positive.
      have loop := backtraceLoop_positive (u := u) index programInvocationName
        (m := backtraceLimit) 0 0 fun j _ lt => Int.not_le.mp (all j (by omega))
      rw [trace, ← Nat.add_zero backtraceLimit, loop]
      exact .walked backtraceLimit [] cursor (Nat.le_refl _) (fun i lt => Int.not_le.mp (all i lt))
        (.limit rfl)
    · -- Step `m` is the first that is not, and ends the loop.
      have positive : ∀ i < m, 0 < u.ret .backtrace i := fun i lt => Int.not_le.mp (before i lt)
      have loop := backtraceLoop_positive (u := u) index programInvocationName
        (m := m) 0 (backtraceLimit - m - 1 + 1) fun j _ lt => positive j (by omega)
      have count : m + (backtraceLimit - m - 1 + 1) = backtraceLimit := by omega
      rw [count, Nat.zero_add, backtraceLoop_succ] at loop
      rw [trace, loop]
      by_cases negative : u.ret .backtrace m < 0
      · rw [if_pos negative]
        exact .walked m _ cursor (by omega) positive (.failed bound negative)
      · have zero : u.ret .backtrace m = 0 := by omega
        rw [if_neg negative, if_pos zero, zero]
        exact .walked m _ cursor (by omega) positive (.stackEnd bound zero)

/-! ## `panic_handler` -/

/-- The lines before the first call into libunwind. -/
def preamble (p : Process) (signum : Int) : List Line :=
  [.panicStart, .signal signum (signalField signum), .process p.pid p.programInvocationName,
    .thread p.tid p.threadName.bytes]

theorem events_panicHandler (p : Process) (signum : Int) :
    (panicHandler p signum).events =
      (preamble p signum).map .print ++ .getcontext p.unwinder.getcontext ::
        if p.unwinder.getcontext ≠ 0 then [.print (.error (p.unwinder.strerror p.unwinder.getcontext))]
        else (printRegisters p.unwinder).events ++
          (if 0 ≤ (printRegisters p.unwinder).value then
            (printBacktrace p.unwinder (printRegisters p.unwinder).value p.programInvocationName).events
          else []) ++ [.print .panicEnd] := by
  simp only [panicHandler, events_bind, events_print, events_ite, events_printLibunwindError,
    List.append_assoc]
  by_cases resumes : 0 ≤ (printRegisters p.unwinder).value
  · simp only [if_pos resumes]
    rfl
  · simp only [if_neg resumes]
    rfl

theorem printed_panicHandler (p : Process) (signum : Int) :
    printed (panicHandler p signum) = preamble p signum ++
      if p.unwinder.getcontext ≠ 0 then [.error (p.unwinder.strerror p.unwinder.getcontext)]
      else printed (printRegisters p.unwinder) ++
        (if 0 ≤ (printRegisters p.unwinder).value then
          printed (printBacktrace p.unwinder (printRegisters p.unwinder).value p.programInvocationName)
        else []) ++ [.panicEnd] := by
  simp only [printed, events_panicHandler, lines_append, lines_map_print, lines_getcontext]
  split
  · rfl
  · split <;> simp

/-! ## The length of a run -/

theorem RegisterPass.length_le {value : Int} {trace : List Event} (pass : RegisterPass u value trace) :
    trace.length ≤ backtraceLimit + 10 := by
  cases pass with
  | noCursor _ => simp
  | failed i _ bound _ _ =>
    simp [stepEvents]
    omega
  | found i _ bound _ _ _ =>
    simp [stepEvents, registerLines]
    omega
  | exhausted _ _ => simp [stepEvents, registerLines]

theorem length_frameEvents (index : Int) (programInvocationName : Text) (k m : Nat) :
    (frameEvents u index programInvocationName k m).length = 2 * m := by
  simp [frameEvents, List.length_flatMap, Nat.mul_comm]

theorem BacktracePass.length_le {index : Int} {programInvocationName : Text} {trace : List Event}
    (pass : BacktracePass u index programInvocationName trace) :
    trace.length ≤ 2 * backtraceLimit + 2 := by
  cases pass with
  | noCursor _ => simp
  | walked m ending _ bound _ ends =>
    simp only [List.length_append, List.length_cons, length_frameEvents]
    cases ends with
    | limit full => simp [full]
    | stackEnd below _ =>
      simp
      omega
    | failed below _ =>
      simp
      omega

/-- The events of the longest run of the handler. -/
def handlerBound : Nat := 3 * backtraceLimit + 18

/-- No loop of the handler depends on the stack to end. -/
theorem length_events_panicHandler_le (p : Process) (signum : Int) :
    (panicHandler p signum).events.length ≤ handlerBound := by
  have registers := (printRegisters_spec p.unwinder).length_le
  have backtrace := (printBacktrace_spec p.unwinder (printRegisters p.unwinder).value
    p.programInvocationName).length_le
  rw [events_panicHandler, handlerBound]
  simp only [preamble, List.length_append, List.length_map, List.length_cons, List.length_nil]
  split
  · simp
  · split
    · simp only [List.length_append, List.length_singleton]
      omega
    · simp only [List.length_append, List.length_singleton, List.length_nil]
      omega

end Bsord.Panic
