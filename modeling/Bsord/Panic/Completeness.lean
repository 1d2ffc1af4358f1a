import Bsord.Panic.Shape

/-! # The frames of a report

The backtrace has a line for every frame the unwinder can reach, up to the limit, unless the search of
`print_registers` meets a failed step first: the handler then prints no backtrace.
-/

namespace Bsord.Panic

open Library Library.Trace

def Line.inBacktrace : Line → Bool
  | .backtraceHeader | .frame _ _ _ _ => true
  | _ => false

/-- The report has one backtrace, whose lines are those of the first frames of the stack up to the limit,
    numbered from 0, each with the IP and SP of its frame. -/
def BacktraceComplete (u : Unwinder) (n : Nat) (report : List Line) : Prop :=
  ∃ (before after : List Line) (fields : Nat → Text),
    report = before ++ .backtraceHeader :: (List.range (min n backtraceLimit)).map (fun i =>
      .frame i (u.registersAt .registers i .ip) (u.registersAt .registers i .sp) (fields i)) ++ after ∧
    ∀ line ∈ before ++ after, line.inBacktrace = false

variable {u : Unwinder} {n : Nat}

theorem registerLines_notInBacktrace (registers : Registers) :
    ∀ line ∈ registerLines registers, line.inBacktrace = false := by
  simp [registerLines, Line.inBacktrace]

theorem preamble_notInBacktrace (p : Process) (signum : Int) :
    ∀ line ∈ preamble p signum, line.inBacktrace = false := by
  simp [preamble, Line.inBacktrace]

theorem walk_length (same : SameStack u) (positive : ∀ i < n, 0 < u.ret .registers i)
    (ends : u.ret .registers n ≤ 0) {m : Nat} {ending : List Event} (bound : m ≤ backtraceLimit)
    (walked : ∀ i < m, 0 < u.ret .backtrace i) (walkEnds : BacktraceEnd u m ending) :
    m = min n backtraceLimit := by
  have shorter : m ≤ n := by
    by_contra longer
    have := walked n (by omega)
    rw [same.ret .backtrace .registers n fun j lt => walked j (by omega)] at this
    omega
  have last : m < backtraceLimit → n ≤ m := by
    intro below
    by_contra before
    have frame := positive m (by omega)
    rw [same.ret .registers .backtrace m fun j lt => positive j (by omega)] at frame
    cases walkEnds with
    | limit full => omega
    | stackEnd _ zero => omega
    | failed _ negative => omega
  omega

theorem printed_printBacktrace (same : SameStack u) (cursor : u.initLocal .backtrace = 0)
    (positive : ∀ i < n, 0 < u.ret .registers i) (ends : u.ret .registers n ≤ 0)
    (index : Int) (programInvocationName : Text) : ∃ (fields : Nat → Text) (closing : List Line),
    printed (printBacktrace u index programInvocationName) =
      .backtraceHeader :: (List.range (min n backtraceLimit)).map (fun i =>
        .frame i (u.registersAt .registers i .ip) (u.registersAt .registers i .sp) (fields i)) ++ closing ∧
    ∀ line ∈ closing, line.inBacktrace = false := by
  have spec := printBacktrace_spec u index programInvocationName
  rw [printed]
  generalize (printBacktrace u index programInvocationName).events = trace at spec
  cases spec with
  | noCursor failed => exact absurd cursor failed
  | walked m ending _ bound walked walkEnds =>
    have length := walk_length same positive ends bound walked walkEnds
    have frames : ∀ i ∈ List.range m, frameLine u index programInvocationName i =
        .frame i (u.registersAt .registers i .ip) (u.registersAt .registers i .sp)
          (frameField u index programInvocationName i) := by
      intro i mem
      have reaches : Reaches u .backtrace i := fun j le => walked j (by have := List.mem_range.mp mem; omega)
      rw [frameLine, same.ip .registers .backtrace i (same.reaches _ _ reaches),
        same.sp .registers .backtrace i (same.reaches _ _ reaches)]
    refine ⟨frameField u index programInvocationName, lines ending, ?_, ?_⟩
    · rw [← length, ← List.map_congr_left frames]
      simp
    · cases walkEnds <;> simp [Line.inBacktrace]

/-- **Completeness**: on a stack of depth `n`, whatever ends it, the report has the whole backtrace when
    the search meets no failed step.  When an error ends the stack before a low IP and before the limit,
    the handler gives the report up: it has neither registers nor a backtrace. -/
theorem panicHandler_complete (p : Process) (signal : Signal) (same : SameStack p.unwinder)
    (context : p.unwinder.getcontext = 0) (cursors : ∀ pass, p.unwinder.initLocal pass = 0)
    (positive : ∀ i < n, 0 < p.unwinder.ret .registers i) (ends : p.unwinder.ret .registers n ≤ 0) :
    (¬ SearchFails p.unwinder →
      BacktraceComplete p.unwinder n (printed (panicHandler p signal.number))) ∧
    (n < backtraceLimit → p.unwinder.ret .registers n < 0 →
      (∀ i < n, ¬ Low p.unwinder .registers i) →
      ∃ message, printed (panicHandler p signal.number) =
        preamble p signal.number ++ [.error message, .panicEnd]) := by
  have value := value_printRegisters_neg_iff p.unwinder
  cases printed_printRegisters_cases p.unwinder with
  | inl failed =>
    obtain ⟨givenUp, message, error⟩ := failed
    constructor
    · intro goesOn
      cases value.mp givenUp with
      | inl failed => exact absurd (cursors .registers) failed
      | inr fails => exact absurd fails goesOn
    · intro _ _ _
      refine ⟨message, ?_⟩
      rw [printed_panicHandler, if_neg (not_not_intro context), if_neg (by omega), error]
      rfl
  | inr passed =>
    obtain ⟨nonnegative, registers, block⟩ := passed
    constructor
    · intro _
      obtain ⟨fields, closing, backtrace, outside⟩ := printed_printBacktrace same (cursors .backtrace)
        positive ends (printRegisters p.unwinder).value p.programInvocationName
      refine ⟨preamble p signal.number ++ registerLines registers, closing ++ [.panicEnd], fields, ?_, ?_⟩
      · rw [printed_panicHandler, if_neg (not_not_intro context), if_pos nonnegative, block, backtrace]
        simp only [List.append_assoc, List.cons_append]
      · intro line mem
        simp only [List.mem_append, List.mem_singleton] at mem
        rcases mem with (mem | mem) | mem | rfl
        · exact preamble_notInBacktrace p _ line mem
        · exact registerLines_notInBacktrace registers line mem
        · exact outside line mem
        · rfl
    · intro below negative high
      -- The search goes through the frames and meets the error behind them.
      have fails : SearchFails p.unwinder :=
        ⟨n, below, fun i lt => ⟨Int.le_of_lt (positive i lt), high i lt⟩, negative⟩
      have := value.mpr (.inr fails)
      omega

theorem panicHandler_complete_sample :
    BacktraceComplete (steady (frameSteps [(0x7fbe7503ea00, 0x7fbe74ffdd40), (0x40151a, 0x7fbe74ffede0)]
      ⟨-10, ipSpRegisters 0 0⟩)) 2 (printed (panicHandler (sampleProcess (steady (frameSteps
        [(0x7fbe7503ea00, 0x7fbe74ffdd40), (0x40151a, 0x7fbe74ffede0)] ⟨-10, ipSpRegisters 0 0⟩)))
          Signal.abrt.number)) :=
  (panicHandler_complete (sampleProcess (steady (frameSteps
      [(0x7fbe7503ea00, 0x7fbe74ffdd40), (0x40151a, 0x7fbe74ffede0)] ⟨-10, ipSpRegisters 0 0⟩)))
    .abrt (steady_sameFrames _).toSameStack rfl (fun _ => rfl) (by decide) (by decide)).1
    fun fails => fails.not_found (i := 1) (by decide) (by decide) (by decide)

/-- A frame is lost when an error ends the stack before a low IP. -/
theorem panicHandler_loses_frame :
    ¬ BacktraceComplete (steady (frameSteps [(0x7fbe7503ea00, 0x7fbe74ffdd40)] ⟨-10, ipSpRegisters 0 0⟩))
      1 (printed (panicHandler (sampleProcess (steady (frameSteps [(0x7fbe7503ea00, 0x7fbe74ffdd40)]
        ⟨-10, ipSpRegisters 0 0⟩))) Signal.abrt.number)) := by
  rintro ⟨before, after, fields, report, _⟩
  have absent : Line.backtraceHeader ∉ printed (panicHandler (sampleProcess (steady (frameSteps
      [(0x7fbe7503ea00, 0x7fbe74ffdd40)] ⟨-10, ipSpRegisters 0 0⟩))) Signal.abrt.number) := by
    decide
  apply absent
  rw [report]
  simp

end Bsord.Panic
