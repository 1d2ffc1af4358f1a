import Bsord.Panic.Stack

/-! # The shape of a report

A report is a start marker, three lines about the process, a body and an end marker.  The body is a
single error, or a block of registers followed by an error or a backtrace.  Every run of the handler
prints a report of this shape, unless `unw_getcontext` fails: the handler then returns before the
line that prints the end marker (`panicHandler_shape_iff`).
-/

namespace Bsord.Panic

open Library Library.Trace

def Line.number? : Line → Option Nat
  | .frame i _ _ _ => some i
  | _ => none

def Numbered (frames : List Line) : Prop :=
  frames.map Line.number? = (List.range frames.length).map some

/-- What follows the registers: an error, or a backtrace that an error may close. -/
inductive BacktraceShape : List Line → Prop where
  | error (message : Text) : BacktraceShape [.error message]
  | backtrace (frames closing : List Line) (numbered : Numbered frames)
      (bound : frames.length ≤ backtraceLimit)
      (closed : closing = [] ∨ ∃ message, closing = [.error message]) :
      BacktraceShape (.backtraceHeader :: frames ++ closing)

inductive BodyShape : List Line → Prop where
  | error (message : Text) : BodyShape [.error message]
  | registers (registers : Registers) (rest : List Line) (shape : BacktraceShape rest) :
      BodyShape (registerLines registers ++ rest)

structure ReportShape (p : Process) (signum : Int) (report : List Line) : Prop where
  shape : ∃ body, BodyShape body ∧ report = preamble p signum ++ body ++ [.panicEnd]
  startOnce : report.count .panicStart = 1
  endOnce : report.count .panicEnd = 1

/-! ## Markers -/

/-- A line that is neither the first nor the last of a report. -/
def Line.Inner (line : Line) : Prop := line ≠ .panicStart ∧ line ≠ .panicEnd

theorem Numbered.inner {frames : List Line} (numbered : Numbered frames) :
    ∀ line ∈ frames, line.Inner := by
  intro line mem
  have number : line.number? ∈ (List.range frames.length).map some := by
    rw [← numbered]
    exact List.mem_map_of_mem mem
  cases line with
  | frame _ _ _ _ => exact ⟨Line.noConfusion, Line.noConfusion⟩
  | _ => simp [Line.number?] at number

theorem BacktraceShape.inner {rest : List Line} (shape : BacktraceShape rest) :
    ∀ line ∈ rest, line.Inner := by
  cases shape with
  | error message =>
    intro line mem
    rw [List.mem_singleton.mp mem]
    exact ⟨Line.noConfusion, Line.noConfusion⟩
  | backtrace frames closing numbered bound closed =>
    intro line mem
    simp only [List.cons_append, List.mem_cons, List.mem_append] at mem
    rcases mem with rfl | mem | mem
    · exact ⟨Line.noConfusion, Line.noConfusion⟩
    · exact numbered.inner line mem
    · cases closed with
      | inl none =>
        rw [none] at mem
        cases mem
      | inr error =>
        obtain ⟨message, one⟩ := error
        rw [one] at mem
        rw [List.mem_singleton.mp mem]
        exact ⟨Line.noConfusion, Line.noConfusion⟩

theorem registerLines_inner (registers : Registers) : ∀ line ∈ registerLines registers, line.Inner := by
  simp [registerLines, Line.Inner]

theorem BodyShape.inner {body : List Line} (shape : BodyShape body) : ∀ line ∈ body, line.Inner := by
  cases shape with
  | error message => exact (BacktraceShape.error message).inner
  | registers registers rest shape =>
    intro line mem
    cases List.mem_append.mp mem with
    | inl mem => exact registerLines_inner registers line mem
    | inr mem => exact shape.inner line mem

theorem BodyShape.report {body : List Line} (shape : BodyShape body) (p : Process) (signum : Int) :
    ReportShape p signum (preamble p signum ++ body ++ [.panicEnd]) where
  shape := ⟨body, shape, rfl⟩
  startOnce := by
    have absent : body.count .panicStart = 0 :=
      List.count_eq_zero.mpr fun mem => (shape.inner _ mem).1 rfl
    simp [preamble, absent]
  endOnce := by
    have absent : body.count .panicEnd = 0 :=
      List.count_eq_zero.mpr fun mem => (shape.inner _ mem).2 rfl
    simp [preamble, absent]

/-! ## What the passes print -/

theorem numbered_frameLines (u : Unwinder) (index : Int) (programInvocationName : Text) (m : Nat) :
    Numbered ((List.range m).map (frameLine u index programInvocationName)) := by
  simp [Numbered, Function.comp_def, frameLine, Line.number?]

theorem printed_printBacktrace_shape (u : Unwinder) (index : Int) (programInvocationName : Text) :
    BacktraceShape (printed (printBacktrace u index programInvocationName)) := by
  have spec := printBacktrace_spec u index programInvocationName
  rw [printed]
  generalize (printBacktrace u index programInvocationName).events = trace at spec
  cases spec with
  | noCursor failed => exact .error _
  | walked m ending cursor bound positive ends =>
    have numbered := numbered_frameLines u index programInvocationName m
    simp only [lines_initLocal, lines_print, lines_append, lines_frameEvents, List.cons_append]
    cases ends with
    | limit full => exact .backtrace _ [] numbered (by simpa using bound) (.inl rfl)
    | stackEnd below zero => exact .backtrace _ [] numbered (by simpa using bound) (.inl rfl)
    | failed below negative =>
      exact .backtrace _ [.error _] numbered (by simpa using bound) (.inr ⟨_, rfl⟩)

/-- The index decides which of the two bodies `print_registers` has begun. -/
theorem printed_printRegisters_cases (u : Unwinder) :
    ((printRegisters u).value < 0 ∧ ∃ message, printed (printRegisters u) = [.error message]) ∨
    (0 ≤ (printRegisters u).value ∧
      ∃ registers, printed (printRegisters u) = registerLines registers) := by
  have spec := printRegisters_spec u
  rw [printed]
  generalize (printRegisters u).value = index, (printRegisters u).events = trace at spec
  cases spec with
  | noCursor failed => exact .inl ⟨by omega, _, rfl⟩
  | failed i cursor bound searched negative => exact .inl ⟨by omega, u.strerror 0, by simp⟩
  | found i cursor bound searched nonnegative low =>
    exact .inr ⟨by omega, u.registersAt .registers i, by simp⟩
  | exhausted cursor searched => exact .inr ⟨by omega, u.registersAt .fallback 0, by simp⟩

theorem printed_panicHandler_body (p : Process) (signum : Int) (context : p.unwinder.getcontext = 0) :
    ∃ body, BodyShape body ∧ printed (panicHandler p signum) = preamble p signum ++ body ++ [.panicEnd] := by
  rw [printed_panicHandler, if_neg (not_not_intro context), ← List.append_assoc]
  cases printed_printRegisters_cases p.unwinder with
  | inl givenUp =>
    obtain ⟨negative, message, error⟩ := givenUp
    rw [if_neg (by omega), error, List.append_nil]
    exact ⟨_, .error message, rfl⟩
  | inr goesOn =>
    obtain ⟨nonnegative, registers, block⟩ := goesOn
    rw [if_pos nonnegative, block]
    exact ⟨_, .registers registers _ (printed_printBacktrace_shape _ _ _), rfl⟩

theorem printed_panicHandler_last (p : Process) (signum : Int) : ∃ init last,
    printed (panicHandler p signum) = init ++ [last] ∧ Line.panicEnd ∉ init := by
  by_cases context : p.unwinder.getcontext = 0
  · obtain ⟨body, shape, report⟩ := printed_panicHandler_body p signum context
    refine ⟨preamble p signum ++ body, .panicEnd, report, fun mem => ?_⟩
    cases List.mem_append.mp mem with
    | inl mem => simp [preamble] at mem
    | inr mem => exact (shape.inner _ mem).2 rfl
  · -- The handler has returned early: the error line is the last.
    rw [printed_panicHandler, if_pos context]
    exact ⟨preamble p signum, _, rfl, by simp [preamble]⟩

/-- **Shape**: the handler prints a report, and nothing else, exactly when `unw_getcontext` succeeds. -/
theorem panicHandler_shape_iff (p : Process) (signal : Signal) :
    ReportShape p signal.number (printed (panicHandler p signal.number)) ↔
      p.unwinder.getcontext = 0 := by
  constructor
  · intro report
    by_contra failed
    have endOnce := report.endOnce
    rw [printed_panicHandler, if_pos failed] at endOnce
    simp [preamble] at endOnce
  · intro context
    obtain ⟨body, shape, report⟩ := printed_panicHandler_body p signal.number context
    rw [report]
    exact shape.report p signal.number

/-- `unw_getcontext` fails and the report has no end. -/
theorem panicHandler_shape_fails :
    ¬ ReportShape (sampleProcess { steady (fun _ => ⟨0, fun _ => 0⟩) with getcontext := -1 })
      Signal.segv.number (printed (panicHandler (sampleProcess
        { steady (fun _ => ⟨0, fun _ => 0⟩) with getcontext := -1 }) Signal.segv.number)) := by
  intro report
  have endOnce := report.endOnce
  revert endOnce
  decide

end Bsord.Panic
