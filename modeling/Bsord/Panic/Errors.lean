import Bsord.Panic.Stack

/-! # Failures and the lines about them

A faithful trace reports every failed call into libunwind by one error line with the text of the very
code returned, prints no other error line, and prints nothing that was read from a cursor whose last
initialisation or step had failed.  `print_backtrace` is always faithful.  `print_registers` is not: its
search loop passes the wrong variable to `print_libunwind_error`, and its fallback checks neither of
its calls.
-/

namespace Bsord.Panic

open Library Library.Trace

/-! ## Alerts -/

inductive Alert where
  | failed (code : Int)
  | reported (message : Text)
deriving DecidableEq

/-- The calls that failed, with the codes they returned, and the error lines. -/
def Event.alert? : Event → Option Alert
  | .getcontext ret => if ret ≠ 0 then some (.failed ret) else none
  | .initLocal ret => if ret ≠ 0 then some (.failed ret) else none
  | .step ret => if ret < 0 then some (.failed ret) else none
  | .print (.error message) => some (.reported message)
  | .print _ => none

def alerts (events : List Event) : List Alert := events.filterMap Event.alert?

/-- Every failure is followed by one report, with the text of its code, and there are no others. -/
def Paired (u : Unwinder) : List Alert → Prop
  | [] => True
  | .failed code :: .reported message :: rest => message = u.strerror code ∧ Paired u rest
  | _ => False

/-! ## Cursors -/

def Line.showsCursor : Line → Bool
  | .ipSp _ _ | .raxRow _ _ _ | .rbxRow _ _ _ | .rcxRow _ _ _ | .rdxRow _ _ _ | .rsiRow _ _ _
  | .frame _ _ _ _ => true
  | _ => false

/-- Whether the last initialisation and the last step of the cursor in use succeeded. -/
structure CursorState where
  initialised : Bool
  stepped : Bool

/-- One cursor is in use at a time: the one initialised last. -/
def CursorState.after (state : CursorState) : Event → CursorState
  | .initLocal ret => ⟨ret = 0, true⟩
  | .step ret => { state with stepped := 0 ≤ ret }
  | _ => state

/-- No line shows what was read from a cursor whose last initialisation or step had failed. -/
def CleanReads : CursorState → List Event → Prop
  | _, [] => True
  | state, .print line :: rest =>
    (line.showsCursor = true → state.initialised = true ∧ state.stepped = true) ∧ CleanReads state rest
  | state, event :: rest => CleanReads (state.after event) rest

structure ErrorsFaithful (u : Unwinder) (trace : List Event) : Prop where
  paired : Paired u (alerts trace)
  clean : CleanReads ⟨false, false⟩ trace

/-! ## The pieces of a trace -/

variable {u : Unwinder} {pass : Pass} {n m : Nat}

@[simp] theorem alerts_nil : alerts [] = [] := rfl

@[simp] theorem alerts_append (first second : List Event) :
    alerts (first ++ second) = alerts first ++ alerts second := List.filterMap_append

@[simp] theorem alerts_error (message : Text) (events : List Event) :
    alerts (.print (.error message) :: events) = .reported message :: alerts events := rfl

@[simp] theorem alerts_getcontext (ret : Int) (events : List Event) :
    alerts (.getcontext ret :: events) =
      (if ret ≠ 0 then [.failed ret] else []) ++ alerts events := by
  by_cases failed : ret ≠ 0 <;> simp [alerts, Event.alert?, failed]

@[simp] theorem alerts_initLocal (ret : Int) (events : List Event) :
    alerts (.initLocal ret :: events) =
      (if ret ≠ 0 then [.failed ret] else []) ++ alerts events := by
  by_cases failed : ret ≠ 0 <;> simp [alerts, Event.alert?, failed]

@[simp] theorem alerts_step (ret : Int) (events : List Event) :
    alerts (.step ret :: events) = (if ret < 0 then [.failed ret] else []) ++ alerts events := by
  by_cases failed : ret < 0 <;> simp [alerts, Event.alert?, failed]

theorem alerts_eq_nil {events : List Event} (quiet : ∀ event ∈ events, event.alert? = none) :
    alerts events = [] := List.filterMap_eq_nil_iff.mpr quiet

theorem alerts_stepEvents (pass : Pass) (nonnegative : ∀ i < n, 0 ≤ u.ret pass i) :
    alerts (stepEvents u pass n) = [] := by
  apply alerts_eq_nil
  intro event mem
  obtain ⟨i, inRange, rfl⟩ := List.mem_map.mp mem
  have := nonnegative i (List.mem_range.mp inRange)
  simp [Event.alert?, this]

theorem stepEvents_succ : stepEvents u pass (n + 1) = stepEvents u pass n ++ [.step (u.ret pass n)] := by
  simp [stepEvents, List.range_succ]

theorem alerts_registerLines (registers : Registers) :
    alerts ((registerLines registers).map .print) = [] := rfl

theorem alerts_preamble (p : Process) (signum : Int) :
    alerts ((preamble p signum).map .print) = [] := rfl

theorem alerts_frameEvents (index : Int) (programInvocationName : Text)
    (positive : ∀ i < m, 0 < u.ret .backtrace i) :
    alerts (frameEvents u index programInvocationName 0 m) = [] := by
  apply alerts_eq_nil
  intro event mem
  obtain ⟨i, inRange, mem⟩ := List.mem_flatMap.mp mem
  have := positive i (by have := List.mem_range'_1.mp inRange; omega)
  simp only [List.mem_cons, List.not_mem_nil, or_false] at mem
  rcases mem with rfl | rfl
  · simp [Event.alert?]; omega
  · rfl

theorem cleanReads_append (state : CursorState) (first second : List Event) :
    CleanReads state (first ++ second) ↔
      CleanReads state first ∧ CleanReads (first.foldl CursorState.after state) second := by
  induction first generalizing state with
  | nil => simp [CleanReads]
  | cons event first ih =>
    cases event with
    | print line => simp [CleanReads, CursorState.after, ih, and_assoc]
    | getcontext _ | initLocal _ | step _ => simp [CleanReads, ih]

theorem cleanReads_stepEvents (u : Unwinder) (pass : Pass) (n : Nat) (state : CursorState) :
    CleanReads state (stepEvents u pass n) := by
  induction n with
  | zero => exact trivial
  | succ n ih =>
    rw [stepEvents_succ, cleanReads_append]
    exact ⟨ih, trivial⟩

theorem initialised_stepEvents (state : CursorState) :
    ((stepEvents u pass n).foldl CursorState.after state).initialised = state.initialised := by
  induction n with
  | zero => rfl
  | succ n ih =>
    rw [stepEvents_succ, List.foldl_append]
    exact ih

theorem cleanReads_registerLines (state : CursorState) (registers : Registers) :
    CleanReads state ((registerLines registers).map .print) ↔
      state.initialised = true ∧ state.stepped = true := by
  simp [registerLines, CleanReads, Line.showsCursor]

theorem foldl_after_print (state : CursorState) (printed : List Line) :
    (printed.map Event.print).foldl CursorState.after state = state := by
  induction printed with
  | nil => rfl
  | cons line printed ih => exact ih

/-! ## `print_backtrace` is faithful -/

theorem cleanReads_frameEvents (index : Int) (programInvocationName : Text) :
    ∀ {k m : Nat}, (∀ i, k ≤ i → i < k + m → 0 < u.ret .backtrace i) →
      CleanReads ⟨true, true⟩ (frameEvents u index programInvocationName k m) := by
  intro k m
  induction m generalizing k with
  | zero => exact fun _ => trivial
  | succ m ih =>
    intro positive
    have here : 0 ≤ u.ret .backtrace k := Int.le_of_lt (positive k (Nat.le_refl k) (by omega))
    have rest := ih (k := k + 1) fun i le lt => positive i (by omega) (by omega)
    simp only [frameEvents, List.range'_succ, List.flatMap_cons, List.cons_append, List.nil_append,
      CleanReads, CursorState.after, here, decide_true]
    exact ⟨fun _ => ⟨trivial, trivial⟩, rest⟩

theorem cleanReads_printBacktrace (state : CursorState) (index : Int) (programInvocationName : Text) :
    CleanReads state (printBacktrace u index programInvocationName).events := by
  have spec := printBacktrace_spec u index programInvocationName
  generalize (printBacktrace u index programInvocationName).events = trace at spec
  cases spec with
  | noCursor failed => simp [CleanReads, Line.showsCursor]
  | walked m ending cursor bound positive ends =>
    have closing : ∀ state, CleanReads state ending := by
      intro state
      cases ends <;> simp [CleanReads, Line.showsCursor]
    have frames := cleanReads_frameEvents (u := u) index programInvocationName (k := 0) (m := m)
      fun i _ lt => positive i (by omega)
    simp only [List.cons_append, CleanReads, CursorState.after, decide_true, cleanReads_append]
    exact ⟨by simp [Line.showsCursor], frames, closing _⟩

theorem alerts_printBacktrace (u : Unwinder) (index : Int) (programInvocationName : Text) :
    alerts (printBacktrace u index programInvocationName).events = [] ∨
      ∃ code, alerts (printBacktrace u index programInvocationName).events =
        [.failed code, .reported (u.strerror code)] := by
  have spec := printBacktrace_spec u index programInvocationName
  generalize (printBacktrace u index programInvocationName).events = trace at spec
  cases spec with
  | noCursor failed => exact .inr ⟨u.initLocal .backtrace, by simp [failed]⟩
  | walked m ending cursor bound positive ends =>
    have frames := alerts_frameEvents (u := u) index programInvocationName positive
    have header : ∀ events, alerts (.print .backtraceHeader :: events) = alerts events := fun _ => rfl
    simp only [List.cons_append, alerts_initLocal, header, alerts_append, frames]
    cases ends with
    | limit full => exact .inl rfl
    | stackEnd below zero => exact .inl rfl
    | failed below negative => exact .inr ⟨u.ret .backtrace m, by simp [negative]⟩

/-! ## The whole handler -/

/-- The text that the search prints for a failed step is that of the step's own code. -/
def SearchTellsCause (u : Unwinder) : Prop :=
  ∀ i < backtraceLimit, Searched u i → u.ret .registers i < 0 →
    u.strerror 0 = u.strerror (u.ret .registers i)

/-- The two unchecked calls succeed when they are made. -/
def FallbackSucceeds (u : Unwinder) : Prop :=
  Searched u backtraceLimit → u.initLocal .fallback = 0 ∧ 0 ≤ u.ret .fallback 0

def followUp (p : Process) (index : Int) : List Event :=
  (if 0 ≤ index then (printBacktrace p.unwinder index p.programInvocationName).events else []) ++
    [.print .panicEnd]

theorem paired_followUp (p : Process) (index : Int) : Paired p.unwinder (alerts (followUp p index)) := by
  have ending : alerts [.print .panicEnd] = [] := rfl
  rw [followUp, alerts_append, ending, List.append_nil]
  split
  · cases alerts_printBacktrace p.unwinder index p.programInvocationName with
    | inl none =>
      rw [none]
      exact trivial
    | inr failed =>
      obtain ⟨code, one⟩ := failed
      rw [one]
      exact ⟨rfl, trivial⟩
  · exact trivial

theorem cleanReads_followUp (p : Process) (index : Int) (state : CursorState) :
    CleanReads state (followUp p index) := by
  rw [followUp, cleanReads_append]
  refine ⟨?_, by simp [CleanReads, Line.showsCursor]⟩
  split
  · exact cleanReads_printBacktrace state index p.programInvocationName
  · exact trivial

/-- The trace of `print_registers` is faithful, with what the handler does behind it. -/
structure PassFaithful (p : Process) (index : Int) (trace : List Event) : Prop where
  paired : Paired p.unwinder (alerts trace ++ alerts (followUp p index))
  clean : CleanReads ⟨false, false⟩ trace

theorem errorsFaithful_of_context (p : Process) (signum : Int) (context : p.unwinder.getcontext = 0) :
    ErrorsFaithful p.unwinder (panicHandler p signum).events ↔
      PassFaithful p (printRegisters p.unwinder).value (printRegisters p.unwinder).events := by
  have trace : (panicHandler p signum).events = (preamble p signum).map .print ++ .getcontext 0 ::
      ((printRegisters p.unwinder).events ++ followUp p (printRegisters p.unwinder).value) := by
    rw [events_panicHandler, if_neg (not_not_intro context), context, followUp, List.append_assoc]
  have start : CleanReads ⟨false, false⟩ ((preamble p signum).map .print) := by
    simp [preamble, CleanReads, Line.showsCursor]
  rw [trace]
  constructor
  · intro faithful
    have clean := faithful.clean
    simp only [cleanReads_append, CleanReads] at clean
    rw [foldl_after_print] at clean
    exact ⟨by simpa [alerts_preamble] using faithful.paired, clean.2.1⟩
  · intro faithful
    refine ⟨by simpa [alerts_preamble] using faithful.paired, ?_⟩
    simp only [cleanReads_append, CleanReads]
    rw [foldl_after_print]
    exact ⟨start, faithful.clean, cleanReads_followUp p _ _⟩

/-! ## The ways `print_registers` ends -/

variable {p : Process} {i : Nat}

theorem passFaithful_noCursor (failed : p.unwinder.initLocal .registers ≠ 0) :
    PassFaithful p (-1) [.initLocal (p.unwinder.initLocal .registers),
      .print (.error (p.unwinder.strerror (p.unwinder.initLocal .registers)))] := by
  have following := paired_followUp p (-1)
  exact ⟨by simpa [failed, Paired] using following, by simp [CleanReads, Line.showsCursor]⟩

theorem searchTellsCause_iff {u : Unwinder} (bound : i < backtraceLimit) (searched : Searched u i)
    (negative : u.ret .registers i < 0) :
    SearchTellsCause u ↔ u.strerror 0 = u.strerror (u.ret .registers i) := by
  constructor
  · exact fun tells => tells i bound searched negative
  · intro same j _ searchedTo fails
    rw [searchedTo.unique (.inl fails) searched (.inl negative)]
    exact same

theorem passFaithful_failed_iff (searched : Searched p.unwinder i)
    (negative : p.unwinder.ret .registers i < 0) :
    PassFaithful p (-1) (.initLocal 0 :: stepEvents p.unwinder .registers (i + 1) ++
        [.print (.error (p.unwinder.strerror 0))]) ↔
      p.unwinder.strerror 0 = p.unwinder.strerror (p.unwinder.ret .registers i) := by
  have quiet := alerts_stepEvents .registers fun j lt => (searched j lt).1
  have clean := cleanReads_stepEvents p.unwinder .registers i
  have ending : alerts (followUp p (-1)) = [] := rfl
  constructor
  · intro faithful
    simpa [stepEvents_succ, quiet, negative, Paired, ending] using faithful.paired
  · intro same
    constructor
    · simpa [stepEvents_succ, quiet, negative, Paired, ending] using same
    · simp [stepEvents_succ, CleanReads, cleanReads_append, clean, Line.showsCursor]

theorem passFaithful_found (searched : Searched p.unwinder i) (nonnegative : 0 ≤ p.unwinder.ret .registers i) :
    PassFaithful p i (.initLocal 0 :: stepEvents p.unwinder .registers (i + 1) ++
      (registerLines (p.unwinder.registersAt .registers i)).map .print) := by
  have following := paired_followUp p i
  have quiet : alerts (stepEvents p.unwinder .registers (i + 1)) = [] := by
    apply alerts_stepEvents
    intro j lt
    cases Nat.lt_succ_iff_lt_or_eq.mp lt with
    | inl before => exact (searched j before).1
    | inr here =>
      rw [here]
      exact nonnegative
  constructor
  · simpa [quiet, alerts_registerLines] using following
  · rw [cleanReads_append, cleanReads_registerLines]
    refine ⟨cleanReads_stepEvents p.unwinder .registers (i + 1) _, ?_⟩
    rw [List.foldl_cons, initialised_stepEvents, stepEvents_succ, List.foldl_append]
    simp [CursorState.after, nonnegative]

/-- The registers show the cursor of the fallback, so its two calls decide. -/
theorem passFaithful_exhausted_iff (searched : Searched p.unwinder backtraceLimit) :
    PassFaithful p backtraceLimit (.initLocal 0 :: stepEvents p.unwinder .registers backtraceLimit ++
        [.initLocal (p.unwinder.initLocal .fallback), .step (p.unwinder.ret .fallback 0)] ++
        (registerLines (p.unwinder.registersAt .fallback 0)).map .print) ↔
      p.unwinder.initLocal .fallback = 0 ∧ 0 ≤ p.unwinder.ret .fallback 0 := by
  have following := paired_followUp p backtraceLimit
  have quiet : alerts (stepEvents p.unwinder .registers backtraceLimit) = [] :=
    alerts_stepEvents .registers fun j lt => (searched j lt).1
  have reads : CleanReads ⟨false, false⟩ (.initLocal 0 :: stepEvents p.unwinder .registers backtraceLimit ++
      [.initLocal (p.unwinder.initLocal .fallback), .step (p.unwinder.ret .fallback 0)] ++
      (registerLines (p.unwinder.registersAt .fallback 0)).map .print) ↔
      p.unwinder.initLocal .fallback = 0 ∧ 0 ≤ p.unwinder.ret .fallback 0 := by
    rw [cleanReads_append, cleanReads_registerLines, List.foldl_append]
    simp [CleanReads, CursorState.after, cleanReads_append,
      cleanReads_stepEvents p.unwinder .registers backtraceLimit]
  constructor
  · exact fun faithful => reads.mp faithful.clean
  · intro succeeds
    have nonnegative := Int.not_lt.mpr succeeds.2
    refine ⟨?_, reads.mpr succeeds⟩
    simpa [quiet, alerts_registerLines, succeeds.1, nonnegative] using following

theorem passFaithful_iff (p : Process) (cursor : p.unwinder.initLocal .registers = 0) :
    PassFaithful p (printRegisters p.unwinder).value (printRegisters p.unwinder).events ↔
      SearchTellsCause p.unwinder ∧ FallbackSucceeds p.unwinder := by
  have spec := printRegisters_spec p.unwinder
  generalize (printRegisters p.unwinder).value = index, (printRegisters p.unwinder).events = trace at spec
  cases spec with
  | noCursor failed => exact absurd cursor failed
  | failed i _ bound searched negative =>
    have vacuous : FallbackSucceeds p.unwinder := fun all =>
      (SearchFails.not_exhausted ⟨i, bound, searched, negative⟩ all).elim
    rw [passFaithful_failed_iff searched negative, searchTellsCause_iff bound searched negative,
      and_iff_left vacuous]
  | found i _ bound searched nonnegative low =>
    -- No step failed in the search, and the fallback is not taken.
    have tells : SearchTellsCause p.unwinder := fun j bound searchedTo negative =>
      (SearchFails.not_found ⟨j, bound, searchedTo, negative⟩ searched nonnegative low).elim
    have vacuous : FallbackSucceeds p.unwinder := fun all => absurd low (all i bound).2
    exact iff_of_true (passFaithful_found searched nonnegative) ⟨tells, vacuous⟩
  | exhausted _ searched =>
    have tells : SearchTellsCause p.unwinder := fun j bound searchedTo negative =>
      (SearchFails.not_exhausted ⟨j, bound, searchedTo, negative⟩ searched).elim
    have taken : FallbackSucceeds p.unwinder ↔
        p.unwinder.initLocal .fallback = 0 ∧ 0 ≤ p.unwinder.ret .fallback 0 := imp_iff_right searched
    rw [passFaithful_exhausted_iff searched, and_iff_right tells, taken]

/-- **Errors**: a run of the handler is faithful exactly when it stops at `unw_getcontext` or at the
    first `unw_init_local`, or its search tells the cause of a failed step and its fallback succeeds. -/
theorem errorsFaithful_panicHandler_iff (p : Process) (signal : Signal) :
    ErrorsFaithful p.unwinder (panicHandler p signal.number).events ↔
      p.unwinder.getcontext ≠ 0 ∨ p.unwinder.initLocal .registers ≠ 0 ∨
        (SearchTellsCause p.unwinder ∧ FallbackSucceeds p.unwinder) := by
  by_cases context : p.unwinder.getcontext = 0
  case neg =>
    refine iff_of_true ?_ (.inl context)
    rw [events_panicHandler, if_pos context]
    refine ⟨by simp [alerts_preamble, context, Paired], ?_⟩
    simp [preamble, CleanReads, Line.showsCursor]
  case pos =>
    rw [errorsFaithful_of_context p _ context, or_iff_right (not_not_intro context)]
    by_cases cursor : p.unwinder.initLocal .registers = 0
    case neg =>
      refine iff_of_true ?_ (.inl cursor)
      have spec := printRegisters_spec p.unwinder
      generalize (printRegisters p.unwinder).value = index,
        (printRegisters p.unwinder).events = trace at spec
      cases spec with
      | noCursor failed => exact passFaithful_noCursor failed
      | failed _ success | found _ success | exhausted success => exact absurd success cursor
    case pos => rw [passFaithful_iff p cursor, or_iff_right (not_not_intro cursor)]

theorem panicHandler_misreports :
    ¬ ErrorsFaithful (steady fun _ => ⟨-10, ipSpRegisters 0 0⟩)
      (panicHandler (sampleProcess (steady fun _ => ⟨-10, ipSpRegisters 0 0⟩))
        Signal.abrt.number).events := by
  intro faithful
  have printed : alerts (panicHandler (sampleProcess (steady fun _ => ⟨-10, ipSpRegisters 0 0⟩))
      Signal.abrt.number).events = [.failed (-10), .reported (ascii "no error")] := by
    decide
  have paired := faithful.paired
  rw [printed] at paired
  exact absurd paired.1 (by decide)

end Bsord.Panic
