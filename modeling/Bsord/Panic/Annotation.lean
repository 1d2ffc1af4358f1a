import Bsord.Panic.Shape
import Bsord.Panic.Stack

/-! # The frame that both passes single out

`print_registers` prints the registers of one frame and returns its index; `print_backtrace` marks the
line of that index with an `addr2line` command.  They agree when the index is that of a frame.  Two
indices are not: the limit, which the fallback to the first frame leaves in place, and that of a low IP
read behind the end of the stack.
-/

namespace Bsord.Panic

open Library Library.Printf Library.Trace

/-! ## Annotated lines -/

def Line.annotated : Line → Bool
  | .frame _ _ _ field => field ≠ []
  | _ => false

/-- Whenever `print_registers` returns an index to the handler, one line of its report is annotated, and the
    IP and SP on it and the IP in its command are those of the registers printed before. -/
def AnnotationAgrees (p : Process) (signum : Int) : Prop :=
  p.unwinder.getcontext = 0 → 0 ≤ (printRegisters p.unwinder).value → ∃ registers i field,
    preamble p signum ++ registerLines registers <+: printed (panicHandler p signum) ∧
    (printed (panicHandler p signum)).filter Line.annotated =
      [.frame i (registers .ip) (registers .sp) field] ∧
    addr2line (registers .ip) <+: field

def PassesAgree (p : Process) : Prop :=
  0 ≤ (printRegisters p.unwinder).value → ∃ registers i field,
    printed (printRegisters p.unwinder) = registerLines registers ∧
    (printed (printBacktrace p.unwinder (printRegisters p.unwinder).value
      p.programInvocationName)).filter Line.annotated =
        [.frame i (registers .ip) (registers .sp) field] ∧
    addr2line (registers .ip) <+: field

theorem PassesAgree.annotated_ne_nil {p : Process} (agrees : PassesAgree p)
    (nonnegative : 0 ≤ (printRegisters p.unwinder).value) :
    (printed (printBacktrace p.unwinder (printRegisters p.unwinder).value
      p.programInvocationName)).filter Line.annotated ≠ [] := by
  obtain ⟨_, _, _, _, annotated, _⟩ := agrees nonnegative
  rw [annotated]
  exact List.cons_ne_nil _ _

theorem filter_preamble (p : Process) (signum : Int) : (preamble p signum).filter Line.annotated = [] := rfl

theorem filter_registerLines (registers : Registers) : (registerLines registers).filter Line.annotated = [] := rfl

theorem annotated_panicHandler {p : Process} {registers : Registers} (signum : Int)
    (context : p.unwinder.getcontext = 0) (nonnegative : 0 ≤ (printRegisters p.unwinder).value)
    (block : printed (printRegisters p.unwinder) = registerLines registers) :
    preamble p signum ++ registerLines registers <+: printed (panicHandler p signum) ∧
    (printed (panicHandler p signum)).filter Line.annotated =
      (printed (printBacktrace p.unwinder (printRegisters p.unwinder).value
        p.programInvocationName)).filter Line.annotated := by
  rw [printed_panicHandler, if_neg (not_not_intro context), if_pos nonnegative, block]
  constructor
  · exact ⟨printed (printBacktrace p.unwinder (printRegisters p.unwinder).value p.programInvocationName) ++ [.panicEnd],
      by simp only [List.append_assoc]⟩
  · simp only [List.filter_append, filter_preamble, filter_registerLines, List.nil_append]
    exact List.append_nil _

theorem registerLines_injective {first second : Registers} (same : registerLines first = registerLines second) :
    first .ip = second .ip ∧ first .sp = second .sp := by
  simp only [registerLines, List.cons.injEq, Line.ipSp.injEq] at same
  exact same.2.1

theorem annotationAgrees_iff_passesAgree (p : Process) (signum : Int) :
    AnnotationAgrees p signum ↔ p.unwinder.getcontext ≠ 0 ∨ PassesAgree p := by
  by_cases context : p.unwinder.getcontext = 0
  · rw [or_iff_right (not_not_intro context)]
    constructor
    · intro agrees nonnegative
      obtain ⟨registers, i, field, leading, annotated, command⟩ := agrees context nonnegative
      obtain ⟨printed, block⟩ := (printed_printRegisters_cases p.unwinder).resolve_left
        (fun givenUp => by omega) |>.2
      -- The report begins with one block of registers, whose IP and SP are on the annotated line.
      obtain ⟨leading', annotated'⟩ := annotated_panicHandler signum context nonnegative block
      have same := (List.prefix_of_prefix_length_le leading leading' (by simp [registerLines])).eq_of_length
        (by simp [registerLines])
      obtain ⟨ip, sp⟩ := registerLines_injective (List.append_cancel_left same)
      rw [ip, sp] at annotated
      rw [ip] at command
      exact ⟨printed, i, field, block, annotated' ▸ annotated, command⟩
    · intro agrees _ nonnegative
      obtain ⟨registers, i, field, block, annotated, command⟩ := agrees nonnegative
      obtain ⟨leading, same⟩ := annotated_panicHandler signum context nonnegative block
      exact ⟨registers, i, field, leading, same.trans annotated, command⟩
  · exact iff_of_true (fun zero => absurd zero context) (.inl context)

theorem AnnotationAgrees.passes {p : Process} {signum : Int} (agrees : AnnotationAgrees p signum)
    (context : p.unwinder.getcontext = 0) : PassesAgree p :=
  ((annotationAgrees_iff_passesAgree p signum).mp agrees).resolve_left (not_not_intro context)

/-! ## The annotated lines of a backtrace -/

variable {u : Unwinder} {index : Int} {programInvocationName : Text}

theorem annotated_frameLine (i : Nat) :
    (frameLine u index programInvocationName i).annotated = true ↔ (i : Int) = index := by
  by_cases here : (i : Int) = index
  · simp [frameLine, frameField, Line.annotated, here, annotationField_ne_nil]
  · simp [frameLine, frameField, Line.annotated, here]

theorem filter_frameLines (m : Nat) :
    ((List.range m).map (frameLine u index programInvocationName)).filter Line.annotated =
      if 0 ≤ index ∧ index < m then [frameLine u index programInvocationName index.toNat] else [] := by
  induction m with
  | zero =>
    rw [if_neg (by omega)]
    rfl
  | succ m ih =>
    rw [List.range_succ, List.map_append, List.filter_append, ih, List.map_singleton,
      List.filter_singleton]
    by_cases here : (m : Int) = index
    · subst here
      have marked : (frameLine u m programInvocationName m).annotated = true :=
        (annotated_frameLine m).mpr rfl
      simp [marked]
    · have unmarked : (frameLine u index programInvocationName m).annotated = false :=
        Bool.eq_false_iff.mpr fun marked => here ((annotated_frameLine m).mp marked)
      have same : (0 ≤ index ∧ index < (m + 1 : Nat)) ↔ (0 ≤ index ∧ index < m) := by omega
      simp only [unmarked, same, cond_false, List.append_nil]

theorem annotated_printBacktrace (u : Unwinder) (programInvocationName : Text) {i : Nat}
    (bound : i ≤ backtraceLimit) :
    (printed (printBacktrace u i programInvocationName)).filter Line.annotated =
      if u.initLocal .backtrace = 0 ∧ Reaches u .backtrace i ∧ i < backtraceLimit then
        [frameLine u i programInvocationName i]
      else [] := by
  have spec := printBacktrace_spec u i programInvocationName
  rw [printed]
  generalize (printBacktrace u i programInvocationName).events = trace at spec
  cases spec with
  | noCursor failed =>
    rw [if_neg fun walked => failed walked.1]
    rfl
  | walked m ending cursor limit positive ends =>
    have frames : (lines (.initLocal 0 :: .print .backtraceHeader ::
        frameEvents u i programInvocationName 0 m ++ ending)).filter Line.annotated =
        if i < m then [frameLine u i programInvocationName i] else [] := by
      have closing : (lines ending).filter Line.annotated = [] := by
        cases ends <;> rfl
      simp [filter_frameLines, closing, Line.annotated]
    have walk : u.initLocal .backtrace = 0 ∧ Reaches u .backtrace i ∧ i < backtraceLimit ↔ i < m := by
      constructor
      · intro walked
        obtain ⟨_, reaches, inside⟩ := walked
        by_contra beyond
        cases ends with
        | limit full => omega
        | stackEnd below zero => have := reaches m (by omega); omega
        | failed below negative => have := reaches m (by omega); omega
      · exact fun inside => ⟨cursor, fun j le => positive j (by omega), by omega⟩
    rw [frames]
    simp only [walk]

/-! ## Agreement -/

variable {p : Process} {i : Nat}

theorem passesAgree_of_givesUp (givesUp : GivesUp p.unwinder) : PassesAgree p := by
  intro nonnegative
  have := (value_printRegisters_neg_iff p.unwinder).mpr givesUp
  omega

/-- When the search stops at a low IP, the passes agree if that is the IP of a frame. -/
theorem passesAgree_iff_of_low (same : SameStack p.unwinder)
    (cursor : p.unwinder.initLocal .registers = 0) (bound : i < backtraceLimit)
    (searched : Searched p.unwinder i) (nonnegative : 0 ≤ p.unwinder.ret .registers i)
    (low : Low p.unwinder .registers i) :
    PassesAgree p ↔ p.unwinder.initLocal .backtrace = 0 ∧ Reaches p.unwinder .registers i := by
  obtain ⟨index, block⟩ := printRegisters_found cursor bound searched nonnegative low
  have annotated := annotated_printBacktrace p.unwinder p.programInvocationName (Nat.le_of_lt bound)
  constructor
  · intro agrees
    by_contra apart
    -- Without a cursor or a frame the walk does not get to the index, and annotates no line.
    apply agrees.annotated_ne_nil (by omega)
    rw [index, annotated, if_neg]
    intro walked
    exact apart ⟨walked.1, same.reaches _ _ walked.2.1⟩
  · intro agree _
    obtain ⟨backtraceCursor, reaches⟩ := agree
    have frame := same.reaches .registers .backtrace reaches
    rw [if_pos ⟨backtraceCursor, frame, bound⟩, frameLine, frameField, if_pos rfl,
      same.ip .backtrace .registers i frame, same.sp .backtrace .registers i frame] at annotated
    rw [index, block, annotated]
    exact ⟨_, i, _, rfl, rfl, addr2line_leads _ _⟩

/-- When the search runs to the limit, the index left is that of no frame. -/
theorem not_passesAgree_of_limit (cursor : p.unwinder.initLocal .registers = 0)
    (searched : Searched p.unwinder backtraceLimit) : ¬ PassesAgree p := by
  obtain ⟨index, _⟩ := printRegisters_fallback cursor searched
  intro agrees
  apply agrees.annotated_ne_nil (by omega)
  rw [index, annotated_printBacktrace p.unwinder p.programInvocationName (Nat.le_refl _), if_neg]
  intro walked
  exact Nat.lt_irrefl _ walked.2.2

/-- The search stops at the first low IP, so when there is one of a frame, that is one of a frame. -/
theorem reaches_iff_of_searched (bound : i < backtraceLimit) (searched : Searched p.unwinder i)
    (low : Low p.unwinder .registers i) :
    (∃ k < backtraceLimit, Reaches p.unwinder .registers k ∧ Low p.unwinder .registers k) ↔
      Reaches p.unwinder .registers i := by
  constructor
  · intro frame
    obtain ⟨k, _, reaches, lowFrame⟩ := frame
    exact reaches.mono (searched.le (.inr lowFrame))
  · exact fun reaches => ⟨i, bound, reaches, low⟩

theorem passesAgree_iff (p : Process) (same : SameStack p.unwinder) :
    PassesAgree p ↔ GivesUp p.unwinder ∨ (p.unwinder.initLocal .backtrace = 0 ∧
      ∃ i < backtraceLimit, Reaches p.unwinder .registers i ∧ Low p.unwinder .registers i) := by
  by_cases givesUp : GivesUp p.unwinder
  · exact iff_of_true (passesAgree_of_givesUp givesUp) (.inl givesUp)
  have cursor : p.unwinder.initLocal .registers = 0 := by
    by_contra failed
    exact givesUp (.inl failed)
  rw [or_iff_right givesUp]
  cases search_cases p.unwinder with
  | inl searched =>
    apply iff_of_false (not_passesAgree_of_limit cursor searched)
    intro agree
    obtain ⟨_, k, below, _, low⟩ := agree
    exact (searched k below).2 low
  | inr stopped =>
    obtain ⟨i, bound, searched, stops⟩ := stopped
    have nonnegative : 0 ≤ p.unwinder.ret .registers i := by
      by_contra negative
      exact givesUp (.inr ⟨i, bound, searched, by omega⟩)
    have low := stops.resolve_left (by omega)
    rw [passesAgree_iff_of_low same cursor bound searched nonnegative low,
      reaches_iff_of_searched bound searched low]

/-- **Agreement**: the passes of a report single out the same frame exactly when `unw_getcontext` fails,
    `print_registers` gives up, or `print_backtrace` gets its cursor and one of the first 64 frames has a low
    IP. -/
theorem annotation_agrees_iff (p : Process) (signum : Int) (same : SameStack p.unwinder) :
    AnnotationAgrees p signum ↔ p.unwinder.getcontext ≠ 0 ∨ GivesUp p.unwinder ∨
      (p.unwinder.initLocal .backtrace = 0 ∧
        ∃ i < backtraceLimit, Reaches p.unwinder .registers i ∧ Low p.unwinder .registers i) := by
  rw [annotationAgrees_iff_passesAgree, passesAgree_iff p same]

theorem annotation_agrees_sample : AnnotationAgrees (sampleProcess (steady (frameSteps
    [(0x7fbe7503ea00, 0x7fbe74ffdd40), (0x40151a, 0x7fbe74ffede0)] ⟨0, ipSpRegisters 0 0⟩)))
    Signal.abrt.number :=
  (annotation_agrees_iff _ _ (steady_sameFrames _).toSameStack).mpr
    (.inr (.inr ⟨rfl, 1, by decide, by decide, by decide⟩))

/-- The passes disagree on a stack whose end is taken for a likely frame, and on one deeper than the
    limit without a likely frame. -/
theorem annotation_disagrees :
    ¬ AnnotationAgrees (sampleProcess (steady (frameSteps
      [(0x7fbe7503ea00, 0x7fbe74ffdd40)] ⟨0, ipSpRegisters 0 0⟩))) Signal.abrt.number ∧
    ¬ AnnotationAgrees (sampleProcess (steady fun _ =>
      ⟨1, ipSpRegisters 0x7fbe7503ea00 0x7fbe74ffdd40⟩)) Signal.abrt.number :=
  ⟨fun agrees => (agrees.passes rfl).annotated_ne_nil (by decide) (by decide),
    fun agrees => (agrees.passes rfl).annotated_ne_nil (by decide +kernel) (by decide +kernel)⟩

end Bsord.Panic
