import Bsord.Panic.Stack

/-! # The frame whose registers are printed

`print_registers` means to print the registers of the first frame with a low IP, and of the first frame
of all when there is none.  Its search does not look for the end of the stack, though: a low IP read
behind the end is taken for a frame.
-/

namespace Bsord.Panic

open Library Library.Trace

variable {u : Unwinder} {i : Nat}

/-- The first of the frames up to the limit that has a low IP, else the first frame. -/
def chosenFrame (u : Unwinder) : Nat :=
  ((List.range backtraceLimit).find? fun i => Reaches u .registers i ∧ Low u .registers i).getD 0

theorem chosenFrame_of_low (bound : i < backtraceLimit) (reaches : Reaches u .registers i)
    (low : Low u .registers i) (first : ∀ j < i, ¬ Low u .registers j) : chosenFrame u = i := by
  have found : (List.range backtraceLimit).find?
      (fun i => Reaches u .registers i ∧ Low u .registers i) = some i := by
    rw [List.find?_range_eq_some]
    refine ⟨by simp [reaches, low], List.mem_range.mpr bound, fun j before => ?_⟩
    simp [first j before]
  rw [chosenFrame, found, Option.getD_some]

theorem chosenFrame_of_high (high : ∀ i < backtraceLimit, Reaches u .registers i → ¬ Low u .registers i) :
    chosenFrame u = 0 := by
  have none : (List.range backtraceLimit).find?
      (fun i => Reaches u .registers i ∧ Low u .registers i) = none := by
    rw [List.find?_range_eq_none]
    intro i bound
    simpa [← not_and_or] using high i bound
  rw [chosenFrame, none, Option.getD_none]

/-- All registers that `print_registers` prints, if any, are those of the chosen frame. -/
def PrintsOnlyChosen (u : Unwinder) : Prop :=
  ∀ registers, printed (printRegisters u) = registerLines registers →
    registerLines registers = registerLines (u.registersAt .registers (chosenFrame u))

def StopsAtFrame (u : Unwinder) : Prop :=
  ∀ i < backtraceLimit, Searched u i → 0 ≤ u.ret .registers i → Low u .registers i →
    Reaches u .registers i

theorem stopsAtFrame_of_fails (fails : SearchFails u) : StopsAtFrame u :=
  fun _ _ searched nonnegative low => (fails.not_found searched nonnegative low).elim

theorem stopsAtFrame_of_searched (searched : Searched u backtraceLimit) : StopsAtFrame u :=
  fun i bound _ _ low => absurd low (searched i bound).2

theorem stopsAtFrame_iff_reaches (bound : i < backtraceLimit) (searched : Searched u i)
    (nonnegative : 0 ≤ u.ret .registers i) (low : Low u .registers i) :
    StopsAtFrame u ↔ Reaches u .registers i := by
  constructor
  · exact fun stops => stops i bound searched nonnegative low
  · intro reaches j _ searchedTo _ lowThere
    rw [searchedTo.unique (.inr lowThere) searched (.inr low)]
    exact reaches

theorem registersAt_ne_chosen (first : 0 < u.ret .registers 0) (searched : Searched u i)
    (low : Low u .registers i) (unreached : ¬ Reaches u .registers i) :
    registerLines (u.registersAt .registers i) ≠
      registerLines (u.registersAt .registers (chosenFrame u)) := by
  -- All frames lie before the IP that was read, and the search went past them.
  have high : ∀ j < backtraceLimit, Reaches u .registers j → ¬ Low u .registers j := by
    intro j _ reaches
    refine (searched j ?_).2
    by_contra beyond
    exact unreached (reaches.mono (by omega))
  have start : Reaches u .registers 0 := fun j le => by
    rw [Nat.le_zero.mp le]
    exact first
  rw [chosenFrame_of_high high]
  intro same
  simp only [registerLines, List.cons.injEq, Line.ipSp.injEq] at same
  apply high 0 (by decide) start
  rw [Low, ← same.2.1.1]
  exact low

/-- **Selection**: what `print_registers` prints is the chosen frame exactly when its search does not
    stop at an IP read behind the end of the stack; and it prints the chosen frame at all when, besides,
    the search meets no failed step. -/
theorem printRegisters_selects_iff (same : SameFrames u) (cursor : u.initLocal .registers = 0)
    (first : 0 < u.ret .registers 0) :
    (PrintsOnlyChosen u ↔ StopsAtFrame u) ∧
    (printed (printRegisters u) = registerLines (u.registersAt .registers (chosenFrame u)) ↔
      StopsAtFrame u ∧ ¬ SearchFails u) := by
  have spec := printRegisters_spec u
  simp only [PrintsOnlyChosen, printed]
  generalize (printRegisters u).value = index, (printRegisters u).events = trace at spec
  cases spec with
  | noCursor failed => exact absurd cursor failed
  | failed i _ bound searched negative =>
    have fails : SearchFails u := ⟨i, bound, searched, negative⟩
    simp [registerLines, fails, stopsAtFrame_of_fails fails]
  | found i _ bound searched nonnegative low =>
    have goesOn : ¬ SearchFails u := fun fails => fails.not_found searched nonnegative low
    simp only [List.cons_append, lines_initLocal, lines_append, lines_stepEvents, List.nil_append,
      lines_map_print, goesOn, not_false_eq_true, and_true,
      stopsAtFrame_iff_reaches bound searched nonnegative low]
    by_cases reaches : Reaches u .registers i
    · have chosen := chosenFrame_of_low bound reaches low fun j before => (searched j before).2
      simp only [chosen, reaches, iff_true]
      exact ⟨fun registers equal => equal.symm, trivial⟩
    · have different := registersAt_ne_chosen first searched low reaches
      simp only [reaches, iff_false]
      exact ⟨fun only => different (only _ rfl), different⟩
  | exhausted _ searched =>
    have goesOn : ¬ SearchFails u := fun fails => fails.not_exhausted searched
    have start : Reaches u .registers 0 := fun j le => by
      rw [Nat.le_zero.mp le]
      exact first
    have chosen := chosenFrame_of_high fun j bound _ => (searched j bound).2
    rw [chosen, same.registers .registers .fallback 0 start]
    simp only [List.cons_append, lines_initLocal, lines_append, lines_stepEvents, lines_step,
      lines_nil, List.nil_append, lines_map_print, goesOn, not_false_eq_true, and_true,
      stopsAtFrame_of_searched searched, iff_true]
    exact fun registers equal => equal.symm

theorem printRegisters_selects_sample : PrintsOnlyChosen (steady (frameSteps
    [(0x7fbe7503ea00, 0x7fbe74ffdd40), (0x40151a, 0x7fbe74ffede0)] ⟨0, ipSpRegisters 0 0⟩)) :=
  (printRegisters_selects_iff (steady_sameFrames _) rfl (by decide)).1.mpr
    ((stopsAtFrame_iff_reaches (i := 1) (by decide) (by decide) (by decide) (by decide)).mpr (by decide))

/-- The IP 0 behind the end of a stack of high IPs is printed for that of a frame. -/
theorem printRegisters_selects_end : ¬ PrintsOnlyChosen (steady (frameSteps
    [(0x7fbe7503ea00, 0x7fbe74ffdd40)] ⟨0, ipSpRegisters 0 0⟩)) := by
  intro only
  have same := only (ipSpRegisters 0 0) (by decide)
  revert same
  decide

end Bsord.Panic
