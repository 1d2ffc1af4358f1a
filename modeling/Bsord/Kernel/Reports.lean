import Bsord.Kernel.Delivery
import Bsord.Panic.Shape
import Bsord.Panic.Stack

/-! # The lines of each report

However the threads and their handlers interleave, the lines of one report come out in the order of its
own handler, none twice and none left out before another.
-/

namespace Bsord.Kernel

open Library Panic

/-- The lines that a run of the handler prints when nothing stops it. -/
def script (run : Process × Signal) : List Line := printed (panicHandler run.1 run.2.number)

/-- The worker of the sample report, over the stack of it down to the frame with the low IP. -/
def worker : Process := sampleProcess (steady (frameSteps
  [(0x7fbe7503ea00, 0x7fbe74ffdd40), (0x40151a, 0x7fbe74ffede0)] ⟨0, ipSpRegisters 0 0⟩))

def linesOf (report : Nat) (output : List (Nat × Line)) : List Line :=
  output.filterMap fun entry => if entry.1 = report then some entry.2 else none

@[simp] theorem linesOf_append (report : Nat) (first second : List (Nat × Line)) :
    linesOf report (first ++ second) = linesOf report first ++ linesOf report second :=
  List.filterMap_append

@[simp] theorem linesOf_same (report : Nat) (written : List Line) :
    linesOf report (written.map (report, ·)) = written := by
  induction written with
  | nil => rfl
  | cons line written ih =>
    simp only [linesOf, List.map_cons, List.filterMap_cons, if_true]
    exact congrArg _ ih

theorem linesOf_other {report other : Nat} (different : other ≠ report) (written : List Line) :
    linesOf report (written.map (other, ·)) = [] := by
  simp [linesOf, List.filterMap_map, different]

theorem linesOf_fresh {report : Nat} {output : List (Nat × Line)}
    (fresh : ∀ entry ∈ output, entry.1 < report) : linesOf report output = [] := by
  apply List.filterMap_eq_nil_iff.mpr
  intro entry mem
  have := fresh entry mem
  rw [if_neg (by omega)]

theorem lines_cons (event : Event) (events : List Event) :
    lines (event :: events) = lines [event] ++ lines events := lines_append [event] events

/-! ## The invariant -/

variable {Tid : Type} {σ σ' : State Tid} {t : Tid}

def State.reports (σ : State Tid) (t : Tid) : List Nat := (σ.threads t).activations.map Activation.report

/-- What a live handler has printed and what it has left make its script; handlers have reports of their
    own; and what is written of a report is never more than the beginning of the script. -/
structure Ordered (σ : State Tid) : Prop where
  numbered : ∀ t, ∀ report ∈ σ.reports t, report < σ.entered.length
  written : ∀ entry ∈ σ.output, entry.1 < σ.entered.length
  nested : ∀ t, (σ.reports t).Nodup
  apart : ∀ t t', t ≠ t' → (σ.reports t).Disjoint (σ.reports t')
  remaining : ∀ t, ∀ activation ∈ (σ.threads t).activations, ∀ run,
    σ.entered[activation.report]? = some run →
      linesOf activation.report σ.output ++ lines activation.todo = script run
  leading : ∀ (report : Nat) run, σ.entered[report]? = some run →
    linesOf report σ.output <+: script run

theorem Ordered.installed : Ordered (installed Tid) where
  numbered _ _ mem := by cases mem
  written _ mem := by cases mem
  nested _ := .nil
  apart _ _ _ _ mem := by cases mem
  remaining _ _ mem := by cases mem
  leading _ _ entered := by cases entered

theorem Ordered.mono (ordered : Ordered σ)
    (fewer : ∀ t, (σ'.threads t).activations.Sublist (σ.threads t).activations)
    (entered : σ'.entered = σ.entered) (output : σ'.output = σ.output) : Ordered σ' := by
  have reports : ∀ t, (σ'.reports t).Sublist (σ.reports t) := fun t => (fewer t).map _
  refine ⟨?numbered, ?written, ?nested, ?apart, ?remaining, ?leading⟩
  case numbered =>
    intro t report mem
    rw [entered]
    exact ordered.numbered t report ((reports t).subset mem)
  case written => simpa only [output, entered] using ordered.written
  case nested => exact fun t => (ordered.nested t).sublist (reports t)
  case apart =>
    intro t t' different report here there
    exact ordered.apart t t' different ((reports t).subset here) ((reports t').subset there)
  case remaining =>
    intro t activation mem
    rw [entered, output]
    exact ordered.remaining t activation ((fewer t).subset mem)
  case leading => simpa only [entered, output] using ordered.leading

theorem Ordered.whole (ordered : Ordered σ) {report : Nat} {run : Process × Signal}
    (entered : σ.entered[report]? = some run) (ended : (report, .panicEnd) ∈ σ.output) :
    linesOf report σ.output = script run := by
  obtain ⟨init, last, parts, notBefore⟩ := printed_panicHandler_last run.1 run.2.number
  have leading := ordered.leading report run entered
  rw [script, parts] at leading ⊢
  cases List.prefix_concat_iff.mp leading with
  | inl whole => exact whole
  | inr shorter =>
    have mem : .panicEnd ∈ linesOf report σ.output :=
      List.mem_filterMap.mpr ⟨(report, .panicEnd), ended, if_pos rfl⟩
    exact absurd (shorter.subset mem) notBefore

variable [DecidableEq Tid]

/-! ## A handler goes on -/

section

variable {activation : Activation} {event : Event} {todo : List Event} {outer : List Activation}

theorem emit_activations (t' : Tid) :
    ((σ.emit t activation event todo outer).threads t').activations =
      if t' = t then { activation with todo } :: outer else (σ.threads t').activations := by
  simp only [State.emit, Function.update_apply]
  split <;> rfl

theorem emit_reports (inner : (σ.threads t).activations = activation :: outer) (t' : Tid) :
    (σ.emit t activation event todo outer).reports t' = σ.reports t' := by
  simp only [State.reports, emit_activations]
  split
  case isTrue here =>
    rw [here, inner]
    rfl
  case isFalse => rfl

/-- The handlers besides the one that goes on are as before and have other reports. -/
theorem Ordered.emit_cases (ordered : Ordered σ) (inner : (σ.threads t).activations = activation :: outer)
    {t' : Tid} {other : Activation}
    (mem : other ∈ ((σ.emit t activation event todo outer).threads t').activations) :
    other = { activation with todo } ∨
      (other ∈ (σ.threads t').activations ∧ activation.report ≠ other.report) := by
  have nested := ordered.nested t
  have apart := ordered.apart t t'
  simp only [State.reports, inner, List.map_cons] at nested apart
  rw [emit_activations] at mem
  by_cases here : t' = t
  · rw [if_pos here] at mem
    cases List.mem_cons.mp mem with
    | inl same => exact .inl same
    | inr mem =>
      rw [here, inner]
      refine .inr ⟨List.mem_cons_of_mem _ mem, fun same => ?_⟩
      exact (List.nodup_cons.mp nested).1 (same ▸ List.mem_map_of_mem mem)
  · rw [if_neg here] at mem
    refine .inr ⟨mem, fun same => ?_⟩
    exact apart (Ne.symm here) List.mem_cons_self (same ▸ List.mem_map_of_mem mem)

theorem Ordered.emit (ordered : Ordered σ) (inner : (σ.threads t).activations = activation :: outer)
    (next : activation.todo = event :: todo) : Ordered (σ.emit t activation event todo outer) := by
  have head : activation ∈ (σ.threads t).activations := by
    rw [inner]
    exact List.mem_cons_self
  have reports : ∀ t', (σ.emit t activation event todo outer).reports t' = σ.reports t' :=
    emit_reports inner
  -- The line, if the event is one, goes from what is left of this report to what is written of it.
  have own : ∀ run, σ.entered[activation.report]? = some run →
      linesOf activation.report (σ.emit t activation event todo outer).output ++ lines todo =
        script run := by
    intro run entered
    have remaining := ordered.remaining t activation head run entered
    rw [next, lines_cons, ← List.append_assoc] at remaining
    simpa only [State.emit, linesOf_append, linesOf_same] using remaining
  have others : ∀ report, activation.report ≠ report →
      linesOf report (σ.emit t activation event todo outer).output = linesOf report σ.output := by
    intro report different
    simp only [State.emit, linesOf_append, linesOf_other different, List.append_nil]
  refine ⟨?numbered, ?written, ?nested, ?apart, ?remaining, ?leading⟩
  case numbered =>
    intro t' report mem
    rw [reports] at mem
    exact ordered.numbered t' report mem
  case written =>
    intro entry mem
    cases List.mem_append.mp mem with
    | inl mem => exact ordered.written entry mem
    | inr mem =>
      obtain ⟨line, _, rfl⟩ := List.mem_map.mp mem
      exact ordered.numbered t _ (List.mem_map_of_mem head)
  case nested => simpa only [reports] using ordered.nested
  case apart => simpa only [reports] using ordered.apart
  case remaining =>
    intro t' other mem run entered
    cases ordered.emit_cases inner mem with
    | inl same =>
      rw [same]
      rw [same] at entered
      exact own run entered
    | inr apart =>
      rw [others other.report apart.2]
      exact ordered.remaining t' other apart.1 run entered
  case leading =>
    intro report run entered
    by_cases same : activation.report = report
    · rw [← same, ← own run (same ▸ entered)]
      exact List.prefix_append _ _
    · rw [others report same]
      exact ordered.leading report run entered

end

/-! ## A handler is entered -/

section

variable {signal : Signal} {action : Sigaction} {p : Process} {interrupted : Status}

theorem enter_activations (t' : Tid) :
    ((σ.enter t signal action p interrupted).threads t').activations =
      if t' = t then
        ⟨σ.entered.length, signal :: action.mask, (panicHandler p signal.number).events, interrupted⟩ ::
          (σ.threads t).activations
      else (σ.threads t').activations := by
  simp only [State.enter, Function.update_apply]
  split <;> rfl

theorem enter_output : (σ.enter t signal action p interrupted).output = σ.output := rfl

theorem enter_reports (t' : Tid) :
    (σ.enter t signal action p interrupted).reports t' =
      if t' = t then σ.entered.length :: σ.reports t else σ.reports t' := by
  simp only [State.reports, enter_activations]
  split <;> rfl

theorem Ordered.enter (ordered : Ordered σ) : Ordered (σ.enter t signal action p interrupted) := by
  have unused : ∀ t, σ.entered.length ∉ σ.reports t := by
    intro t mem
    exact Nat.lt_irrefl _ (ordered.numbered t _ mem)
  have blank : linesOf σ.entered.length σ.output = [] := linesOf_fresh ordered.written
  have length : (σ.enter t signal action p interrupted).entered.length = σ.entered.length + 1 :=
    List.length_append
  have earlier : ∀ {report run}, (σ.enter t signal action p interrupted).entered[report]? = some run →
      report < σ.entered.length → σ.entered[report]? = some run := by
    intro report run entered below
    rw [← entered]
    exact (List.getElem?_append_left below).symm
  refine ⟨?numbered, ?written, ?nested, ?apart, ?remaining, ?leading⟩
  case numbered =>
    intro t' report mem
    rw [enter_reports] at mem
    split at mem
    case isTrue =>
      cases List.mem_cons.mp mem with
      | inl same => omega
      | inr mem => have := ordered.numbered t report mem; omega
    case isFalse => have := ordered.numbered t' report mem; omega
  case written =>
    intro entry mem
    have := ordered.written entry mem
    omega
  case nested =>
    intro t'
    rw [enter_reports]
    split
    case isTrue => exact List.nodup_cons.mpr ⟨unused t, ordered.nested t⟩
    case isFalse => exact ordered.nested t'
  case apart =>
    intro first second different
    simp only [enter_reports]
    by_cases here : first = t
    · have there : second ≠ t := fun there => different (here.trans there.symm)
      rw [if_pos here, if_neg there, List.disjoint_cons_left]
      exact ⟨unused second, ordered.apart t second (here ▸ different)⟩
    · rw [if_neg here]
      split
      case isTrue there =>
        rw [List.disjoint_cons_right]
        exact ⟨unused first, ordered.apart first t here⟩
      case isFalse => exact ordered.apart first second different
  case remaining =>
    have old : ∀ t', ∀ activation ∈ (σ.threads t').activations, ∀ run,
        (σ.enter t signal action p interrupted).entered[activation.report]? = some run →
          linesOf activation.report σ.output ++ lines activation.todo = script run :=
      fun t' activation mem run entered => ordered.remaining t' activation mem run
        (earlier entered (ordered.numbered t' _ (List.mem_map_of_mem mem)))
    intro t' activation mem run entered
    rw [enter_activations] at mem
    split at mem
    case isTrue =>
      cases List.mem_cons.mp mem with
      | inl same =>
        rw [same, State.enter, List.getElem?_concat_length] at entered
        cases entered
        simp only [same, enter_output, blank, List.nil_append, script, printed]
      | inr mem => exact old t activation mem run entered
    case isFalse => exact old t' activation mem run entered
  case leading =>
    intro report run entered
    by_cases below : report < σ.entered.length
    · exact ordered.leading report run (earlier entered below)
    · have nothing : linesOf report σ.output = [] := linesOf_fresh fun entry mem => by
        have := ordered.written entry mem
        omega
      rw [enter_output, nothing]
      exact List.nil_prefix

end

/-! ## Runs -/

theorem Ordered.deliver (ordered : Ordered σ) (signal : Signal) (p : Process) (interrupted : Status) :
    Ordered (σ.deliver t signal p interrupted) := by
  simp only [State.deliver]
  split
  · exact ordered.mono (fun _ => .refl _) rfl rfl
  · exact ordered.enter

theorem setThread_activations (thread : Thread) (t' : Tid) :
    ((σ.setThread t thread).threads t').activations =
      if t' = t then thread.activations else (σ.threads t').activations := by
  simp only [State.setThread, Function.update_apply]
  split <;> rfl

theorem setPending_activations (pending : List Signal) (t' : Tid) :
    ((σ.setPending t pending).threads t').activations = (σ.threads t').activations := by
  rw [State.setPending, setThread_activations]
  split
  case isTrue here => rw [here]
  case isFalse => rfl

theorem Ordered.setPending (ordered : Ordered σ) (pending : List Signal) :
    Ordered (σ.setPending t pending) := by
  refine ordered.mono (fun t' => ?_) rfl rfl
  rw [setPending_activations]

theorem Ordered.step {label : Label Tid} (ordered : Ordered σ) (step : Step σ label σ') :
    Ordered σ' := by
  obtain ⟨_, action⟩ := step
  cases action with
  | work _ _ _ => exact ordered
  | exit _ _ _ => exact ordered.mono (fun _ => .refl _) rfl rfl
  | event inner next _ _ => exact ordered.emit inner next
  | ret inner _ _ _ =>
    refine ordered.mono (fun t' => ?_) rfl rfl
    rw [setThread_activations]
    split
    case isTrue here =>
      rw [here, inner]
      exact List.sublist_cons_self _ _
    case isFalse => exact .refl _
  | fault _ _ _ => exact ordered.deliver _ _ _
  | faultMasked _ _ _ => exact ordered.mono (fun _ => .refl _) rfl rfl
  | abort _ _ => exact ordered.deliver _ _ _
  | abortAgain _ _ => exact ordered.mono (fun _ => .refl _) rfl rfl
  | send _ => exact ordered.deliver _ _ _
  | sendMasked _ => exact ordered.setPending _
  | release _ _ => exact (ordered.setPending _).deliver _ _ _

theorem ordered_of_run {labels : List (Label Tid)} (run : Run Step (installed Tid) labels σ) :
    Ordered σ := run.invariant Ordered Ordered.step Ordered.installed

end Bsord.Kernel
