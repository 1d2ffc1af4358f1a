import Bsord.Kernel.Fatal

/-! # Reports one after the other

Nothing in the handler keeps two reports apart: a second signal of another kind starts a report inside
the first, and a second one of the same kind ends the process.  A report comes out in one piece, and is not
cut, when it is started while no handler has lines left to print and no signal takes effect before it is
finished.
-/

namespace Bsord.Kernel

open Library Panic

/-! ## Outputs -/

/-- A line of another report behind the first line of the report is also behind its last. -/
def ContiguousIn (report : Nat) (output : List (Nat × Line)) : Prop :=
  ∀ (i j other : Nat) (line : Line), i < j → output[i]? = some (report, .panicStart) →
    output[j]? = some (other, line) → other ≠ report →
      ∃ k, i < k ∧ k < j ∧ output[k]? = some (report, .panicEnd)

def Contiguous (output : List (Nat × Line)) : Prop := ∀ report, ContiguousIn report output

/-- The report, if it was begun, was brought to its end. -/
def ClosedIn (report : Nat) (output : List (Nat × Line)) : Prop :=
  ∀ i : Nat, output[i]? = some (report, .panicStart) →
    ∃ k, i < k ∧ output[k]? = some (report, .panicEnd)

def Closed (output : List (Nat × Line)) : Prop := ∀ report, ClosedIn report output

/-- The lines of the report stand together in the output. -/
structure Block (report : Nat) (written : List Line) (before after output : List (Nat × Line)) : Prop where
  output : output = before ++ written.map (report, ·) ++ after
  before : linesOf report before = []
  after : linesOf report after = []

section

variable {report i : Nat} {written body : List Line} {before after output : List (Nat × Line)} {line : Line}

theorem not_mem_of_linesOf (nothing : linesOf report output = []) : (report, line) ∉ output := by
  intro mem
  have found : line ∈ linesOf report output := List.mem_filterMap.mpr ⟨_, mem, if_pos rfl⟩
  rw [nothing] at found
  cases found

theorem Block.getElem? (block : Block report written before after output)
    (here : output[i]? = some (report, line)) :
    before.length ≤ i ∧ i < before.length + written.length ∧ written[i - before.length]? = some line := by
  rw [block.output, List.append_assoc] at here
  by_cases early : i < before.length
  · rw [List.getElem?_append_left early] at here
    exact absurd (List.mem_of_getElem? here) (not_mem_of_linesOf block.before)
  · rw [List.getElem?_append_right (by omega)] at here
    by_cases inside : i - before.length < written.length
    · rw [List.getElem?_append_left (by rwa [List.length_map]), List.getElem?_map] at here
      obtain ⟨found, at_, same⟩ := Option.map_eq_some_iff.mp here
      cases same
      exact ⟨by omega, by omega, at_⟩
    · rw [List.getElem?_append_right (by rw [List.length_map]; omega)] at here
      exact absurd (List.mem_of_getElem? here) (not_mem_of_linesOf block.after)

theorem Block.end (block : Block report (body ++ [.panicEnd]) before after output) :
    output[before.length + body.length]? = some (report, .panicEnd) := by
  rw [block.output, List.append_assoc, List.getElem?_append_right (by omega), Nat.add_sub_cancel_left,
    List.getElem?_append_left (by simp), List.getElem?_map, List.getElem?_concat_length]
  rfl

theorem Block.start_lt (block : Block report (body ++ [.panicEnd]) before after output)
    (start : output[i]? = some (report, .panicStart)) : i < before.length + body.length := by
  obtain ⟨_, below, at_⟩ := block.getElem? start
  rw [List.length_append, List.length_singleton] at below
  by_contra beyond
  rw [show i - before.length = body.length by omega, List.getElem?_concat_length] at at_
  cases at_

theorem Block.closedIn (block : Block report (body ++ [.panicEnd]) before after output) :
    ClosedIn report output :=
  fun _ start => ⟨_, block.start_lt start, block.end⟩

theorem Block.contiguousIn (block : Block report written before after output)
    (ending : after = [] ∨ ∃ body, written = body ++ [.panicEnd]) : ContiguousIn report output := by
  intro i j other line lt start there different
  obtain ⟨behind, _, _⟩ := block.getElem? start
  have beyond : before.length + written.length ≤ j := by
    by_contra inside
    rw [block.output, List.append_assoc, List.getElem?_append_right (by omega),
      List.getElem?_append_left (by rw [List.length_map]; omega), List.getElem?_map] at there
    obtain ⟨_, _, same⟩ := Option.map_eq_some_iff.mp there
    cases same
    exact different rfl
  cases ending with
  | inl last =>
    have short := (List.getElem?_eq_some_iff.mp there).1
    rw [block.output, last, List.append_nil, List.length_append, List.length_map] at short
    omega
  | inr whole =>
    obtain ⟨body, rfl⟩ := whole
    rw [List.length_append, List.length_singleton] at beyond
    exact ⟨_, block.start_lt start, by omega, block.end⟩

theorem Block.append (block : Block report written before after output) {more : List (Nat × Line)}
    (others : linesOf report more = []) : Block report written before (after ++ more) (output ++ more) where
  output := by rw [block.output, List.append_assoc]
  before := block.before
  after := by rw [linesOf_append, block.after, others, List.append_nil]

end

/-! ## Quiet states -/

variable {Tid : Type} {σ σ' : State Tid} {t : Tid} {report : Nat}

/-- No handler has a line left to print. -/
def Quiet (σ : State Tid) : Prop :=
  ∀ t, ∀ activation ∈ (σ.threads t).activations, lines activation.todo = []

/-- A signal takes effect only in a quiet state, and `unw_getcontext` will succeed in the handler. -/
def NoOverlap (σ : State Tid) : Label Tid → Prop
  | .fault _ _ p | .abort _ p | .release _ _ p => Quiet σ ∧ p.unwinder.getcontext = 0
  | .send t signal p => (σ.threads t).Masks signal ∨ (Quiet σ ∧ p.unwinder.getcontext = 0)
  | .work _ | .exit _ | .event _ | .ret _ => True

/-- The handler of the report has no line left to print. -/
def Finished (report : Nat) (σ : State Tid) : Prop :=
  ∀ t, ∀ activation ∈ (σ.threads t).activations, activation.report = report → lines activation.todo = []

/-- A signal that takes effect now does not disturb the report: it starts the report in a quiet state and
    `unw_getcontext` will succeed, or the report is not started yet or is finished. -/
def Spares (report : Nat) (σ : State Tid) (p : Process) : Prop :=
  (σ.entered.length = report → Quiet σ ∧ p.unwinder.getcontext = 0) ∧
    (report < σ.entered.length → Finished report σ)

/-- No signal takes effect during the report. -/
def Undisturbed (report : Nat) (σ : State Tid) : Label Tid → Prop
  | .fault _ _ p | .abort _ p | .release _ _ p => Spares report σ p
  | .send t signal p => (σ.threads t).Masks signal ∨ Spares report σ p
  | .work _ | .exit _ | .event _ | .ret _ => True

theorem Quiet.spares {p : Process} (quiet : Quiet σ ∧ p.unwinder.getcontext = 0) : Spares report σ p :=
  ⟨fun _ => quiet, fun _ t activation mem _ => quiet.1 t activation mem⟩

theorem NoOverlap.undisturbed {label : Label Tid} (apart : NoOverlap σ label) : Undisturbed report σ label := by
  cases label with
  | fault _ _ _ | abort _ _ | release _ _ _ => exact Quiet.spares apart
  | send _ _ _ => exact apart.imp id Quiet.spares
  | work _ | exit _ | event _ | ret _ => trivial

/-- Where a report is that no signal disturbs: not started yet; being written by the innermost handler of a
    thread, all others having no lines left; or written. -/
inductive Kept (report : Nat) (σ : State Tid) : Prop where
  | before (early : σ.entered.length ≤ report)
  | writing (t : Tid) (activation : Activation) (outer : List Activation) (before : List (Nat × Line))
      (written body : List Line)
      (started : report < σ.entered.length) (own : activation.report = report)
      (inner : (σ.threads t).activations = activation :: outer)
      (nested : ∀ other ∈ outer, lines other.todo = [])
      (elsewhere : ∀ t', t' ≠ t → ∀ other ∈ (σ.threads t').activations, lines other.todo = [])
      (block : Block report written before [] σ.output)
      (script : written ++ lines activation.todo = body ++ [.panicEnd])
  | after (before after : List (Nat × Line)) (body : List Line)
      (started : report < σ.entered.length) (finished : Finished report σ)
      (block : Block report (body ++ [.panicEnd]) before after σ.output)

theorem Ordered.not_started (ordered : Ordered σ) (early : σ.entered.length ≤ report) :
    linesOf report σ.output = [] :=
  linesOf_fresh fun entry mem => Nat.lt_of_lt_of_le (ordered.written entry mem) early

theorem Kept.contiguousIn (kept : Kept report σ) (ordered : Ordered σ) : ContiguousIn report σ.output := by
  cases kept with
  | before early =>
    intro _ _ _ _ _ start
    exact absurd (List.mem_of_getElem? start) (not_mem_of_linesOf (ordered.not_started early))
  | writing _ _ _ _ _ _ _ _ _ _ _ block _ => exact block.contiguousIn (.inl rfl)
  | after _ _ body _ _ block => exact block.contiguousIn (.inr ⟨body, rfl⟩)

theorem Kept.block (kept : Kept report σ) (started : report < σ.entered.length)
    (finished : Finished report σ) :
    ∃ before after body, Block report (body ++ [.panicEnd]) before after σ.output := by
  cases kept with
  | before early => omega
  | writing t activation outer before written body _ own inner _ _ block script =>
    have nothing : lines activation.todo = [] := by
      apply finished t activation _ own
      rw [inner]
      exact List.mem_cons_self
    rw [nothing, List.append_nil] at script
    exact ⟨before, [], body, script ▸ block⟩
  | after before after body _ _ block => exact ⟨before, after, body, block⟩

theorem Kept.closedIn (kept : Kept report σ) (ordered : Ordered σ) {p : Process} (spares : Spares report σ p) :
    ClosedIn report σ.output := by
  by_cases started : report < σ.entered.length
  · obtain ⟨_, _, _, block⟩ := kept.block started (spares.2 started)
    exact block.closedIn
  · intro _ start
    exact absurd (List.mem_of_getElem? start)
      (not_mem_of_linesOf (ordered.not_started (Nat.le_of_not_lt started)))

theorem Kept.congr (kept : Kept report σ)
    (activations : ∀ t, (σ'.threads t).activations = (σ.threads t).activations)
    (entered : σ'.entered = σ.entered) (output : σ'.output = σ.output) : Kept report σ' := by
  cases kept with
  | before early => exact .before (entered ▸ early)
  | writing t activation outer before written body started own inner nested elsewhere block script =>
    refine .writing t activation outer before written body (entered ▸ started) own ?_ nested ?_
      (output ▸ block) script
    · rw [activations, inner]
    · intro t' different
      rw [activations]
      exact elsewhere t' different
  | after before after body started finished block =>
    refine .after before after body (entered ▸ started) (fun t => ?_) (output ▸ block)
    rw [activations]
    exact finished t

variable [DecidableEq Tid]

theorem Kept.enter {signal : Signal} {action : Sigaction} {p : Process} {interrupted : Status}
    (kept : Kept report σ) (ordered : Ordered σ) (spares : Spares report σ p) :
    Kept report (σ.enter t signal action p interrupted) := by
  have length : (σ.enter t signal action p interrupted).entered.length = σ.entered.length + 1 :=
    List.length_append
  obtain early | now | started := Nat.lt_trichotomy σ.entered.length report
  · exact .before (by omega)
  · -- This is the report that the signal starts.
    obtain ⟨quiet, context⟩ := spares.1 now
    obtain ⟨body, _, script⟩ := printed_panicHandler_body p signal.number context
    let entered : Activation :=
      ⟨σ.entered.length, signal :: action.mask, (panicHandler p signal.number).events, interrupted⟩
    have nothing : linesOf report σ.output = [] := ordered.not_started (Nat.le_of_eq now)
    refine .writing t entered (σ.threads t).activations σ.output [] (preamble p signal.number ++ body)
      (by omega) now ?_ (quiet t) ?_ ⟨?_, nothing, rfl⟩ script
    · rw [enter_activations, if_pos rfl]
    · intro t' different
      rw [enter_activations, if_neg different]
      exact quiet t'
    · rw [enter_output, List.map_nil, List.append_nil, List.append_nil]
  · have finished := spares.2 started
    obtain ⟨before, after, body, block⟩ := kept.block started finished
    refine .after before after body (by omega) (fun t' activation mem own => ?_) block
    rw [enter_activations] at mem
    split at mem
    case isTrue =>
      cases List.mem_cons.mp mem with
      | inl same =>
        rw [same] at own
        exact absurd own (Nat.ne_of_gt started)
      | inr mem => exact finished t activation mem own
    case isFalse => exact finished t' activation mem own

section

variable {activation : Activation} {outer : List Activation} {event : Event} {todo : List Event}

theorem emit_finished {P : Activation → Prop} (inner : (σ.threads t).activations = activation :: outer)
    {t' : Tid} (all : ∀ other ∈ (σ.threads t').activations, P other)
    (own : t' = t → P { activation with todo }) :
    ∀ other ∈ ((σ.emit t activation event todo outer).threads t').activations, P other := by
  intro other mem
  rw [emit_activations] at mem
  split at mem
  case isTrue here =>
    cases List.mem_cons.mp mem with
    | inl same =>
      rw [same]
      exact own here
    | inr mem =>
      rw [here, inner] at all
      exact all other (List.mem_cons_of_mem _ mem)
  case isFalse => exact all other mem

theorem Kept.emit (kept : Kept report σ) (inner : (σ.threads t).activations = activation :: outer)
    (next : activation.todo = event :: todo) : Kept report (σ.emit t activation event todo outer) := by
  have parts : lines activation.todo = lines [event] ++ lines todo := by
    rw [next, lines_cons]
  have head : activation ∈ (σ.threads t).activations := by
    rw [inner]
    exact List.mem_cons_self
  cases kept with
  | before early => exact .before early
  | writing writer writing others before written body started own writerInner nested elsewhere block script =>
    by_cases here : t = writer
    · -- The report gets the line, if there is one.
      subst here
      rw [inner] at writerInner
      cases writerInner
      refine .writing t { activation with todo } outer before (written ++ lines [event]) body started own ?_
        nested ?_ ⟨?_, block.before, rfl⟩ ?_
      · rw [emit_activations, if_pos rfl]
      · intro t' different
        rw [emit_activations, if_neg different]
        exact elsewhere t' different
      · simp only [State.emit, block.output, own, List.append_nil, List.map_append, List.append_assoc]
      · rw [List.append_assoc, ← parts, script]
    · -- A handler without lines left does not print one now.
      obtain ⟨nothing, rest⟩ := List.append_eq_nil_iff.mp (parts.symm.trans (elsewhere t here activation head))
      refine .writing writer writing others before written body started own ?_ nested ?_ ?_ script
      · rw [emit_activations, if_neg (Ne.symm here), writerInner]
      · intro t' different
        exact emit_finished inner (elsewhere t' different) fun _ => rest
      · rw [State.emit, nothing, List.map_nil, List.append_nil]
        exact block
  | after before after body started finished block =>
    have others : linesOf report ((lines [event]).map (activation.report, ·)) = [] := by
      by_cases own : activation.report = report
      · have nothing := parts.symm.trans (finished t activation head own)
        rw [(List.append_eq_nil_iff.mp nothing).1]
        rfl
      · exact linesOf_other own _
    refine .after before _ body started (fun t' => ?_) (block.append others)
    refine emit_finished inner (finished t') fun _ own => ?_
    exact (List.append_eq_nil_iff.mp (parts.symm.trans (finished t activation head own))).2

end

theorem Kept.ret (kept : Kept report σ) {activation : Activation} {outer : List Activation}
    (inner : (σ.threads t).activations = activation :: outer) (done : activation.todo = [])
    (status : Status) (pending : List Signal) :
    Kept report (σ.setThread t ⟨status, outer, pending⟩) := by
  have fewer : ∀ t', ((σ.setThread t ⟨status, outer, pending⟩).threads t').activations ⊆
      (σ.threads t').activations := by
    intro t' other mem
    rw [setThread_activations] at mem
    split at mem
    case isTrue here =>
      rw [here, inner]
      exact List.mem_cons_of_mem _ mem
    case isFalse => exact mem
  cases kept with
  | before early => exact .before early
  | writing writer writing others before written body started own writerInner nested elsewhere block script =>
    by_cases here : t = writer
    · -- The handler that returns has nothing left, so its report is written.
      subst here
      rw [inner] at writerInner
      cases writerInner
      rw [done, lines_nil, List.append_nil] at script
      refine .after before [] body started (fun t' other mem _ => ?_) (script ▸ block)
      rw [setThread_activations] at mem
      split at mem
      case isTrue => exact nested other mem
      case isFalse different => exact elsewhere t' different other mem
    · refine .writing writer writing others before written body started own ?_ nested ?_ block script
      · rw [setThread_activations, if_neg (Ne.symm here), writerInner]
      · exact fun t' different other mem => elsewhere t' different other (fewer t' mem)
  | after before after body started finished block =>
    exact .after before after body started (fun t' other mem own => finished t' other (fewer t' mem) own) block

/-! ## Runs in which a report is not disturbed -/

/-- The report is in one piece, and if a signal has ended the process, it was not cut. -/
structure Unmixed (report : Nat) (σ : State Tid) : Prop where
  ordered : Ordered σ
  kept : Kept report σ
  uncut : ∀ signal, σ.ended = some (.signal signal) → ClosedIn report σ.output

omit [DecidableEq Tid] in
theorem Unmixed.installed : Unmixed report (installed Tid) where
  ordered := .installed
  kept := .before (Nat.zero_le _)
  uncut _ ended := nomatch ended

omit [DecidableEq Tid] in
theorem Kept.uncut (kept : Kept report σ') (ordered : Ordered σ') (live : σ.ended = none)
    (same : σ'.ended = σ.ended) : Unmixed report σ' where
  ordered := ordered
  kept := kept
  uncut _ ended := by
    rw [same, live] at ended
    cases ended

omit [DecidableEq Tid] in
theorem Unmixed.die (unmixed : Unmixed report σ) {p : Process} (spares : Spares report σ p) (signal : Signal) :
    Unmixed report (σ.die signal) where
  ordered := unmixed.ordered.mono (fun _ => .refl _) rfl rfl
  kept := unmixed.kept.congr (fun _ => rfl) rfl rfl
  uncut _ _ := unmixed.kept.closedIn unmixed.ordered spares

theorem Unmixed.deliver (unmixed : Unmixed report σ) (live : σ.ended = none) {p : Process}
    (spares : Spares report σ p) (signal : Signal) (interrupted : Status) :
    Unmixed report (σ.deliver t signal p interrupted) := by
  simp only [State.deliver]
  split
  · exact unmixed.die spares signal
  · exact (unmixed.kept.enter unmixed.ordered spares).uncut unmixed.ordered.enter live rfl

theorem Unmixed.step {label : Label Tid} (unmixed : Unmixed report σ)
    (step : restrict Step (Undisturbed report) σ label σ') : Unmixed report σ' := by
  obtain ⟨guard, live, action⟩ := step
  have ordered := unmixed.ordered.step ⟨live, action⟩
  have kept := unmixed.kept
  have pending : ∀ {t : Tid} {pending : List Signal}, Unmixed report (σ.setPending t pending) := fun {_ _} =>
    (kept.congr (setPending_activations _) rfl rfl).uncut (unmixed.ordered.setPending _) live rfl
  cases action with
  | work _ _ _ => exact unmixed
  | exit _ _ _ => exact ⟨ordered, kept.congr (fun _ => rfl) rfl rfl, fun _ ended => nomatch ended⟩
  | event inner next _ _ => exact (kept.emit inner next).uncut ordered live rfl
  | ret inner done _ _ => exact (kept.ret inner done _ _).uncut ordered live rfl
  | fault _ _ _ | abort _ _ => exact unmixed.deliver live guard _ _
  | faultMasked _ _ _ | abortAgain _ _ => exact unmixed.die guard _
  | send unmasked => exact unmixed.deliver live (guard.resolve_left unmasked) _ _
  | sendMasked _ => exact pending
  | release _ _ =>
    refine pending.deliver live ⟨fun now => ⟨fun t' => ?_, (guard.1 now).2⟩, fun started t' => ?_⟩ _ _
    · rw [setPending_activations]
      exact (guard.1 now).1 t'
    · rw [setPending_activations]
      exact guard.2 started t'

/-- **One after the other**: in every run the lines of a report come out in the order of its handler, and a
    report that has its end has all its lines.  When no signal takes effect during a report, besides, it has
    no lines of another inside, and no signal ends the process in it; so it is for all reports when no signal
    takes effect while a handler has lines left to print. -/
theorem reports_unmixed {labels : List (Label Tid)} {σ : State Tid}
    (run : Run Step (installed Tid) labels σ) :
    (∀ (report : Nat) entered, σ.entered[report]? = some entered →
      linesOf report σ.output <+: script entered ∧
      ((report, .panicEnd) ∈ σ.output → linesOf report σ.output = script entered)) ∧
    (∀ report, Run (restrict Step (Undisturbed report)) (installed Tid) labels σ →
      ContiguousIn report σ.output ∧ ∀ signal, σ.ended = some (.signal signal) → ClosedIn report σ.output) ∧
    (Run (restrict Step NoOverlap) (installed Tid) labels σ →
      Contiguous σ.output ∧ ∀ signal, σ.ended = some (.signal signal) → Closed σ.output) := by
  have ordered := ordered_of_run run
  have undisturbed : ∀ report, Run (restrict Step (Undisturbed report)) (installed Tid) labels σ →
      Unmixed report σ := fun report guarded => guarded.invariant (Unmixed report) Unmixed.step .installed
  refine ⟨fun report entered at_ => ⟨ordered.leading report entered at_, ordered.whole at_⟩,
    fun report guarded => ?_, fun guarded => ?_⟩
  · have unmixed := undisturbed report guarded
    exact ⟨unmixed.kept.contiguousIn ordered, unmixed.uncut⟩
  · have all : ∀ report, Unmixed report σ := fun report =>
      undisturbed report (guarded.mono fun step => ⟨step.1.undisturbed, step.2⟩)
    exact ⟨fun report => (all report).kept.contiguousIn ordered,
      fun signal ended report => (all report).uncut signal ended⟩

theorem run_reported {σ : State Tid} (live : σ.ended = none) (idle : σ.threads t = ⟨.running, [], []⟩)
    {signal : Signal} {p : Process} {interrupted : Status} {raised : Label Tid} (apart : NoOverlap σ raised)
    (raise : Step σ raised (σ.enter t signal panicAction p interrupted)) :
    ∃ labels, Run (restrict Step NoOverlap) σ labels (σ.reported t signal p interrupted) := by
  obtain ⟨labels, report, handled⟩ := run_report live idle signal p interrupted
  have guarded : Run (restrict Step NoOverlap) _ labels _ := report.to_restrict fun label mem σ => by
    have inside := handled label mem
    cases label with
    | event _ | ret _ => trivial
    | work _ | exit _ | fault _ _ _ | abort _ _ | send _ _ _ | release _ _ _ => cases inside
  exact ⟨_, .cons ⟨apart, raise⟩ guarded⟩

/-- One thread faults and prints its report, and then another one calls `abort`. -/
theorem reports_unmixed_sample : ∃ (labels : List (Label Bool)) (σ : State Bool),
    Run Step (installed Bool) labels σ ∧
      σ.output = (script (worker, .segv)).map (0, ·) ++ (script (worker, .abrt)).map (1, ·) ∧
      linesOf 0 σ.output <+: script (worker, .segv) ∧ ContiguousIn 1 σ.output ∧ Contiguous σ.output := by
  have fault : Step (installed Bool) (.fault true .segv worker)
      ((installed Bool).enter true .segv panicAction worker (.faulting .segv)) :=
    ⟨rfl, .fault (.inl rfl) (by decide) (Thread.clear rfl)⟩
  have quiet₀ : NoOverlap (installed Bool) (.fault true .segv worker) :=
    ⟨fun _ _ mem => (List.not_mem_nil mem).elim, rfl⟩
  obtain ⟨_, first⟩ := run_reported (t := true) rfl rfl quiet₀ fault
  let σ := (installed Bool).reported true .segv worker (.faulting .segv)
  have abort : Step σ (.abort false worker) (σ.enter false .abrt panicAction worker .aborting) :=
    ⟨rfl, .abort rfl (Thread.clear rfl)⟩
  have quiet₁ : NoOverlap σ (.abort false worker) := by
    refine ⟨fun t activation mem => ?_, rfl⟩
    cases t <;> cases mem
  obtain ⟨_, second⟩ := run_reported (t := false) rfl rfl quiet₁ abort
  have run := first.append second
  have unmixed := reports_unmixed run.of_restrict
  have apart : Run (restrict Step (Undisturbed 1)) _ _ _ :=
    run.mono fun step => ⟨step.1.undisturbed, step.2⟩
  exact ⟨_, _, run.of_restrict, rfl, (unmixed.1 0 _ rfl).1, (unmixed.2.1 1 apart).1, (unmixed.2.2 run).1⟩

/-! ## Two signals at once -/

def State.begun (σ : State Tid) (t : Tid) (signal : Signal) (p : Process) : State Tid where
  disposition := Function.update σ.disposition signal .default
  threads := Function.update σ.threads t ⟨.running, [⟨σ.entered.length, [signal],
    (panicHandler p signal.number).events.tail, .faulting signal⟩], []⟩
  entered := σ.entered ++ [(p, signal)]
  output := σ.output ++ [(σ.entered.length, .panicStart)]
  ended := σ.ended

theorem run_begin {signal : Signal} {p : Process} (live : σ.ended = none)
    (idle : σ.threads t = ⟨.running, [], []⟩) (handled : σ.disposition signal = .handler panicAction) :
    Run Step σ [.fault t signal p, .event t] (σ.begun t signal p) := by
  let entered : Activation :=
    ⟨σ.entered.length, [signal], (panicHandler p signal.number).events, .faulting signal⟩
  let σ₁ := σ.enter t signal panicAction p (.faulting signal)
  have thread : σ₁.threads t = ⟨.running, [entered], []⟩ := by
    simp only [σ₁, State.enter, Function.update_self, idle]
    rfl
  have fault : Step σ (.fault t signal p) σ₁ := by
    have step : Action σ (.fault t signal p) (σ.deliver t signal p (.faulting signal)) := by
      refine .fault (.inl ?_) (Thread.not_masks ?_ signal) (Thread.clear ?_)
      · rw [idle]
      · rw [idle]
      · rw [idle]
    rw [State.deliver, handled] at step
    exact ⟨live, step⟩
  have start : Step σ₁ (.event t)
      (σ₁.emit t entered (.print .panicStart) (panicHandler p signal.number).events.tail []) := by
    refine ⟨live, .event ?_ rfl ?_ (Thread.clear ?_)⟩
    · rw [thread]
    · rw [thread]
    · rw [thread]
  have begun : σ₁.emit t entered (.print .panicStart) (panicHandler p signal.number).events.tail [] =
      σ.begun t signal p := by
    simp only [State.emit, σ₁, entered, State.enter, State.begun, Function.update_idem, Function.update_self,
      idle, panicAction, if_true]
    rfl
  rw [begun] at start
  exact (Run.single fault).snoc start

/-- Two threads that panic at once mix their reports, and a second signal of the same kind cuts the
    report of the first. -/
theorem reports_mix :
    (∃ (labels : List (Label Bool)) (σ : State Bool), Run Step (installed Bool) labels σ ∧
      ¬ Contiguous σ.output) ∧
    (∃ (labels : List (Label Bool)) (σ : State Bool), Run Step (installed Bool) labels σ ∧
      σ.ended = some (.signal .segv) ∧ ¬ Closed σ.output) := by
  have begun : Run Step (installed Bool) [.fault true .segv worker, .event true] _ :=
    run_begin rfl rfl (installed_disposition .segv)
  constructor
  · -- A second thread begins a report of another signal.
    have second : Run Step _ [.fault false .abrt worker, .event false] _ :=
      run_begin (σ := (installed Bool).begun true .segv worker) rfl rfl rfl
    refine ⟨_, _, begun.append second, fun contiguous => ?_⟩
    obtain ⟨k, after, below, _⟩ := contiguous 0 0 1 1 .panicStart (by decide) rfl rfl (by decide)
    omega
  · -- A second thread raises the same signal, whose disposition has been reset.
    have fault : Step ((installed Bool).begun true .segv worker) (.fault false .segv worker)
        (((installed Bool).begun true .segv worker).deliver false .segv worker (.faulting .segv)) :=
      ⟨rfl, .fault (.inl rfl) (by decide) (Thread.clear rfl)⟩
    refine ⟨_, _, begun.snoc fault, rfl, fun closed => ?_⟩
    obtain ⟨k, after, ending⟩ := closed 0 0 rfl
    cases k with
    | zero => omega
    | succ k => cases ending

end Bsord.Kernel
