import Bsord.Kernel.Reports

/-! # What becomes of the code that was interrupted

The handler does not end the process.  It returns, and the disposition has been reset: code that raises
the signal itself raises it again and so ends the process, but code that was sent the signal goes on.
-/

namespace Bsord.Kernel

open Library Panic

/-- The signal that code is bound to raise when it is resumed. -/
def Status.signal? : Status → Option Signal
  | .running => none
  | .faulting signal => some signal
  | .aborting => some .abrt

def below : Status → List Activation → Status
  | status, [] => status
  | _, activation :: inner => below activation.interrupted inner

theorem below_push {status interrupted : Status} (inner : List Activation)
    (same : inner = [] → interrupted = status) : below interrupted inner = below status inner := by
  cases inner with
  | nil => exact same rfl
  | cons _ _ => rfl

variable {Tid : Type} {σ σ' : State Tid} {t : Tid} {signal : Signal} {outer : List Activation}

/-- The code on top of some handlers of the thread, whatever handlers have interrupted it, is bound to
    raise a signal whose disposition is the default. -/
structure Doomed (t : Tid) (signal : Signal) (outer : List Activation) (σ : State Tid) : Prop where
  bound : ∃ inner, (σ.threads t).activations = inner ++ outer ∧
    (below (σ.threads t).status inner).signal? = some signal
  default : σ.disposition signal = .default

theorem Doomed.running (doomed : Doomed t signal outer σ) (running : (σ.threads t).status = .running) :
    ∃ activation inner, (σ.threads t).activations = activation :: (inner ++ outer) ∧
      (below activation.interrupted inner).signal? = some signal := by
  obtain ⟨inner, activations, bound⟩ := doomed.bound
  cases inner with
  | nil =>
    rw [running] at bound
    cases bound
  | cons activation inner => exact ⟨activation, inner, activations, bound⟩

theorem Doomed.returned (doomed : Doomed t signal outer σ) (returned : (σ.threads t).activations = outer) :
    (σ.threads t).status.signal? = some signal := by
  obtain ⟨inner, activations, bound⟩ := doomed.bound
  rw [returned] at activations
  rw [List.self_eq_append_left.mp activations] at bound
  exact bound

variable [DecidableEq Tid]

/-! ## Dispositions -/

/-- Nothing installs another handler after `install_panic_handler`. -/
def Installed (σ : State Tid) : Prop :=
  ∀ signal, σ.disposition signal = .default ∨ σ.disposition signal = .handler panicAction

theorem enter_disposition {action : Sigaction} {p : Process} {interrupted : Status}
    (reset : action.resetHand = true) :
    (σ.enter t signal action p interrupted).disposition = Function.update σ.disposition signal .default :=
  if_pos reset

theorem enter_default {t' : Tid} {other : Signal} {action : Sigaction} {p : Process} {interrupted : Status}
    (default : σ.disposition signal = .default) :
    (σ.enter t' other action p interrupted).disposition signal = .default := by
  simp only [State.enter]
  split
  · rw [Function.update_apply]
    split
    · rfl
    · exact default
  · exact default

theorem Installed.deliver (installed : Installed σ) (signal : Signal) (p : Process)
    (interrupted : Status) : Installed (σ.deliver t signal p interrupted) := by
  intro other
  cases installed signal with
  | inl default =>
    rw [State.deliver, default]
    exact installed other
  | inr handler =>
    rw [State.deliver, handler]
    show (σ.enter t signal panicAction p interrupted).disposition other = _ ∨
      (σ.enter t signal panicAction p interrupted).disposition other = _
    rw [enter_disposition rfl, Function.update_apply]
    split
    · exact .inl rfl
    · exact installed other

theorem Installed.step {label : Label Tid} (installed : Installed σ) (step : Step σ label σ') :
    Installed σ' := by
  obtain ⟨_, action⟩ := step
  cases action with
  | work _ _ _ | exit _ _ _ | event _ _ _ _ | ret _ _ _ _ | faultMasked _ _ _ | abortAgain _ _ | sendMasked _ =>
    exact installed
  | fault _ _ _ | abort _ _ | send _ => exact installed.deliver _ _ _
  | release _ _ => exact Installed.deliver (σ := σ.setPending _ _) installed _ _ _

/-! ## Code that raises its signal again -/

theorem enter_thread {t' : Tid} {p : Process} {action : Sigaction} {interrupted : Status}
    (other : t' ≠ t) : (σ.enter t' signal action p interrupted).threads t = σ.threads t :=
  Function.update_of_ne (Ne.symm other) _ _

theorem Doomed.enter (doomed : Doomed t signal outer σ) {t' : Tid} {other : Signal} {p : Process}
    {action : Sigaction} {interrupted : Status}
    (origin : (σ.threads t').status = .running ∨ interrupted = (σ.threads t').status) :
    Doomed t signal outer (σ.enter t' other action p interrupted) := by
  constructor
  · by_cases here : t' = t
    · subst here
      obtain ⟨inner, activations, bound⟩ := doomed.bound
      have same : below interrupted inner = below (σ.threads t').status inner := by
        apply below_push
        intro top
        cases origin with
        | inl running =>
          rw [top, below, running] at bound
          cases bound
        | inr same => exact same
      refine ⟨⟨σ.entered.length, other :: action.mask, (panicHandler p other.number).events, interrupted⟩ ::
        inner, ?_, ?_⟩
      · simp only [State.enter, Function.update_self, activations, List.cons_append]
      · rw [below, same]
        exact bound
    · rw [enter_thread here]
      exact doomed.bound
  · exact enter_default doomed.default

theorem Doomed.deliver (doomed : Doomed t signal outer σ) {t' : Tid} {other : Signal} {p : Process}
    {interrupted : Status}
    (origin : (σ.threads t').status = .running ∨ interrupted = (σ.threads t').status)
    (live : (σ.deliver t' other p interrupted).ended = none) :
    Doomed t signal outer (σ.deliver t' other p interrupted) := by
  simp only [State.deliver] at live ⊢
  split
  case h_1 default =>
    rw [default] at live
    cases live
  case h_2 action _ => exact doomed.enter origin

theorem thread_update {P : Thread → Prop} {t' : Tid} {thread : Thread}
    (threads : σ'.threads = Function.update σ.threads t' thread) (before : P (σ.threads t))
    (own : t' = t → P thread) : P (σ'.threads t) := by
  rw [threads]
  by_cases here : t' = t
  · rw [← here, Function.update_self]
    exact own here
  · rw [Function.update_of_ne (Ne.symm here)]
    exact before

/-- A step of one thread that leaves the code of another, or its own code below the handlers, as it is. -/
theorem Doomed.update (doomed : Doomed t signal outer σ) {t' : Tid} {thread : Thread}
    (threads : σ'.threads = Function.update σ.threads t' thread) (dispositions : σ'.disposition = σ.disposition)
    (own : t' = t → ∃ inner, thread.activations = inner ++ outer ∧
      (below thread.status inner).signal? = some signal) : Doomed t signal outer σ' where
  bound := thread_update (P := fun thread => ∃ inner, thread.activations = inner ++ outer ∧
    (below thread.status inner).signal? = some signal) threads doomed.bound own
  default := by rw [dispositions, doomed.default]

theorem Doomed.step {label : Label Tid} (doomed : Doomed t signal outer σ) (step : Step σ label σ')
    (live : σ'.ended = none) : Doomed t signal outer σ' := by
  obtain ⟨_, action⟩ := step
  cases action with
  | work _ _ _ => exact doomed
  | exit _ _ _ => cases live
  | @event t' innermost _ event todo top next running _ =>
    -- The handler that goes on is one above the bound code, or of another thread.
    refine doomed.update rfl rfl fun here => ?_
    subst here
    obtain ⟨activation, inner, activations, bound⟩ := doomed.running running
    rw [top] at activations
    cases activations
    exact ⟨{ innermost with todo } :: inner, rfl, bound⟩
  | @ret t' innermost _ top done running _ =>
    refine doomed.update rfl rfl fun here => ?_
    subst here
    obtain ⟨activation, inner, activations, bound⟩ := doomed.running running
    rw [top] at activations
    cases activations
    exact ⟨inner, rfl, bound⟩
  | fault faults _ _ =>
    apply doomed.deliver _ live
    cases faults with
    | inl running => exact .inl running
    | inr again => exact .inr again.symm
  | faultMasked _ _ _ => cases live
  | abort running _ => exact doomed.deliver (.inl running) live
  | abortAgain _ _ => cases live
  | send unmasked => exact doomed.deliver (.inr rfl) live
  | sendMasked masked =>
    refine doomed.update rfl rfl fun here => ?_
    subst here
    exact doomed.bound
  | @release t' other _ waits unmasked =>
    have pending : Doomed t signal outer (σ.setPending t' ((σ.threads t').pending.erase other)) := by
      refine doomed.update rfl rfl fun here => ?_
      subst here
      exact doomed.bound
    refine pending.deliver (.inr ?_) live
    simp only [State.setPending, State.setThread, Function.update_self]

def Label.Synchronous (t : Tid) (signal : Signal) : Label Tid → Prop
  | .fault t' raised _ => t' = t ∧ raised = signal
  | .abort t' _ => t' = t ∧ signal = .abrt
  | _ => False

/-- A step of the program that a thread runs. -/
def Label.Program (t : Tid) : Label Tid → Prop
  | .work t' | .exit t' => t' = t
  | _ => False

/-- A step that the code of a thread takes itself. -/
def Label.Own (t : Tid) : Label Tid → Prop
  | .work t' | .exit t' | .event t' | .ret t' | .fault t' _ _ | .abort t' _ => t' = t
  | .send _ _ _ | .release _ _ _ => False

/-- A step of a thread: one of its code, or the delivery of a signal that is pending in it. -/
def Label.Advances (t : Tid) : Label Tid → Prop
  | .work t' | .exit t' | .event t' | .ret t' | .fault t' _ _ | .abort t' _ | .release t' _ _ => t' = t
  | .send _ _ _ => False

instance (t : Tid) (label : Label Tid) : Decidable (label.Advances t) :=
  match label with
  | .work t' | .exit t' | .event t' | .ret t' | .fault t' _ _ | .abort t' _ | .release t' _ _ =>
    inferInstanceAs (Decidable (t' = t))
  | .send _ _ _ => inferInstanceAs (Decidable False)

/-- Code that raises a signal itself either ends the process or is bound to raise the signal again. -/
theorem doomed_of_synchronous (installed : Installed σ) {label : Label Tid} (step : Step σ label σ')
    (raises : label.Synchronous t signal) (live : σ'.ended = none) :
    Doomed t signal (σ.threads t).activations σ' := by
  have entered : ∀ {p : Process} {interrupted : Status}, interrupted.signal? = some signal →
      (σ.deliver t signal p interrupted).ended = none →
        Doomed t signal (σ.threads t).activations (σ.deliver t signal p interrupted) := by
    intro p interrupted bound live
    cases installed signal with
    | inl default =>
      rw [State.deliver, default] at live
      cases live
    | inr handler =>
      rw [State.deliver, handler]
      constructor
      · refine ⟨[⟨σ.entered.length, signal :: panicAction.mask, (panicHandler p signal.number).events,
          interrupted⟩], ?_, bound⟩
        simp only [State.enter, Function.update_self, List.singleton_append]
      · show (σ.enter t signal panicAction p interrupted).disposition signal = .default
        rw [enter_disposition rfl, Function.update_self]
  obtain ⟨_, action⟩ := step
  cases action with
  | fault _ _ _ | abort _ _ =>
    obtain ⟨rfl, rfl⟩ := raises
    exact entered rfl live
  | faultMasked _ _ _ | abortAgain _ _ => cases live
  | work _ _ _ | exit _ _ _ | event _ _ _ _ | ret _ _ _ _ | send _ | sendMasked _ | release _ _ =>
    exact raises.elim

/-- What the bound code does when the handlers above it have returned: it raises its signal, which ends
    the process. -/
theorem Doomed.ends (doomed : Doomed t signal outer σ) (returned : (σ.threads t).activations = outer)
    {label : Label Tid} (own : label.Own t) (step : Step σ label σ') :
    σ'.ended = some (.signal signal) := by
  have bound := doomed.returned returned
  have halted : (σ.threads t).status ≠ .running := by
    intro running
    rw [running] at bound
    cases bound
  have raised : ∀ {other}, (σ.threads t).status = .running ∨ (σ.threads t).status = .faulting other →
      other = signal := by
    intro other faults
    cases faults with
    | inl running => exact absurd running halted
    | inr again =>
      rw [again] at bound
      exact Option.some.inj bound
  obtain ⟨_, action⟩ := step
  cases action with
  | work _ running _ | exit _ running _ | event _ _ running _ | ret _ _ running _ | abort running _ =>
    cases own
    exact absurd running halted
  | fault faults _ _ =>
    cases own
    rw [raised faults, State.deliver, doomed.default]
    rfl
  | faultMasked faults _ _ =>
    cases own
    rw [raised faults]
    rfl
  | abortAgain aborting _ =>
    cases own
    rw [aborting] at bound
    cases bound
    rfl
  | send _ | sendMasked _ | release _ _ => exact own.elim

omit [DecidableEq Tid] in
theorem Label.Synchronous.process {label : Label Tid} (raises : label.Synchronous t signal) :
    Nonempty Process := by
  cases label with
  | fault _ _ p | abort _ p => exact ⟨p⟩
  | work _ | exit _ | event _ | ret _ | send _ _ _ | release _ _ _ => exact raises.elim

/-- A thread that is not back in the program is about to be delivered a signal, to go on in a handler, to
    return from one, or to raise its signal. -/
theorem exists_advance (live : σ.ended = none)
    (inside : (σ.threads t).status = .running → (σ.threads t).activations ≠ []) (p : Process) :
    ∃ label σ', label.Advances t ∧ Step σ label σ' := by
  by_cases clear : (σ.threads t).Clear
  · cases status : (σ.threads t).status with
    | aborting => exact ⟨.abort t p, _, rfl, live, .abortAgain status clear⟩
    | faulting other =>
      by_cases masked : (σ.threads t).Masks other
      · exact ⟨.fault t other p, _, rfl, live, .faultMasked (.inr status) masked clear⟩
      · exact ⟨.fault t other p, _, rfl, live, .fault (.inr status) masked clear⟩
    | running =>
      obtain ⟨activation, outer, inner⟩ := List.exists_cons_of_ne_nil (inside status)
      cases next : activation.todo with
      | nil => exact ⟨.ret t, _, rfl, live, .ret inner next status clear⟩
      | cons event todo => exact ⟨.event t, _, rfl, live, .event inner next status clear⟩
  · simp only [Thread.Clear, not_forall] at clear
    obtain ⟨other, pending, unmasked⟩ := clear
    exact ⟨.release t other p, _, rfl, live, .release pending unmasked⟩

omit [DecidableEq Tid] in
theorem Doomed.inside (doomed : Doomed t signal outer σ) (running : (σ.threads t).status = .running) :
    (σ.threads t).activations ≠ [] := by
  obtain ⟨_, _, activations, _⟩ := doomed.running running
  rw [activations]
  exact List.cons_ne_nil _ _

theorem Doomed.no_program (doomed : Doomed t signal outer σ) {label : Label Tid}
    (program : label.Program t) : ¬ Step σ label σ' := by
  intro step
  obtain ⟨_, action⟩ := step
  cases action with
  | work idle running _ | exit idle running _ =>
    cases program
    exact doomed.inside running idle
  | event _ _ _ _ | ret _ _ _ _ | fault _ _ _ | faultMasked _ _ _ | abort _ _ | abortAgain _ _ | send _
  | sendMasked _ | release _ _ => exact program.elim

/-- Doomed as long as the process lives. -/
def Panicked (t : Tid) (signal : Signal) (outer : List Activation) (σ : State Tid) : Prop :=
  σ.ended = none → Doomed t signal outer σ

theorem Panicked.step {label : Label Tid} (panicked : Panicked t signal outer σ) (step : Step σ label σ') :
    Panicked t signal outer σ' :=
  fun live => (panicked step.1).step step live

/-- **A panic is fatal to code that raises the signal itself**: from a fault or a call of `abort` on, in
    the program or in a handler, the code that it interrupts takes no further step, and neither does the
    code below.  As long as the process lives the thread can go on, and when the handlers above have
    returned, each step of its code raises the signal again and ends the process by it. -/
theorem panic_fatal {labels labels' : List (Label Tid)} {σ σ₁ σ₂ : State Tid} {label : Label Tid}
    (run : Run Step (installed Tid) labels σ) (raises : label.Synchronous t signal)
    (raise : Step σ label σ₁) (later : Run Step σ₁ labels' σ₂) :
    (∀ label ∈ labels', ¬ label.Program t) ∧
    (σ₂.ended = none → (σ.threads t).activations <:+ (σ₂.threads t).activations ∧
      (∃ next σ₃, next.Advances t ∧ Step σ₂ next σ₃) ∧
      ((σ₂.threads t).activations = (σ.threads t).activations →
        ∀ again σ₃, again.Own t → Step σ₂ again σ₃ → σ₃.ended = some (.signal signal))) := by
  have setting := run.invariant Installed Installed.step fun signal =>
    .inr (installed_disposition signal)
  have start : Panicked t signal (σ.threads t).activations σ₁ :=
    doomed_of_synchronous setting raise raises
  constructor
  · intro label mem program
    exact later.never (Panicked t signal (σ.threads t).activations) Panicked.step
      (fun panicked step => (panicked step.1).no_program program step) start mem
  · intro live
    have doomed := later.invariant (Panicked t signal (σ.threads t).activations) Panicked.step start live
    obtain ⟨inner, activations, _⟩ := doomed.bound
    obtain ⟨p⟩ := raises.process
    exact ⟨⟨inner, activations.symm⟩, exists_advance live doomed.inside p,
      fun returned again σ₃ own step => doomed.ends returned own step⟩

/-! ## A whole report -/

def Label.inHandler : Label Tid → Bool
  | .event _ | .ret _ => true
  | _ => false

def State.printed (σ : State Tid) (t : Tid) (activation : Activation) (outer : List Activation) : State Tid where
  disposition := σ.disposition
  threads := Function.update σ.threads t ⟨.running, { activation with todo := [] } :: outer, []⟩
  entered := σ.entered
  output := σ.output ++ (lines activation.todo).map (activation.report, ·)
  ended := σ.ended

def State.reported (σ : State Tid) (t : Tid) (signal : Signal) (p : Process) (interrupted : Status) :
    State Tid where
  disposition := Function.update σ.disposition signal .default
  threads := Function.update σ.threads t ⟨interrupted, [], []⟩
  entered := σ.entered ++ [(p, signal)]
  output := σ.output ++ (script (p, signal)).map (σ.entered.length, ·)
  ended := σ.ended

omit [DecidableEq Tid] in
theorem Thread.clear {thread : Thread} (nothing : thread.pending = []) : thread.Clear := by
  intro signal mem
  rw [nothing] at mem
  exact (List.not_mem_nil mem).elim

theorem run_events (report : Nat) (mask : List Signal) (interrupted : Status) (todo : List Event) :
    ∀ {σ : State Tid}, σ.ended = none →
      σ.threads t = ⟨.running, ⟨report, mask, todo, interrupted⟩ :: outer, []⟩ →
      ∃ labels, Run Step σ labels (σ.printed t ⟨report, mask, todo, interrupted⟩ outer) ∧
        ∀ label ∈ labels, label.inHandler := by
  induction todo with
  | nil =>
    intro σ _ inside
    have same : σ.printed t ⟨report, mask, [], interrupted⟩ outer = σ := by
      simp only [State.printed, ← inside, Function.update_eq_self, lines_nil, List.map_nil, List.append_nil]
    rw [same]
    exact ⟨[], .nil σ, fun _ mem => (List.not_mem_nil mem).elim⟩
  | cons event todo ih =>
    intro σ live inside
    let σ₁ := σ.emit t ⟨report, mask, event :: todo, interrupted⟩ event todo outer
    have first : Step σ (.event t) σ₁ := by
      refine ⟨live, .event ?_ rfl ?_ (Thread.clear ?_)⟩
      · rw [inside]
      · rw [inside]
      · rw [inside]
    have inside₁ : σ₁.threads t = ⟨.running, ⟨report, mask, todo, interrupted⟩ :: outer, []⟩ := by
      simp only [σ₁, State.emit, Function.update_self, inside]
    obtain ⟨labels, rest, handled⟩ := ih (σ := σ₁) live inside₁
    have whole : σ₁.printed t ⟨report, mask, todo, interrupted⟩ outer =
        σ.printed t ⟨report, mask, event :: todo, interrupted⟩ outer := by
      simp only [σ₁, State.printed, State.emit, Function.update_idem, lines_cons event todo, List.map_append,
        List.append_assoc]
    rw [whole] at rest
    exact ⟨_, .cons first rest, List.forall_mem_cons.mpr ⟨rfl, handled⟩⟩

/-- A handler that nothing disturbs prints its script and returns to the code it interrupted. -/
theorem run_report {σ : State Tid} (live : σ.ended = none) (idle : σ.threads t = ⟨.running, [], []⟩)
    (signal : Signal) (p : Process) (interrupted : Status) :
    ∃ labels, Run Step (σ.enter t signal panicAction p interrupted) labels
      (σ.reported t signal p interrupted) ∧ ∀ label ∈ labels, label.inHandler := by
  let σ₁ := σ.enter t signal panicAction p interrupted
  let entered : Activation :=
    ⟨σ.entered.length, [signal], (panicHandler p signal.number).events, interrupted⟩
  have inside : σ₁.threads t = ⟨.running, [entered], []⟩ := by
    simp only [σ₁, State.enter, Function.update_self, idle]
    rfl
  obtain ⟨labels, run, handled⟩ := run_events σ.entered.length [signal] interrupted _ (σ := σ₁) live inside
  have thread : (σ₁.printed t entered []).threads t = ⟨.running, [{ entered with todo := [] }], []⟩ :=
    Function.update_self _ _ _
  have ret : Step (σ₁.printed t entered []) (.ret t)
      ((σ₁.printed t entered []).setThread t
        ⟨interrupted, [], ((σ₁.printed t entered []).threads t).pending⟩) := by
    have inner : ((σ₁.printed t entered []).threads t).activations = { entered with todo := [] } :: [] := by
      rw [thread]
    refine ⟨live, .ret inner rfl ?_ (Thread.clear ?_)⟩
    · rw [thread]
    · rw [thread]
  have whole : (σ₁.printed t entered []).setThread t
      ⟨interrupted, [], ((σ₁.printed t entered []).threads t).pending⟩ =
      σ.reported t signal p interrupted := by
    simp only [σ₁, entered, State.printed, State.setThread, State.enter, State.reported,
      Function.update_idem, Function.update_self, panicAction, if_true, script, printed]
  rw [whole] at ret
  exact ⟨_, run.snoc ret, List.forall_mem_append.mpr ⟨handled, by simp [Label.inHandler]⟩⟩

theorem panic_fatal_sample : ∃ (labels : List (Label Bool)) (σ₁ σ₂ : State Bool),
    Step (installed Bool) (.fault true .segv worker) σ₁ ∧ Run Step σ₁ labels σ₂ ∧
      σ₂.output = (script (worker, .segv)).map (0, ·) ∧ .work true ∉ labels ∧
      ∃ again σ₃, Step σ₂ again σ₃ ∧ σ₃.ended = some (.signal .segv) := by
  have raise : Step (installed Bool) (.fault true .segv worker)
      ((installed Bool).enter true .segv panicAction worker (.faulting .segv)) :=
    ⟨rfl, .fault (.inl rfl) (by decide) (Thread.clear rfl)⟩
  obtain ⟨labels, later, _⟩ := run_report (σ := installed Bool) (t := true) rfl rfl .segv worker
    (.faulting .segv)
  have raises : (Label.fault true .segv worker).Synchronous true .segv := ⟨rfl, rfl⟩
  obtain ⟨never, ends⟩ := panic_fatal (.nil (installed Bool)) raises raise later
  obtain ⟨_, _, fatal⟩ := ends rfl
  have again : Step ((installed Bool).reported true .segv worker (.faulting .segv))
      (.fault true .segv worker) _ :=
    ⟨rfl, .fault (.inr rfl) (by decide) (Thread.clear rfl)⟩
  have own : (Label.fault true .segv worker).Own true := rfl
  exact ⟨labels, _, _, raise, later, rfl, fun mem => never _ mem rfl, _, _, again, fatal rfl _ _ own again⟩

/-- A thread that was sent the signal goes on with the program after its report. -/
theorem panic_not_fatal : ∃ (labels : List (Label Bool)) (σ₁ σ₂ : State Bool),
    Step (installed Bool) (.send true .segv worker) σ₁ ∧ Run Step σ₁ labels σ₂ ∧
      σ₂.output = (script (worker, .segv)).map (0, ·) ∧ Step σ₂ (.work true) σ₂ := by
  obtain ⟨labels, later, _⟩ := run_report (σ := installed Bool) (t := true) rfl rfl .segv worker .running
  have send : Step (installed Bool) (.send true .segv worker)
      ((installed Bool).enter true .segv panicAction worker .running) :=
    ⟨rfl, .send (by decide)⟩
  exact ⟨labels, _, _, send, later, rfl, rfl, .work rfl rfl (Thread.clear rfl)⟩

end Bsord.Kernel
