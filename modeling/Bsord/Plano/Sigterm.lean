import Bsord.Plano.Processes

/-! # What becomes of the processes

In every run the handler for SIGTERM reaches the processes in `_child_processes`, and the end of a `with` block
the process of the block.  A process that is being started when plano is interrupted is reached by neither.
-/

namespace Bsord.Plano.Processes

open Library

variable {s s' : State} {label : Label} {labels : List Label} {n : Nat}

/-! ## Steps and processes -/

def Child.Reached (child : Child) : Prop := child.ended ≠ none ∨ child.terminated = true

def State.Reached (s : State) (n : Nat) : Prop := ∃ child, s.children[n]? = some child ∧ child.Reached

/-- What a step may do to a process, which is told to end if it is `told`. -/
structure Child.Changes (told : Bool) (child child' : Child) : Prop where
  reached : child.Reached ∨ told = true → child'.Reached
  terminated : child'.terminated = true → child.terminated = true ∨ told = true
  ended : ∀ code, child.ended = some code → child'.ended = some code
  exitCode : child'.exitCode = child.exitCode ∨ child'.exitCode = child.ended

namespace Child

theorem Changes.refl (child : Child) : Changes false child child where
  reached reached := reached.resolve_right (by simp)
  terminated terminated := .inl terminated
  ended _ ended := ended
  exitCode := .inl rfl

theorem changes_finish {child : Child} (alive : child.ended = none) (code : Int) :
    Changes false child (child.finish code) where
  reached _ := .inl (by simp [finish])
  terminated terminated := .inl terminated
  ended other ended := by simp [alive] at ended
  exitCode := .inl rfl

theorem changes_poll (child : Child) : Changes false child child.poll where
  reached reached := reached.resolve_right (by simp)
  terminated terminated := .inl terminated
  ended _ ended := ended
  exitCode := .inr rfl

theorem changes_removeStash (child : Child) : Changes false child child.removeStash where
  reached reached := reached.resolve_right (by simp)
  terminated terminated := .inl terminated
  ended _ ended := ended
  exitCode := .inl rfl

theorem changes_terminate (child : Child) : Changes true child child.terminate where
  reached _ := by cases ended : child.ended <;> simp [Reached, terminate, poll, ended]
  terminated _ := .inr rfl
  ended code ended := by simp [terminate, poll, ended]
  exitCode := .inr (by cases ended : child.ended <;> simp [terminate, poll, ended])

end Child

/-- A step starts a process, or changes one at most. -/
inductive Altered (s : State) (label : Label) (s' : State) : Prop where
  | started (stash : Bool) (started : label = .start) (children : s'.children = s.children ++ [.started stash])
  | same (other : label ≠ .start) (children : s'.children = s.children)
  | changed (n : Nat) (told : Bool) (change : Child → Child)
      (changes : ∀ child, s.children[n]? = some child → Child.Changes told child (change child))
      (known : told = true → n ∈ s.childProcesses)
      (stash : label = .remove n ∨ ∀ child, (change child).stashFile = child.stashFile) (other : label ≠ .start)
      (children : s'.children = s.children.modify n change)

namespace Altered

theorem after (altered : Altered s label s') {child : Child} (found : s.children[n]? = some child) :
    ∃ child' told, s'.children[n]? = some child' ∧ Child.Changes told child child' := by
  cases altered with
  | started stash started children =>
    have bound : n < s.children.length := (List.getElem?_eq_some_iff.mp found).1
    exact ⟨child, false, by rw [children, List.getElem?_append_left bound, found], .refl child⟩
  | same other children => exact ⟨child, false, children ▸ found, .refl child⟩
  | changed m told change changes known stash other children =>
    rw [children, List.getElem?_modify, found]
    split
    · rename_i same
      exact ⟨_, told, rfl, changes child (same ▸ found)⟩
    · exact ⟨_, false, rfl, .refl child⟩

theorem before (altered : Altered s label s') {child' : Child} (found : s'.children[n]? = some child') :
    (∃ stash, child' = .started stash) ∨
    ∃ child told, s.children[n]? = some child ∧ Child.Changes told child child' ∧
      (told = true → n ∈ s.childProcesses) ∧ (label = .remove n ∨ child'.stashFile = child.stashFile) := by
  cases altered with
  | started stash started children =>
    rw [children, List.getElem?_append] at found
    split at found
    · exact .inr ⟨child', false, found, .refl child', nofun, .inr rfl⟩
    · exact .inl ⟨stash, List.mem_singleton.mp (List.mem_of_getElem? found)⟩
  | same other children => exact .inr ⟨child', false, children ▸ found, .refl child', nofun, .inr rfl⟩
  | changed m told change changes known stash other children =>
    rw [children, List.getElem?_modify] at found
    obtain ⟨child, before, changed⟩ := Option.map_eq_some_iff.mp found
    split at changed
    · rename_i same
      subst same changed
      exact .inr ⟨child, told, before, changes child before, known, stash.imp_right fun kept => kept child⟩
    · subst changed
      exact .inr ⟨child, false, before, .refl child, nofun, .inr rfl⟩

theorem reached (altered : Altered s label s') (reached : s.Reached n) : s'.Reached n := by
  obtain ⟨child, found, reached⟩ := reached
  obtain ⟨child', told, after, changes⟩ := altered.after found
  exact ⟨child', after, changes.reached (.inl reached)⟩

theorem length (altered : Altered s label s') :
    s'.children.length = s.children.length + if label = .start then 1 else 0 := by
  cases altered with
  | started stash started children => rw [children, List.length_append, if_pos started]; rfl
  | same other children => rw [children, if_neg other, Nat.add_zero]
  | changed m told change changes known stash other children =>
    rw [children, List.length_modify, if_neg other, Nat.add_zero]

theorem lt (altered : Altered s label s') (started : n < s.children.length) : n < s'.children.length := by
  rw [altered.length]
  exact Nat.lt_add_right _ started

end Altered

/-! ## What plano has -/

theorem State.reached_terminate (started : n < s.children.length) : (s.update n .terminate).Reached n := by
  refine ⟨s.children[n].terminate, ?_, (Child.changes_terminate _).reached (.inr rfl)⟩
  simp [started]

/-- The processes that plano deals with are those it knows. -/
structure Handling (s : State) : Prop where
  starting : ∀ n, s.pc.starting? = some n → n < s.children.length
  started : ∀ n ∈ s.childProcesses, n < s.children.length
  blocks : ∀ n ∈ s.blocks, n ∈ s.childProcesses
  leaving : ∀ n raised, s.pc = .leaving n raised → n ∈ s.childProcesses
  todo : ∀ todo ∈ s.handlers, ∀ n ∈ todo, n ∈ s.childProcesses
  handled : ∀ todo ∈ s.handlers, ∀ n ∈ s.childProcesses, n ∈ todo ∨ s.Reached n
  sent : ∀ n child, s.children[n]? = some child → child.terminated = true → n ∈ s.childProcesses

theorem Altered.told (known : n ∈ s.childProcesses) (other : label ≠ .start)
    (children : s'.children = s.children.modify n .terminate) : Altered s label s' :=
  .changed n true _ (fun child _ => child.changes_terminate) (fun _ => known)
    (.inr fun child => by cases ended : child.ended <;> simp [Child.terminate, Child.poll, ended]) other children

theorem Altered.polled (other : label ≠ .start) (children : s'.children = s.children.modify n .poll) :
    Altered s label s' :=
  .changed n false _ (fun child _ => child.changes_poll) nofun (.inr fun _ => rfl) other children

theorem Handling.altered (handling : Handling s) (step : Step s label s') : Altered s label s' := by
  cases step with
  | main idle step =>
    cases step with
    | start at_ stash run => exact .started stash rfl rfl
    | left at_ => exact .told (handling.leaving _ _ at_) nofun rfl
    | kill at_ known | stop at_ known => exact .told known nofun rfl
    | stopEnded at_ | reap at_ => exact .polled nofun rfl
    | remove at_ => exact .changed _ false _ (fun child _ => child.changes_removeStash) nofun (.inl rfl) nofun rfl
    | _ => exact .same nofun rfl
  | @ends n child found alive code =>
    refine .changed n false (.finish code) (fun other here => ?_) nofun (.inr fun _ => rfl) nofun rfl
    cases found.symm.trans here
    exact Child.changes_finish alive code
  | sigterm running => exact .same nofun rfl
  | @handle m todo handlers under =>
    exact .told (handling.todo (m :: todo) (by simp [under]) m List.mem_cons_self) nofun rfl
  | exit under => exact .same nofun rfl

theorem childProcesses_of_main (step : Main s label s') :
    (∃ m, s.pc.starting? = some m ∧ s'.pc.starting? = none ∧ s'.childProcesses = s.childProcesses ++ [m]) ∨
      s'.childProcesses = s.childProcesses := by
  cases step with
  | append at_ => exact .inl ⟨_, by rw [at_]; rfl, rfl, rfl⟩
  | appendRun at_ => exact .inl ⟨_, by rw [at_]; rfl, rfl, rfl⟩
  | _ => exact .inr rfl

theorem known_of_main (step : Main s label s') (known : n ∈ s.childProcesses) : n ∈ s'.childProcesses := by
  rcases childProcesses_of_main step with ⟨m, -, -, added⟩ | same
  · rw [added]
    exact List.mem_append_left _ known
  · rwa [same]

theorem starting_of_main (step : Main s label s') (starting : s'.pc.starting? = some n) :
    label = .start ∧ n = s.children.length := by
  cases step with
  | start at_ => exact ⟨rfl, (Option.some.inj starting).symm⟩
  | @left m raised at_ => cases raised <;> cases starting
  | enter at_ | kill at_ | stopEnded at_ => simp [at_, Pc.starting?] at starting
  | _ => cases starting

theorem handlers_of_main (step : Main s label s') : s'.handlers = s.handlers := by
  cases step <;> rfl

theorem blocks_of_main (step : Main s label s') :
    (∀ m ∈ s'.blocks, m ∈ s.blocks ∨ m ∈ s.childProcesses) ∧
      ∀ m raised, s'.pc = .leaving m raised → m ∈ s.blocks := by
  cases step with
  | @enter at_ m known =>
    refine ⟨fun other member => ?_, by simp [at_]⟩
    exact (List.mem_cons.mp member).elim (fun same => .inr (same ▸ known)) .inl
  | leave at_ inner | unwind at_ inner =>
    refine ⟨fun m member => .inl (inner ▸ List.mem_cons_of_mem _ member), fun m raised leaving => ?_⟩
    cases leaving
    rw [inner]
    exact List.mem_cons_self
  | @left m raised at_ =>
    refine ⟨fun m member => .inl member, ?_⟩
    cases raised <;> simp [Pc.resume]
  | kill at_ | stopEnded at_ => exact ⟨fun m member => .inl member, by simp [at_]⟩
  | _ => exact ⟨fun m member => .inl member, by simp⟩

theorem Handling.known_of_told (handling : Handling s) (step : Step s label s')
    (kept : ∀ m ∈ s.childProcesses, m ∈ s'.childProcesses) {child' : Child} (found : s'.children[n]? = some child')
    (terminated : child'.terminated = true) : n ∈ s'.childProcesses := by
  refine kept n ?_
  rcases (handling.altered step).before found with ⟨stash, rfl⟩ | ⟨child, told, before, changes, known, -⟩
  · cases terminated
  · exact (changes.terminated terminated).elim (handling.sent n child before) known

theorem Handling.step (handling : Handling s) (step : Step s label s') : Handling s' := by
  have altered := handling.altered step
  have sent := @handling.known_of_told s s' label
  cases step with
  | main idle step =>
    have none : s'.handlers = [] := (handlers_of_main step).trans idle
    obtain ⟨blocks, leaving⟩ := blocks_of_main step
    exact {
      starting := fun m starting => by
        obtain ⟨rfl, rfl⟩ := starting_of_main step starting
        rw [altered.length, if_pos rfl]
        exact Nat.lt_succ_self _
      started := fun m known => by
        rcases childProcesses_of_main step with ⟨other, starting, -, added⟩ | same
        · rw [added, List.mem_append, List.mem_singleton] at known
          exact altered.lt (known.elim (handling.started m) fun same => handling.starting m (same ▸ starting))
        · exact altered.lt (handling.started m (same ▸ known))
      blocks := fun m member => known_of_main step ((blocks m member).elim (handling.blocks m) id)
      leaving := fun m raised at_ => known_of_main step (handling.blocks m (leaving m raised at_))
      todo := by simp [none]
      handled := by simp [none]
      sent := fun m child => sent m (.main idle step) (fun _ => known_of_main step) }
  | ends found alive code =>
    exact {
      starting := fun m starting => altered.lt (handling.starting m starting)
      started := fun m known => altered.lt (handling.started m known)
      blocks := handling.blocks
      leaving := handling.leaving
      todo := handling.todo
      handled := fun todo member m known => (handling.handled todo member m known).imp_right altered.reached
      sent := fun m child => sent m (.ends found alive code) fun _ => id }
  | sigterm running =>
    exact {
      starting := handling.starting
      started := handling.started
      blocks := handling.blocks
      leaving := handling.leaving
      todo := List.forall_mem_cons.mpr ⟨fun _ => id, handling.todo⟩
      handled := List.forall_mem_cons.mpr ⟨fun _ => .inl, handling.handled⟩
      sent := handling.sent }
  | @handle m todo handlers under =>
    have todos := List.forall_mem_cons.mp (under ▸ handling.todo)
    have handleds := List.forall_mem_cons.mp (under ▸ handling.handled)
    refine {
      starting := fun other starting => altered.lt (handling.starting other starting)
      started := fun other known => altered.lt (handling.started other known)
      blocks := handling.blocks
      leaving := handling.leaving
      todo := List.forall_mem_cons.mpr ⟨fun other member => todos.1 other (List.mem_cons_of_mem _ member), todos.2⟩
      handled := List.forall_mem_cons.mpr ⟨fun other known => ?_, fun todo member other known => ?_⟩
      sent := fun other child => sent other (.handle under) fun _ => id }
    -- the one at the head has just been told, the others are still to be looked at
    · rcases handleds.1 other known with member | reached
      · rcases List.mem_cons.mp member with rfl | member
        · exact .inr (State.reached_terminate (handling.started other known))
        · exact .inl member
      · exact .inr (altered.reached reached)
    · exact (handleds.2 todo member other known).imp_right altered.reached
  | exit under =>
    exact {
      starting := nofun
      started := handling.started
      blocks := handling.blocks
      leaving := nofun
      todo := nofun
      handled := nofun
      sent := handling.sent }

theorem handling_of_run (run : Run Step .start labels s) : Handling s := by
  refine run.invariant Handling (fun handling step => handling.step step) ?_
  constructor <;> simp [State.start, Pc.starting?]

/-! ## SIGTERM -/

/-- Each process is known to plano, unless it is being started or plano has been interrupted while starting it. -/
structure Known (labels : List Label) (s : State) : Prop where
  placed : ∀ n < s.children.length, n ∈ s.childProcesses ∨ s.pc.starting? = some n ∨ .exit (some n) ∈ labels
  starting : ∀ n, s.pc.starting? = some n → n ∉ s.childProcesses
  lost : ∀ n, .exit (some n) ∈ labels → n < s.children.length ∧ n ∉ s.childProcesses ∧ s.pc.starting? ≠ some n

theorem Known.frame (known : Known labels s) (length : s'.children.length = s.children.length)
    (same : s'.childProcesses = s.childProcesses) (starting : s'.pc.starting? = s.pc.starting?)
    (other : ∀ m, label ≠ .exit (some m)) : Known (labels ++ [label]) s' where
  placed m bound := by
    rw [same, starting]
    exact (known.placed m (length ▸ bound)).imp_right (.imp_right (List.mem_append_left _))
  starting m at_ := by
    rw [same]
    exact known.starting m (starting ▸ at_)
  lost m member := by
    rw [length, same, starting]
    rcases List.mem_append.mp member with member | last
    · exact known.lost m member
    · exact absurd (List.mem_singleton.mp last).symm (other m)

theorem Known.append {m : Nat} (known : Known labels s) (starting : s.pc.starting? = some m)
    (length : s'.children.length = s.children.length) (added : s'.childProcesses = s.childProcesses ++ [m])
    (after : s'.pc.starting? = none) : Known (labels ++ [.append]) s' where
  placed n bound := by
    rcases known.placed n (length ▸ bound) with before | same | lost
    · exact .inl (added ▸ List.mem_append_left _ before)
    · cases starting.symm.trans same
      exact .inl (by simp [added])
    · exact .inr (.inr (List.mem_append_left _ lost))
  starting n at_ := by simp [after] at at_
  lost n member := by
    have member : .exit (some n) ∈ labels := by simpa using member
    obtain ⟨bound, unknown, other⟩ := known.lost n member
    refine ⟨length ▸ bound, ?_, by simp [after]⟩
    rw [added, List.mem_append, List.mem_singleton, not_or]
    exact ⟨unknown, fun same => other (same ▸ starting)⟩

theorem Known.start (known : Known labels s) (handling : Handling s) (idle : s.pc.starting? = none)
    (length : s'.children.length = s.children.length + 1) (same : s'.childProcesses = s.childProcesses)
    (after : s'.pc.starting? = some s.children.length) : Known (labels ++ [.start]) s' where
  placed n bound := by
    rw [length] at bound
    rw [same, after]
    rcases Nat.lt_succ_iff_lt_or_eq.mp bound with before | rfl
    · rcases known.placed n before with known | starting | lost
      · exact .inl known
      · cases idle.symm.trans starting
      · exact .inr (.inr (List.mem_append_left _ lost))
    · exact .inr (.inl rfl)
  starting n at_ := by
    cases after.symm.trans at_
    rw [same]
    exact fun member => absurd (handling.started _ member) (Nat.lt_irrefl _)
  lost n member := by
    have member : .exit (some n) ∈ labels := by simpa using member
    obtain ⟨bound, unknown, -⟩ := known.lost n member
    rw [length, same, after]
    exact ⟨Nat.lt_succ_of_lt bound, unknown, fun at_ => by cases at_; exact Nat.lt_irrefl _ bound⟩

theorem Known.exit (known : Known labels s) (handling : Handling s) (children : s'.children = s.children)
    (same : s'.childProcesses = s.childProcesses) (after : s'.pc.starting? = none) :
    Known (labels ++ [.exit s.pc.starting?]) s' where
  placed n bound := by
    rw [children] at bound
    rw [same]
    rcases known.placed n bound with known | starting | lost
    · exact .inl known
    · exact .inr (.inr (by simp [starting]))
    · exact .inr (.inr (List.mem_append_left _ lost))
  starting n at_ := by simp [after] at at_
  lost n member := by
    rw [children, same, after]
    rcases List.mem_append.mp member with member | last
    · obtain ⟨bound, unknown, -⟩ := known.lost n member
      exact ⟨bound, unknown, nofun⟩
    · have starting : s.pc.starting? = some n := (Label.exit.inj (List.mem_singleton.mp last)).symm
      exact ⟨handling.starting n starting, known.starting n starting, nofun⟩

theorem Known.step (known : Known labels s) (handling : Handling s) (step : Step s label s') :
    Known (labels ++ [label]) s' := by
  have length := (handling.altered step).length
  cases step with
  | main idle step =>
    cases step with
    | start at_ => exact known.start handling (by simp [at_, Pc.starting?]) length rfl rfl
    | append at_ | appendRun at_ => exact known.append (by simp [at_, Pc.starting?]) length rfl rfl
    | @left m raised at_ =>
      refine known.frame length rfl ?_ nofun
      cases raised <;> simp [Pc.resume, at_, Pc.starting?]
    | enter at_ | kill at_ | stopEnded at_ => exact known.frame length rfl rfl nofun
    | startFails at_ | leave at_ | unwind at_ | stop at_ | wait at_ | timeout at_ | reap at_ | noStash at_ | print at_
    | printFails at_ | noPrint at_ | remove at_ | checked at_ | checkFails at_ | raise at_ | caught at_ | ret at_
    | uncaught at_ => exact known.frame length rfl (by simp [at_, Pc.starting?]) nofun
  | ends found alive code => exact known.frame length rfl rfl nofun
  | sigterm running => exact known.frame length rfl rfl nofun
  | handle under => exact known.frame length rfl rfl nofun
  | exit under => exact known.exit handling rfl rfl rfl

theorem known_of_run (run : Run Step .start labels s) : Known labels s ∧ Handling s := by
  refine run.invariant_history (fun labels s => Known labels s ∧ Handling s)
    (fun inv step => ⟨inv.1.step inv.2 step, inv.2.step step⟩) ⟨⟨?_, ?_, ?_⟩, handling_of_run (.nil _)⟩
  all_goals simp [State.start, Pc.starting?]

/-- A SIGTERM comes while a process is being started, and another one when the next has been started. -/
def interrupted : State where
  children := [⟨none, none, false, .none⟩, ⟨none, none, true, .none⟩]
  childProcesses := [1]
  blocks := []
  pc := .running
  handlers := [[]]
  printed := []

def interruptedLabels : List Label := [.start, .sigterm, .exit (some 0), .caught, .start, .append, .sigterm, .handle 1]

theorem run_interrupted : Run Step .start interruptedLabels interrupted :=
  .cons (.main rfl (.start rfl false none)) <| .cons (.sigterm nofun) <| .cons (.exit rfl) <|
    .cons (.main rfl (.caught rfl)) <| .cons (.main rfl (.start rfl false none)) <| .cons (.main rfl (.append rfl)) <|
    .cons (.sigterm nofun) <| .single (.handle rfl)

/-- A process whose block has been left has ended or been told to. -/
structure Entered (labels : List Label) (s : State) : Prop where
  left : ∀ n, .enter n ∈ labels → n ∈ s.blocks ∨ (∃ raised, s.pc = .leaving n raised) ∨ s.Reached n
  exited : ∀ raised, s.pc = .exited raised → s.blocks = [] ∧ s.handlers = []

theorem Entered.frame (entered : Entered labels s) (altered : Altered s label s')
    (blocks : ∀ n ∈ s.blocks, n ∈ s'.blocks ∨ ∃ raised, s'.pc = .leaving n raised)
    (leaving : ∀ n raised, s.pc = .leaving n raised → s'.pc = .leaving n raised ∨ s'.Reached n)
    (other : ∀ n, label = .enter n → n ∈ s'.blocks)
    (exited : ∀ raised, s'.pc = .exited raised → s'.blocks = [] ∧ s'.handlers = []) :
    Entered (labels ++ [label]) s' where
  left n member := by
    rcases List.mem_append.mp member with member | last
    · rcases entered.left n member with open_ | ⟨raised, at_⟩ | reached
      · exact (blocks n open_).imp_right .inl
      · exact .inr ((leaving n raised at_).imp_left fun at_ => ⟨raised, at_⟩)
      · exact .inr (.inr (altered.reached reached))
    · exact .inl (other n (List.mem_singleton.mp last).symm)
  exited := exited

theorem Entered.step (entered : Entered labels s) (handling : Handling s) (step : Step s label s') :
    Entered (labels ++ [label]) s' := by
  have altered := handling.altered step
  cases step with
  | main idle step =>
    cases step with
    | enter at_ =>
      exact entered.frame altered (fun n member => .inl (List.mem_cons_of_mem _ member)) (by simp [at_])
        (by simp) (by simp [at_])
    | leave at_ inner | unwind at_ inner =>
      refine entered.frame altered (fun n member => ?_) (by simp [at_]) nofun nofun
      rw [inner] at member
      rcases List.mem_cons.mp member with rfl | member
      · exact .inr ⟨_, rfl⟩
      · exact .inl member
    | @left m raised at_ =>
      -- `__exit__` tells the process to end, unless it has ended
      have reached := State.reached_terminate (handling.started m (handling.leaving m raised at_))
      refine entered.frame altered (fun n member => .inl member) (fun n other leaving => ?_) nofun ?_
      · cases at_.symm.trans leaving
        exact .inr reached
      · cases raised <;> simp [Pc.resume]
    | ret at_ closed | uncaught at_ closed =>
      exact entered.frame altered (fun n member => .inl member) (by simp [at_]) nofun fun _ _ => ⟨closed, idle⟩
    | kill at_ | stopEnded at_ =>
      exact entered.frame altered (fun n member => .inl member) (by simp [at_]) nofun (by simp [at_])
    | start at_ | append at_ | appendRun at_ | startFails at_ | stop at_ | wait at_ | timeout at_ | reap at_
    | noStash at_ | print at_ | printFails at_ | noPrint at_ | remove at_ | checked at_ | checkFails at_ | raise at_
    | caught at_ =>
      exact entered.frame altered (fun n member => .inl member) (by simp [at_]) nofun nofun
  | ends found alive code =>
    exact entered.frame altered (fun n member => .inl member) (fun n raised at_ => .inl at_) nofun entered.exited
  | sigterm running =>
    exact entered.frame altered (fun n member => .inl member) (fun n raised at_ => .inl at_) nofun
      fun raised at_ => absurd at_ (running raised)
  | handle under =>
    refine entered.frame altered (fun n member => .inl member) (fun n raised at_ => .inl at_) nofun
      fun raised at_ => ?_
    rw [(entered.exited raised at_).2] at under
    cases under
  | exit under =>
    refine entered.frame altered (fun n member => .inl member) (fun n raised at_ => .inr ?_) nofun nofun
    -- `__exit__` is given up, but the handler has been there
    have known := handling.leaving n raised at_
    exact (handling.handled [] (by simp [under]) n known).resolve_left (by simp)

def served : State where
  children := [⟨none, none, true, .none⟩, ⟨some 0, some 0, false, .none⟩]
  childProcesses := [0, 1]
  blocks := []
  pc := .exited none
  handlers := []
  printed := []

def servedLabels : List Label :=
  [.start, .append, .enter 0, .start, .append, .ends 1 0, .reap 1, .quiet, .checked, .leave, .terminate 0, .ret]

theorem run_served : Run Step .start servedLabels served :=
  .cons (.main rfl (.start rfl false none)) <| .cons (.main rfl (.append rfl)) <|
    .cons (.main rfl (.enter rfl (n := 0) (by decide))) <| .cons (.main rfl (.start rfl false (some true))) <|
    .cons (.main rfl (.appendRun rfl)) <| .cons (.ends (n := 1) rfl rfl 0) <|
    .cons (.main rfl (.reap rfl rfl (by decide))) <| .cons (.main rfl (.noStash rfl rfl rfl)) <|
    .cons (.main rfl (.checked rfl rfl rfl (.inr (by decide)))) <| .cons (.main rfl (.leave rfl rfl)) <|
    .cons (.main rfl (.left rfl)) <| .single (.main rfl (.ret rfl rfl))

def State.Exited (s : State) (n : Nat) (code : Int) : Prop :=
  ∃ child, s.children[n]? = some child ∧ child.exitCode = some code

/-- What plano has learned of a process is how it has ended, and its stashed output has been printed when that is
    a failure. -/
structure Stashed (s : State) : Prop where
  learned : ∀ (n : Nat) (child : Child), s.children[n]? = some child →
    ∀ code, child.exitCode = some code → child.ended = some code
  printed : ∀ n ∈ s.printed, ∃ code, s.Exited n code ∧ 0 < code
  removing : ∀ n check, s.pc = .removing n check → ∃ code, s.Exited n code ∧ (0 < code → n ∈ s.printed)
  removed : ∀ (n : Nat) (child : Child), s.children[n]? = some child → child.stashFile = .removed →
    ∃ code, s.Exited n code ∧ (0 < code → n ∈ s.printed)

theorem Stashed.exited (stashed : Stashed s) (altered : Altered s label s') {code : Int} (exited : s.Exited n code) :
    s'.Exited n code := by
  obtain ⟨child, found, exited⟩ := exited
  have ended := stashed.learned n child found code exited
  obtain ⟨child', told, after, changes⟩ := altered.after found
  refine ⟨child', after, ?_⟩
  rcases changes.exitCode with same | same
  · rw [same, exited]
  · rw [same, ended]

theorem Stashed.learns (stashed : Stashed s) (altered : Altered s label s') {child' : Child}
    (found : s'.children[n]? = some child') {code : Int} (exited : child'.exitCode = some code) :
    child'.ended = some code := by
  rcases altered.before found with ⟨stash, rfl⟩ | ⟨child, told, before, changes, -⟩
  · cases exited
  · refine changes.ended code ?_
    rcases changes.exitCode with same | same
    · exact stashed.learned n child before code (same ▸ exited)
    · exact same ▸ exited

theorem Stashed.frame (stashed : Stashed s) (altered : Altered s label s') (kept : ∀ n ∈ s.printed, n ∈ s'.printed)
    (printed : ∀ n ∈ s'.printed, n ∈ s.printed ∨ ∃ code, s.Exited n code ∧ 0 < code)
    (removing : ∀ n check, s'.pc = .removing n check → ∃ code, s.Exited n code ∧ (0 < code → n ∈ s'.printed))
    (removed : ∀ n, label = .remove n → ∃ code, s.Exited n code ∧ (0 < code → n ∈ s'.printed)) : Stashed s' where
  learned n child found code exited := stashed.learns altered found exited
  printed n member := by
    obtain ⟨code, exited, failed⟩ := (printed n member).elim (stashed.printed n) id
    exact ⟨code, stashed.exited altered exited, failed⟩
  removing n check at_ := by
    obtain ⟨code, exited, shown⟩ := removing n check at_
    exact ⟨code, stashed.exited altered exited, shown⟩
  removed n child found gone := by
    rcases altered.before found with ⟨stash, rfl⟩ | ⟨child, told, before, -, -, here | same⟩
    · cases stash <;> cases gone
    · obtain ⟨code, exited, shown⟩ := removed n here
      exact ⟨code, stashed.exited altered exited, shown⟩
    · obtain ⟨code, exited, shown⟩ := stashed.removed n child before (same.symm.trans gone)
      exact ⟨code, stashed.exited altered exited, fun failed => kept n (shown failed)⟩

theorem Stashed.step (stashed : Stashed s) (handling : Handling s) (step : Step s label s') : Stashed s' := by
  have altered := handling.altered step
  cases step with
  | main idle step =>
    cases step with
    | @print m check at_ child found kept code exited failed =>
      have shown : ∃ code, s.Exited m code ∧ 0 < code := ⟨code, ⟨child, found, exited⟩, failed⟩
      refine stashed.frame altered (fun n member => List.mem_append_left _ member) (fun n member => ?_)
        (fun n other at_ => ?_) nofun
      · refine (List.mem_append.mp member).imp_right fun same => ?_
        rwa [List.mem_singleton.mp same]
      · cases at_
        exact ⟨code, ⟨child, found, exited⟩, fun _ => by simp⟩
    | @noPrint m check at_ child found stash code exited unfailed =>
      refine stashed.frame altered (fun _ => id) (fun _ => .inl) (fun n other at_ => ?_) nofun
      cases at_
      exact ⟨code, ⟨child, found, exited⟩, fun failed => absurd failed (Int.not_lt.mpr unfailed)⟩
    | @remove m check at_ =>
      refine stashed.frame altered (fun _ => id) (fun _ => .inl) nofun fun n same => ?_
      cases same
      exact stashed.removing m check at_
    | @left m raised at_ =>
      refine stashed.frame altered (fun _ => id) (fun _ => .inl) (fun n check at_ => ?_) nofun
      cases raised <;> cases at_
    | enter at_ | kill at_ | stopEnded at_ =>
      exact stashed.frame altered (fun _ => id) (fun _ => .inl) (by simp [at_]) nofun
    | _ => exact stashed.frame altered (fun _ => id) (fun _ => .inl) nofun nofun
  | ends found alive code => exact stashed.frame altered (fun _ => id) (fun _ => .inl) stashed.removing nofun
  | sigterm running => exact stashed.frame altered (fun _ => id) (fun _ => .inl) stashed.removing nofun
  | handle under => exact stashed.frame altered (fun _ => id) (fun _ => .inl) stashed.removing nofun
  | exit under => exact stashed.frame altered (fun _ => id) (fun _ => .inl) nofun nofun

def aborted : State where
  children := [⟨some (-6), some (-6), false, .removed⟩]
  childProcesses := [0]
  blocks := []
  pc := .running
  handlers := []
  printed := []

theorem run_aborted : Run Step .start
    [.start, .append, .ends 0 (-6), .reap 0, .quiet, .remove 0, .checked] aborted :=
  .cons (.main rfl (.start rfl true (some true))) <| .cons (.main rfl (.appendRun rfl)) <|
    .cons (.ends (n := 0) rfl rfl (-6)) <| .cons (.main rfl (.reap rfl rfl (by decide))) <|
    .cons (.main rfl (.noPrint rfl rfl (by decide) rfl (by decide))) <| .cons (.main rfl (.remove rfl)) <|
    .single (.main rfl (.checked rfl rfl rfl (.inr (by decide))))

end Bsord.Plano.Processes
