import Bsord.Plano.Command
import Mathlib.Data.List.Induction

/-! # The calls under way

Which functions the calls of commands run, and how the lines that are printed during a call are indented,
in any run, whatever exceptions are raised and caught in it.
-/

namespace Bsord.Plano

open Library

variable {Value : Type} {objects : Objects Value} {vars : List (Command Value)} {s s' : State Value}
  {label : Label Value} {labels : List (Label Value)}

/-! ## Names -/

theorem bindCommands_snoc (vars : List (Command Value)) (var : Command Value) :
    bindCommands (vars ++ [var]) = Function.update (bindCommands vars) var.name (some var) := by
  simp [bindCommands]

/-- A name is bound to the last command of the module that has it. -/
theorem bindCommands_eq (vars : List (Command Value)) (name : String) :
    bindCommands vars name = vars.reverse.find? (·.name = name) := by
  induction vars using List.reverseRecOn with
  | nil => rfl
  | append_singleton vars var ih =>
    rw [bindCommands_snoc, List.reverse_append, List.reverse_singleton, List.singleton_append, List.find?_cons]
    by_cases same : var.name = name
    · subst same
      simp
    · simpa [same, Function.update_of_ne (Ne.symm same)] using ih

theorem name_of_bound {name : String} {command : Command Value} (bound : bindCommands vars name = some command) :
    command.name = name := by
  rw [bindCommands_eq] at bound
  simpa using List.find?_some bound

/-- The command's name is bound to it. -/
def IsBound (vars : List (Command Value)) (command : Command Value) : Prop :=
  bindCommands vars command.name = some command

theorem isBound_of_bound {name : String} {command : Command Value} (bound : bindCommands vars name = some command) :
    IsBound vars command := by
  rw [IsBound, name_of_bound bound, bound]

/-! ## Functions -/

/-- The command whose function the call runs. -/
def Frame.function : Frame Value → Option (Command Value)
  | call self _ => some self
  | overridden .. => none
  | parent command => some command

/-- The function is that of a bound command or of the parent of one. -/
def Dispatched (vars : List (Command Value)) (command : Command Value) : Prop :=
  IsBound vars command ∨ ∃ self, IsBound vars self ∧ self.parent = some command

/-- How a call stands on those before it. -/
def Stands (vars : List (Command Value)) : Frame Value → List (Frame Value) → Prop
  | .call self _, _ => IsBound vars self
  | .overridden self, frames => ¬IsBound vars self ∧ ∀ frame ∈ frames.head?, frame.isOverridden = false
  | .parent parent, frames => parentOf frames = some parent

def Standing (vars : List (Command Value)) : List (Frame Value) → Prop
  | [] => True
  | frame :: frames => Stands vars frame frames ∧ Standing vars frames

/-- The calls stand on each other; only a call that is about to be made can stand on an overridden one. -/
structure Proper (vars : List (Command Value)) (s : State Value) : Prop where
  standing : Standing vars s.frames
  control : match s.control with
    | .calling self _ _ => ∀ frame ∈ s.frames.head?, frame.isOverridden → IsBound vars self
    | _ => ∀ frame ∈ s.frames.head?, frame.isOverridden = false

theorem Standing.dropWhile {frames : List (Frame Value)} (standing : Standing vars frames) :
    Standing vars (frames.dropWhile Frame.isOverridden) ∧
      ∀ frame ∈ (frames.dropWhile Frame.isOverridden).head?, frame.isOverridden = false := by
  induction frames with
  | nil => exact ⟨standing, by simp⟩
  | cons frame frames ih =>
    cases overridden : frame.isOverridden with
    | true => simpa [overridden] using ih standing.2
    | false => simpa [overridden] using standing

theorem head_of_parentOf {frames : List (Frame Value)} {command : Command Value}
    (found : parentOf frames = some command) : ∀ frame ∈ frames.head?, frame.isOverridden = false := by
  match frames, found with
  | .call self count :: frames, _ => simp [Frame.isOverridden]

theorem Proper.step (proper : Proper vars s) (step : Step objects vars s label s') : Proper vars s' := by
  obtain ⟨standing, control⟩ := proper
  cases step with
  | call running command args kwargs =>
    simp only [running] at control
    exact ⟨standing, fun frame top overridden => absurd overridden (by simp [control frame top])⟩
  | unbound calling missing => exact ⟨standing.dropWhile.1, standing.dropWhile.2⟩
  -- The command called is not the one bound to its name, so this is not the call of an override again.
  | override calling bound other =>
    simp only [calling] at control
    have unbound : ¬IsBound vars _ := fun isBound => other (Option.some.inj (bound.symm.trans isBound))
    refine ⟨⟨⟨unbound, ?_⟩, standing⟩, fun frame top overridden => isBound_of_bound bound⟩
    intro frame top
    rw [Bool.eq_false_iff]
    exact fun overridden => unbound (control frame top overridden)
  | display calling bound missing => exact ⟨standing.dropWhile.1, standing.dropWhile.2⟩
  | start calling bound shown => exact ⟨⟨bound, standing⟩, by simp [Frame.isOverridden]⟩
  | parent running found => exact ⟨⟨found, standing⟩, by simp [running, Frame.isOverridden]⟩
  | noParent running called missing =>
    simp only [running] at control
    exact ⟨standing, control⟩
  | finish running top =>
    rw [top] at standing
    simpa [running] using Proper.mk standing.2.dropWhile.1 standing.2.dropWhile.2
  | parentReturns running top =>
    rw [top] at standing
    simpa [running] using Proper.mk (s := { s with frames := _ }) standing.2 (by
      simpa [running] using head_of_parentOf standing.1)
  | raise active top =>
    rw [top] at standing
    exact ⟨standing.2.dropWhile.1, standing.2.dropWhile.2⟩
  | caught raising called =>
    simp only [raising] at control
    exact ⟨standing, control⟩

theorem proper_of_run (run : Run (Step objects vars) .start labels s) : Proper vars s :=
  run.invariant (Proper vars) (fun proper step => proper.step step) ⟨trivial, by simp [State.start]⟩

theorem Standing.suffix {above below : List (Frame Value)} (standing : Standing vars (above ++ below)) :
    Standing vars below := by
  induction above with
  | nil => exact standing
  | cons frame above ih => exact ih standing.2

theorem Standing.dispatched {frames : List (Frame Value)} (standing : Standing vars frames) :
    ∀ frame ∈ frames, ∀ command ∈ frame.function, Dispatched vars command := by
  intro frame member command function
  obtain ⟨above, below, rfl⟩ := List.append_of_mem member
  obtain ⟨stands, rest⟩ := standing.suffix
  cases frame with
  | call self count =>
    obtain rfl := Option.some.inj function
    exact Or.inl stands
  | overridden self => cases function
  | parent parent =>
    obtain rfl := Option.some.inj function
    match below, stands, rest with
    -- `parent` is called from the function of a command, which is right below it.
    | .call self count :: below, found, rest => exact Or.inr ⟨self, rest.1, found⟩

/-- In every run the functions that run are those of the commands that the module's variables bind last to
    their names, and of their parents.  A call is passed on to an overriding command at most once, and
    `parent` does not reach the parent of a parent. -/
theorem dispatches (run : Run (Step objects vars) .start labels s) :
    (∀ frame ∈ s.frames, ∀ command ∈ frame.function, Dispatched vars command) ∧
    (∀ above self other below, s.frames ≠ above ++ .overridden self :: .overridden other :: below) ∧
    ∀ above command other below, s.frames ≠ above ++ .parent command :: .parent other :: below := by
  have standing := (proper_of_run run).standing
  refine ⟨standing.dispatched, ?_, ?_⟩
  · rintro above self other below frames
    rw [frames] at standing
    simpa [Frame.isOverridden] using standing.suffix.1.2
  · rintro above command other below frames
    rw [frames] at standing
    cases standing.suffix.1

def units : Objects Unit := ⟨(), (), fun _ _ => true, fun _ => "()", fun _ => none⟩

/-- A command that calls `prancer`, and commands that extend both. -/
def prancer : Command Unit := .root 0 "prancer" none []

def vixen : Command Unit := .root 1 "vixen" none []

def extended : List (Command Unit) := [.child 2 none prancer, .child 3 none vixen]

/-- The function of `prancer` runs, called by the command that overrides it. -/
def prancing : State Unit where
  control := .running
  frames := [.parent prancer, .call (.child 2 none prancer) 2, .overridden prancer, .parent vixen,
    .call (.child 3 none vixen) 1]
  runningCommands := [.child 3 none vixen, .child 2 none prancer]
  output := [.start 1 "vixen" [], .start 2 "prancer" []]

theorem run_prancing : Run (Step units extended) .start
    [.call (.child 3 none vixen) [] [], .start (.child 3 none vixen) [], .parent, .call prancer [] [],
      .override (.child 2 none prancer), .start (.child 2 none prancer) [], .parent] prancing :=
  .cons (.call rfl _ [] []) (.cons (.start rfl rfl rfl) (.cons (.parent rfl rfl) (.cons (.call rfl prancer [] [])
    (.cons (.override rfl rfl (fun same => by cases same)) (.cons (.start rfl rfl rfl) (.single (.parent rfl rfl)))))))

theorem dispatches_prancing :
    (∀ frame ∈ prancing.frames, ∀ command ∈ frame.function, Dispatched extended command) ∧
    (∀ above self other below, prancing.frames ≠ above ++ .overridden self :: .overridden other :: below) ∧
    ∀ above command other below, prancing.frames ≠ above ++ .parent command :: .parent other :: below :=
  dispatches run_prancing

/-! ## Indentation -/

def Frame.dashes : Frame Value → Option Nat
  | call _ count => some count
  | _ => none

/-- The commands under way are among the running ones, each at the place that its dashes give. -/
structure Indented (frames : List (Frame Value)) (runningCommands : List (Command Value)) : Prop where
  placed : ∀ self count, .call self count ∈ frames → 0 < count ∧ runningCommands[count - 1]? = some self
  deeper : (frames.filterMap Frame.dashes).Pairwise (· > ·)

variable {frames : List (Frame Value)} {runningCommands : List (Command Value)} {self : Command Value} {count : Nat}

theorem Indented.le (indented : Indented frames runningCommands) (member : .call self count ∈ frames) :
    count ≤ runningCommands.length := by
  obtain ⟨positive, placed⟩ := indented.placed self count member
  have := (List.getElem?_eq_some_iff.mp placed).1
  omega

theorem Indented.sublist (indented : Indented frames runningCommands) {fewer : List (Frame Value)}
    (sublist : fewer.Sublist frames) : Indented fewer runningCommands where
  placed self count member := indented.placed self count (sublist.subset member)
  deeper := indented.deeper.sublist (sublist.filterMap _)

theorem Indented.cons (indented : Indented frames runningCommands) {frame : Frame Value}
    (other : frame.dashes = none) : Indented (frame :: frames) runningCommands where
  placed self count member := by
    rcases List.mem_cons.mp member with rfl | member
    · cases other
    · exact indented.placed self count member
  deeper := by
    rw [List.filterMap_cons_none other]
    exact indented.deeper

theorem Indented.append (indented : Indented frames runningCommands) (command : Command Value) :
    Indented frames (runningCommands ++ [command]) where
  placed self count member := by
    obtain ⟨positive, placed⟩ := indented.placed self count member
    exact ⟨positive, by rw [List.getElem?_append_left (List.getElem?_eq_some_iff.mp placed).1, placed]⟩
  deeper := indented.deeper

theorem Indented.call (indented : Indented frames runningCommands) (command : Command Value) :
    Indented (.call command (runningCommands.length + 1) :: frames) (runningCommands ++ [command]) where
  placed self count member := by
    rcases List.mem_cons.mp member with same | member
    · obtain ⟨rfl, rfl⟩ := Frame.call.inj same
      simp
    · exact (indented.append command).placed self count member
  deeper := by
    simp only [List.filterMap_cons, Frame.dashes, List.pairwise_cons]
    refine ⟨?_, indented.deeper⟩
    intro count member
    obtain ⟨frame, among, dashes⟩ := List.mem_filterMap.mp member
    cases frame with
    | call self depth =>
      obtain rfl := Option.some.inj dashes
      exact Nat.lt_succ_of_le (indented.le among)
    | overridden self => cases dashes
    | parent command => cases dashes

theorem Indented.lt (indented : Indented (.call self count :: frames) runningCommands) {other : Command Value}
    {depth : Nat} (member : .call other depth ∈ frames) : depth < count := by
  have deeper := indented.deeper
  simp only [List.filterMap_cons, Frame.dashes, List.pairwise_cons] at deeper
  exact deeper.1 depth (List.mem_filterMap.mpr ⟨_, member, rfl⟩)

theorem Indented.finish (indented : Indented (.call self count :: frames) runningCommands) :
    Indented frames runningCommands.dropLast where
  placed other depth member := by
    have less := indented.lt member
    have bound := indented.le (List.mem_cons_self ..)
    obtain ⟨positive, placed⟩ := indented.placed other depth (List.mem_cons_of_mem _ member)
    exact ⟨positive, by rw [List.getElem?_dropLast, if_pos (by omega), placed]⟩
  deeper := (indented.sublist (List.sublist_cons_self _ _)).deeper

theorem Indented.step (indented : Indented s.frames s.runningCommands) (step : Step objects vars s label s') :
    Indented s'.frames s'.runningCommands := by
  cases step with
  | call running command args kwargs => exact indented
  | unbound calling missing => exact indented.sublist (List.dropWhile_sublist _)
  | override calling bound other => exact indented.cons rfl
  | display calling bound missing => exact (indented.append _).sublist (List.dropWhile_sublist _)
  | start calling bound shown => exact indented.call _
  | parent running found => exact indented.cons rfl
  | noParent running called missing => exact indented
  | finish running top =>
    rw [top] at indented
    exact indented.finish.sublist (List.dropWhile_sublist _)
  | parentReturns running top =>
    rw [top] at indented
    exact indented.sublist (List.sublist_cons_self _ _)
  | raise active top =>
    rw [top] at indented
    exact indented.sublist ((List.dropWhile_sublist _).trans (List.sublist_cons_self _ _))
  | caught raising called => exact indented

theorem indented_of_run (run : Run (Step objects vars) .start labels s) : Indented s.frames s.runningCommands :=
  run.invariant (fun s => Indented s.frames s.runningCommands) (fun indented step => indented.step step)
    ⟨by simp [State.start], by simp [State.start]⟩

/-- The line is about what a command with that many dashes does. -/
def Line.Inside (count : Nat) : Line → Prop
  | start dashes _ _ => count < dashes
  | finish dashes _ => count < dashes
  | resume dashes _ => count ≤ dashes

/-- The steps in which the call of `self` after the calls `frames` neither returns nor raises an exception. -/
def During (self : Command Value) (count : Nat) (frames : List (Frame Value)) (s : State Value)
    (label : Label Value) : Prop :=
  s.frames = .call self count :: frames → label ≠ .finish self ∧ label ≠ .raise

theorem dropWhile_above (above : List (Frame Value)) (self : Command Value) (count : Nat)
    (frames : List (Frame Value)) : ∃ above',
      (above ++ .call self count :: frames).dropWhile Frame.isOverridden = above' ++ .call self count :: frames := by
  induction above with
  | nil => exact ⟨[], rfl⟩
  | cons frame above ih =>
    cases overridden : frame.isOverridden with
    | true => simpa [overridden] using ih
    | false => exact ⟨frame :: above, by simp [overridden]⟩

theorem inside_step (indented : Indented s.frames s.runningCommands) {above : List (Frame Value)}
    (under : s.frames = above ++ .call self count :: frames) (during : During self count frames s label)
    (step : Step objects vars s label s') :
    (∃ above', s'.frames = above' ++ .call self count :: frames) ∧
      ∃ lines, s'.output = s.output ++ lines ∧ ∀ line ∈ lines, line.Inside count := by
  cases step with
  | call running command args kwargs => exact ⟨⟨above, under⟩, [], by simp, by simp⟩
  | unbound calling missing => exact ⟨by rw [under]; exact dropWhile_above .., [], by simp, by simp⟩
  | override calling bound other => exact ⟨⟨_ :: above, by rw [under]; rfl⟩, [], by simp, by simp⟩
  | display calling bound missing => exact ⟨by rw [under]; exact dropWhile_above .., [], by simp, by simp⟩
  | start calling bound shown =>
    refine ⟨⟨_ :: above, by rw [under]; rfl⟩, _, rfl, ?_⟩
    have bound := indented.le (by rw [under]; simp : .call self count ∈ s.frames)
    simpa [Line.Inside] using Nat.lt_succ_of_le bound
  | parent running found => exact ⟨⟨_ :: above, by rw [under]; rfl⟩, [], by simp, by simp⟩
  | noParent running called missing => exact ⟨⟨above, under⟩, [], by simp, by simp⟩
  | @finish running other depth rest top =>
    rw [under] at top
    cases above with
    | nil =>
      -- With nothing above the call, this would be its own return.
      obtain ⟨same, -⟩ := List.cons.inj top
      obtain ⟨rfl, rfl⟩ := Frame.call.inj same
      exact absurd rfl (during under).1
    | cons frame above =>
      obtain ⟨rfl, rfl⟩ := List.cons.inj top
      rw [under] at indented
      -- The call that returns was made later, so that its lines have more dashes.
      have less : count < depth := indented.lt (List.mem_append_right above (List.mem_cons_self ..))
      refine ⟨dropWhile_above .., _, List.append_assoc .., ?_⟩
      intro line member
      rcases List.mem_append.mp member with member | member
      · obtain rfl := List.mem_singleton.mp member
        exact less
      · obtain ⟨command, -, rfl⟩ := List.mem_map.mp member
        exact Nat.le_sub_one_of_lt less
  | parentReturns running top =>
    rw [under] at top
    cases above with
    | nil => cases (List.cons.inj top).1
    | cons frame above =>
      obtain ⟨rfl, rfl⟩ := List.cons.inj top
      exact ⟨⟨above, rfl⟩, [], by simp, by simp⟩
  | raise active top =>
    cases above with
    | nil => exact absurd rfl (during under).2
    | cons frame above =>
      rw [under] at top
      obtain ⟨rfl, rfl⟩ := List.cons.inj top
      exact ⟨dropWhile_above .., [], by simp, by simp⟩
  | caught raising called => exact ⟨⟨above, under⟩, [], by simp, by simp⟩

theorem inside_of_run (during : Run (restrict (Step objects vars) (During self count frames)) s labels s')
    (indented : Indented s.frames s.runningCommands) (top : s.frames = .call self count :: frames) :
    ∃ lines, s'.output = s.output ++ lines ∧ ∀ line ∈ lines, line.Inside count := by
  -- The invariant: the call stands among those under way, and all lines since have been inside it.
  suffices Indented s'.frames s'.runningCommands ∧ (∃ above, s'.frames = above ++ .call self count :: frames) ∧
      ∃ lines, s'.output = s.output ++ lines ∧ ∀ line ∈ lines, line.Inside count from this.2.2
  induction during with
  | nil => exact ⟨indented, ⟨[], top⟩, [], by simp, by simp⟩
  | snoc _ last ih =>
    obtain ⟨indented, ⟨above, under⟩, lines, output, inside⟩ := ih
    obtain ⟨under', more, output', inside'⟩ := inside_step indented under last.1 last.2
    refine ⟨indented.step last.2, under', lines ++ more, by rw [output', output, List.append_assoc], ?_⟩
    intro line member
    exact (List.mem_append.mp member).elim (inside line) (inside' line)

/-- From the line that starts a command to the line that finishes it, all lines are about what the command
    does, in any run: also when it catches exceptions of commands that it calls, which print no last line. -/
theorem lines_inside {s₁ s₂ s₃ : State Value} {displayArgs : List String} {labels' : List (Label Value)}
    (run : Run (Step objects vars) .start labels s) (started : Step objects vars s (.start self displayArgs) s₁)
    (during : Run (restrict (Step objects vars) (During self (s.runningCommands.length + 1) s.frames)) s₁ labels' s₂)
    (top : s₂.frames = .call self (s.runningCommands.length + 1) :: s.frames)
    (finished : Step objects vars s₂ (.finish self) s₃) :
    ∃ lines, s₃.output = s.output ++ .start (s.runningCommands.length + 1) self.name displayArgs :: lines ++
        .finish (s.runningCommands.length + 1) self.name ::
          resumed s.runningCommands.length s₃.runningCommands ∧
      ∀ line ∈ lines, line.Inside (s.runningCommands.length + 1) := by
  have indented := indented_of_run run
  cases started with
  | start calling bound shown =>
    obtain ⟨lines, output, inside⟩ := inside_of_run during (indented.call self) rfl
    refine ⟨lines, ?_, inside⟩
    cases finished with
    | finish running top' =>
      obtain ⟨same, -⟩ := List.cons.inj (top.symm.trans top')
      obtain ⟨-, rfl⟩ := Frame.call.inj same
      simp [output]

def build : Command Unit := .root 0 "build" none []

def check : Command Unit := .root 1 "check" none []

def building : State Unit := ⟨.running, [.call build 1], [build], [.start 1 "build" []]⟩

def checking : State Unit := ⟨.running, [.call check 2, .call build 1], [build, check],
  [.start 1 "build" [], .start 2 "check" []]⟩

/-- `build` after the exception of `check`, which is still among the running commands. -/
def caught : State Unit := { checking with frames := [.call build 1] }

theorem during_building : Run (restrict (Step units [build, check]) (During build 1 [])) building
    [.call check [] [], .start check [], .raise, .caught] caught := by
  have called : Step units [build, check] building (.call check [] [])
      { building with control := .calling check [] [] } := .call rfl check [] []
  have started : Step units [build, check] { building with control := .calling check [] [] } (.start check [])
      checking := .start rfl rfl rfl
  have top : checking.frames = .call check 2 :: [.call build 1] := rfl
  have raised : Step units [build, check] checking .raise { checking with
      control := .raising
      frames := [Frame.call build 1].dropWhile Frame.isOverridden } := .raise (Or.inl rfl) top
  have caught : Step units [build, check] { caught with control := .raising } .caught caught :=
    .caught rfl (by simp [caught])
  exact .cons ⟨fun _ => by simp, called⟩ (.cons ⟨fun _ => by simp, started⟩
    (.cons ⟨fun top => absurd top (by simp [checking]), raised⟩ (.single ⟨fun _ => by simp, caught⟩)))

theorem lines_inside_build : ∃ lines, [.start 1 "build" [], .start 2 "check" [], .finish 1 "build", .resume 0 "build"] =
    [] ++ Line.start 1 build.name [] :: lines ++ .finish 1 build.name :: resumed 0 [build] ∧
      ∀ line ∈ lines, line.Inside 1 :=
  lines_inside (Run.single (.call rfl build [] [])) (.start rfl rfl rfl) during_building rfl (.finish rfl rfl)

end Bsord.Plano
