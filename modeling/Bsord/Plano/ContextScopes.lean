import Bsord.Plano.Contexts

/-! # What is seen inside of context managers

What a program can see of its globals is the environment as a mapping, and the output of the logging only while
the logging is enabled.  This is what each block is entered with and what it leaves, so that programs run as if
their blocks bound it.
-/

namespace Bsord.Plano

open Library.Scoped

structure View where
  environ : String → Option String
  sysPath : List String
  currentDir : CurrentDir
  logging : Option (Level × Option Stream)
  stdout : Stream
  stderr : Stream

def seenLogging (threshold : Level) (output : Option Stream) : Option (Level × Option Stream) :=
  if threshold = .disabled then none else some (threshold, output)

def Globals.view (globals : Globals) : View where
  environ name := globals.environ.lookup name
  sysPath := globals.sysPath
  currentDir := globals.currentDir
  logging := seenLogging globals.loggingThreshold globals.loggingOutput
  stdout := globals.stdout
  stderr := globals.stderr

def View.log (view : View) (level : Level) (format : String) (args : List Argument) : List Printed :=
  match view.logging with
  | none => []
  | some (threshold, output) =>
    if threshold.index ≤ level.index then [⟨output.getD view.stderr, level, format, args⟩] else []

theorem Globals.log_view (globals : Globals) {level : Level} (enabled : level ≠ .disabled) (format : String)
    (args : List Argument) : globals.log level format args = globals.view.log level format args := by
  rw [Globals.log, View.log, Globals.view, seenLogging]
  by_cases disabled : globals.loggingThreshold = .disabled
  · cases level <;> simp_all [Level.index]
  · simp [disabled]

theorem infoLevel_ne (quiet : Bool) : infoLevel quiet ≠ .disabled := by cases quiet <;> simp [infoLevel]

theorem debugLevel_ne (quiet : Bool) : debugLevel quiet ≠ .disabled := by cases quiet <;> simp [debugLevel]

/-! ## The variables -/

theorem lookup_foldl_insert {vars : List (Σ _ : String, String)} (nodup : vars.NodupKeys) (environ : Environ)
    (name : String) :
    (vars.foldl (fun environ var => environ.insert var.1 var.2) environ).lookup name =
      (vars.dlookup name).or (environ.lookup name) := by
  induction vars generalizing environ with
  | nil => rfl
  | cons var vars ih =>
    obtain ⟨set, value⟩ := var
    rw [List.nodupKeys_cons] at nodup
    rw [List.foldl_cons, ih nodup.2]
    by_cases same : name = set
    · subst same
      rw [List.dlookup_eq_none.mpr nodup.1]
      simp
    · rw [List.dlookup_cons_ne _ _ same, AList.lookup_insert_ne same]

theorem lookup_setVars (vars environ : Environ) (name : String) :
    (setVars vars environ).lookup name = (vars.lookup name).or (environ.lookup name) :=
  lookup_foldl_insert vars.nodupKeys environ name

theorem mem_setVars (vars environ : Environ) (name : String) :
    name ∈ setVars vars environ ↔ name ∈ vars ∨ name ∈ environ := by
  simp [← AList.lookup_isSome, lookup_setVars]

theorem lookup_erase_if (environ : Environ) (name erased : String) :
    (environ.erase erased).lookup name = if name = erased then none else environ.lookup name := by
  by_cases same : name = erased
  · subst same
    simp
  · simp [same, AList.lookup_erase_ne same]

theorem lookup_foldl_erase (vars : Environ) (all : List (Σ _ : String, String)) (environ : Environ) (name : String) :
    (all.foldl (fun left var => if var.1 ∈ vars then left else left.erase var.1) environ).lookup name =
      if name ∉ vars ∧ name ∈ all.keys then none else environ.lookup name := by
  induction all generalizing environ with
  | nil => simp
  | cons var all ih =>
    rw [List.foldl_cons, ih]
    by_cases kept : var.1 ∈ vars
    · by_cases same : name = var.1 <;> simp [kept, same]
    · by_cases same : name = var.1 <;> simp [kept, same, lookup_erase_if]

theorem lookup_keepVars (vars environ : Environ) (name : String) :
    (keepVars vars environ).lookup name = if name ∈ vars then environ.lookup name else none := by
  rw [keepVars, lookup_foldl_erase]
  by_cases kept : name ∈ vars
  · simp [kept]
  · simp only [kept, not_false_eq_true, true_and, if_false, ite_eq_left_iff]
    exact AList.lookup_eq_none.mpr

theorem deleteVars_none {previous : Environ} {names : List String} (nodup : names.Nodup) (environ : Environ) :
    (deleteVars previous names environ).1 = none ↔ ∀ name ∈ names, name ∈ previous ∨ name ∈ environ := by
  induction names generalizing environ with
  | nil => simp [deleteVars]
  | cons first names ih =>
    obtain ⟨once, nodup⟩ := List.nodup_cons.mp nodup
    rw [deleteVars]
    split
    · rename_i before
      simp [ih nodup, before]
    · rename_i new
      split
      · rename_i present
        have others : ∀ name ∈ names, (name ∈ environ.erase first ↔ name ∈ environ) := by
          intro name member
          rw [AList.mem_erase]
          exact and_iff_right (fun same => once (same ▸ member))
        rw [ih nodup]
        simp +contextual [present, others]
      · rename_i missing
        simp [new, missing]

theorem lookup_deleteVars {previous : Environ} {names : List String} (environ : Environ)
    (deleted : (deleteVars previous names environ).1 = none) (name : String) :
    (deleteVars previous names environ).2.lookup name =
      if name ∈ names ∧ name ∉ previous then none else environ.lookup name := by
  induction names generalizing environ with
  | nil => simp [deleteVars]
  | cons first names ih =>
    rw [deleteVars] at deleted ⊢
    split at deleted
    · rename_i before
      rw [if_pos before, ih environ deleted]
      by_cases same : name = first <;> simp [same, before]
    · rename_i new
      rw [if_neg new]
      split at deleted
      · rename_i present
        rw [if_pos present, ih _ deleted, lookup_erase_if]
        by_cases same : name = first <;> simp [same, new]
      · cases deleted

/-! ## The scopes -/

namespace View

/-- What a block in a directory prints when it is entered, and what is seen in it. -/
def workingDir (paths : Paths) (dir : String) (quiet : Bool) (directory : Directory) (seen : View) :
    List Printed × Except ContextError View :=
  let entering := seen.log (infoLevel quiet) "Entering directory {}"
    [.repr (paths.getAbsolutePath seen.environ seen.currentDir dir)]
  let making := if directory.present then [] else seen.log .info "Making directory '{}'" [.text dir]
  let changing := seen.log .debug "Changing directory to {}" [.repr dir]
  if dir = "." then ([], .ok seen)
  else if dir = "" then (entering ++ changing, .ok seen)
  else if directory.present || directory.made then
    match directory.entered with
    | none => (entering ++ making ++ changing, .error .osError)
    | some currentDir => (entering ++ making ++ changing, .ok { seen with currentDir })
  else (entering ++ making, .error .osError)

def workingEnv (amend : Bool) (vars : Environ) (seen : View) : View :=
  { seen with environ := fun name => (vars.lookup name).or (if amend then seen.environ name else none) }

def workingModulePath (paths : Paths) (path : ModulePath) (amend : Bool) (seen : View) : View :=
  { seen with sysPath := path.initial paths seen.environ seen.currentDir ++ if amend then seen.sysPath else [] }

def loggingEnabled (level : Level) (output : Output) (seen : View) : List Printed × Except ContextError View :=
  let enabling := seen.log .info "Enabling logging (level={}, output={})" [.repr level.name, output.argument]
  if level = .disabled then (seen.log .info "Disabling logging" [], .ok { seen with logging := none })
  else
    match output with
    | .none => (enabling, .ok { seen with logging := some (level, none) })
    | .stream out => (enabling, .ok { seen with logging := some (level, some out) })
    | .name _ (some path) => (enabling, .ok { seen with logging := some (level, some (.file path)) })
    | .name _ none => (enabling, .error .osError)

def outputRedirected (output : Output) (quiet : Bool) (seen : View) : List Printed × Except ContextError View :=
  let redirecting := seen.log (infoLevel quiet) "Redirecting output to file {}" [output.repr]
  match output with
  | .name _ (some path) => (redirecting, .ok { seen with stdout := .file path, stderr := .file path })
  | .name _ none => (redirecting, .error .osError)
  | .none | .stream _ => (redirecting, .error .unboundLocalError)

def leaveDir (paths : Paths) (dir : String) (quiet : Bool) (currentDir : CurrentDir) (inside : View) :
    List Printed :=
  if dir = "." then []
  else
    inside.log (debugLevel quiet) "Returning to directory {}"
        [.repr (paths.getAbsolutePath inside.environ inside.currentDir currentDir)] ++
      inside.log .debug "Changing directory to {}" [.repr currentDir]

/-- What is printed when the logging is set back to what it is outside. -/
def leaveLogging (logging : Option (Level × Option Stream)) (inside : View) : List Printed :=
  match logging with
  | none => inside.log .info "Disabling logging" []
  | some (level, none) =>
    inside.log .info "Enabling logging (level={}, output={})" [.repr level.name, .repr "stderr"]
  | some (level, some out) =>
    inside.log .info "Enabling logging (level={}, output={})" [.repr level.name, .reprStream out]

end View

def scopes (paths : Paths) : Scopes Context View Printed ContextError where
  enter
    | .workingDir dir quiet directory => View.workingDir paths dir quiet directory
    | .workingEnv amend vars => fun seen => ([], .ok (seen.workingEnv amend vars))
    | .workingModulePath path amend => fun seen => ([], .ok (seen.workingModulePath paths path amend))
    | .loggingEnabled level output => View.loggingEnabled level output
    | .outputRedirected output quiet => View.outputRedirected output quiet
  leave
    | .workingDir dir quiet _, outside, inside => inside.leaveDir paths dir quiet outside.currentDir
    | .loggingEnabled _ _, outside, inside => inside.leaveLogging outside.logging
    | _, _, _ => []

/-- The directory to go back to is still there, and the file that is logged to can be opened. -/
def Context.Returns : Context → Prop
  | workingDir _ _ directory => directory.returns
  | loggingEnabled level (.name _ opened) => level = .disabled ∨ opened.isSome
  | _ => True

section
variable (paths : Paths)

theorem lookup_entered (amend : Bool) (vars : Environ) (globals : Globals) (name : String) :
    (WorkingEnv.enter amend vars globals).2.2.environ.lookup name =
      (vars.lookup name).or (if amend then globals.environ.lookup name else none) := by
  rw [WorkingEnv.enter, lookup_setVars]
  cases amend with
  | true => rfl
  | false =>
    simp only [Bool.false_eq_true, if_false, lookup_keepVars]
    cases set : vars.lookup name with
    | none => simp [AList.lookup_eq_none.mp set]
    | some value => rfl

theorem exit_raised (vars previous : Environ) (globals : Globals) :
    (WorkingEnv.exit vars previous globals).2.1 = none ↔ ∀ name ∈ vars, name ∈ previous ∨ name ∈ globals.environ := by
  rw [WorkingEnv.exit, deleteVars_none vars.keys_nodup]
  simp [mem_setVars, ← AList.mem_keys]

theorem lookup_exit {vars previous : Environ} {globals : Globals}
    (unraised : (WorkingEnv.exit vars previous globals).2.1 = none) (name : String) :
    (WorkingEnv.exit vars previous globals).2.2.environ.lookup name =
      if name ∈ previous then previous.lookup name
      else if name ∈ vars then none else globals.environ.lookup name := by
  rw [WorkingEnv.exit] at unraised ⊢
  rw [lookup_deleteVars _ unraised, lookup_setVars]
  simp only [← AList.mem_keys]
  by_cases before : name ∈ previous
  · obtain ⟨value, set⟩ := Option.isSome_iff_exists.mp (AList.lookup_isSome.mpr before)
    simp [before, set]
  · simp [before, AList.lookup_eq_none.mpr before]

theorem workingEnv_restores (amend : Bool) (vars : Environ) :
    (contexts paths).Restores Globals.view (scopes paths) (.workingEnv amend vars) where
  refuses globals entering error left entered := by cases entered
  enters globals entering saved inside entered := by
    cases entered
    have same := funext (lookup_entered amend vars globals)
    simp only [scopes, View.workingEnv, Globals.view]
    rw [← same]
    rfl
  leaves globals entering saved inside ended entered kept := by
    cases entered
    simp only [Globals.view, View.mk.injEq] at kept
    obtain ⟨environ, others⟩ := kept
    have seen (name : String) : ended.environ.lookup name =
        (vars.lookup name).or (if amend then globals.environ.lookup name else none) :=
      (congrFun environ name).trans (lookup_entered amend vars globals name)
    -- The variables of the block are still set, so that none of them is deleted in vain.
    have unraised : (WorkingEnv.exit vars globals.environ ended).2.1 = none := by
      rw [exit_raised]
      intro name member
      right
      obtain ⟨value, set⟩ := Option.isSome_iff_exists.mp (AList.lookup_isSome.mpr member)
      rw [← AList.lookup_isSome, seen, set]
      rfl
    -- Those that were set before are set again, and of the others only those of the block were set.
    have restored (name : String) :
        (WorkingEnv.exit vars globals.environ ended).2.2.environ.lookup name = globals.environ.lookup name := by
      rw [lookup_exit unraised]
      split
      · rfl
      · rename_i new
        rw [AList.lookup_eq_none.mpr new]
        split
        · rfl
        · rename_i unset
          simp [seen, AList.lookup_eq_none.mpr unset, AList.lookup_eq_none.mpr new]
    refine ⟨rfl, unraised, ?_⟩
    simp only [Globals.view, View.mk.injEq]
    exact ⟨funext restored, others⟩

theorem workingModulePath_restores (path : ModulePath) (amend : Bool) :
    (contexts paths).Restores Globals.view (scopes paths) (.workingModulePath path amend) where
  refuses globals entering error left entered := by cases entered
  enters globals entering saved inside entered := by
    cases entered
    cases amend <;> simp [scopes, View.workingModulePath, Globals.view]
  leaves globals entering saved inside ended entered kept := by
    cases entered
    simp only [Globals.view, View.mk.injEq] at kept
    simp [contexts, WorkingModulePath.exit, scopes, Globals.view, kept]

theorem outputRedirected_restores (output : Output) (quiet : Bool) :
    (contexts paths).Restores Globals.view (scopes paths) (.outputRedirected output quiet) where
  refuses globals entering error left entered := by
    simp only [contexts, OutputRedirected.enter, globals.log_view (infoLevel_ne quiet)] at entered
    rcases output with _ | ⟨file, _ | path⟩ | out <;> cases entered <;> exact ⟨rfl, rfl⟩
  enters globals entering saved inside entered := by
    simp only [contexts, OutputRedirected.enter, globals.log_view (infoLevel_ne quiet)] at entered
    rcases output with _ | ⟨file, _ | path⟩ | out <;> cases entered
    rfl
  leaves globals entering saved inside ended entered kept := by
    simp only [contexts, OutputRedirected.enter] at entered
    rcases output with _ | ⟨file, _ | path⟩ | out <;> cases entered
    simp only [Globals.view, View.mk.injEq] at kept
    simp [contexts, OutputRedirected.exit, scopes, Globals.view, kept]

theorem enter_logging {level : Level} {output : Output} (opens : (Context.loggingEnabled level output).Returns)
    (globals : Globals) :
    ∃ inside logging,
      LoggingEnabled.enter level output globals =
        ((globals.view.loggingEnabled level output).1, .ok (globals.loggingThreshold, globals.loggingOutput),
          inside) ∧
      (globals.view.loggingEnabled level output).2 = .ok inside.view ∧
      inside.view = { globals.view with logging } := by
  unfold LoggingEnabled.enter View.loggingEnabled
  by_cases disabled : level = .disabled
  · refine ⟨{ globals with loggingThreshold := .disabled }, none, ?_⟩
    simp [disabled, disableLogging, globals.log_view, Globals.view, seenLogging]
  · simp only [disabled, if_false, enableLogging, globals.log_view (show Level.info ≠ .disabled by simp)]
    -- where the messages go is set after the level
    rcases output with _ | ⟨file, _ | path⟩ | out
    · exact ⟨_, some (level, none), rfl, by simp [Globals.view, seenLogging, disabled]⟩
    · simp [Context.Returns, disabled] at opens
    · exact ⟨_, some (level, some (.file path)), rfl, by simp [Globals.view, seenLogging, disabled]⟩
    · exact ⟨_, some (level, some out), rfl, by simp [Globals.view, seenLogging, disabled]⟩

theorem exit_logging (level : Level) (output : Option Stream) (ended : Globals) :
    let left := LoggingEnabled.exit (level, output) ended
    left.1 = ended.view.leaveLogging (seenLogging level output) ∧ left.2.1 = none ∧
    left.2.2.view = { ended.view with logging := seenLogging level output } := by
  rw [LoggingEnabled.exit]
  by_cases disabled : level = .disabled
  · simp [disabled, disableLogging, ended.log_view, View.leaveLogging, Globals.view, seenLogging]
  · simp only [disabled, if_false, enableLogging, ended.log_view (show Level.info ≠ .disabled by simp)]
    cases output <;> simp [Output.argument, View.leaveLogging, Globals.view, seenLogging, disabled]

theorem loggingEnabled_restores {level : Level} {output : Output}
    (opens : (Context.loggingEnabled level output).Returns) :
    (contexts paths).Restores Globals.view (scopes paths) (.loggingEnabled level output) where
  refuses globals entering error left entered := by
    obtain ⟨inside, logging, enters, -, -⟩ := enter_logging opens globals
    cases enters.symm.trans entered
  enters globals entering saved inside entered := by
    obtain ⟨inside, logging, enters, shows, -⟩ := enter_logging opens globals
    cases enters.symm.trans entered
    exact Prod.ext rfl shows
  leaves globals entering saved inside ended entered kept := by
    obtain ⟨inside, logging, enters, -, seen⟩ := enter_logging opens globals
    cases enters.symm.trans entered
    obtain ⟨leaving, unraised, restored⟩ := exit_logging globals.loggingThreshold globals.loggingOutput ended
    rw [kept] at leaving restored
    exact ⟨leaving, unraised, restored.trans (by rw [seen]; rfl)⟩

theorem enter_dir (dir : String) (quiet : Bool) (directory : Directory) (globals : Globals) :
    WorkingDir.enter paths dir quiet directory globals =
      match globals.view.workingDir paths dir quiet directory with
      | (printed, .error error) => (printed, .error error, globals)
      | (printed, .ok seen) =>
        (printed, .ok (if dir = "." then none else some globals.currentDir),
          { globals with currentDir := seen.currentDir }) := by
  unfold WorkingDir.enter View.workingDir
  by_cases here : dir = "."
  · simp [here, Globals.view]
  · simp only [here, if_false, makeDir, changeDir, globals.log_view (infoLevel_ne quiet),
      globals.log_view (show Level.info ≠ .disabled by simp), globals.log_view (show Level.debug ≠ .disabled by simp)]
    by_cases empty : dir = ""
    · simp [empty, Globals.view, Globals.getAbsolutePath]
    · rcases directory with ⟨_ | _, _ | _, _ | path, returns⟩ <;>
        simp [empty, Globals.view, Globals.getAbsolutePath]

theorem workingDir_seen {dir : String} {quiet : Bool} {directory : Directory} {seen inside : View}
    (shows : (seen.workingDir paths dir quiet directory).2 = .ok inside) :
    { seen with currentDir := inside.currentDir } = inside ∧ (dir = "." → inside = seen) := by
  unfold View.workingDir at shows
  by_cases here : dir = "."
  · rw [if_pos here] at shows
    cases shows
    exact ⟨rfl, fun _ => rfl⟩
  · refine ⟨?_, fun there => absurd there here⟩
    simp only [here, if_false] at shows
    split at shows
    · cases shows
      rfl
    · split at shows
      · split at shows <;> cases shows
        rfl
      · cases shows

theorem exit_dir {dir : String} (elsewhere : dir ≠ ".") {quiet : Bool} {directory : Directory}
    (returns : directory.returns) (previous : CurrentDir) (ended : Globals) :
    WorkingDir.exit paths dir quiet directory (some previous) ended =
      (ended.view.leaveDir paths dir quiet previous, none, { ended with currentDir := previous }) := by
  have back : (previous : String) ≠ "" := previous.2
  simp [WorkingDir.exit, elsewhere, changeDir, returns, back, View.leaveDir, Globals.getAbsolutePath,
    ended.log_view (debugLevel_ne quiet), ended.log_view (show Level.debug ≠ .disabled by simp)]
  rfl

theorem workingDir_restores {dir : String} {quiet : Bool} {directory : Directory} (returns : directory.returns) :
    (contexts paths).Restores Globals.view (scopes paths) (.workingDir dir quiet directory) where
  refuses globals entering error left entered := by
    have enters := (enter_dir paths dir quiet directory globals).symm.trans entered
    rcases shown : globals.view.workingDir paths dir quiet directory with ⟨printed, error | seen⟩ <;>
      rw [shown] at enters <;> cases enters
    exact ⟨shown, rfl⟩
  enters globals entering saved inside entered := by
    have enters := (enter_dir paths dir quiet directory globals).symm.trans entered
    rcases shown : globals.view.workingDir paths dir quiet directory with ⟨printed, error | seen⟩ <;>
      rw [shown] at enters <;> cases enters
    obtain ⟨same, -⟩ := workingDir_seen paths (congrArg Prod.snd shown)
    exact shown.trans (congrArg (fun view => (_, Except.ok view)) same.symm)
  leaves globals entering saved inside ended entered kept := by
    have enters := (enter_dir paths dir quiet directory globals).symm.trans entered
    rcases shown : globals.view.workingDir paths dir quiet directory with ⟨printed, error | seen⟩ <;>
      rw [shown] at enters <;> cases enters
    obtain ⟨same, stays⟩ := workingDir_seen paths (congrArg Prod.snd shown)
    -- The current directory is not changed and so not changed back, but nothing has been seen to change it.
    by_cases here : dir = "."
    · simp only [contexts, here, if_true, WorkingDir.exit, scopes, View.leaveDir, true_and]
      exact kept.trans (congrArg (fun view => { globals.view with currentDir := view.currentDir }) (stays here))
    · simp only [contexts, here, if_false]
      rw [exit_dir paths here returns, kept]
      refine ⟨rfl, rfl, ?_⟩
      change { ended.view with currentDir := globals.currentDir } = globals.view
      rw [kept]
      rfl

theorem restores_of_returns (context : Context) (returns : context.Returns) :
    (contexts paths).Restores Globals.view (scopes paths) context := by
  cases context with
  | workingDir dir quiet directory => exact workingDir_restores paths returns
  | workingEnv amend vars => exact workingEnv_restores paths amend vars
  | workingModulePath path amend => exact workingModulePath_restores paths path amend
  | loggingEnabled level output => exact loggingEnabled_restores paths returns
  | outputRedirected output quiet => exact outputRedirected_restores paths output quiet

end

/-- However its body ends and whatever it leaves, a block restores the environment if and only if the body has
    deleted none of the variables that are new in the block, and set no others that are new. -/
theorem exit_restores_iff (vars previous : Environ) (ended : Globals) :
    let left := WorkingEnv.exit vars previous ended
    (left.2.1 = none ∧ ∀ name, left.2.2.environ.lookup name = previous.lookup name) ↔
      (∀ name ∈ vars, name ∈ previous ∨ name ∈ ended.environ) ∧
      ∀ name ∈ ended.environ, name ∈ previous ∨ name ∈ vars := by
  intro left
  rw [← exit_raised]
  constructor
  · rintro ⟨unraised, restored⟩
    refine ⟨unraised, fun name set => ?_⟩
    -- A variable that is new and not one of the block's stays set.
    by_contra others
    obtain ⟨new, unset⟩ := not_or.mp others
    have same := restored name
    rw [lookup_exit unraised, if_neg new, if_neg unset, AList.lookup_eq_none.mpr new, AList.lookup_eq_none] at same
    exact same set
  · rintro ⟨unraised, known⟩
    refine ⟨unraised, fun name => ?_⟩
    rw [lookup_exit unraised]
    split
    · rfl
    · rename_i new
      rw [AList.lookup_eq_none.mpr new]
      split
      · rfl
      · rename_i unset
        rw [AList.lookup_eq_none]
        exact fun set => (known name set).elim new unset

end Bsord.Plano
