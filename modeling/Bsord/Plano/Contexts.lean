import Mathlib.Data.List.AList
import Bsord.Library.Scoped

/-! # Context managers

The context managers of `main.py` that change what is global to a program: the environment, the module path, the
current directory, the logging and the standard streams.  How the calls into the file system end is given with
each block.  A directory that is named is not `None`, and names and values are fit for the environment.
-/

namespace Bsord.Plano

open Library.Scoped

inductive Level where
  | debug
  | info
  | notice
  | warn
  | error
  | disabled
deriving DecidableEq

/-- `_logging_levels`. -/
def Level.name : Level → String
  | debug => "debug"
  | info => "info"
  | notice => "notice"
  | warn => "warn"
  | error => "error"
  | disabled => "disabled"

def Level.index : Level → Nat
  | debug => 0
  | info => 1
  | notice => 2
  | warn => 3
  | error => 4
  | disabled => 5

inductive Stream where
  | standardOutput
  | standardError
  | file (path : String)
deriving DecidableEq

/-- What is given for an output: of a file that is to be opened, the path that is opened, if it can be. -/
inductive Output where
  | none
  | name (file : String) (opened : Option String)
  | stream (out : Stream)

/-- An argument of a message: a text, or the `repr` of a text or a stream. -/
inductive Argument where
  | text (value : String)
  | repr (value : String)
  | reprStream (stream : Stream)
deriving DecidableEq

structure Message where
  format : String
  args : List Argument
deriving DecidableEq

structure Printed where
  out : Stream
  level : Level
  message : Message
deriving DecidableEq

abbrev Environ := AList fun _ : String => String

/-- What `getcwd` returns. -/
abbrev CurrentDir := { path : String // path ≠ "" }

structure Globals where
  environ : Environ
  sysPath : List String
  currentDir : CurrentDir
  loggingThreshold : Level
  loggingOutput : Option Stream
  stdout : Stream
  stderr : Stream

inductive ContextError where
  | osError
  | keyError (name : String)
  | typeError
  | unboundLocalError
  | other (name : String)
deriving DecidableEq

/-- `get_absolute_path` and `is_absolute`, which expand variables of the environment. -/
structure Paths where
  getAbsolutePath (environ : String → Option String) (currentDir path : String) : String
  isAbsolute (environ : String → Option String) (path : String) : Bool

/-! ## Logging -/

/-- `log`. -/
def Globals.log (globals : Globals) (level : Level) (format : String) (args : List Argument) : List Printed :=
  if globals.loggingThreshold.index ≤ level.index then
    [⟨globals.loggingOutput.getD globals.stderr, level, format, args⟩]
  else []

def debugLevel (quiet : Bool) : Level := if quiet then .debug else .notice

def infoLevel (quiet : Bool) : Level := if quiet then .info else .notice

def Output.argument : Output → Argument
  | none => .repr "stderr"
  | name file _ => .repr file
  | stream out => .reprStream out

def Output.repr : Output → Argument
  | none => .text "None"
  | name file _ => .repr file
  | stream out => .reprStream out

def enableLogging (level : Level) (output : Output) (globals : Globals) :
    List Printed × Option ContextError × Globals :=
  let printed := globals.log .info "Enabling logging (level={}, output={})" [.repr level.name, output.argument]
  let globals := { globals with loggingThreshold := level }
  match output with
  | .none => (printed, none, { globals with loggingOutput := none })
  | .stream out => (printed, none, { globals with loggingOutput := some out })
  | .name _ (some path) => (printed, none, { globals with loggingOutput := some (.file path) })
  | .name _ none => (printed, some .osError, globals)

def disableLogging (globals : Globals) : List Printed × Globals :=
  (globals.log .info "Disabling logging" [], { globals with loggingThreshold := .disabled })

/-! ## Directories -/

/-- A directory to work in: whether it exists or can be made, where it is when it can be entered, and whether the
    directory left for it is still there in the end. -/
structure Directory where
  present : Bool
  made : Bool
  entered : Option CurrentDir
  returns : Bool

/-- `make_dir(dir, quiet=True)`. -/
def makeDir (dir : String) (directory : Directory) (globals : Globals) : List Printed × Option ContextError :=
  if dir = "" then ([], none)
  else if directory.present then ([], none)
  else (globals.log .info "Making directory '{}'" [.text dir], if directory.made then none else some .osError)

/-- `change_dir(dir, quiet=True)`. -/
def changeDir (dir : String) (entered : Option CurrentDir) (globals : Globals) :
    List Printed × Except ContextError CurrentDir × Globals :=
  let printed := globals.log .debug "Changing directory to {}" [.repr dir]
  if dir = "" then (printed, .ok globals.currentDir, globals)
  else
    match entered with
    | none => (printed, .error .osError, globals)
    | some path => (printed, .ok globals.currentDir, { globals with currentDir := path })

/-! ## Environment variables -/

def setVars (vars environ : Environ) : Environ :=
  vars.entries.foldl (fun environ var => environ.insert var.1 var.2) environ

/-- The variables that are to remain when the environment is not amended. -/
def keepVars (vars environ : Environ) : Environ :=
  environ.entries.foldl (fun left var => if var.1 ∈ vars then left else left.erase var.1) environ

/-- `del os.environ[name]`, for all that were not there before. -/
def deleteVars (previous : Environ) : List String → Environ → Option ContextError × Environ
  | [], environ => (none, environ)
  | name :: names, environ =>
    if name ∈ previous then deleteVars previous names environ
    else if name ∈ environ then deleteVars previous names (environ.erase name)
    else (some (.keyError name), environ)

/-! ## The classes -/

inductive ModulePath where
  | string (path : String)
  | list (path : List String)

/-- The path that `working_module_path` is initialized with, when it is not amended. -/
def ModulePath.initial (paths : Paths) (environ : String → Option String) (currentDir : String) :
    ModulePath → List String
  | string path =>
    [if paths.isAbsolute environ path then path else paths.getAbsolutePath environ currentDir path]
  | list path => path

def Globals.getAbsolutePath (globals : Globals) (paths : Paths) (path : String) : String :=
  paths.getAbsolutePath (fun name => globals.environ.lookup name) globals.currentDir path

namespace WorkingDir

def enter (paths : Paths) (dir : String) (quiet : Bool) (directory : Directory) (globals : Globals) :
    List Printed × Except ContextError (Option CurrentDir) × Globals :=
  if dir = "." then ([], .ok none, globals)
  else
    let entering :=
      globals.log (infoLevel quiet) "Entering directory {}" [.repr (globals.getAbsolutePath paths dir)]
    match makeDir dir directory globals with
    | (making, some error) => (entering ++ making, .error error, globals)
    | (making, none) =>
      match changeDir dir directory.entered globals with
      | (changing, .error error, globals) => (entering ++ making ++ changing, .error error, globals)
      | (changing, .ok previous, globals) => (entering ++ making ++ changing, .ok (some previous), globals)

def exit (paths : Paths) (dir : String) (quiet : Bool) (directory : Directory) (previous : Option CurrentDir)
    (globals : Globals) : List Printed × Option ContextError × Globals :=
  if dir = "." then ([], none, globals)
  else
    match previous with
    | none => ([], some .typeError, globals)
    | some previous =>
      let returning := globals.log (debugLevel quiet) "Returning to directory {}"
        [.repr (globals.getAbsolutePath paths previous)]
      match changeDir previous (if directory.returns then some previous else none) globals with
      | (changing, .error error, globals) => (returning ++ changing, some error, globals)
      | (changing, .ok _, globals) => (returning ++ changing, none, globals)

end WorkingDir

namespace WorkingEnv

def enter (amend : Bool) (vars : Environ) (globals : Globals) :
    List Printed × Except ContextError Environ × Globals :=
  let environ := if amend then globals.environ else keepVars vars globals.environ
  ([], .ok globals.environ, { globals with environ := setVars vars environ })

def exit (vars previous : Environ) (globals : Globals) : List Printed × Option ContextError × Globals :=
  let (error, environ) := deleteVars previous vars.keys (setVars previous globals.environ)
  ([], error, { globals with environ })

end WorkingEnv

namespace WorkingModulePath

def enter (paths : Paths) (path : ModulePath) (amend : Bool) (globals : Globals) :
    List Printed × Except ContextError (List String) × Globals :=
  let path := path.initial paths (fun name => globals.environ.lookup name) globals.currentDir
  ([], .ok globals.sysPath, { globals with sysPath := if amend then path ++ globals.sysPath else path })

def exit (previous : List String) (globals : Globals) : List Printed × Option ContextError × Globals :=
  ([], none, { globals with sysPath := previous })

end WorkingModulePath

namespace LoggingEnabled

def enter (level : Level) (output : Output) (globals : Globals) :
    List Printed × Except ContextError (Level × Option Stream) × Globals :=
  let previous := (globals.loggingThreshold, globals.loggingOutput)
  if level = .disabled then
    let (printed, globals) := disableLogging globals
    (printed, .ok previous, globals)
  else
    match enableLogging level output globals with
    | (printed, some error, globals) => (printed, .error error, globals)
    | (printed, none, globals) => (printed, .ok previous, globals)

def exit (previous : Level × Option Stream) (globals : Globals) : List Printed × Option ContextError × Globals :=
  if previous.1 = .disabled then
    let (printed, globals) := disableLogging globals
    (printed, none, globals)
  else
    enableLogging previous.1 (match previous.2 with
      | none => .none
      | some out => .stream out) globals

end LoggingEnabled

namespace OutputRedirected

def enter (output : Output) (quiet : Bool) (globals : Globals) :
    List Printed × Except ContextError (Stream × Stream) × Globals :=
  let printed := globals.log (infoLevel quiet) "Redirecting output to file {}" [output.repr]
  match output with
  | .name _ (some path) =>
    (printed, .ok (globals.stdout, globals.stderr), { globals with stdout := .file path, stderr := .file path })
  | .name _ none => (printed, .error .osError, globals)
  -- the local variable is only assigned to when there is a file to open
  | .none | .stream _ => (printed, .error .unboundLocalError, globals)

def exit (previous : Stream × Stream) (globals : Globals) : List Printed × Option ContextError × Globals :=
  ([], none, { globals with stdout := previous.1, stderr := previous.2 })

end OutputRedirected

inductive Context where
  | workingDir (dir : String) (quiet : Bool) (directory : Directory)
  | workingEnv (amend : Bool) (vars : Environ)
  | workingModulePath (path : ModulePath) (amend : Bool)
  | loggingEnabled (level : Level) (output : Output)
  | outputRedirected (output : Output) (quiet : Bool)

/-- `logging_disabled`. -/
def Context.loggingDisabled : Context := loggingEnabled .disabled .none

/-- The fields whose names start with `prev`. -/
abbrev Context.Saved : Context → Type
  | workingDir .. => Option CurrentDir
  | workingEnv .. => Environ
  | workingModulePath .. => List String
  | loggingEnabled .. => Level × Option Stream
  | outputRedirected .. => Stream × Stream

def contexts (paths : Paths) : Blocks Context Globals Printed ContextError Context.Saved where
  enter
    | .workingDir dir quiet directory => WorkingDir.enter paths dir quiet directory
    | .workingEnv amend vars => WorkingEnv.enter amend vars
    | .workingModulePath path amend => WorkingModulePath.enter paths path amend
    | .loggingEnabled level output => LoggingEnabled.enter level output
    | .outputRedirected output quiet => OutputRedirected.enter output quiet
  leave
    | .workingDir dir quiet directory => WorkingDir.exit paths dir quiet directory
    | .workingEnv _ vars => WorkingEnv.exit vars
    | .workingModulePath _ _ => WorkingModulePath.exit
    | .loggingEnabled _ _ => LoggingEnabled.exit
    | .outputRedirected _ _ => OutputRedirected.exit

end Bsord.Plano
