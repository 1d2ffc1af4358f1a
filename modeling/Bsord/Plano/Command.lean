import Bsord.Plano.Parameters
import Bsord.Library.Transition
import Mathlib.Logic.Function.Basic

/-! # Commands that call commands

The objects that `@command` makes of functions, `Command.__call__` and `parent` in `command.py`.  What a
command's function does is not given: at any time it may call a command or `parent`, return, raise an
exception or catch one that reaches it.  The same holds of `PlanoCommand`, which calls the preceding commands
and the selected one, but for catching.

Of the output there are the lines that `__call__` prints, as they are when the output is no terminal.
-/

namespace Bsord.Plano

open Library

variable {Value : Type}

/-! ## Commands -/

/-- A `Command`; the identity tells the objects apart. -/
inductive Command (Value : Type) where
  | root (identity : Nat) (functionName : String) (name : Option String)
      (parameters : List (CommandParameter Value))
  | child (identity : Nat) (name : Option String) (parent : Command Value)

def stripped (name : String) : String :=
  String.ofList (name.toList.reverse.dropWhile (· = '_')).reverse

def Command.name : Command Value → String
  | root _ functionName name _ => name.getD (hyphenated (stripped functionName))
  | child _ name parent => name.getD parent.name

def Command.parameters : Command Value → List (CommandParameter Value)
  | root _ _ _ parameters => parameters
  | child _ _ parent => parent.parameters

def Command.parent : Command Value → Option (Command Value)
  | root .. => none
  | child _ _ parent => some parent

/-- `PlanoCommand._bind_commands`, of the commands among the values of the module's variables. -/
def bindCommands (vars : List (Command Value)) : String → Option (Command Value) :=
  vars.foldl (fun boundCommands var => Function.update boundCommands var.name (some var)) fun _ => none

/-! ## Lines -/

/-- A line that `Command.__call__` prints, with the number of times that `--` is in its dashes. -/
inductive Line where
  | start (dashes : Nat) (name : String) (displayArgs : List String)
  | finish (dashes : Nat) (name : String)
  | resume (dashes : Nat) (name : String)
deriving DecidableEq

def dashes (count : Nat) : List Char := (List.replicate count ['-', '-']).flatten

/-- What the line of a call has after the arrow. -/
def title (name : String) (displayArgs : List String) : List Char :=
  name.toList ++ if displayArgs = [] then [] else " (".toList ++ (", ".intercalate displayArgs).toList ++ [')']

def Line.text : Line → List Char
  | start count name displayArgs => dashes count ++ "> ".toList ++ title name displayArgs
  | finish count name => '<' :: dashes count ++ [' '] ++ name.toList
  | resume count name => dashes count ++ "| ".toList ++ name.toList

/-! ## Calls -/

/-- A call that is under way. -/
inductive Frame (Value : Type) where
  /-- `__call__` that has called the command's function, with the length of its local `dashes`. -/
  | call (self : Command Value) (dashes : Nat)
  /-- `__call__` of a command that has been overridden. -/
  | overridden (self : Command Value)
  /-- `parent`, which has called the function of a parent. -/
  | parent (parent : Command Value)

def Frame.isOverridden : Frame Value → Bool
  | overridden _ => true
  | _ => false

/-- What goes on on top of the calls under way. -/
inductive Control (Value : Type) where
  /-- The function that was called last runs, or `PlanoCommand` where no call is under way. -/
  | running
  | calling (self : Command Value) (args : List Value) (kwargs : List (String × Value))
  /-- An exception has reached the function that was called last. -/
  | raising

structure State (Value : Type) where
  control : Control Value
  /-- The calls under way, the last one first. -/
  frames : List (Frame Value)
  runningCommands : List (Command Value)
  output : List Line

def State.start : State Value := ⟨.running, [], [], []⟩

inductive Label (Value : Type) where
  | call (command : Command Value) (args : List Value) (kwargs : List (String × Value))
  | override (command : Command Value)
  | start (command : Command Value) (displayArgs : List String)
  /-- The call raises a `KeyError` or an `IndexError` before the function is called. -/
  | fail
  | parent
  | finish (command : Command Value)
  | parentReturns
  | raise
  | caught

/-- `stack()[2].frame.f_locals["self"].parent` in `parent`. -/
def parentOf : List (Frame Value) → Option (Command Value)
  | .call self _ :: _ => self.parent
  | _ => none

/-- The line after a command has finished, when there is a running command left. -/
def resumed (count : Nat) (runningCommands : List (Command Value)) : List Line :=
  runningCommands.getLast?.toList.map fun command => .resume count command.name

/-- The steps, where the module has the variables `vars`. -/
inductive Step (objects : Objects Value) (vars : List (Command Value)) (s : State Value) :
    Label Value → State Value → Prop where
  | call (control : s.control = .running) (command : Command Value) (args : List Value)
      (kwargs : List (String × Value)) :
      Step objects vars s (.call command args kwargs) { s with control := .calling command args kwargs }
  | unbound {self : Command Value} {args : List Value} {kwargs : List (String × Value)}
      (control : s.control = .calling self args kwargs) (missing : bindCommands vars self.name = none) :
      Step objects vars s .fail { s with
        control := .raising
        frames := s.frames.dropWhile Frame.isOverridden }
  | override {self command : Command Value} {args : List Value} {kwargs : List (String × Value)}
      (control : s.control = .calling self args kwargs) (bound : bindCommands vars self.name = some command)
      (other : command ≠ self) :
      Step objects vars s (.override command) { s with
        control := .calling command args kwargs
        frames := .overridden self :: s.frames }
  /-- The command has been appended to the running ones when its arguments turn out to be too few. -/
  | display {self : Command Value} {args : List Value} {kwargs : List (String × Value)}
      (control : s.control = .calling self args kwargs) (bound : bindCommands vars self.name = some self)
      (missing : getDisplayArgs objects args kwargs 0 self.parameters = none) :
      Step objects vars s .fail { s with
        control := .raising
        frames := s.frames.dropWhile Frame.isOverridden
        runningCommands := s.runningCommands ++ [self] }
  | start {self : Command Value} {args : List Value} {kwargs : List (String × Value)}
      (control : s.control = .calling self args kwargs) (bound : bindCommands vars self.name = some self)
      {displayArgs : List String} (shown : getDisplayArgs objects args kwargs 0 self.parameters = some displayArgs) :
      Step objects vars s (.start self displayArgs) { s with
        control := .running
        frames := .call self (s.runningCommands.length + 1) :: s.frames
        runningCommands := s.runningCommands ++ [self]
        output := s.output ++ [.start (s.runningCommands.length + 1) self.name displayArgs] }
  | parent (control : s.control = .running) {parent : Command Value} (found : parentOf s.frames = some parent) :
      Step objects vars s .parent { s with frames := .parent parent :: s.frames }
  | noParent (control : s.control = .running) (called : s.frames ≠ []) (missing : parentOf s.frames = none) :
      Step objects vars s .parent { s with control := .raising }
  | finish (control : s.control = .running) {self : Command Value} {count : Nat} {frames : List (Frame Value)}
      (top : s.frames = .call self count :: frames) :
      Step objects vars s (.finish self) { s with
        frames := frames.dropWhile Frame.isOverridden
        runningCommands := s.runningCommands.dropLast
        output := s.output ++ [.finish count self.name] ++ resumed (count - 1) s.runningCommands.dropLast }
  | parentReturns (control : s.control = .running) {parent : Command Value} {frames : List (Frame Value)}
      (top : s.frames = .parent parent :: frames) :
      Step objects vars s .parentReturns { s with frames := frames }
  /-- The function that was called last raises an exception or does not catch one.  Neither `__call__` nor
      `parent` catches it. -/
  | raise (control : s.control = .running ∨ s.control = .raising) {frame : Frame Value} {frames : List (Frame Value)}
      (top : s.frames = frame :: frames) :
      Step objects vars s .raise { s with
        control := .raising
        frames := frames.dropWhile Frame.isOverridden }
  | caught (control : s.control = .raising) (called : s.frames ≠ []) :
      Step objects vars s .caught { s with control := .running }

end Bsord.Plano
