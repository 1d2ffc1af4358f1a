import Bsord.Library.Signature

/-! # The parameters of a command

How `command.py` derives the parameters of a command from the signature of its function, how
`PlanoCommand.init` makes from the parsed arguments the call of `PlanoCommand.run`, and how far
`Command.__call__` gets with it.  What `argparse` makes of a command line is given as a namespace.  The types
and the help texts of the parameters, which only `argparse` reads, are left out.
-/

namespace Bsord.Plano

open Library

/-- What the code uses of the values it passes around. -/
structure Objects (Value : Type) where
  none : Value
  /-- `inspect.Parameter.empty`. -/
  empty : Value
  eq : Value → Value → Bool
  repr : Value → String
  /-- `str(value).lower()` of a `value in (True, False)`. -/
  truth : Value → Option String

/-- The kinds of parameters; positional-only ones stop a command from being defined. -/
inductive Kind where
  | positionalOrKeyword
  | varPositional
  | keywordOnly
  | varKeyword
deriving DecidableEq

/-- A parameter as `inspect.signature` gives it; a `default` of `none` is `empty`. -/
structure SParam (Value : Type) where
  name : String
  kind : Kind
  default : Option Value

/-- The arguments of `CommandParameter` that are kept. -/
structure Declaration (Value : Type) where
  name : String
  displayName : String
  default : Value
  positional : Option Bool

structure CommandParameter (Value : Type) extends Declaration Value where
  optional : Bool
  multiple : Bool

variable {Value : Type}

def hyphenated (name : String) : String :=
  String.ofList (name.toList.map fun c => if c = '_' then '-' else c)

def Declaration.ofName (objects : Objects Value) (name : String) : Declaration Value :=
  ⟨name, hyphenated name, objects.none, none⟩

def CommandParameter.new (declaration : Declaration Value) : CommandParameter Value :=
  { declaration with optional := false, multiple := false }

/-- `list(inspect.signature(self.function).parameters.values())`. -/
def sparams (signature : Signature Value) : List (SParam Value) :=
  signature.positionals.map (fun parameter => ⟨parameter.1, .positionalOrKeyword, parameter.2⟩) ++
  signature.varPositional.toList.map (fun name => ⟨name, .varPositional, none⟩) ++
  signature.keywordOnlys.map (fun parameter => ⟨parameter.1, .keywordOnly, parameter.2⟩) ++
  signature.varKeyword.toList.map (fun name => ⟨name, .varKeyword, none⟩)

def assign (cparam : Declaration Value) : List (Declaration Value) → List (Declaration Value)
  | [] => [cparam]
  | other :: others => if other.name = cparam.name then cparam :: others else other :: assign cparam others

def cparamsIn (cparams : List (Declaration Value)) : List (Declaration Value) :=
  cparams.foldl (fun cparams cparam => assign cparam cparams) []

/-- The parameter that the body of the loop over `sparams` starts with. -/
def cparam (objects : Objects Value) (cparams : List (Declaration Value)) (name : String) :
    CommandParameter Value :=
  .new (((cparamsIn cparams).find? (·.name = name)).getD (.ofName objects name))

/-- The body of the loop over `sparams`. -/
def processParameter (objects : Objects Value) (cparams : List (Declaration Value)) (sparam : SParam Value) :
    Option (CommandParameter Value) :=
  let cparam := cparam objects cparams sparam.name
  match sparam.kind, sparam.default with
  | .positionalOrKeyword, none => some { cparam with positional := some (cparam.positional.getD true) }
  | .positionalOrKeyword, some default => some { cparam with optional := true, default := default }
  | .varPositional, _ =>
    some { cparam with positional := some (cparam.positional.getD true), multiple := true }
  | .varKeyword, _ => none
  | .keywordOnly, default => some { cparam with optional := true, default := default.getD objects.empty }

/-- `Command._process_parameters`. -/
def processParameters (objects : Objects Value) (cparams : List (Declaration Value))
    (signature : Signature Value) : List (CommandParameter Value) :=
  -- Nothing is derived from `*args` and `**kwargs`.
  if (sparams signature).map SParam.name = ["args", "kwargs"] then (cparamsIn cparams).map .new
  else (sparams signature).filterMap (processParameter objects cparams)

/-- The namespace that `argparse` returns; `values` are of the parameters with `nargs="*"`. -/
structure Namespace (Value : Type) where
  value : String → Value
  values : String → List Value

def CommandParameter.isPositional (param : CommandParameter Value) : Bool := param.positional = some true

/-- `self.command_args`. -/
def commandArgs (ns : Namespace Value) : List (CommandParameter Value) → List Value
  | [] => []
  | param :: parameters =>
    (if param.name = "passthrough_args" then []
     else if param.isPositional then
      if param.multiple then ns.values param.name else [ns.value param.name]
     else []) ++ commandArgs ns parameters

/-- `self.command_kwargs`; `passthrough` has the arguments that a passthrough command is given. -/
def commandKwargs (ns : Namespace Value) (passthrough : Option Value) :
    List (CommandParameter Value) → List (String × Value)
  | [] => passthrough.toList.map fun value => ("passthrough_args", value)
  | param :: parameters =>
    (if param.name = "passthrough_args" ∨ param.isPositional then []
     else [(param.name, ns.value param.name)]) ++ commandKwargs ns passthrough parameters

/-- What one parameter adds in `_get_display_args`; `none` is an `IndexError`. -/
def displayArg (objects : Objects Value) (args : List Value) (kwargs : List (String × Value)) (i : Nat)
    (param : CommandParameter Value) : Option (List String) :=
  if param.isPositional then
    if param.multiple then some ((args.drop i).map objects.repr)
    else if param.optional then
      args[i]?.map fun value => if objects.eq value param.default then [] else [objects.repr value]
    else args[i]?.map fun value => [objects.repr value]
  else
    let value := (kwargs.lookup param.name).getD param.default
    if objects.eq value param.default then some []
    else some [param.displayName ++ "=" ++ (objects.truth value).getD (objects.repr value)]

/-- `list(self._get_display_args(args, kwargs))`, from the parameter with index `i` on. -/
def getDisplayArgs (objects : Objects Value) (args : List Value) (kwargs : List (String × Value)) :
    Nat → List (CommandParameter Value) → Option (List String)
  | _, [] => some []
  | i, param :: parameters =>
    match displayArg objects args kwargs i param, getDisplayArgs objects args kwargs (i + 1) parameters with
    | some texts, some rest => some (texts ++ rest)
    | _, _ => none

/-- How far a call of the command gets: `_get_display_args` fails, the function does not take the arguments,
    or it is entered. -/
inductive CallOutcome (Value : Type) where
  | indexError
  | typeError
  | called (bound : Bound Value)
deriving DecidableEq

/-- `Command.__call__` of a command that is not overridden. -/
def callCommand (objects : Objects Value) (signature : Signature Value) (parameters : List (CommandParameter Value))
    (args : List Value) (kwargs : List (String × Value)) : CallOutcome Value :=
  match getDisplayArgs objects args kwargs 0 parameters, signature.bind args kwargs with
  | none, _ => .indexError
  | some _, none => .typeError
  | some _, some bound => .called bound

/-- The call that `PlanoCommand.run` makes. -/
def runCommand (objects : Objects Value) (cparams : List (Declaration Value)) (signature : Signature Value)
    (ns : Namespace Value) (passthrough : Option Value) : CallOutcome Value :=
  let parameters := processParameters objects cparams signature
  callCommand objects signature parameters (commandArgs ns parameters) (commandKwargs ns passthrough parameters)

end Bsord.Plano
