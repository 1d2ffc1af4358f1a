import Bsord.Plano.Parameters

/-! # The call of a command's function

What the parameters of a command's function receive from the call that `PlanoCommand.run` makes.
-/

namespace Bsord.Plano

open Library

variable {Value : Type} {objects : Objects Value} {cparams : List (Declaration Value)}
  {signature : Signature Value} {parameters : List (CommandParameter Value)} {ns : Namespace Value}
  {passthrough : Option Value}

/-! ## The parameters in order -/

theorem name_cparam (name : String) : (cparam objects cparams name).name = name := by
  unfold cparam
  cases found : (cparamsIn cparams).find? (·.name = name) with
  | none => rfl
  | some declaration => simpa [CommandParameter.new] using List.find?_some found

@[simp] theorem multiple_cparam (name : String) : (cparam objects cparams name).multiple = false := rfl

theorem of_processParameter {sparam : SParam Value} {param : CommandParameter Value}
    (processed : processParameter objects cparams sparam = some param) :
    param.name = sparam.name ∧ (param.multiple = true ↔ sparam.kind = .varPositional) := by
  obtain ⟨name, kind, default⟩ := sparam
  cases kind with
  | positionalOrKeyword =>
    cases default with
    | none => obtain rfl := Option.some.inj processed; exact ⟨name_cparam name, by simp⟩
    | some default => obtain rfl := Option.some.inj processed; exact ⟨name_cparam name, by simp⟩
  | varPositional => obtain rfl := Option.some.inj processed; exact ⟨name_cparam name, by simp⟩
  | keywordOnly => obtain rfl := Option.some.inj processed; exact ⟨name_cparam name, by simp⟩
  | varKeyword => cases processed

theorem processParameter_isSome {sparam : SParam Value} (kind : sparam.kind ≠ .varKeyword) :
    (processParameter objects cparams sparam).isSome := by
  obtain ⟨name, kind', default⟩ := sparam
  cases kind' with
  | positionalOrKeyword => cases default <;> rfl
  | varPositional => rfl
  | keywordOnly => rfl
  | varKeyword => exact absurd rfl kind

theorem names_processed {α : Type} (sparam : α → SParam Value) (derives : ∀ x, (sparam x).kind ≠ .varKeyword)
    (xs : List α) :
    ((xs.map sparam).filterMap (processParameter objects cparams)).map (·.name) = xs.map fun x => (sparam x).name := by
  induction xs with
  | nil => rfl
  | cons x xs ih =>
    obtain ⟨param, processed⟩ := Option.isSome_iff_exists.mp (processParameter_isSome (derives x))
    rw [List.map_cons, List.filterMap_cons_some processed, List.map_cons, ih, (of_processParameter processed).1,
      List.map_cons]

theorem multiple_processed {α : Type} (sparam : α → SParam Value) (kind : Kind)
    (kinds : ∀ x, (sparam x).kind = kind) {xs : List α} {param : CommandParameter Value}
    (member : param ∈ (xs.map sparam).filterMap (processParameter objects cparams)) :
    param.multiple = true ↔ kind = .varPositional := by
  obtain ⟨_, member, processed⟩ := List.mem_filterMap.mp member
  obtain ⟨x, -, rfl⟩ := List.mem_map.mp member
  rw [(of_processParameter processed).2, kinds x]

/-- The parameters of a command, in the order of those of its function. -/
structure Layout (signature : Signature Value) (parameters : List (CommandParameter Value)) where
  positionals : List (CommandParameter Value)
  varPositional : List (CommandParameter Value)
  keywordOnlys : List (CommandParameter Value)
  split : parameters = positionals ++ varPositional ++ keywordOnlys
  names_positionals : positionals.map (·.name) = signature.positionals.map Prod.fst
  names_varPositional : varPositional.map (·.name) = signature.varPositional.toList
  names_keywordOnlys : keywordOnlys.map (·.name) = signature.keywordOnlys.map Prod.fst
  single : ∀ param ∈ positionals ++ keywordOnlys, param.multiple = false
  multiple : ∀ param ∈ varPositional, param.multiple = true

/-- The function does not take just `args` and `kwargs`. -/
def Derives (signature : Signature Value) : Prop := (sparams signature).map SParam.name ≠ ["args", "kwargs"]

def layout (objects : Objects Value) (cparams : List (Declaration Value)) (derives : Derives signature) :
    Layout signature (processParameters objects cparams signature) where
  positionals := (signature.positionals.map fun parameter =>
    ⟨parameter.1, .positionalOrKeyword, parameter.2⟩).filterMap (processParameter objects cparams)
  varPositional := (signature.varPositional.toList.map fun name =>
    ⟨name, .varPositional, none⟩).filterMap (processParameter objects cparams)
  keywordOnlys := (signature.keywordOnlys.map fun parameter =>
    ⟨parameter.1, .keywordOnly, parameter.2⟩).filterMap (processParameter objects cparams)
  split := by
    have dropped : (signature.varKeyword.toList.map fun name =>
        (⟨name, .varKeyword, none⟩ : SParam Value)).filterMap (processParameter objects cparams) = [] := by
      rw [List.filterMap_eq_nil_iff]
      intro sparam member
      obtain ⟨name, -, rfl⟩ := List.mem_map.mp member
      rfl
    rw [processParameters, if_neg derives, sparams, List.filterMap_append, dropped]
    simp only [List.filterMap_append, List.append_nil]
  names_positionals := names_processed _ (by simp) _
  names_varPositional := by rw [names_processed _ (by simp), List.map_id']
  names_keywordOnlys := names_processed _ (by simp) _
  single := by
    intro param member
    rw [Bool.eq_false_iff, ne_eq]
    rcases List.mem_append.mp member with member | member
    · simp [multiple_processed _ .positionalOrKeyword (fun _ => rfl) member]
    · simp [multiple_processed _ .keywordOnly (fun _ => rfl) member]
  multiple := by
    intro param member
    simp [multiple_processed _ .varPositional (fun _ => rfl) member]

theorem Layout.names (layout : Layout signature parameters) :
    parameters.map (·.name) = signature.positionals.map Prod.fst ++ signature.varPositional.toList ++
      signature.keywordOnlys.map Prod.fst := by
  rw [layout.split, List.map_append, List.map_append, layout.names_positionals, layout.names_varPositional,
    layout.names_keywordOnlys]

theorem Layout.nodup (layout : Layout signature parameters) : (parameters.map (·.name)).Nodup := by
  rw [layout.names]
  exact (List.nodup_append.mp signature.nodup).1

theorem Layout.mem (layout : Layout signature parameters) {param : CommandParameter Value}
    (member : param ∈ layout.positionals ++ layout.varPositional ++ layout.keywordOnlys) : param ∈ parameters := by
  rw [layout.split]
  exact member

/-! ## The arguments of the call -/

/-- `PlanoCommand.init` puts the value of the parameter into `command_args`. -/
def passedByPosition (parameters : List (CommandParameter Value)) (name : String) : Bool :=
  name ≠ "passthrough_args" && parameters.any fun param => param.name = name && param.isPositional

/-- The value that a parameter of the function is meant to have. -/
def own (ns : Namespace Value) (passthrough : Option Value) (name : String) : Value :=
  if name = "passthrough_args" then passthrough.getD (ns.value name) else ns.value name

theorem passedByPosition_of_mem (nodup : (parameters.map (·.name)).Nodup) {param : CommandParameter Value}
    (member : param ∈ parameters) :
    passedByPosition parameters param.name = (decide (param.name ≠ "passthrough_args") && param.isPositional) := by
  have same : (parameters.any fun other => other.name = param.name && other.isPositional) = param.isPositional := by
    rw [Bool.eq_iff_iff, List.any_eq_true]
    constructor
    · rintro ⟨other, others, found⟩
      simp only [Bool.and_eq_true, decide_eq_true_eq] at found
      rw [← List.inj_on_of_nodup_map nodup others member found.1]
      exact found.2
    · intro positional
      exact ⟨param, member, by simp [positional]⟩
  rw [passedByPosition, same]

theorem commandArgs_append (ns : Namespace Value) (first second : List (CommandParameter Value)) :
    commandArgs ns (first ++ second) = commandArgs ns first ++ commandArgs ns second := by
  induction first with
  | nil => rfl
  | cons param first ih => simp [commandArgs, ih]

theorem commandArgs_single (nodup : (parameters.map (·.name)).Nodup) {some : List (CommandParameter Value)}
    (among : ∀ param ∈ some, param ∈ parameters ∧ param.multiple = false) :
    commandArgs ns some = ((some.map (·.name)).filter (passedByPosition parameters)).map ns.value := by
  induction some with
  | nil => rfl
  | cons param some ih =>
    have rest := ih fun other member => among other (List.mem_cons_of_mem _ member)
    have head := among param (List.mem_cons_self ..)
    have flag := passedByPosition_of_mem nodup head.1
    rw [commandArgs, rest, List.map_cons, List.filter_cons, flag]
    by_cases name : param.name = "passthrough_args"
    · simp [name]
    · cases positional : param.isPositional <;> simp [name, head.2]

theorem commandArgs_multiple {some : List (CommandParameter Value)}
    (among : ∀ param ∈ some, (param.name ≠ "passthrough_args" ∧ param.isPositional) ∧ param.multiple = true) :
    commandArgs ns some = some.flatMap fun param => ns.values param.name := by
  induction some with
  | nil => rfl
  | cons param some ih =>
    have head := among param (List.mem_cons_self ..)
    rw [commandArgs, ih fun other member => among other (List.mem_cons_of_mem _ member), List.flatMap_cons]
    simp [head.1.1, head.1.2, head.2]

theorem lookup_passthrough (ns : Namespace Value) (passthrough : Option Value)
    (parameters : List (CommandParameter Value)) :
    (commandKwargs ns passthrough parameters).lookup "passthrough_args" = passthrough := by
  induction parameters with
  | nil => cases passthrough <;> rfl
  | cons param parameters ih =>
    rw [commandKwargs]
    split
    · exact ih
    · rename_i given
      have different : ("passthrough_args" == param.name) = false := by
        simpa using fun same => given (Or.inl same.symm)
      rw [List.singleton_append, List.lookup_cons, different]
      exact ih

theorem lookup_commandKwargs (ns : Namespace Value) (passthrough : Option Value) {name : String}
    (other : name ≠ "passthrough_args") (parameters : List (CommandParameter Value)) :
    (commandKwargs ns passthrough parameters).lookup name =
      if ∃ param ∈ parameters, param.name = name ∧ param.isPositional = false then some (ns.value name)
      else none := by
  induction parameters with
  | nil =>
    cases passthrough with
    | none => rfl
    | some value =>
      have different : (name == "passthrough_args") = false := by simpa using other
      simp [commandKwargs, List.lookup_cons, different]
  | cons param parameters ih =>
    rw [commandKwargs]
    by_cases same : param.name = name
    · subst same
      cases positional : param.isPositional with
      | true => simpa [other, positional] using ih
      | false => simp [other, positional]
    · have different : (name == param.name) = false := by simpa using Ne.symm same
      split
      · simpa [same] using ih
      · rw [List.singleton_append, List.lookup_cons, different]
        simpa [same] using ih

theorem lookup_of_mem (nodup : (parameters.map (·.name)).Nodup) {param : CommandParameter Value}
    (member : param ∈ parameters) (other : param.name ≠ "passthrough_args") :
    (commandKwargs ns passthrough parameters).lookup param.name =
      if param.isPositional then none else some (ns.value param.name) := by
  rw [lookup_commandKwargs ns passthrough other]
  cases positional : param.isPositional with
  | true =>
    simp only [if_true]
    apply if_neg
    rintro ⟨same, among, name, byName⟩
    obtain rfl := List.inj_on_of_nodup_map nodup among member name
    simp [positional] at byName
  | false =>
    simp only [Bool.false_eq_true, if_false]
    exact if_pos ⟨param, member, rfl, positional⟩

/-- What the decorator is asked for: `*args` is positional, keyword-only parameters are not, and only a
    passthrough command has a parameter of that name. -/
structure Regular (signature : Signature Value) (parameters : List (CommandParameter Value))
    (passthrough : Option Value) : Prop where
  varPositional : ∀ name ∈ signature.varPositional, passedByPosition parameters name
  keywordOnlys : ∀ parameter ∈ signature.keywordOnlys, passedByPosition parameters parameter.1 = false
  passthrough : "passthrough_args" ∈ signature.named.map Prod.fst → passthrough.isSome

theorem commandArgs_eq (layout : Layout signature parameters) (regular : Regular signature parameters passthrough) :
    commandArgs ns parameters =
      ((signature.positionals.map Prod.fst).filter (passedByPosition parameters)).map ns.value ++
        signature.varPositional.toList.flatMap ns.values := by
  -- The parameters are those of the signature in order, and each kind adds its own values.
  have positionals : commandArgs ns layout.positionals =
      ((signature.positionals.map Prod.fst).filter (passedByPosition parameters)).map ns.value := by
    rw [← layout.names_positionals]
    apply commandArgs_single layout.nodup
    intro param member
    exact ⟨layout.mem (by simp [member]), layout.single param (by simp [member])⟩
  have keywordOnlys : commandArgs ns layout.keywordOnlys = [] := by
    rw [commandArgs_single layout.nodup, layout.names_keywordOnlys, List.filter_eq_nil_iff.mpr]
    · rfl
    · intro name member
      obtain ⟨parameter, among, rfl⟩ := List.mem_map.mp member
      simp [regular.keywordOnlys parameter among]
    · intro param member
      exact ⟨layout.mem (by simp [member]), layout.single param (by simp [member])⟩
  have varPositional : commandArgs ns layout.varPositional = signature.varPositional.toList.flatMap ns.values := by
    rw [← layout.names_varPositional, List.flatMap_map]
    apply commandArgs_multiple
    intro param member
    have name : param.name ∈ signature.varPositional.toList := by
      rw [← layout.names_varPositional]; exact List.mem_map_of_mem member
    have flag := regular.varPositional param.name (by simpa using name)
    rw [passedByPosition_of_mem layout.nodup (layout.mem (by simp [member]))] at flag
    exact ⟨by simpa using flag, layout.multiple param member⟩
  have split : commandArgs ns parameters =
      commandArgs ns (layout.positionals ++ layout.varPositional ++ layout.keywordOnlys) :=
    congrArg (commandArgs ns) layout.split
  rw [split, commandArgs_append, commandArgs_append, positionals, varPositional, keywordOnlys, List.append_nil]

theorem lookup_named (layout : Layout signature parameters) (regular : Regular signature parameters passthrough)
    {parameter : String × Option Value} (member : parameter ∈ signature.named) :
    (commandKwargs ns passthrough parameters).lookup parameter.1 =
      if passedByPosition parameters parameter.1 then none else some (own ns passthrough parameter.1) := by
  -- A parameter of this name is never passed by position, whatever is declared for it.
  by_cases name : parameter.1 = "passthrough_args"
  · obtain ⟨value, given⟩ := Option.isSome_iff_exists.mp
      (regular.passthrough (by rw [← name]; exact List.mem_map_of_mem member))
    have flag : passedByPosition parameters parameter.1 = false := by simp [passedByPosition, name]
    rw [flag, name, lookup_passthrough, given]
    rfl
  · obtain ⟨param, among, named⟩ : ∃ param ∈ parameters, param.name = parameter.1 := by
      rw [← List.mem_map (f := fun param : CommandParameter Value => param.name), layout.names]
      rcases List.mem_append.mp member with member | member
      · simp [List.mem_map_of_mem member]
      · simp [List.mem_map_of_mem member]
    rw [← named] at name ⊢
    have flag : passedByPosition parameters param.name = param.isPositional := by
      simp [passedByPosition_of_mem layout.nodup among, name]
    rw [lookup_of_mem layout.nodup among name, flag, own, if_neg name]

theorem extra_commandKwargs {names : List String}
    (known : ∀ param ∈ parameters, param.isPositional = false → param.name ∈ names) :
    (commandKwargs ns passthrough parameters).filter (fun kwarg => kwarg.1 ∉ names) =
      if "passthrough_args" ∈ names then []
      else passthrough.toList.map fun value => ("passthrough_args", value) := by
  induction parameters with
  | nil => cases passthrough <;> by_cases named : "passthrough_args" ∈ names <;> simp [commandKwargs, named]
  | cons param parameters ih =>
    have rest := ih fun other member => known other (List.mem_cons_of_mem _ member)
    rw [commandKwargs, List.filter_append, rest]
    split
    · simp
    · rename_i byName
      have name := known param (List.mem_cons_self ..) (by simpa using fun positional => byName (Or.inr positional))
      simp [name]

theorem Layout.named_of_byName (layout : Layout signature parameters)
    (regular : Regular signature parameters passthrough) {param : CommandParameter Value}
    (member : param ∈ parameters) (byName : param.isPositional = false) :
    param.name ∈ signature.named.map Prod.fst := by
  have name : param.name ∈ parameters.map (·.name) := List.mem_map_of_mem member
  rw [layout.names, List.append_assoc, List.mem_append, List.mem_append] at name
  rw [Signature.named, List.map_append, List.mem_append]
  rcases name with name | name | name
  · exact Or.inl name
  · have flag := regular.varPositional param.name (by simpa using name)
    simp [passedByPosition_of_mem layout.nodup member, byName] at flag
  · exact Or.inr name

/-- No positional value reaches a parameter that is passed by name. -/
def Apart (signature : Signature Value) (parameters : List (CommandParameter Value)) (ns : Namespace Value) : Prop :=
  ∀ parameter ∈ signature.positionals.take (commandArgs ns parameters).length,
    passedByPosition parameters parameter.1

instance : Decidable (Apart signature parameters ns) :=
  inferInstanceAs (Decidable (∀ parameter ∈ signature.positionals.take (commandArgs ns parameters).length,
    passedByPosition parameters parameter.1))

/-- The function has a place for the arguments that a passthrough command passes on. -/
def Passes (signature : Signature Value) (passthrough : Option Value) : Prop :=
  passthrough.isSome → "passthrough_args" ∈ signature.named.map Prod.fst ∨ signature.varKeyword.isSome

instance : Decidable (Passes signature passthrough) :=
  inferInstanceAs (Decidable (passthrough.isSome →
    "passthrough_args" ∈ signature.named.map Prod.fst ∨ signature.varKeyword.isSome))

/-- The values that the parameters of the function are meant to have. -/
def ownValues (signature : Signature Value) (ns : Namespace Value) (passthrough : Option Value) : Bound Value where
  named := signature.named.map fun parameter => (parameter.1, own ns passthrough parameter.1)
  varPositional := signature.varPositional.toList.flatMap ns.values
  varKeyword := if "passthrough_args" ∈ signature.named.map Prod.fst then []
    else passthrough.toList.map fun value => ("passthrough_args", value)

theorem not_passes_iff : ((ownValues signature ns passthrough).varKeyword ≠ [] ∧ signature.varKeyword = none) ↔
    ¬Passes signature passthrough := by
  unfold ownValues Passes
  cases passthrough with
  | none => simp
  | some value => by_cases named : "passthrough_args" ∈ signature.named.map Prod.fst <;> simp [named]

theorem bind_of_layout (layout : Layout signature parameters) (regular : Regular signature parameters passthrough)
    (ns : Namespace Value) :
    signature.bind (commandArgs ns parameters) (commandKwargs ns passthrough parameters) =
      if Apart signature parameters ns ∧ Passes signature passthrough then some (ownValues signature ns passthrough)
      else none := by
  have args : commandArgs ns parameters =
      ((signature.positionals.map Prod.fst).filter (passedByPosition parameters)).map (own ns passthrough) ++
        signature.varPositional.toList.flatMap ns.values := by
    rw [commandArgs_eq layout regular]
    congr 1
    apply List.map_congr_left
    intro name member
    have flag := (List.mem_filter.mp member).2
    simp only [passedByPosition, Bool.and_eq_true, decide_eq_true_eq] at flag
    rw [own, if_neg flag.1]
  -- Only here can a value be given twice: the others are given by name, or come from `*args`.
  have positional : bindPositionals (commandKwargs ns passthrough parameters) signature.positionals
      (commandArgs ns parameters) =
      if Apart signature parameters ns then
        some (signature.positionals.map fun parameter => (parameter.1, own ns passthrough parameter.1),
          signature.varPositional.toList.flatMap ns.values)
      else none :=
    bindPositionals_own (own ns passthrough) (passedByPosition parameters) _ signature.positionals
      (fun parameter member => lookup_named layout regular (List.mem_append_left _ member)) args
  have keyword : bindKeywords (commandKwargs ns passthrough parameters) signature.keywordOnlys =
      some (signature.keywordOnlys.map fun parameter => (parameter.1, own ns passthrough parameter.1)) := by
    apply bindKeywords_own
    intro parameter member
    rw [lookup_named layout regular (List.mem_append_right _ member), regular.keywordOnlys parameter member,
      if_neg Bool.false_ne_true]
  have extra : (commandKwargs ns passthrough parameters).filter
      (fun kwarg => kwarg.1 ∉ signature.named.map Prod.fst) =
      (ownValues signature ns passthrough).varKeyword :=
    extra_commandKwargs fun param member byName => layout.named_of_byName regular member byName
  -- There are values left over only if there are `*args` to take them.
  have placed : ¬(signature.varPositional.toList.flatMap ns.values ≠ [] ∧ signature.varPositional = none) := by
    rintro ⟨values, absent⟩
    exact values (by rw [absent]; rfl)
  rw [Signature.bind, positional, keyword]
  by_cases apart : Apart signature parameters ns
  · rw [if_pos apart]
    simp only [extra, placed, false_or, not_passes_iff, apart, true_and, ← List.map_append]
    by_cases passes : Passes signature passthrough
    · rw [if_neg (not_not.mpr passes), if_pos passes]
      rfl
    · rw [if_pos passes, if_neg passes]
  · rw [if_neg apart, if_neg fun both => apart both.1]

/-- A positional parameter other than `*args` stands, among all parameters, at an index that `args` does not have. -/
def Short (args : List Value) (i : Nat) (parameters : List (CommandParameter Value)) : Prop :=
  ∃ entry ∈ parameters.zipIdx i, entry.1.isPositional ∧ entry.1.multiple = false ∧ args.length ≤ entry.2

instance {args : List Value} {i : Nat} : Decidable (Short args i parameters) :=
  inferInstanceAs (Decidable (∃ entry ∈ parameters.zipIdx i,
    entry.1.isPositional ∧ entry.1.multiple = false ∧ args.length ≤ entry.2))

theorem displayArg_eq_none {args : List Value} {kwargs : List (String × Value)} {i : Nat}
    {param : CommandParameter Value} : displayArg objects args kwargs i param = none ↔
      param.isPositional ∧ param.multiple = false ∧ args.length ≤ i := by
  unfold displayArg
  cases param.isPositional with
  | false =>
    simp only [Bool.false_eq_true, if_false, false_and, iff_false]
    split <;> simp
  | true => cases param.multiple <;> cases param.optional <;> simp

theorem getDisplayArgs_eq_none {args : List Value} {kwargs : List (String × Value)} {i : Nat} :
    getDisplayArgs objects args kwargs i parameters = none ↔ Short args i parameters := by
  induction parameters generalizing i with
  | nil => simp [getDisplayArgs, Short]
  | cons param parameters ih =>
    have head : displayArg objects args kwargs i param = none ↔ _ := displayArg_eq_none
    have tail : getDisplayArgs objects args kwargs (i + 1) parameters = none ↔ _ := ih
    unfold Short at tail ⊢
    rw [getDisplayArgs, List.zipIdx_cons, List.exists_mem_cons_iff, ← head, ← tail]
    cases displayArg objects args kwargs i param with
    | none => simp
    | some texts => cases getDisplayArgs objects args kwargs (i + 1) parameters <;> simp

theorem callCommand_of_layout (layout : Layout signature parameters)
    (regular : Regular signature parameters passthrough) (ns : Namespace Value) :
    callCommand objects signature parameters (commandArgs ns parameters) (commandKwargs ns passthrough parameters) =
      if Short (commandArgs ns parameters) 0 parameters then .indexError
      else if Apart signature parameters ns ∧ Passes signature passthrough then
        .called (ownValues signature ns passthrough)
      else .typeError := by
  rw [callCommand, bind_of_layout layout regular]
  cases shown : getDisplayArgs objects (commandArgs ns parameters) (commandKwargs ns passthrough parameters) 0
      parameters with
  | none => rw [if_pos (getDisplayArgs_eq_none.mp shown)]
  | some texts =>
    have placed : ¬Short (commandArgs ns parameters) 0 parameters := by
      intro short
      have failed : getDisplayArgs objects (commandArgs ns parameters) (commandKwargs ns passthrough parameters) 0
          parameters = none := getDisplayArgs_eq_none.mpr short
      rw [shown] at failed
      cases failed
    rw [if_neg placed]
    by_cases taken : Apart signature parameters ns ∧ Passes signature passthrough
    · rw [if_pos taken, if_pos taken]
    · rw [if_neg taken, if_neg taken]

def strings : Objects String := ⟨"None", "empty", (· == ·), fun value => "'" ++ value ++ "'", fun _ => none⟩

/-- `def balderdash(required, optional="malarkey", other="rubbish", **extra_kwargs)`. -/
def balderdash : Signature String where
  positionals := [("required", none), ("optional", some "malarkey"), ("other", some "rubbish")]
  varPositional := none
  keywordOnlys := []
  varKeyword := some "extra_kwargs"
  nodup := by decide
  requiredFirst := by decide

def balderdashParameters : List (Declaration String) := [⟨"optional", "optional", "None", some true⟩]

/-- The arguments `bunk --other bollocks`. -/
def bunk : Namespace String where
  value := fun name => if name = "required" then "bunk" else if name = "other" then "bollocks" else "malarkey"
  values := fun _ => []

theorem mem_assign {cparam other : Declaration Value} {cparams : List (Declaration Value)}
    (member : other ∈ assign cparam cparams) : other = cparam ∨ other ∈ cparams := by
  induction cparams with
  | nil => exact Or.inl (List.mem_singleton.mp member)
  | cons first cparams ih =>
    rw [assign] at member
    split at member
    · rcases List.mem_cons.mp member with same | member
      · exact Or.inl same
      · exact Or.inr (List.mem_cons_of_mem _ member)
    · rcases List.mem_cons.mp member with rfl | member
      · exact Or.inr (List.mem_cons_self ..)
      · exact (ih member).imp_right (List.mem_cons_of_mem _)

theorem mem_cparamsIn {other : Declaration Value} (member : other ∈ cparamsIn cparams) : other ∈ cparams := by
  have general (given cparams : List (Declaration Value))
      (member : other ∈ cparams.foldl (fun cparams cparam => assign cparam cparams) given) :
      other ∈ given ∨ other ∈ cparams := by
    induction cparams generalizing given with
    | nil => exact Or.inl member
    | cons first cparams ih =>
      rcases ih _ member with member | member
      · rcases mem_assign member with rfl | member
        · exact Or.inr (List.mem_cons_self ..)
        · exact Or.inl member
      · exact Or.inr (List.mem_cons_of_mem _ member)
  exact (general [] cparams member).resolve_left (by simp)

/-- No parameter is declared to be positional or not to be. -/
def Undeclared (cparams : List (Declaration Value)) : Prop := ∀ cparam ∈ cparams, cparam.positional = none

theorem positional_cparam (undeclared : Undeclared cparams) (name : String) :
    (cparam objects cparams name).positional = none := by
  unfold cparam
  cases found : (cparamsIn cparams).find? (·.name = name) with
  | none => rfl
  | some declaration => exact undeclared declaration (mem_cparamsIn (List.mem_of_find?_eq_some found))

theorem isPositional_processed (undeclared : Undeclared cparams) {sparam : SParam Value}
    {param : CommandParameter Value} (processed : processParameter objects cparams sparam = some param) :
    param.isPositional = true ↔
      sparam.kind = .varPositional ∨ (sparam.kind = .positionalOrKeyword ∧ sparam.default = none) := by
  obtain ⟨name, kind, default⟩ := sparam
  have positional : (cparam objects cparams name).positional = none := positional_cparam undeclared name
  cases kind with
  | positionalOrKeyword =>
    cases default with
    | none =>
      obtain rfl := Option.some.inj processed
      simp [CommandParameter.isPositional, positional]
    | some default =>
      obtain rfl := Option.some.inj processed
      simp [CommandParameter.isPositional, positional]
  | varPositional =>
    obtain rfl := Option.some.inj processed
    simp [CommandParameter.isPositional, positional]
  | keywordOnly =>
    obtain rfl := Option.some.inj processed
    simp [CommandParameter.isPositional, positional]
  | varKeyword => cases processed

theorem passedByPosition_undeclared (derives : Derives signature) (undeclared : Undeclared cparams)
    {sparam : SParam Value} (member : sparam ∈ sparams signature) (kind : sparam.kind ≠ .varKeyword)
    (name : sparam.name ≠ "passthrough_args") :
    passedByPosition (processParameters objects cparams signature) sparam.name = true ↔
      sparam.kind = .varPositional ∨ (sparam.kind = .positionalOrKeyword ∧ sparam.default = none) := by
  have derived : (processParameter objects cparams sparam).isSome := processParameter_isSome kind
  obtain ⟨param, processed⟩ := Option.isSome_iff_exists.mp derived
  have among : param ∈ processParameters objects cparams signature := by
    rw [processParameters, if_neg derives]
    exact List.mem_filterMap.mpr ⟨sparam, member, processed⟩
  rw [← isPositional_processed undeclared processed, ← (of_processParameter processed).1,
    passedByPosition_of_mem (layout objects cparams derives).nodup among]
  simp [(of_processParameter processed).1, name]

theorem take_required {parameters : List (String × Option Value)}
    (requiredFirst : parameters.Pairwise fun earlier later => earlier.2.isSome → later.2.isSome) :
    ∀ parameter ∈ parameters.take (parameters.filter (·.2.isNone)).length, parameter.2.isNone := by
  induction parameters with
  | nil => simp
  | cons first parameters ih =>
    obtain ⟨later, rest⟩ := List.pairwise_cons.mp requiredFirst
    cases default : first.2 with
    | none => simpa [default] using ih rest
    | some value =>
      have none : parameters.filter (·.2.isNone) = [] := by
        rw [List.filter_eq_nil_iff]
        intro parameter member
        simp [Option.isSome_iff_ne_none.mp (later parameter member (by simp [default]))]
      simp [default, none]

/-- None of the function's parameters is for the arguments of a passthrough command. -/
def Plain (signature : Signature Value) : Prop := "passthrough_args" ∉ (sparams signature).map SParam.name

theorem Plain.ne (plain : Plain signature) {sparam : SParam Value} (member : sparam ∈ sparams signature) :
    sparam.name ≠ "passthrough_args" := fun name => plain (name ▸ List.mem_map_of_mem member)

theorem Layout.ne_of_plain (layout : Layout signature parameters) (plain : Plain signature)
    {param : CommandParameter Value} (member : param ∈ parameters) : param.name ≠ "passthrough_args" := by
  intro name
  have among : param.name ∈ parameters.map (·.name) := List.mem_map_of_mem member
  rw [layout.names, name] at among
  apply plain
  simp only [sparams, List.map_append, List.map_map, List.mem_append] at among ⊢
  exact .inl (by simpa [Function.comp_def] using among)

theorem passed_positional (derives : Derives signature) (undeclared : Undeclared cparams) (plain : Plain signature)
    (parameter : String × Option Value) (member : parameter ∈ signature.positionals) :
    passedByPosition (processParameters objects cparams signature) parameter.1 = parameter.2.isNone := by
  have among : (⟨parameter.1, .positionalOrKeyword, parameter.2⟩ : SParam Value) ∈ sparams signature := by
    simp only [sparams, List.mem_append, List.mem_map]
    exact Or.inl (Or.inl (Or.inl ⟨parameter, member, rfl⟩))
  rw [Bool.eq_iff_iff, passedByPosition_undeclared derives undeclared among (by simp) (plain.ne among)]
  simp

theorem regular_undeclared (derives : Derives signature) (undeclared : Undeclared cparams) (plain : Plain signature) :
    Regular signature (processParameters objects cparams signature) none where
  varPositional := by
    intro name member
    have among : (⟨name, .varPositional, none⟩ : SParam Value) ∈ sparams signature := by
      simp only [sparams, List.mem_append, List.mem_map, Option.mem_toList]
      exact Or.inl (Or.inl (Or.inr ⟨name, member, rfl⟩))
    exact (passedByPosition_undeclared derives undeclared among (by simp) (plain.ne among)).mpr (Or.inl rfl)
  keywordOnlys := by
    intro parameter member
    have among : (⟨parameter.1, .keywordOnly, parameter.2⟩ : SParam Value) ∈ sparams signature := by
      simp only [sparams, List.mem_append, List.mem_map]
      exact Or.inl (Or.inr ⟨parameter, member, rfl⟩)
    rw [Bool.eq_false_iff, ne_eq, passedByPosition_undeclared derives undeclared among (by simp) (plain.ne among)]
    simp
  passthrough := by
    intro member
    apply absurd _ plain
    rw [Signature.named, List.map_append, List.mem_append] at member
    simp only [sparams, List.map_append, List.map_map, List.mem_append]
    exact member.elim (fun member => Or.inl (Or.inl (Or.inl member))) fun member => Or.inl (Or.inr member)

theorem length_undeclared (derives : Derives signature) (undeclared : Undeclared cparams) (plain : Plain signature) :
    (commandArgs ns (processParameters objects cparams signature)).length =
      (signature.positionals.filter (·.2.isNone)).length +
        (signature.varPositional.toList.flatMap ns.values).length := by
  have filtered : signature.positionals.filter
      (passedByPosition (processParameters objects cparams signature) ∘ Prod.fst) =
      signature.positionals.filter (·.2.isNone) :=
    List.filter_congr fun parameter member => passed_positional derives undeclared plain parameter member
  rw [commandArgs_eq (layout objects cparams derives) (regular_undeclared derives undeclared plain),
    List.length_append, List.length_map, List.filter_map, List.length_map, filtered]

theorem apart_undeclared (derives : Derives signature) (undeclared : Undeclared cparams) (plain : Plain signature) :
    Apart signature (processParameters objects cparams signature) ns ↔
      (∀ parameter ∈ signature.positionals, parameter.2.isNone) ∨
        signature.varPositional.toList.flatMap ns.values = [] := by
  have flag (parameter : String × Option Value) (member : parameter ∈ signature.positionals) :
      passedByPosition (processParameters objects cparams signature) parameter.1 = parameter.2.isNone :=
    passed_positional derives undeclared plain parameter member
  have count : (commandArgs ns (processParameters objects cparams signature)).length = _ :=
    length_undeclared derives undeclared plain
  constructor
  · intro apart
    have reached : ∀ parameter ∈ signature.positionals.take
        ((signature.positionals.filter (·.2.isNone)).length +
          (signature.varPositional.toList.flatMap ns.values).length), parameter.2.isNone := by
      rw [← count]
      intro parameter member
      rw [← flag parameter (List.mem_of_mem_take member)]
      exact apart parameter member
    obtain ⟨front, back, split, required, -, rfl | none⟩ := split_of_reached reached
    · rw [split, List.append_nil]
      exact Or.inl required
    · exact Or.inr (List.length_eq_zero_iff.mp none)
  · intro free parameter member
    rw [flag parameter (List.mem_of_mem_take member)]
    rcases free with required | none
    · exact required parameter (List.mem_of_mem_take member)
    · rw [count, none, List.length_nil, Nat.add_zero] at member
      exact take_required signature.requiredFirst parameter member

theorem lt_required {parameters : List (String × Option Value)}
    (requiredFirst : parameters.Pairwise fun earlier later => earlier.2.isSome → later.2.isSome) {i : Nat}
    {parameter : String × Option Value} (found : parameters[i]? = some parameter) (required : parameter.2 = none) :
    i < (parameters.filter (·.2.isNone)).length := by
  induction parameters generalizing i with
  | nil => cases found
  | cons first parameters ih =>
    obtain ⟨later, rest⟩ := List.pairwise_cons.mp requiredFirst
    cases i with
    | zero =>
      obtain rfl := Option.some.inj found
      simp [required]
    | succ i =>
      have found : parameters[i]? = some parameter := found
      cases default : first.2 with
      | none => simpa [default] using ih rest found
      | some value =>
        have given := later parameter (List.mem_of_getElem? found) (by simp [default])
        simp [required] at given

theorem not_short_undeclared (derives : Derives signature) (undeclared : Undeclared cparams)
    (plain : Plain signature) : ¬Short (commandArgs ns (processParameters objects cparams signature)) 0
      (processParameters objects cparams signature) := by
  rintro ⟨⟨param, i⟩, member, positional, single, beyond⟩
  have regular : Regular signature (processParameters objects cparams signature) none :=
    regular_undeclared derives undeclared plain
  let layout := layout objects cparams derives
  have found : (layout.positionals ++ layout.varPositional ++ layout.keywordOnlys)[i]? = some param := by
    rw [← layout.split]
    exact List.mem_zipIdx_iff_getElem?.mp member
  have among : param ∈ processParameters objects cparams signature :=
    layout.mem (List.mem_of_getElem? found)
  have flag : passedByPosition (processParameters objects cparams signature) param.name = true := by
    rw [passedByPosition_of_mem layout.nodup among, positional, Bool.and_true, decide_eq_true_iff]
    exact layout.ne_of_plain plain among
  rw [List.append_assoc] at found
  rcases Nat.lt_or_ge i layout.positionals.length with within | after
  · rw [List.getElem?_append_left within] at found
    have names : (signature.positionals.map Prod.fst)[i]? = some param.name := by
      rw [← layout.names_positionals, List.getElem?_map, found]
      rfl
    obtain ⟨parameter, here, name⟩ := Option.map_eq_some_iff.mp (List.getElem?_map ▸ names)
    have required : parameter.2 = none := by
      rw [← name, passed_positional derives undeclared plain parameter (List.mem_of_getElem? here)] at flag
      exact Option.isNone_iff_eq_none.mp flag
    have few := lt_required signature.requiredFirst here required
    rw [length_undeclared derives undeclared plain] at beyond
    exact absurd (Nat.le_trans (Nat.le_add_right _ _) beyond) (Nat.not_le.mpr few)
  · rw [List.getElem?_append_right after] at found
    rcases List.mem_append.mp (List.mem_of_getElem? found) with multiple | keywordOnly
    · have multiple : param.multiple = true := layout.multiple param multiple
      simp [multiple] at single
    · have name : param.name ∈ signature.keywordOnlys.map Prod.fst := by
        rw [← layout.names_keywordOnlys]
        exact List.mem_map_of_mem keywordOnly
      obtain ⟨parameter, member, name⟩ := List.mem_map.mp name
      rw [← name, regular.keywordOnlys parameter member] at flag
      cases flag

/-- `def haberdash(first, *middle, last="bowler")`. -/
def haberdash : Signature String where
  positionals := [("first", none)]
  varPositional := some "middle"
  keywordOnlys := [("last", some "bowler")]
  varKeyword := none
  nodup := by decide
  requiredFirst := by decide

/-- The arguments `ballcap fedora hardhat --last turban`. -/
def ballcap : Namespace String where
  value := fun name => if name = "first" then "ballcap" else "turban"
  values := fun _ => ["fedora", "hardhat"]

end Bsord.Plano
