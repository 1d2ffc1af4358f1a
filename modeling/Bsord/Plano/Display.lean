import Bsord.Plano.Binding

/-! # What is shown of a call

What `_get_display_args` yields for the call that `PlanoCommand.run` makes.
-/

namespace Bsord.Plano

open Library

variable {Value : Type} {objects : Objects Value} {cparams : List (Declaration Value)}
  {signature : Signature Value} {parameters : List (CommandParameter Value)} {ns : Namespace Value}
  {passthrough : Option Value}

/-- What `_get_display_args` is meant to show of a parameter. -/
def shown (objects : Objects Value) (ns : Namespace Value) (passthrough : Option Value)
    (param : CommandParameter Value) : List String :=
  let value := own ns passthrough param.name
  if param.multiple then (ns.values param.name).map objects.repr
  else if param.isPositional ∧ param.optional = false then [objects.repr value]
  else if objects.eq value param.default then []
  else if param.isPositional then [objects.repr value]
  else [param.displayName ++ "=" ++ (objects.truth value).getD (objects.repr value)]

/-- From the index `i` on, the parameters are shown with their own values. -/
def Shows (objects : Objects Value) (ns : Namespace Value) (passthrough : Option Value) (args : List Value)
    (kwargs : List (String × Value)) (i : Nat) (parameters : List (CommandParameter Value)) : Prop :=
  getDisplayArgs objects args kwargs i parameters = some (parameters.flatMap (shown objects ns passthrough))

variable {args : List Value} {kwargs : List (String × Value)} {i : Nat}

theorem Shows.cons {param : CommandParameter Value}
    (here : displayArg objects args kwargs i param = some (shown objects ns passthrough param))
    (rest : Shows objects ns passthrough args kwargs (i + 1) parameters) :
    Shows objects ns passthrough args kwargs i (param :: parameters) := by
  rw [Shows, getDisplayArgs, here, rest]
  rfl

theorem getDisplayArgs_append {first second : List (CommandParameter Value)} {texts rest : List String}
    (head : getDisplayArgs objects args kwargs i first = some texts)
    (tail : getDisplayArgs objects args kwargs (i + first.length) second = some rest) :
    getDisplayArgs objects args kwargs i (first ++ second) = some (texts ++ rest) := by
  induction first generalizing i texts with
  | nil =>
    obtain rfl := Option.some.inj head
    exact tail
  | cons param first ih =>
    rw [getDisplayArgs] at head
    split at head
    · rename_i here after
      obtain rfl := Option.some.inj head
      rw [List.length_cons, ← Nat.add_assoc, Nat.add_right_comm] at tail
      rw [List.cons_append, getDisplayArgs, here, ih after tail, List.append_assoc]
    · cases head

theorem Shows.append {first second : List (CommandParameter Value)}
    (shows : Shows objects ns passthrough args kwargs i first)
    (rest : Shows objects ns passthrough args kwargs (i + first.length) second) :
    Shows objects ns passthrough args kwargs i (first ++ second) := by
  rw [Shows, List.flatMap_append]
  exact getDisplayArgs_append shows rest

theorem shows_positional (before rest : List Value) (front : List (CommandParameter Value))
    (positional : ∀ param ∈ front, param.isPositional ∧ param.multiple = false)
    (values : ∀ param ∈ front, own ns passthrough param.name = ns.value param.name) :
    Shows objects ns passthrough (before ++ front.map (fun param => ns.value param.name) ++ rest) kwargs
      before.length front := by
  induction front generalizing before with
  | nil => rfl
  | cons param front ih =>
    have head := positional param (List.mem_cons_self ..)
    have tail := ih (before ++ [ns.value param.name])
      (fun other member => positional other (List.mem_cons_of_mem _ member))
      (fun other member => values other (List.mem_cons_of_mem _ member))
    apply Shows.cons
    · simp only [displayArg, shown, head, values param (List.mem_cons_self ..), if_true, Bool.false_eq_true, if_false,
        true_and]
      cases param.optional <;> simp
    · simpa using tail

theorem shows_byName (back : List (CommandParameter Value))
    (byName : ∀ param ∈ back, param.isPositional = false ∧ param.multiple = false)
    (values : ∀ param ∈ back, kwargs.lookup param.name = some (own ns passthrough param.name)) :
    Shows objects ns passthrough args kwargs i back := by
  induction back generalizing i with
  | nil => rfl
  | cons param back ih =>
    have head := byName param (List.mem_cons_self ..)
    apply Shows.cons
    · simp only [displayArg, shown, head, values param (List.mem_cons_self ..), Bool.false_eq_true, if_false,
        false_and, Option.getD_some]
      split <;> rfl
    · exact ih (fun other member => byName other (List.mem_cons_of_mem _ member))
        (fun other member => values other (List.mem_cons_of_mem _ member))

theorem shows_multiple {varPositional : List (CommandParameter Value)} {name : Option String}
    (names : varPositional.map (·.name) = name.toList)
    (multiple : ∀ param ∈ varPositional, param.isPositional ∧ param.multiple = true)
    (values : args.drop i = name.toList.flatMap ns.values) :
    Shows objects ns passthrough args kwargs i varPositional := by
  cases name with
  | none =>
    obtain rfl : varPositional = [] := List.map_eq_nil_iff.mp names
    rfl
  | some name =>
    obtain ⟨param, rfl, rfl⟩ := List.map_eq_singleton_iff.mp names
    have head := multiple param (List.mem_singleton_self _)
    apply Shows.cons
    · simp [displayArg, shown, head, values]
    · rfl

theorem commandArgs_of_flag (layout : Layout signature parameters) (regular : Regular signature parameters passthrough)
    (flag : ∀ param ∈ parameters, passedByPosition parameters param.name = param.isPositional) :
    commandArgs ns parameters =
      (layout.positionals.filter (·.isPositional)).map (fun param => ns.value param.name) ++
        signature.varPositional.toList.flatMap ns.values := by
  have filtered : layout.positionals.filter (passedByPosition parameters ∘ fun param => param.name) =
      layout.positionals.filter (·.isPositional) :=
    List.filter_congr fun param member => flag param (layout.mem (by simp [member]))
  rw [commandArgs_eq layout regular, ← layout.names_positionals, List.filter_map, filtered, List.map_map]
  rfl

theorem lookup_byName (layout : Layout signature parameters) (regular : Regular signature parameters passthrough)
    {param : CommandParameter Value} (member : param ∈ parameters) (byName : param.isPositional = false) :
    (commandKwargs ns passthrough parameters).lookup param.name = some (own ns passthrough param.name) := by
  obtain ⟨parameter, among, name⟩ := List.mem_map.mp (layout.named_of_byName regular member byName)
  have flag : passedByPosition parameters param.name = false := by
    simp [passedByPosition_of_mem layout.nodup member, byName]
  rw [← name] at flag ⊢
  rw [lookup_named layout regular among, flag, if_neg Bool.false_ne_true]

theorem Layout.positional_of_varPositional (layout : Layout signature parameters)
    (regular : Regular signature parameters passthrough) {param : CommandParameter Value}
    (member : param ∈ layout.varPositional) : param.isPositional := by
  have name : param.name ∈ signature.varPositional.toList := by
    rw [← layout.names_varPositional]
    exact List.mem_map_of_mem member
  have flag := regular.varPositional param.name (by simpa using name)
  rw [passedByPosition_of_mem layout.nodup (layout.mem (by simp [member])), Bool.and_eq_true] at flag
  exact flag.2

theorem Layout.passed_of_keywordOnlys (layout : Layout signature parameters)
    (regular : Regular signature parameters passthrough) {param : CommandParameter Value}
    (member : param ∈ layout.keywordOnlys) : passedByPosition parameters param.name = false := by
  have name : param.name ∈ signature.keywordOnlys.map Prod.fst := by
    rw [← layout.names_keywordOnlys]
    exact List.mem_map_of_mem member
  obtain ⟨parameter, among, name⟩ := List.mem_map.mp name
  rw [← name]
  exact regular.keywordOnlys parameter among

theorem shows_of_layout (layout : Layout signature parameters)
    (regular : Regular signature parameters passthrough)
    (byName : ∀ param ∈ parameters, param.name = "passthrough_args" → param.isPositional = false)
    (apart : Apart signature parameters ns) :
    Shows objects ns passthrough (commandArgs ns parameters) (commandKwargs ns passthrough parameters) 0
      parameters := by
  have flag (param : CommandParameter Value) (member : param ∈ parameters) :
      passedByPosition parameters param.name = param.isPositional := by
    rw [passedByPosition_of_mem layout.nodup member]
    by_cases name : param.name = "passthrough_args"
    · simp [name, byName param member name]
    · simp [name]
  have args : commandArgs ns parameters = _ := commandArgs_of_flag layout regular flag
  -- As in the call itself, the parameters passed by position come first and their values stand at their place.
  have reached : ∀ param ∈ layout.positionals.take (commandArgs ns parameters).length, param.isPositional := by
    intro param member
    have name : param.name ∈ (signature.positionals.take (commandArgs ns parameters).length).map Prod.fst := by
      rw [List.map_take, ← layout.names_positionals, ← List.map_take]
      exact List.mem_map_of_mem member
    obtain ⟨parameter, among, name⟩ := List.mem_map.mp name
    rw [← flag param (layout.mem (by simp [List.mem_of_mem_take member])), ← name]
    exact apart parameter among
  rw [args, List.length_append, List.length_map] at reached
  obtain ⟨front, back, split, positional, rest, left⟩ := split_of_reached reached
  have filtered : layout.positionals.filter (·.isPositional) = front := by
    rw [split, List.filter_append, List.filter_eq_self.mpr positional, List.filter_eq_nil_iff.mpr, List.append_nil]
    simpa using rest
  rw [filtered] at args
  have single : ∀ param ∈ front ++ back, param ∈ parameters ∧ param.multiple = false := by
    intro param member
    rw [← split] at member
    exact ⟨layout.mem (by simp [member]), layout.single param (by simp [member])⟩
  have keywordOnly : ∀ param ∈ layout.keywordOnlys, param ∈ parameters ∧ param.isPositional = false := by
    intro param member
    have among : param ∈ parameters := layout.mem (by simp [member])
    exact ⟨among, by rw [← flag param among, layout.passed_of_keywordOnlys regular member]⟩
  have all : front ++ back ++ layout.varPositional ++ layout.keywordOnlys = parameters := by
    rw [← split]
    exact layout.split.symm
  have shows : Shows objects ns passthrough (commandArgs ns parameters) (commandKwargs ns passthrough parameters) 0
      (front ++ back ++ layout.varPositional ++ layout.keywordOnlys) := by
    apply Shows.append
    · apply Shows.append
      · apply Shows.append
        · rw [args]
          apply shows_positional [] _ front
          · intro param member
            exact ⟨positional param member, (single param (by simp [member])).2⟩
          · intro param member
            rw [own, if_neg]
            intro name
            have passed := positional param member
            rw [byName param (single param (by simp [member])).1 name] at passed
            cases passed
        · apply shows_byName back
          · intro param member
            exact ⟨rest param member, (single param (by simp [member])).2⟩
          · intro param member
            exact lookup_byName layout regular (single param (by simp [member])).1 (rest param member)
      · apply shows_multiple layout.names_varPositional
        · intro param member
          exact ⟨layout.positional_of_varPositional regular member, layout.multiple param member⟩
        · rw [args]
          -- A parameter passed by name before `*args` leaves no values for it.
          rcases left with rfl | none
          · simp
          · rw [List.length_eq_zero_iff.mp none]
            simp
    · apply shows_byName layout.keywordOnlys
      · intro param member
        exact ⟨(keywordOnly param member).2, layout.single param (by simp [member])⟩
      · intro param member
        exact lookup_byName layout regular (keywordOnly param member).1 (keywordOnly param member).2
  rwa [all] at shows

end Bsord.Plano
