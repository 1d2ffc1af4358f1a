import Mathlib.Data.List.Nodup

/-! # Calls of functions with named parameters

How a call `f(*args, **kwargs)` gives values to the parameters of a function: positional values fill the
parameters from the left, keyword arguments fill them by name, defaults fill what is left.  A parameter
that is filled twice, one that is not filled and an argument without a parameter are errors.
-/

namespace Library

variable {Value : Type}

/-- The parameters of a function, each with its default; `varPositional` takes the positional values that
    are left over and `varKeyword` the keyword arguments. -/
structure Signature (Value : Type) where
  positionals : List (String × Option Value)
  varPositional : Option String
  keywordOnlys : List (String × Option Value)
  varKeyword : Option String
  nodup : (positionals.map Prod.fst ++ varPositional.toList ++ keywordOnlys.map Prod.fst ++
    varKeyword.toList).Nodup
  /-- No parameter without a default follows one with a default. -/
  requiredFirst : positionals.Pairwise fun earlier later => earlier.2.isSome → later.2.isSome

def Signature.named (signature : Signature Value) : List (String × Option Value) :=
  signature.positionals ++ signature.keywordOnlys

/-- The values that the parameters have received. -/
structure Bound (Value : Type) where
  named : List (String × Value)
  varPositional : List Value
  varKeyword : List (String × Value)
deriving DecidableEq

/-- The parameters that positional values can fill, with the values that are left over. -/
def bindPositionals (kwargs : List (String × Value)) :
    List (String × Option Value) → List Value → Option (List (String × Value) × List Value)
  | [], args => some ([], args)
  | (name, _) :: parameters, arg :: args =>
    if (kwargs.lookup name).isSome then none
    else (bindPositionals kwargs parameters args).map fun bound => ((name, arg) :: bound.1, bound.2)
  | (name, default) :: parameters, [] =>
    match (kwargs.lookup name).or default with
    | none => none
    | some value =>
      (bindPositionals kwargs parameters []).map fun bound => ((name, value) :: bound.1, bound.2)

def bindKeywords (kwargs : List (String × Value)) :
    List (String × Option Value) → Option (List (String × Value))
  | [] => some []
  | (name, default) :: parameters =>
    match (kwargs.lookup name).or default with
    | none => none
    | some value => (bindKeywords kwargs parameters).map ((name, value) :: ·)

/-- The call `f(*args, **kwargs)`; `none` is a `TypeError`. -/
def Signature.bind (signature : Signature Value) (args : List Value) (kwargs : List (String × Value)) :
    Option (Bound Value) :=
  match bindPositionals kwargs signature.positionals args, bindKeywords kwargs signature.keywordOnlys with
  | some (positional, rest), some keyword =>
    let extra := kwargs.filter fun kwarg => kwarg.1 ∉ signature.named.map Prod.fst
    if (rest ≠ [] ∧ signature.varPositional = none) ∨ (extra ≠ [] ∧ signature.varKeyword = none) then none
    else some ⟨positional ++ keyword, rest, extra⟩
  | _, _ => none

/-! ## Arguments made from one value for each parameter -/

/-- Each parameter is given by position or by name, and positional values for `varPositional` follow.  The
    call goes through exactly when no positional value reaches a parameter given by name. -/
theorem bindPositionals_own {kwargs : List (String × Value)} (own : String → Value)
    (byPosition : String → Bool) (rest : List Value) (parameters : List (String × Option Value))
    (byName : ∀ parameter ∈ parameters, kwargs.lookup parameter.1 =
      if byPosition parameter.1 then none else some (own parameter.1))
    {args : List Value}
    (positional : args = ((parameters.map Prod.fst).filter byPosition).map own ++ rest) :
    bindPositionals kwargs parameters args =
      if ∀ parameter ∈ parameters.take args.length, byPosition parameter.1 then
        some (parameters.map fun parameter => (parameter.1, own parameter.1), rest)
      else none := by
  induction parameters generalizing args with
  | nil => simp [bindPositionals, positional]
  | cons parameter parameters ih =>
    obtain ⟨name, default⟩ := parameter
    have head := byName _ (List.mem_cons_self ..)
    have tail := @ih fun parameter member => byName parameter (List.mem_cons_of_mem _ member)
    cases flag : byPosition name with
    | true =>
      obtain rfl : args = own name :: (((parameters.map Prod.fst).filter byPosition).map own ++ rest) := by
        simpa [flag] using positional
      simp only [flag, if_true] at head
      rw [bindPositionals, head, tail rfl]
      simp only [Option.isSome_none, Bool.false_eq_true, if_false, List.length_cons, List.take_succ_cons,
        List.forall_mem_cons, flag, true_and, List.map_cons]
      split <;> rfl
    | false =>
      simp only [flag, Bool.false_eq_true, if_false] at head
      have positional : args = ((parameters.map Prod.fst).filter byPosition).map own ++ rest := by
        simpa [flag] using positional
      -- A value for it would be its second one; without any, the keyword argument is taken.
      cases args with
      | nil =>
        rw [bindPositionals, head, tail positional]
        simp
      | cons arg args => simp [bindPositionals, head, flag]

theorem bindKeywords_own {kwargs : List (String × Value)} (own : String → Value)
    (parameters : List (String × Option Value))
    (byName : ∀ parameter ∈ parameters, kwargs.lookup parameter.1 = some (own parameter.1)) :
    bindKeywords kwargs parameters = some (parameters.map fun parameter => (parameter.1, own parameter.1)) := by
  induction parameters with
  | nil => rfl
  | cons parameter parameters ih =>
    have head := byName parameter (List.mem_cons_self ..)
    have tail := ih fun other member => byName other (List.mem_cons_of_mem _ member)
    rw [bindKeywords, head, tail]
    rfl

/-- Where no positional value reaches a parameter passed by name, those passed by position come first, and
    nothing is left over for `*args` unless there are no others. -/
theorem split_of_reached {α : Type} {p : α → Bool} {xs : List α} {count : Nat}
    (reached : ∀ x ∈ xs.take ((xs.filter p).length + count), p x) :
    ∃ front back, xs = front ++ back ∧ (∀ x ∈ front, p x) ∧ (∀ x ∈ back, p x = false) ∧
      (back = [] ∨ count = 0) := by
  induction xs with
  | nil => exact ⟨[], [], rfl, by simp, by simp, Or.inl rfl⟩
  | cons x xs ih =>
    cases flag : p x with
    | true =>
      rw [List.filter_cons_of_pos flag, List.length_cons, Nat.add_right_comm, List.take_succ_cons] at reached
      obtain ⟨front, back, rfl, positional, byName, left⟩ :=
        ih fun other member => reached other (List.mem_cons_of_mem _ member)
      exact ⟨x :: front, back, rfl, List.forall_mem_cons.mpr ⟨flag, positional⟩, byName, left⟩
    | false =>
      have none : ((x :: xs).filter p).length + count = 0 := by
        by_contra some
        obtain ⟨n, count⟩ := Nat.exists_eq_succ_of_ne_zero some
        have := reached x (by simp [count])
        simp [flag] at this
      refine ⟨[], x :: xs, rfl, by simp, ?_, Or.inr (by omega)⟩
      intro other member
      have empty : (x :: xs).filter p = [] := List.length_eq_zero_iff.mp (by omega)
      simpa using List.filter_eq_nil_iff.mp empty other member

end Library
