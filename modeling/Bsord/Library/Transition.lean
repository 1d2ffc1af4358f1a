import Mathlib.Order.Basic

/-! # Runs of a labelled transition system

A system is its step relation, over states and labels.  `Run` is a finite run with the labels of its
steps; a state is reachable when a run ends in it, so a statement about the last state of every run is
one about every state reached.  `restrict` keeps the steps that meet a condition on the label and on
the state before the step.
-/

namespace Library

variable {σ ℓ : Type}

inductive Run (step : σ → ℓ → σ → Prop) : σ → List ℓ → σ → Prop where
  | nil (s : σ) : Run step s [] s
  | snoc {s s' s'' : σ} {labels : List ℓ} {label : ℓ} (run : Run step s labels s')
      (last : step s' label s'') : Run step s (labels ++ [label]) s''

def restrict (step : σ → ℓ → σ → Prop) (guard : σ → ℓ → Prop) (s : σ) (label : ℓ) (s' : σ) : Prop :=
  guard s label ∧ step s label s'

namespace Run

variable {step : σ → ℓ → σ → Prop} {s s' s'' : σ} {label : ℓ} {labels labels' : List ℓ}

theorem single (only : step s label s') : Run step s [label] s' :=
  (Run.nil s).snoc only

theorem append (first : Run step s labels s') (second : Run step s' labels' s'') :
    Run step s (labels ++ labels') s'' := by
  induction second with
  | nil => simpa using first
  | snoc _ last ih =>
    rw [← List.append_assoc]
    exact ih.snoc last

theorem cons (first : step s label s') (rest : Run step s' labels s'') :
    Run step s (label :: labels) s'' :=
  (single first).append rest

theorem mono {step' : σ → ℓ → σ → Prop} (run : Run step s labels s')
    (allows : ∀ {s label s'}, step s label s' → step' s label s') : Run step' s labels s' := by
  induction run with
  | nil => exact .nil _
  | snoc _ last ih => exact ih.snoc (allows last)

theorem of_restrict {guard : σ → ℓ → Prop} (run : Run (restrict step guard) s labels s') :
    Run step s labels s' := run.mono And.right

theorem to_restrict {guard : σ → ℓ → Prop} (run : Run step s labels s')
    (met : ∀ label ∈ labels, ∀ s, guard s label) : Run (restrict step guard) s labels s' := by
  induction run with
  | nil => exact .nil _
  | snoc _ last ih =>
    have before := ih fun label mem => met label (List.mem_append_left _ mem)
    exact before.snoc ⟨met _ (List.mem_append_right _ List.mem_cons_self) _, last⟩

theorem invariant (run : Run step s labels s') (inv : σ → Prop)
    (preserved : ∀ {s label s'}, inv s → step s label s' → inv s') (start : inv s) : inv s' := by
  induction run with
  | nil => exact start
  | snoc _ last ih => exact preserved ih last

theorem invariant_history (run : Run step s labels s') (inv : List ℓ → σ → Prop)
    (preserved : ∀ {labels s label s'}, inv labels s → step s label s' → inv (labels ++ [label]) s')
    (start : inv [] s) : inv labels s' := by
  induction run with
  | nil => exact start
  | snoc _ last ih => exact preserved ih last

theorem invariant_of_labels (run : Run step s labels s') (allowed : ℓ → Prop) (inv : σ → Prop)
    (all : ∀ label ∈ labels, allowed label)
    (preserved : ∀ {s label s'}, allowed label → inv s → step s label s' → inv s') (start : inv s) :
    inv s' := by
  induction run with
  | nil => exact start
  | snoc _ last ih =>
    have before := ih fun label mem => all label (List.mem_append_left _ mem)
    exact preserved (all _ (List.mem_append_right _ List.mem_cons_self)) before last

/-- When each step of a system is a step of another one under a view of the states and labels, or leaves
    the view as it is, a run of the system is a run of the other. -/
theorem project {σ' ℓ' : Type} {step' : σ' → ℓ' → σ' → Prop} (run : Run step s labels s')
    (view : σ → σ') (viewLabel : ℓ → Option ℓ')
    (seen : ∀ {s label s' label'}, step s label s' → viewLabel label = some label' →
      step' (view s) label' (view s'))
    (unseen : ∀ {s label s'}, step s label s' → viewLabel label = none → view s' = view s) :
    Run step' (view s) (labels.filterMap viewLabel) (view s') := by
  induction run with
  | nil => exact .nil _
  | @snoc middle last labels label _ step ih =>
    rw [List.filterMap_append]
    cases shown : viewLabel label with
    | none =>
      rw [List.filterMap_cons_none shown, List.filterMap_nil, List.append_nil, unseen step shown]
      exact ih
    | some label' =>
      rw [List.filterMap_cons_some shown, List.filterMap_nil]
      exact ih.snoc (seen step shown)

/-- When no step raises a rank and some lower it, there are not more of these than it allows. -/
theorem countP_add_rank_le (run : Run step s labels s') (lowers : ℓ → Bool) (rank : σ → Nat) (inv : σ → Prop)
    (preserved : ∀ {s label s'}, inv s → step s label s' → inv s')
    (lower : ∀ {s label s'}, inv s → step s label s' →
      rank s' + (if lowers label then 1 else 0) ≤ rank s) (start : inv s) :
    labels.countP lowers + rank s' ≤ rank s := by
  induction run with
  | nil => simp
  | @snoc middle last labels label before step ih =>
    have next := lower (before.invariant inv preserved start) step
    rw [List.countP_append, List.countP_singleton]
    omega

/-- Steps that all lower a rank do not go on for longer than it allows. -/
theorem length_add_rank_le (run : Run step s labels s') (rank : σ → Nat) (inv : σ → Prop)
    (preserved : ∀ {s label s'}, inv s → step s label s' → inv s')
    (lower : ∀ {s label s'}, inv s → step s label s' → rank s' < rank s) (start : inv s) :
    labels.length + rank s' ≤ rank s := by
  have count := run.countP_add_rank_le (fun _ => true) rank inv preserved
    (fun inv step => lower inv step) start
  rwa [List.countP_true] at count

/-- When good steps keep an invariant that gives a law, and a step that is not good breaks the law at
    once, the law holds all along a run exactly when its steps are good. -/
theorem law_iff (run : Run step s labels s') (allowed good : ℓ → Prop) (inv law : σ → Prop)
    (all : ∀ label ∈ labels, allowed label)
    (preserved : ∀ {s label s'}, allowed label → good label → inv s → step s label s' → inv s')
    (gives : ∀ {s}, inv s → law s)
    (detects : ∀ {s label s'}, inv s → step s label s' → law s' → good label) (start : inv s) :
    (∀ before reached, before <+: labels → Run step s before reached → law reached) ↔
      ∀ label ∈ labels, good label := by
  constructor
  · intro lawful
    -- The invariant is carried along, for the step that would break the law.
    suffices (∀ label ∈ labels, good label) ∧ inv s' from this.1
    induction run with
    | nil => exact ⟨fun label mem => (List.not_mem_nil mem).elim, start⟩
    | @snoc middle last labels label before step ih =>
      have here : label ∈ labels ++ [label] := List.mem_append_right _ List.mem_cons_self
      obtain ⟨goodBefore, invariant⟩ := ih
        (fun label mem => all label (List.mem_append_left _ mem))
        fun before reached leads => lawful before reached (leads.trans (List.prefix_append _ _))
      have goodHere := detects invariant step (lawful _ last (List.prefix_refl _) (before.snoc step))
      refine ⟨fun other mem => ?_, preserved (all label here) goodHere invariant step⟩
      cases List.mem_append.mp mem with
      | inl mem => exact goodBefore other mem
      | inr mem =>
        rw [List.mem_singleton.mp mem]
        exact goodHere
  · intro allGood before reached leads run
    apply gives
    refine run.invariant_of_labels (fun label => allowed label ∧ good label) inv ?_ ?_ start
    · exact fun label mem => ⟨all label (leads.subset mem), allGood label (leads.subset mem)⟩
    · exact fun both => preserved both.1 both.2

/-- A label that no step from a state of the invariant carries does not occur. -/
theorem never (run : Run step s labels s') (inv : σ → Prop)
    (preserved : ∀ {s label s'}, inv s → step s label s' → inv s')
    (disabled : ∀ {s s'}, inv s → ¬ step s label s') (start : inv s) : label ∉ labels := by
  induction run with
  | nil => exact List.not_mem_nil
  | snoc before last ih =>
    intro mem
    cases List.mem_append.mp mem with
    | inl mem => exact ih mem
    | inr mem =>
      cases List.mem_singleton.mp mem
      exact disabled (before.invariant inv preserved start) last

end Run

end Library
