/-
Labelled transition functions and their runs.

A step is a partial function of the state and a label, so a run is a list of
labels and can be evaluated.  A condition on steps is read in the state each
step is taken in.
-/

import Mathlib.Logic.Basic

namespace KubeTemplater.Library

variable {σ : Type} {Label : Type}

def run (step : σ → Label → Option σ) : σ → List Label → Option σ
  | state, [] => some state
  | state, label :: rest => (step state label).bind (fun next => run step next rest)

def Along (step : σ → Label → Option σ) (condition : σ → Label → Prop) :
    σ → List Label → Prop
  | _, [] => True
  | state, label :: rest =>
      condition state label ∧ ∀ next, step state label = some next → Along step condition next rest

/-- The property holds in every state the run goes through, its first and last included. -/
def Throughout (step : σ → Label → Option σ) (property : σ → Prop) : σ → List Label → Prop
  | state, [] => property state
  | state, label :: rest =>
      property state ∧ ∀ next, step state label = some next → Throughout step property next rest

theorem run_cons_iff (step : σ → Label → Option σ) (state final : σ) (label : Label)
    (rest : List Label) :
    run step state (label :: rest) = some final ↔
      ∃ next, step state label = some next ∧ run step next rest = some final := by
  simp only [run, Option.bind_eq_some_iff]

variable {step : σ → Label → Option σ} {state : σ}

theorem run_append {middle final : σ} {front back : List Label}
    (first : run step state front = some middle) (second : run step middle back = some final) :
    run step state (front ++ back) = some final := by
  induction front generalizing state with
  | nil =>
      cases first
      exact second
  | cons label rest ih =>
      obtain ⟨next, taken, later⟩ := (run_cons_iff step state middle label rest).mp first
      exact (run_cons_iff step state final label (rest ++ back)).mpr ⟨next, taken, ih later⟩

variable {condition : σ → Label → Prop}

theorem along_append {middle : σ} {front back : List Label}
    (ends : run step state front = some middle) (first : Along step condition state front)
    (second : Along step condition middle back) :
    Along step condition state (front ++ back) := by
  induction front generalizing state with
  | nil =>
      cases ends
      exact second
  | cons label rest ih =>
      obtain ⟨next, taken, later⟩ := (run_cons_iff step state middle label rest).mp ends
      refine ⟨first.1, ?_⟩
      intro other isOther
      rw [taken] at isOther
      cases isOther
      exact ih later (first.2 next taken)

def checkAlong (step : σ → Label → Option σ) (check : σ → Label → Bool) :
    σ → List Label → Bool
  | _, [] => true
  | state, label :: rest =>
      check state label && (step state label).all (fun next => checkAlong step check next rest)

variable {labels : List Label}

theorem along_of_checkAlong {check : σ → Label → Bool}
    (sound : ∀ state label, check state label = true → condition state label)
    (checked : checkAlong step check state labels = true) :
    Along step condition state labels := by
  induction labels generalizing state with
  | nil => trivial
  | cons label rest ih =>
      obtain ⟨first, later⟩ := Bool.and_eq_true_iff.mp checked
      refine ⟨sound state label first, ?_⟩
      intro next taken
      rw [taken] at later
      exact ih later

/-- What each step meeting the condition preserves holds in every state of a run
whose steps all meet it. -/
theorem throughout_of_along (step : σ → Label → Option σ) (condition : σ → Label → Prop)
    (invariant : σ → Prop)
    (preserved : ∀ state label next, invariant state → condition state label →
      step state label = some next → invariant next)
    (state : σ) (labels : List Label) (start : invariant state)
    (along : Along step condition state labels) :
    Throughout step invariant state labels := by
  induction labels generalizing state with
  | nil => exact start
  | cons label rest ih =>
      refine ⟨start, ?_⟩
      intro next taken
      exact ih next (preserved state label next start along.1 taken) (along.2 next taken)

theorem Throughout.head {property : σ → Prop} (holds : Throughout step property state labels) :
    property state := by
  cases labels with
  | nil => exact holds
  | cons label rest => exact holds.1

theorem Throughout.mono {strong weak : σ → Prop} (implies : ∀ state, strong state → weak state)
    (holds : Throughout step strong state labels) : Throughout step weak state labels := by
  induction labels generalizing state with
  | nil => exact implies state holds
  | cons label rest ih =>
      exact ⟨implies state holds.1, fun next taken => ih (holds.2 next taken)⟩

theorem Throughout.along_both {property : σ → Prop} {implied : σ → Label → Prop}
    (holds : Throughout step property state labels) (along : Along step condition state labels)
    (implies : ∀ state label, property state → condition state label → implied state label) :
    Along step implied state labels := by
  induction labels generalizing state with
  | nil => trivial
  | cons label rest ih =>
      exact ⟨implies state label holds.1 along.1,
        fun next taken => ih (holds.2 next taken) (along.2 next taken)⟩

theorem along_of_forall (always : ∀ state label, condition state label) (state : σ)
    (labels : List Label) :
    Along step condition state labels := by
  induction labels generalizing state with
  | nil => trivial
  | cons label rest ih => exact ⟨always state label, fun next _taken => ih next⟩

theorem along_of_labels {condition : Label → Prop} (state : σ)
    (every : ∀ label ∈ labels, condition label) :
    Along step (fun _ label => condition label) state labels := by
  induction labels generalizing state with
  | nil => trivial
  | cons label rest ih =>
      refine ⟨every label List.mem_cons_self, ?_⟩
      intro next _taken
      exact ih next (fun other member => every other (List.mem_cons_of_mem label member))

/-- A condition that every state of the run allows is met by every step. -/
theorem Throughout.along {property : σ → Prop}
    (implies : ∀ state label, property state → condition state label)
    (holds : Throughout step property state labels) :
    Along step condition state labels :=
  holds.along_both (along_of_forall (fun _ _ => trivial) state labels)
    (fun state label here _ => implies state label here)

theorem Along.mono {strong weak : σ → Label → Prop}
    (implies : ∀ state label, strong state label → weak state label)
    (along : Along step strong state labels) :
    Along step weak state labels := by
  induction labels generalizing state with
  | nil => trivial
  | cons label rest ih =>
      exact ⟨implies state label along.1, fun next taken => ih (along.2 next taken)⟩

theorem along_and {left right : σ → Label → Prop} (alongLeft : Along step left state labels)
    (alongRight : Along step right state labels) :
    Along step (fun state label => left state label ∧ right state label) state labels := by
  induction labels generalizing state with
  | nil => trivial
  | cons label rest ih =>
      exact ⟨⟨alongLeft.1, alongRight.1⟩,
        fun next taken => ih (alongLeft.2 next taken) (alongRight.2 next taken)⟩

theorem Throughout.last {property : σ → Prop} {final : σ}
    (holds : Throughout step property state labels) (ends : run step state labels = some final) :
    property final := by
  induction labels generalizing state with
  | nil =>
      cases ends
      exact holds
  | cons label rest ih =>
      obtain ⟨next, taken, later⟩ := (run_cons_iff step state final label rest).mp ends
      exact ih (holds.2 next taken) later

/-- A property of single steps that no step needs a condition for. -/
theorem throughout_of_preserved (step : σ → Label → Option σ) (invariant : σ → Prop)
    (preserved : ∀ state label next, invariant state →
      step state label = some next → invariant next)
    (state : σ) (labels : List Label) (start : invariant state) :
    Throughout step invariant state labels := by
  induction labels generalizing state with
  | nil => exact start
  | cons label rest ih =>
      exact ⟨start, fun next taken => ih next (preserved state label next start taken)⟩

end KubeTemplater.Library
