/-
A transition function and an abstract transition relation that it refines.

Every step is shown as actions of the abstract system, as none when the step cannot be
seen there.  The step correspondence may rely on an invariant of the transition function.
-/

import KubeTemplater.Library.Transition

namespace KubeTemplater.Library

variable {σ Label τ Action : Type}

inductive Performs (next : τ → Action → τ → Prop) : τ → List Action → τ → Prop where
  | nil (state : τ) : Performs next state [] state
  | cons {state middle final : τ} {action : Action} {actions : List Action}
      (first : next state action middle) (later : Performs next middle actions final) :
      Performs next state (action :: actions) final

theorem Performs.single {next : τ → Action → τ → Prop} {state final : τ} {action : Action}
    (taken : next state action final) : Performs next state [action] final :=
  .cons taken (.nil final)

theorem Performs.append {next : τ → Action → τ → Prop} {state middle final : τ}
    {front back : List Action} (first : Performs next state front middle)
    (second : Performs next middle back final) : Performs next state (front ++ back) final := by
  induction first with
  | nil state => exact second
  | cons taken _ ih => exact .cons taken (ih second)

theorem Performs.keeps {next : τ → Action → τ → Prop} {property : τ → Prop}
    (kept : ∀ state action after, property state → next state action after → property after)
    {state final : τ} {actions : List Action} (performs : Performs next state actions final)
    (start : property state) : property final := by
  induction performs with
  | nil state => exact start
  | cons taken _ ih => exact ih (kept _ _ _ start taken)

structure Refines (step : σ → Label → Option σ) (next : τ → Action → τ → Prop)
    (invariant : σ → Prop) (abstraction : σ → τ) (shows : σ → Label → List Action) : Prop where
  preserved : ∀ state label after, invariant state → step state label = some after →
    invariant after
  follows : ∀ state label after, invariant state → step state label = some after →
    Performs next (abstraction state) (shows state label) (abstraction after)

def shown (step : σ → Label → Option σ) (shows : σ → Label → List Action) :
    σ → List Label → List Action
  | _, [] => []
  | state, label :: rest =>
      shows state label ++ (step state label).elim [] (fun next => shown step shows next rest)

section

variable {step : σ → Label → Option σ} {next : τ → Action → τ → Prop} {invariant : σ → Prop}
  {abstraction : σ → τ} {shows : σ → Label → List Action}

theorem shown_cons {state after : σ} {label : Label} {rest : List Label}
    (taken : step state label = some after) :
    shown step shows state (label :: rest) = shows state label ++ shown step shows after rest := by
  simp only [shown, taken, Option.elim_some]

theorem Refines.performs (refines : Refines step next invariant abstraction shows) {state final : σ}
    {labels : List Label} (start : invariant state) (isRun : run step state labels = some final) :
    Performs next (abstraction state) (shown step shows state labels) (abstraction final) := by
  induction labels generalizing state with
  | nil =>
      cases isRun
      exact .nil _
  | cons label rest ih =>
      obtain ⟨after, taken, later⟩ := (run_cons_iff step state final label rest).mp isRun
      rw [shown_cons taken]
      exact (refines.follows state label after start taken).append
        (ih (refines.preserved state label after start taken) later)

theorem Refines.throughout (refines : Refines step next invariant abstraction shows)
    {property : τ → Prop}
    (kept : ∀ state action after, property state → next state action after → property after)
    {state : σ} (start : invariant state) (holds : property (abstraction state))
    (labels : List Label) :
    Throughout step (fun state => property (abstraction state)) state labels := by
  have both := throughout_of_preserved step
    (fun state => invariant state ∧ property (abstraction state))
    (fun state label after here taken =>
      ⟨refines.preserved state label after here.1 taken,
        (refines.follows state label after here.1 taken).keeps kept here.2⟩)
    state labels ⟨start, holds⟩
  exact both.mono (fun _ here => here.2)

end

end KubeTemplater.Library
