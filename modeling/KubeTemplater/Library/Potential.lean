/-
Runs that are paid for.

A step costs something and the state has a potential; when every step pays its cost from
the potential, a whole run costs no more than there was at its start.  The potential of a
pool is the sum over its members, of which a step moves one.
-/

import KubeTemplater.Library.Transition
import Mathlib.Algebra.BigOperators.Group.Finset.Basic
import Mathlib.Algebra.Order.BigOperators.Group.Finset

namespace KubeTemplater.Library

variable {σ Label : Type}

def spent (step : σ → Label → Option σ) (cost : σ → Label → Nat) : σ → List Label → Nat
  | _, [] => 0
  | state, label :: rest =>
      cost state label + (step state label).elim 0 (fun next => spent step cost next rest)

theorem spent_cons {step : σ → Label → Option σ} {cost : σ → Label → Nat} {state next : σ}
    {label : Label} {rest : List Label} (taken : step state label = some next) :
    spent step cost state (label :: rest) = cost state label + spent step cost next rest := by
  simp only [spent, taken, Option.elim_some]

theorem spent_le {step : σ → Label → Option σ} {cost : σ → Label → Nat} {invariant : σ → Prop}
    {potential : σ → Nat}
    (preserved : ∀ state label next, invariant state → step state label = some next →
      invariant next)
    (pays : ∀ state label next, invariant state → step state label = some next →
      cost state label + potential next ≤ potential state)
    {state final : σ} {labels : List Label} (start : invariant state)
    (isRun : run step state labels = some final) :
    spent step cost state labels + potential final ≤ potential state := by
  induction labels generalizing state with
  | nil =>
      cases isRun
      exact Nat.le_of_eq (Nat.zero_add _)
  | cons label rest ih =>
      obtain ⟨next, taken, later⟩ := (run_cons_iff step state final label rest).mp isRun
      have first := pays state label next start taken
      have others := ih (preserved state label next start taken) later
      rw [spent_cons taken]
      omega

section Pools

variable {κ : Type} [DecidableEq κ] {members : Finset κ} {before after : κ → Nat}

theorem sum_pays {member : κ} {cost : Nat} (isMember : member ∈ members)
    (paid : cost + after member ≤ before member)
    (others : ∀ other ∈ members, other ≠ member → after other ≤ before other) :
    cost + members.sum after ≤ members.sum before := by
  have rest : (members.erase member).sum after ≤ (members.erase member).sum before := by
    apply Finset.sum_le_sum
    intro other isOther
    obtain ⟨different, isElse⟩ := Finset.mem_erase.mp isOther
    exact others other isElse different
  have sumAfter : after member + (members.erase member).sum after = members.sum after :=
    Finset.add_sum_erase members after isMember
  have sumBefore : before member + (members.erase member).sum before = members.sum before :=
    Finset.add_sum_erase members before isMember
  omega

end Pools

end KubeTemplater.Library
