/-
Partial tables with one entry changed.
-/

import Mathlib.Logic.Function.Basic

namespace KubeTemplater.Library

variable {κ β : Type} [DecidableEq κ] {table : κ → Option β} {key other : κ} {value : β}

theorem update_eq_some {changed : Option β}
    (found : Function.update table key changed other = some value) :
    other = key ∧ changed = some value ∨ other ≠ key ∧ table other = some value := by
  by_cases same : other = key
  · rw [same, Function.update_self] at found
    exact .inl ⟨same, found⟩
  · rw [Function.update_of_ne same] at found
    exact .inr ⟨same, found⟩

theorem update_none_eq_some (found : Function.update table key none other = some value) :
    other ≠ key ∧ table other = some value := by
  rcases update_eq_some found with ⟨_, impossible⟩ | before
  · cases impossible
  · exact before

end KubeTemplater.Library
