/-
Any number of programs at work on one shared state.

Each program is followed through a protocol, and its place in the protocol is related
to the shared state.  A call of one program moves its own place; the places of the
others have to survive what the call does.
-/

import KubeTemplater.Library.Program
import KubeTemplater.Library.Table

namespace KubeTemplater.Library.Program

variable {interface : Interface} {α σ ghost : Type}

def Placed (protocol : Protocol interface ghost) (ensures : ghost → α → Prop)
    (related : ghost → σ → Prop) (shared : σ) (program : Program interface α) : Prop :=
  ∃ place, Guarantees protocol ensures place program ∧ related place shared

def AllPlaced (protocol : Protocol interface ghost) (ensures : ghost → α → Prop)
    (related : ghost → σ → Prop) (shared : σ) (threads : Nat → Option (Program interface α)) :
    Prop :=
  ∀ id program, threads id = some program → Placed protocol ensures related shared program

variable {protocol : Protocol interface ghost} {ensures : ghost → α → Prop}
  {related : ghost → σ → Prop} {shared next : σ} {threads : Nat → Option (Program interface α)}

theorem AllPlaced.stable (placed : AllPlaced protocol ensures related shared threads)
    (stable : ∀ place, related place shared → related place next) :
    AllPlaced protocol ensures related next threads := by
  intro id program isProgram
  obtain ⟨place, guarantees, here⟩ := placed id program isProgram
  exact ⟨place, guarantees, stable place here⟩

/-- One thread begins, goes on or ends. -/
theorem AllPlaced.update (placed : AllPlaced protocol ensures related shared threads) (id : Nat)
    (changed : Option (Program interface α))
    (here : ∀ program, changed = some program → Placed protocol ensures related shared program) :
    AllPlaced protocol ensures related shared (Function.update threads id changed) := by
  intro other program isProgram
  rcases update_eq_some isProgram with ⟨_, changes⟩ | ⟨_, before⟩
  · exact here program changes
  · exact placed other program before

/-- A call that the server has answered: the own place moves, the others stay. -/
theorem AllPlaced.answered (placed : AllPlaced protocol ensures related shared threads)
    {id : Nat} {request : interface.Call}
    {later : interface.Answer request → Program interface α}
    (isCall : threads id = some (.call request later)) (answer : interface.Answer request)
    (stable : ∀ place, related place shared → related place next)
    (moves : ∀ place, related place shared → protocol.permitted place request →
      protocol.expected place request answer ∧
        related (protocol.after place request answer) next) :
    AllPlaced protocol ensures related next
      (Function.update threads id (some (later answer))) := by
  obtain ⟨place, guarantees, here⟩ := placed id _ isCall
  obtain ⟨expected, there⟩ := moves place here guarantees.1
  refine (placed.stable stable).update id _ ?_
  rintro _ ⟨⟩
  exact ⟨_, guarantees.2 answer expected, there⟩

end KubeTemplater.Library.Program
