/-
Programs run against an environment that may fail a call, and that may be stopped.

One reply is given for each call, and a reply decides what becomes of the call; a
program whose replies are used up is stopped before its next call.  What a program
sustains holds at every such point.
-/

import KubeTemplater.Library.Program

namespace KubeTemplater.Library.Program

variable {interface : Interface} {α β σ Reply : Type}
  (respond : Reply → (request : interface.Call) → σ → interface.Answer request × σ)

def follow : Program interface α → List Reply → σ → Option α × σ
  | done result, _, state => (some result, state)
  | call _ _, [], state => (none, state)
  | call request next, reply :: replies, state =>
      follow (next (respond reply request state).1) replies (respond reply request state).2

/-- Whatever the replies, `always` holds wherever the program is stopped, and
`ensures` when it ends. -/
def Sustains (always : σ → Prop) (ensures : α → σ → Prop) : Program interface α → σ → Prop
  | done result, state => always state ∧ ensures result state
  | call request next, state =>
      always state ∧ ∀ reply,
        Sustains always ensures (next (respond reply request state).1)
          (respond reply request state).2

section Rules

variable {respond} {always : σ → Prop} {state : σ}

variable {program : Program interface α}

theorem Sustains.mono {strong weak : α → σ → Prop}
    (sustains : Sustains respond always strong program state)
    (implies : ∀ result state', strong result state' → weak result state') :
    Sustains respond always weak program state := by
  induction program generalizing state with
  | done result => exact ⟨sustains.1, implies result state sustains.2⟩
  | call request next ih => exact ⟨sustains.1, fun reply => ih _ (sustains.2 reply)⟩

/-- What is sustained holds at the end too. -/
theorem Sustains.ends {ensures : α → σ → Prop}
    (sustains : Sustains respond always ensures program state) :
    Sustains respond always (fun _ state' => always state') program state := by
  induction program generalizing state with
  | done result => exact ⟨sustains.1, sustains.1⟩
  | call request next ih => exact ⟨sustains.1, fun reply => ih _ (sustains.2 reply)⟩

theorem Sustains.weaken {weak : σ → Prop} {ensures : α → σ → Prop}
    (sustains : Sustains respond always ensures program state)
    (implies : ∀ state', always state' → weak state') :
    Sustains respond weak ensures program state := by
  induction program generalizing state with
  | done result => exact ⟨implies state sustains.1, sustains.2⟩
  | call request next ih =>
      exact ⟨implies state sustains.1, fun reply => ih _ (sustains.2 reply)⟩

theorem sustains_bind {ensures : β → σ → Prop} (middle : α → σ → Prop)
    {rest : α → Program interface β} (first : Sustains respond always middle program state)
    (second : ∀ value state', always state' → middle value state' →
      Sustains respond always ensures (rest value) state') :
    Sustains respond always ensures (program >>= rest) state := by
  induction program generalizing state with
  | done value => exact second value state first.1 first.2
  | call request next ih => exact ⟨first.1, fun reply => ih _ (first.2 reply)⟩

theorem Sustains.follow {ensures : α → σ → Prop}
    (sustains : Sustains respond always ensures program state) (replies : List Reply) :
    always (program.follow respond replies state).2 ∧
      ∀ result, (program.follow respond replies state).1 = some result →
        ensures result (program.follow respond replies state).2 := by
  induction program generalizing state replies with
  | done value =>
      refine ⟨sustains.1, ?_⟩
      rintro _ ⟨⟩
      exact sustains.2
  | call request next ih =>
      cases replies with
      | nil =>
          refine ⟨sustains.1, ?_⟩
          intro result impossible
          cases impossible
      | cons reply rest => exact ih _ (sustains.2 reply) rest

end Rules

section Handler

variable {respond} {handler : (request : interface.Call) → σ → interface.Answer request × σ}

theorem follow_handled {program : Program interface α} {replies : List Reply} {state : σ}
    {result : α}
    (handled : ∀ reply, reply ∈ replies → ∀ request state',
      respond reply request state' = handler request state')
    (ended : (program.follow respond replies state).1 = some result) :
    program.follow respond replies state =
      (some (runWith handler program state).1, (runWith handler program state).2) := by
  induction program generalizing replies state with
  | done value => rfl
  | call request next ih =>
      cases replies with
      | nil => cases ended
      | cons reply rest =>
          have same := handled reply List.mem_cons_self request state
          simp only [Program.follow, same] at ended ⊢
          exact ih _ (fun other member => handled other (List.mem_cons_of_mem _ member)) ended

theorem exists_follow {reply : Reply}
    (handled : ∀ request state', respond reply request state' = handler request state')
    (program : Program interface α) (state : σ) :
    ∃ count, program.follow respond (List.replicate count reply) state =
      (some (runWith handler program state).1, (runWith handler program state).2) := by
  induction program generalizing state with
  | done value => exact ⟨0, rfl⟩
  | call request next ih =>
      obtain ⟨count, ends⟩ := ih (handler request state).1 (handler request state).2
      refine ⟨count + 1, ?_⟩
      simp only [List.replicate_succ, Program.follow, handled]
      exact ends

end Handler

end KubeTemplater.Library.Program
