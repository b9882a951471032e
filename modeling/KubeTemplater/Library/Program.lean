/-
Programs that talk to an environment by calls.

A program either ends with a result or makes one call and goes on with the
answer.  Nothing is said here about what a call does: the same program can be
followed through every list of answers, run against a handler, or taken one
call at a time among other programs.
-/

import Mathlib.Logic.Basic

namespace KubeTemplater.Library

structure Interface where
  Call : Type
  Answer : Call → Type

inductive Program (interface : Interface) (α : Type) where
  | done (result : α)
  | call (request : interface.Call)
      (next : interface.Answer request → Program interface α)

namespace Program

variable {interface : Interface} {α β : Type}

def bind : Program interface α → (α → Program interface β) → Program interface β
  | done result, rest => rest result
  | call request next, rest => call request (fun answer => bind (next answer) rest)

instance : Monad (Program interface) where
  pure := done
  bind := bind

@[simp] theorem done_bind (result : α) (rest : α → Program interface β) :
    (done result >>= rest) = rest result := rfl

@[simp] theorem call_bind (request : interface.Call)
    (next : interface.Answer request → Program interface α)
    (rest : α → Program interface β) :
    (call request next >>= rest) = call request (fun answer => next answer >>= rest) := rfl

structure Exchange (interface : Interface) where
  request : interface.Call
  answer : interface.Answer request

/-- `Executes program trace result`: given the answers of `trace`, the program
makes exactly the calls of `trace` and ends with `result`. -/
inductive Executes : Program interface α → List (Exchange interface) → α → Prop where
  | done (result : α) : Executes (.done result) [] result
  | call (request : interface.Call)
      (next : interface.Answer request → Program interface α)
      (answer : interface.Answer request) (trace : List (Exchange interface)) (result : α)
      (rest : Executes (next answer) trace result) :
      Executes (.call request next) (⟨request, answer⟩ :: trace) result

theorem executes_done_iff (value result : α) (trace : List (Exchange interface)) :
    Executes (.done value) trace result ↔ trace = [] ∧ result = value := by
  constructor
  · intro execution
    cases execution
    exact ⟨rfl, rfl⟩
  · rintro ⟨rfl, rfl⟩
    exact .done _

theorem executes_call_iff (request : interface.Call)
    (next : interface.Answer request → Program interface α)
    (trace : List (Exchange interface)) (result : α) :
    Executes (.call request next) trace result ↔
      ∃ answer rest, trace = ⟨request, answer⟩ :: rest ∧ Executes (next answer) rest result := by
  constructor
  · intro execution
    cases execution with
    | call _ _ answer rest _ tail => exact ⟨answer, rest, rfl, tail⟩
  · rintro ⟨answer, rest, rfl, tail⟩
    exact .call request next answer rest result tail

/-- A sequence executes as its first part followed by the part chosen by the
first result. -/
theorem executes_bind_iff (program : Program interface α) (rest : α → Program interface β)
    (trace : List (Exchange interface)) (result : β) :
    Executes (program >>= rest) trace result ↔
      ∃ front back value, trace = front ++ back ∧
        Executes program front value ∧ Executes (rest value) back result := by
  induction program generalizing trace with
  | done value =>
      rw [done_bind]
      constructor
      · intro execution
        exact ⟨[], trace, value, rfl, .done value, execution⟩
      · rintro ⟨front, back, other, rfl, first, second⟩
        obtain ⟨rfl, rfl⟩ := (executes_done_iff _ _ _).mp first
        exact second
  | call request next ih =>
      rw [call_bind, executes_call_iff]
      constructor
      · rintro ⟨answer, tail, rfl, execution⟩
        obtain ⟨front, back, value, rfl, first, second⟩ := (ih answer tail).mp execution
        exact ⟨⟨request, answer⟩ :: front, back, value, rfl,
          .call request next answer front value first, second⟩
      · rintro ⟨front, back, value, rfl, first, second⟩
        obtain ⟨answer, tail, rfl, head⟩ := (executes_call_iff _ _ _ _).mp first
        exact ⟨answer, tail ++ back, rfl, (ih answer (tail ++ back)).mpr
          ⟨tail, back, value, rfl, head, second⟩⟩

inductive Leaves : Program interface α → List (Exchange interface) → Program interface α →
    Prop where
  | nil (program : Program interface α) : Leaves program [] program
  | call (request : interface.Call)
      (next : interface.Answer request → Program interface α)
      (answer : interface.Answer request) (trace : List (Exchange interface))
      (rest : Program interface α) (later : Leaves (next answer) trace rest) :
      Leaves (.call request next) (⟨request, answer⟩ :: trace) rest

variable {program : Program interface α}

theorem leaves_nil {rest : Program interface α} (leaves : Leaves program [] rest) :
    rest = program := by
  cases leaves
  rfl

variable {trace : List (Exchange interface)}

theorem Leaves.snoc {request : interface.Call}
    {next : interface.Answer request → Program interface α}
    (leaves : Leaves program trace (.call request next)) (answer : interface.Answer request) :
    Leaves program (trace ++ [⟨request, answer⟩]) (next answer) := by
  generalize isRest : Program.call request next = rest at leaves
  induction leaves with
  | nil program =>
      subst isRest
      exact .call request next answer [] _ (.nil _)
  | call first later given trace rest _ ih =>
      exact .call first later given _ _ (ih isRest)

theorem Leaves.executes {result : α} (leaves : Leaves program trace (.done result)) :
    Executes program trace result := by
  generalize isRest : (Program.done result : Program interface α) = rest at leaves
  induction leaves with
  | nil program =>
      subst isRest
      exact .done result
  | call request next answer trace rest _ ih =>
      exact .call request next answer trace result (ih isRest)

theorem Executes.leaves {result : α} (execution : Executes program trace result) :
    Leaves program trace (.done result) := by
  induction execution with
  | done result => exact .nil _
  | call request next answer trace result _ ih => exact .call request next answer trace _ ih

section Handler

variable {σ : Type} (handler : (request : interface.Call) → σ → interface.Answer request × σ)

def runWith : Program interface α → σ → α × σ
  | done result, state => (result, state)
  | call request next, state =>
      runWith (next (handler request state).1) (handler request state).2

def traceWith : Program interface α → σ → List (Exchange interface)
  | done _, _ => []
  | call request next, state =>
      ⟨request, (handler request state).1⟩ ::
        traceWith (next (handler request state).1) (handler request state).2

theorem executes_runWith (program : Program interface α) (state : σ) :
    Executes program (traceWith handler program state) (runWith handler program state).1 := by
  induction program generalizing state with
  | done result => exact .done result
  | call request next ih => exact .call request next _ _ _ (ih _ _)

/-- A sequence runs its first part and then what the first result selects. -/
theorem runWith_bind (program : Program interface α) (rest : α → Program interface β)
    (state : σ) :
    runWith handler (program >>= rest) state =
      runWith handler (rest (runWith handler program state).1)
        (runWith handler program state).2 := by
  induction program generalizing state with
  | done result => rfl
  | call request next ih => exact ih _ _

theorem traceWith_bind (program : Program interface α) (rest : α → Program interface β)
    (state : σ) :
    traceWith handler (program >>= rest) state =
      traceWith handler program state ++
        traceWith handler (rest (runWith handler program state).1)
          (runWith handler program state).2 := by
  induction program generalizing state with
  | done result => rfl
  | call request next ih => exact congrArg (List.cons _) (ih _ _)

end Handler

/-- The rules of a conversation with a ghost state: which answers are expected,
which calls are permitted, and how an exchange moves the ghost state. -/
structure Protocol (interface : Interface) (ghost : Type) where
  expected : ghost → (request : interface.Call) → interface.Answer request → Prop
  permitted : ghost → interface.Call → Prop
  after : ghost → (request : interface.Call) → interface.Answer request → ghost

def Protocol.stateless (expected : (request : interface.Call) → interface.Answer request → Prop)
    (permitted : interface.Call → Prop) : Protocol interface Unit :=
  { expected := fun _ => expected
    permitted := fun _ => permitted
    after := fun _ _ _ => () }

def Guarantees {ghost : Type} (protocol : Protocol interface ghost)
    (ensures : ghost → α → Prop) : ghost → Program interface α → Prop
  | state, done result => ensures state result
  | state, call request next =>
      protocol.permitted state request ∧
        ∀ answer, protocol.expected state request answer →
          Guarantees protocol ensures (protocol.after state request answer) (next answer)

section Rules

variable {ghost : Type} {protocol : Protocol interface ghost}

theorem guarantees_bind {ensures : ghost → β → Prop} (middle : ghost → α → Prop)
    {state : ghost} {program : Program interface α} {rest : α → Program interface β}
    (first : Guarantees protocol middle state program)
    (second : ∀ state' value, middle state' value →
      Guarantees protocol ensures state' (rest value)) :
    Guarantees protocol ensures state (program >>= rest) := by
  induction program generalizing state with
  | done value => exact second state value first
  | call request next ih =>
      refine ⟨first.1, ?_⟩
      intro answer expected
      exact ih answer (first.2 answer expected)

theorem Guarantees.mono {weak strong : ghost → α → Prop} {state : ghost}
    {program : Program interface α}
    (holds : Guarantees protocol strong state program)
    (implies : ∀ state' value, strong state' value → weak state' value) :
    Guarantees protocol weak state program := by
  induction program generalizing state with
  | done value => exact implies state value holds
  | call request next ih =>
      refine ⟨holds.1, ?_⟩
      intro answer expected
      exact ih answer (holds.2 answer expected)

end Rules

def Protocol.afterAll {ghost : Type} (protocol : Protocol interface ghost) (state : ghost)
    (trace : List (Exchange interface)) : ghost :=
  trace.foldl (fun state exchange => protocol.after state exchange.request exchange.answer) state

theorem Guarantees.leaves {ghost : Type} {protocol : Protocol interface ghost}
    {ensures : ghost → α → Prop} {state : ghost} {rest : Program interface α}
    (holds : Guarantees protocol ensures state program) (leaves : Leaves program trace rest)
    (expected : ∀ exchange, exchange ∈ trace →
      ∀ state, protocol.expected state exchange.request exchange.answer) :
    Guarantees protocol ensures (protocol.afterAll state trace) rest := by
  induction leaves generalizing state with
  | nil program => exact holds
  | call request next answer trace rest _ ih =>
      refine ih (holds.2 answer (expected _ List.mem_cons_self state)) ?_
      intro exchange member
      exact expected exchange (List.mem_cons_of_mem _ member)

theorem Guarantees.permits {ghost : Type} {protocol : Protocol interface ghost}
    {ensures : ghost → α → Prop} {state : ghost} {rest : Program interface α}
    (holds : Guarantees protocol ensures state program) (leaves : Leaves program trace rest)
    (expected : ∀ exchange, exchange ∈ trace →
      ∀ state, protocol.expected state exchange.request exchange.answer) :
    ∀ exchange, exchange ∈ trace → ∃ state, protocol.permitted state exchange.request := by
  induction leaves generalizing state with
  | nil program =>
      intro exchange member
      cases member
  | call request next answer trace rest _ ih =>
      intro exchange member
      rcases List.mem_cons.mp member with same | later
      · rw [same]
        exact ⟨state, holds.1⟩
      · exact ih (holds.2 answer (expected _ List.mem_cons_self state))
          (fun other among => expected other (List.mem_cons_of_mem _ among)) exchange later

section Transfer

variable {ghost other : Type} {known : Protocol interface other}
  {protocol : Protocol interface ghost} {ensures : other → α → Prop} {before : other}
  {program : Program interface α}

/-- A protocol follows another as long as their states stay related. -/
theorem Guarantees.simulate {related : other → ghost → Prop} {results : ghost → α → Prop}
    {state : ghost} (holds : Guarantees known ensures before program)
    (start : related before state)
    (expects : ∀ place state request answer, related place state →
      protocol.expected state request answer → known.expected place request answer)
    (permits : ∀ place state request, related place state → known.permitted place request →
      protocol.permitted state request)
    (moves : ∀ place state request answer, related place state →
      known.permitted place request → protocol.expected state request answer →
      related (known.after place request answer) (protocol.after state request answer))
    (ends : ∀ place state value, related place state → ensures place value →
      results state value) :
    Guarantees protocol results state program := by
  induction program generalizing before state with
  | done result => exact ends before state result start holds
  | call request next ih =>
      refine ⟨permits before state request start holds.1, ?_⟩
      intro answer expected
      apply ih answer (holds.2 answer (expects before state request answer start expected))
      exact moves before state request answer start holds.1 expected

theorem Guarantees.transfer (holds : Guarantees known ensures before program)
    (expects : ∀ state request answer, protocol.expected state request answer →
      ∀ place, known.expected place request answer)
    (permits : ∀ state place request, known.permitted place request →
      protocol.permitted state request) (state : ghost) :
    Guarantees protocol (fun _ _ => True) state program := by
  apply @Guarantees.simulate _ _ _ _ _ protocol _ _ _ (fun _ _ => True) _ _ holds trivial
  · intro place state request answer _related expected
    exact expects state request answer expected place
  · intro place state request _related permitted
    exact permits state place request permitted
  · intro _ _ _ _ _ _ _
    trivial
  · intro _ _ _ _ _
    trivial

/-- Calls that do not move the ghost state leave it where it is. -/
theorem Guarantees.steady (holds : Guarantees known ensures before program) (state : ghost)
    (expects : ∀ request answer, protocol.expected state request answer →
      ∀ place, known.expected place request answer)
    (permits : ∀ place request, known.permitted place request →
      protocol.permitted state request)
    (stays : ∀ place request answer, known.permitted place request →
      protocol.after state request answer = state) :
    Guarantees protocol (fun after _ => after = state) state program := by
  apply @Guarantees.simulate _ _ _ _ _ protocol _ _ _ (fun _ now => now = state) _ _ holds rfl
  · rintro place _ request answer rfl expected
    exact expects request answer expected place
  · rintro place _ request rfl permitted
    exact permits place request permitted
  · rintro place _ request answer rfl permitted _expected
    exact stays place request answer permitted
  · intro _ now _ same _ended
    exact same

end Transfer

def Makes (permitted : interface.Call → Prop) (program : Program interface α) : Prop :=
  Guarantees (Protocol.stateless (fun _ _ => True) permitted) (fun _ _ => True) () program

theorem makes_done (permitted : interface.Call → Prop) (result : α) :
    Makes permitted (.done result : Program interface α) :=
  trivial

theorem makes_call {permitted : interface.Call → Prop} {request : interface.Call}
    {next : interface.Answer request → Program interface α} (allowed : permitted request)
    (later : ∀ answer, Makes permitted (next answer)) :
    Makes permitted (.call request next) :=
  ⟨allowed, fun answer _expected => later answer⟩

theorem makes_bind {permitted : interface.Call → Prop} {rest : α → Program interface β}
    (first : Makes permitted program) (second : ∀ value, Makes permitted (rest value)) :
    Makes permitted (program >>= rest) :=
  guarantees_bind (fun _ _ => True) first (fun _ value _ => second value)

theorem Makes.mono {strong weak : interface.Call → Prop} (makes : Makes strong program)
    (implies : ∀ request, strong request → weak request) :
    Makes weak program := by
  induction program with
  | done result => exact trivial
  | call request next ih =>
      exact makes_call (implies request makes.1) (fun answer => ih answer (makes.2 answer trivial))

theorem Makes.guarantees {ghost : Type} {protocol : Protocol interface ghost}
    {allowed : interface.Call → Prop} (makes : Makes allowed program)
    (implies : ∀ state request, allowed request → protocol.permitted state request)
    (state : ghost) :
    Guarantees protocol (fun _ _ => True) state program :=
  Guarantees.transfer makes (fun _ _ _ _ _ => trivial) (fun state _ => implies state) state

theorem Makes.steady {ghost : Type} {protocol : Protocol interface ghost}
    {allowed : interface.Call → Prop} (makes : Makes allowed program) (state : ghost)
    (permits : ∀ request, allowed request → protocol.permitted state request)
    (stays : ∀ request answer, allowed request → protocol.after state request answer = state) :
    Guarantees protocol (fun after _ => after = state) state program :=
  Guarantees.steady makes state (fun _ _ _ _ => trivial) (fun _ => permits) (fun _ => stays)

theorem Makes.executes {permitted : interface.Call → Prop} {result : α}
    (makes : Makes permitted program) (execution : Executes program trace result) :
    ∀ exchange, exchange ∈ trace → permitted exchange.request := by
  induction execution with
  | done result =>
      intro exchange member
      cases member
  | call request next answer trace result rest ih =>
      intro exchange member
      rcases List.mem_cons.mp member with same | later
      · rw [same]
        exact makes.1
      · exact ih (makes.2 answer trivial) exchange later

end Program

end KubeTemplater.Library
