/-
The waits of `Dequeue`.

A worker holds the mutex for one turn of the loop.  The turn ends with an item, or in
`Wait`, with a timer when the root of the heap is not due yet.  `Signal` wakes one
waiter, whichever it is; until that worker gets the mutex it has been signalled and has
not run.
-/

import KubeTemplater.Queue.HeapInvariant
import Mathlib.Logic.Function.Basic

namespace KubeTemplater.Queue

open Library

inductive Place where
  | outside
  | waiting
  | signalled
  deriving DecidableEq, Repr

structure Waiting where
  session : Session
  workers : Nat
  place : Nat → Place
  /-- The timer of a worker's wait, until it fires or is stopped. -/
  timer : Nat → Option Time
  clock : Time

/-- A call that signals comes with the waiter it wakes. -/
inductive Event where
  | enqueue (key : NamespacedName) (priority : Int) (woken : Option Nat)
  | requeue (worker : Nat) (woken : Option Nat)
  | done (worker : Nat)
  /-- The worker calls `Dequeue`. -/
  | enter (worker : Nat)
  /-- The worker comes out of `Wait` with the mutex. -/
  | resume (worker : Nat)
  /-- The timer of the worker's wait fires. -/
  | fire (worker : Nat) (woken : Option Nat)
  | pass (elapsed : Nat)
  deriving DecidableEq, Repr

namespace Waiting

def start (maxRetries initialDelay maxDelay maxCycles : Int) (workers : Nat) (clock : Time) :
    Waiting :=
  { session := Session.start maxRetries initialDelay maxDelay maxCycles
    workers := workers
    place := fun _ => .outside
    timer := fun _ => none
    clock := clock }

def queue (state : Waiting) : WorkQueue := state.session.queue

def blocked (state : Waiting) : Bool :=
  (List.range state.workers).any (fun worker => state.place worker == .waiting)

def move (state : Waiting) (worker : Nat) (place : Place) : Waiting :=
  { state with place := Function.update state.place worker place }

def setTimer (state : Waiting) (worker : Nat) (timer : Option Time) : Waiting :=
  { state with timer := Function.update state.timer worker timer }

/-- `cond.Signal`: it has no effect only when nobody waits. -/
def signal (state : Waiting) : Option Nat → Option Waiting
  | none => if state.blocked then none else some state
  | some worker =>
      if state.place worker = .waiting then some (state.move worker .signalled) else none

def silent (state : Waiting) (woken : Option Nat) : Option Waiting :=
  if woken.isSome then none else some state

def turn (state : Waiting) (worker : Nat) : Option Waiting :=
  match state.queue.dequeue state.clock with
  | .stopped => some (state.move worker .outside)
  | .wait => some (state.move worker .waiting)
  | .waitUntil time => some ((state.move worker .waiting).setTimer worker (some time))
  | .take _ _ =>
      (state.session.step (.dequeue worker state.clock)).map (fun session =>
        { state.move worker .outside with session := session })

def step (state : Waiting) : Event → Option Waiting
  | .enqueue key priority woken =>
      (state.session.step (.enqueue key priority state.clock)).bind (fun session =>
        -- a key that is queued already is not signalled for, even when its priority is raised
        if state.queue.contains key then silent { state with session := session } woken
        else signal { state with session := session } woken)
  | .requeue worker woken =>
      (state.session.held worker).bind (fun ref =>
        (state.session.step (.requeue worker state.clock)).bind (fun session =>
          if state.queue.retries ref state.clock then
            signal { state with session := session } woken
          else silent { state with session := session } woken))
  | .done worker =>
      (state.session.step (.done worker)).map (fun session => { state with session := session })
  | .enter worker =>
      if worker < state.workers ∧ state.place worker = .outside ∧
          state.session.held worker = none then state.turn worker
      else none
  | .resume worker =>
      -- `timer.Stop()`
      if state.place worker = .signalled then (state.setTimer worker none).turn worker else none
  | .fire worker woken =>
      match state.timer worker with
      | none => none
      | some time =>
          if time ≤ state.clock then (state.setTimer worker none).signal woken else none
  | .pass elapsed => some { state with clock := state.clock + elapsed }

theorem move_self (state : Waiting) (worker : Nat) (place : Place) :
    (state.move worker place).place worker = place :=
  Function.update_self _ _ _

theorem move_other (state : Waiting) {worker other : Nat} (place : Place)
    (different : other ≠ worker) : (state.move worker place).place other = state.place other :=
  Function.update_of_ne different _ _

theorem setTimer_self (state : Waiting) (worker : Nat) (timer : Option Time) :
    (state.setTimer worker timer).timer worker = timer :=
  Function.update_self _ _ _

theorem setTimer_other (state : Waiting) {worker other : Nat} (timer : Option Time)
    (different : other ≠ worker) : (state.setTimer worker timer).timer other = state.timer other :=
  Function.update_of_ne different _ _

theorem blocked_iff (state : Waiting) :
    state.blocked = true ↔ ∃ worker, worker < state.workers ∧ state.place worker = .waiting := by
  simp only [blocked, List.any_eq_true, List.mem_range, beq_iff_eq]

theorem signal_cases {state next : Waiting} {woken : Option Nat}
    (signalled : state.signal woken = some next) :
    (∃ worker, state.place worker = .waiting ∧ next = state.move worker .signalled) ∨
      state.blocked = false ∧ next = state := by
  cases woken with
  | none =>
      simp only [signal] at signalled
      split at signalled
      · cases signalled
      · rename_i nobody
        cases signalled
        exact .inr ⟨Bool.eq_false_iff.mpr nobody, rfl⟩
  | some worker =>
      simp only [signal] at signalled
      split at signalled
      · rename_i waits
        cases signalled
        exact .inl ⟨worker, waits, rfl⟩
      · cases signalled

private theorem silent_eq {state next : Waiting} {woken : Option Nat}
    (quiet : state.silent woken = some next) : next = state := by
  unfold silent at quiet
  split at quiet
  · cases quiet
  · cases quiet
    rfl

inductive Turn (state : Waiting) (worker : Nat) (next : Waiting) : Prop where
  | stopped (shut : state.queue.shutdown = true) (isNext : next = state.move worker .outside)
  | empty (isEmpty : state.queue.items[0]? = none) (isNext : next = state.move worker .waiting)
  | early (ref : ItemRef) (root : state.queue.items[0]? = some ref)
      (isNext : next = (state.move worker .waiting).setTimer worker
        (some (state.queue.memory ref).scheduledAt))
  | takes (ref : ItemRef) (rest : WorkQueue)
      (hands : state.queue.dequeue state.clock = .take ref rest)
      (isNext : next = { state.move worker .outside with
        session := { queue := rest, held := setHeld state.session.held worker (some ref) } })
      (stepped : state.session.step (.dequeue worker state.clock) = some next.session)

theorem turn_cases {state next : Waiting} {worker : Nat}
    (turned : state.turn worker = some next) : Turn state worker next := by
  have turns := WorkQueue.dequeue_turns state.queue state.clock
  unfold turn at turned
  cases hands : state.queue.dequeue state.clock with
  | stopped =>
      rw [hands] at turned turns
      cases turned
      cases turns with
      | stopped shut => exact .stopped shut rfl
  | wait =>
      rw [hands] at turned turns
      cases turned
      cases turns with
      | wait isEmpty => exact .empty isEmpty rfl
  | waitUntil time =>
      rw [hands] at turned turns
      cases turned
      cases turns with
      | waitUntil ref root early => exact .early ref root rfl
  | take ref rest =>
      rw [hands] at turned
      obtain ⟨session, stepped, isNext⟩ := Option.map_eq_some_iff.mp turned
      cases isNext
      refine .takes ref rest hands ?_ stepped
      obtain ⟨other, queue, _free, handed, isSession⟩ := Session.step_hands stepped
      cases hands.symm.trans handed
      rw [isSession]

/-- What an event does: a call on the queue signals or is silent, a worker takes its turn,
a timer fires, or time passes. -/
inductive Happens (state next : Waiting) : Event → Prop where
  | enqueued (key : NamespacedName) (priority : Int) (woken : Option Nat) (session : Session)
      (stepped : state.session.step (.enqueue key priority state.clock) = some session)
      (signalled : signal { state with session := session } woken = some next) :
      Happens state next (.enqueue key priority woken)
  | duplicate (key : NamespacedName) (priority : Int) (woken : Option Nat) (session : Session)
      (known : state.queue.contains key = true)
      (stepped : state.session.step (.enqueue key priority state.clock) = some session)
      (isNext : next = { state with session := session }) :
      Happens state next (.enqueue key priority woken)
  | requeued (worker : Nat) (woken : Option Nat) (session : Session)
      (stepped : state.session.step (.requeue worker state.clock) = some session)
      (signalled : signal { state with session := session } woken = some next) :
      Happens state next (.requeue worker woken)
  | givenUp (worker : Nat) (woken : Option Nat) (ref : ItemRef) (session : Session)
      (holds : state.session.held worker = some ref)
      (exhausted : state.queue.retries ref state.clock = false)
      (stepped : state.session.step (.requeue worker state.clock) = some session)
      (isNext : next = { state with session := session }) :
      Happens state next (.requeue worker woken)
  | finished (worker : Nat) (session : Session)
      (stepped : state.session.step (.done worker) = some session)
      (isNext : next = { state with session := session }) : Happens state next (.done worker)
  | entered (worker : Nat) (isWorker : worker < state.workers)
      (isOutside : state.place worker = .outside) (turned : state.turn worker = some next) :
      Happens state next (.enter worker)
  | resumed (worker : Nat) (wasSignalled : state.place worker = .signalled)
      (turned : (state.setTimer worker none).turn worker = some next) :
      Happens state next (.resume worker)
  | fired (worker : Nat) (woken : Option Nat)
      (signalled : (state.setTimer worker none).signal woken = some next) :
      Happens state next (.fire worker woken)
  | passed (elapsed : Nat) (isNext : next = { state with clock := state.clock + elapsed }) :
      Happens state next (.pass elapsed)

theorem step_happens {state next : Waiting} {event : Event}
    (taken : state.step event = some next) : Happens state next event := by
  cases event with
  | enqueue key priority woken =>
      simp only [step] at taken
      obtain ⟨session, stepped, later⟩ := Option.bind_eq_some_iff.mp taken
      split at later
      · rename_i known
        exact .duplicate key priority woken session known stepped (silent_eq later)
      · exact .enqueued key priority woken session stepped later
  | requeue worker woken =>
      simp only [step] at taken
      obtain ⟨ref, holds, taken⟩ := Option.bind_eq_some_iff.mp taken
      obtain ⟨session, stepped, later⟩ := Option.bind_eq_some_iff.mp taken
      split at later
      · exact .requeued worker woken session stepped later
      · rename_i exhausted
        exact .givenUp worker woken ref session holds (Bool.eq_false_iff.mpr exhausted) stepped
          (silent_eq later)
  | done worker =>
      simp only [step] at taken
      obtain ⟨session, stepped, isNext⟩ := Option.map_eq_some_iff.mp taken
      exact .finished worker session stepped isNext.symm
  | enter worker =>
      simp only [step] at taken
      split at taken
      · rename_i allowed
        exact .entered worker allowed.1 allowed.2.1 taken
      · cases taken
  | resume worker =>
      simp only [step] at taken
      split at taken
      · rename_i wasSignalled
        exact .resumed worker wasSignalled taken
      · cases taken
  | fire worker woken =>
      simp only [step] at taken
      split at taken
      · cases taken
      · split at taken
        · exact .fired worker woken taken
        · cases taken
  | pass elapsed =>
      cases taken
      exact .passed elapsed rfl

end Waiting

end KubeTemplater.Queue
