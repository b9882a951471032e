/-
The loops of the workers around the queue.

A worker looks at its context at the top of the loop, calls `Dequeue`, processes the item
and hands it to `Requeue` or `Done`.  It returns when the context is cancelled at the top
of the loop or when `Dequeue` says that the queue is shut down.
-/

import KubeTemplater.Library.Potential
import KubeTemplater.Queue.Backlog
import KubeTemplater.Queue.WakeUps

namespace KubeTemplater.Worker

open Library
open Queue

def shutDown (state : Waiting) : Waiting :=
  { state with
    session := { state.session with queue := state.session.queue.shutDown }
    place := fun worker =>
      if state.place worker = .waiting then .signalled else state.place worker }

inductive Stage where
  /-- Before the `select`. -/
  | looping
  /-- After the `select`, before it has the mutex of the queue. -/
  | calling
  | dequeuing
  | processing
  | returned
  deriving DecidableEq, Repr

structure Pool where
  waits : Waiting
  cancelled : Bool
  stage : Nat → Stage

inductive PoolEvent where
  | enqueue (key : NamespacedName) (priority : Int) (woken : Option Nat)
  | fire (worker : Nat) (woken : Option Nat)
  | pass (elapsed : Nat)
  | select (worker : Nat)
  | enter (worker : Nat)
  | resume (worker : Nat)
  /-- `processItem` has failed and the item is requeued. -/
  | fail (worker : Nat) (woken : Option Nat)
  /-- `processItem` has succeeded, or the template has been paused. -/
  | finish (worker : Nat)
  | cancel
  | shutdown
  deriving DecidableEq, Repr

def PoolEvent.isWork : PoolEvent → Bool
  | .select _ => true
  | .enter _ => true
  | .resume _ => true
  | .fail _ _ => true
  | .finish _ => true
  | _ => false

namespace Pool

def startWorkers (maxRetries initialDelay maxDelay maxCycles : Int) (numWorkers : Nat)
    (clock : Time) : Pool :=
  { waits := Waiting.start maxRetries initialDelay maxDelay maxCycles numWorkers clock
    cancelled := false
    stage := fun _ => .looping }

def go (state : Pool) (worker : Nat) (stage : Stage) (waits : Waiting) : Pool :=
  { state with waits := waits, stage := Function.update state.stage worker stage }

theorem go_self (state : Pool) (worker : Nat) (stage : Stage) (waits : Waiting) :
    (state.go worker stage waits).stage worker = stage :=
  Function.update_self _ _ _

theorem go_other (state : Pool) {worker other : Nat} (stage : Stage) (waits : Waiting)
    (different : other ≠ worker) :
    (state.go worker stage waits).stage other = state.stage other :=
  Function.update_of_ne different _ _

def afterTurn (state : Pool) : Stage :=
  match state.waits.queue.dequeue state.waits.clock with
  | .stopped => .returned
  | .wait => .dequeuing
  | .waitUntil _ => .dequeuing
  | .take _ _ => .processing

def step (state : Pool) : PoolEvent → Option Pool
  | .enqueue key priority woken =>
      (state.waits.step (.enqueue key priority woken)).map (fun waits =>
        { state with waits := waits })
  | .fire worker woken =>
      (state.waits.step (.fire worker woken)).map (fun waits => { state with waits := waits })
  | .pass elapsed =>
      (state.waits.step (.pass elapsed)).map (fun waits => { state with waits := waits })
  | .select worker =>
      if worker < state.waits.workers ∧ state.stage worker = .looping then
        some (state.go worker (if state.cancelled then .returned else .calling) state.waits)
      else none
  | .enter worker =>
      if state.stage worker = .calling then
        (state.waits.step (.enter worker)).map (state.go worker state.afterTurn)
      else none
  | .resume worker =>
      (state.waits.step (.resume worker)).map (state.go worker state.afterTurn)
  | .fail worker woken =>
      if state.stage worker = .processing then
        (state.waits.step (.requeue worker woken)).map (state.go worker .looping)
      else none
  | .finish worker =>
      if state.stage worker = .processing then
        (state.waits.step (.done worker)).map (state.go worker .looping)
      else none
  | .cancel => some { state with cancelled := true }
  | .shutdown => some { state with waits := shutDown state.waits }

/-- Workers may have been signalled; nothing else happens to them. -/
structure Calm (before after : Waiting) : Prop where
  workers : after.workers = before.workers
  outside : ∀ worker, after.place worker = .outside ↔ before.place worker = .outside
  waiting : ∀ worker, after.place worker = .waiting → before.place worker = .waiting

variable {before after : Waiting}

theorem calm_of_same (workers : after.workers = before.workers)
    (place : after.place = before.place) :
    Calm before after :=
  ⟨workers, fun _ => by rw [place], fun worker isWaiting => place ▸ isWaiting⟩

theorem calm_of_signal {state : Waiting} {woken : Option Nat}
    (signalled : state.signal woken = some after) (workers : state.workers = before.workers)
    (place : state.place = before.place) : Calm before after := by
  rcases Waiting.signal_cases signalled with ⟨worker, waits, rfl⟩ | ⟨_, rfl⟩
  · constructor
    · exact workers
    · intro other
      by_cases same : other = worker
      · rw [same, Waiting.move_self, ← place, waits]
        exact ⟨Place.noConfusion, Place.noConfusion⟩
      · rw [Waiting.move_other state _ same, place]
    · intro other isWaiting
      by_cases same : other = worker
      · rw [same, ← place]
        exact waits
      · rwa [Waiting.move_other state _ same, place] at isWaiting
  · exact calm_of_same workers place

/-- How a turn of the loop of `Dequeue` ends, for the worker and for the queue. -/
inductive Turned (before after : Waiting) (worker : Nat) : Stage → Prop where
  | stopped (shut : before.queue.shutdown = true)
      (place : after.place = Function.update before.place worker .outside)
      (session : after.session = before.session) : Turned before after worker .returned
  | blocked (isOpen : before.queue.shutdown = false)
      (place : after.place = Function.update before.place worker .waiting)
      (session : after.session = before.session) : Turned before after worker .dequeuing
  | takes (ref : ItemRef) (isOpen : before.queue.shutdown = false)
      (root : before.queue.items[0]? = some ref)
      (place : after.place = Function.update before.place worker .outside)
      (held : after.session.held = setHeld before.session.held worker (some ref))
      (sameClosed : after.queue.shutdown = before.queue.shutdown) :
      Turned before after worker .processing

private theorem dequeue_open {queue : WorkQueue} {now : Time} {turn : DequeueTurn}
    (turned : queue.dequeue now = turn) (continues : turn ≠ .stopped) :
    queue.shutdown = false := by
  cases shut : queue.shutdown with
  | false => rfl
  | true =>
      have stopped : queue.dequeue now = .stopped := if_pos shut
      exact absurd (turned.symm.trans stopped) continues

private theorem turned_of_turn {state : Pool} {timer : Nat → Option Time} {worker : Nat}
    (turned : ({ state.waits with timer := timer } : Waiting).turn worker = some after) :
    Turned state.waits after worker state.afterTurn := by
  unfold afterTurn
  unfold Waiting.turn at turned
  change (match state.waits.queue.dequeue state.waits.clock with
    | .stopped => _ | .wait => _ | .waitUntil _ => _ | .take _ _ => _) = _ at turned
  cases hands : state.waits.queue.dequeue state.waits.clock with
  | stopped =>
      rw [hands] at turned
      cases turned
      have turns := WorkQueue.dequeue_turns state.waits.queue state.waits.clock
      rw [hands] at turns
      cases turns with
      | stopped shut => exact .stopped shut rfl rfl
  | take ref rest =>
      rw [hands] at turned
      obtain ⟨session, stepped, isAfter⟩ := Option.map_eq_some_iff.mp turned
      cases isAfter
      obtain ⟨other, queue, _free, handed, isSession⟩ := Session.step_hands stepped
      cases hands.symm.trans handed
      cases isSession
      have spec := WorkQueue.dequeue_take _ _ _ _ hands
      exact .takes ref (dequeue_open hands DequeueTurn.noConfusion) spec.root rfl rfl
        (Session.step_shutdown stepped)
  | _ =>
      rw [hands] at turned
      cases turned
      exact .blocked (dequeue_open hands DequeueTurn.noConfusion) rfl rfl

inductive Moves (state next : Pool) : PoolEvent → Prop where
  | elsewhere {event : PoolEvent} (notWork : event.isWork = false)
      (calm : Calm state.waits next.waits)
      (held : next.waits.session.held = state.waits.session.held)
      (closed : next.waits.queue.shutdown = state.waits.queue.shutdown)
      (stage : next.stage = state.stage) (cancelled : next.cancelled = state.cancelled) :
      Moves state next event
  | selects (worker : Nat) (isWorker : worker < state.waits.workers)
      (atTop : state.stage worker = .looping)
      (isNext : next =
        state.go worker (if state.cancelled then .returned else .calling) state.waits) :
      Moves state next (.select worker)
  | turns {event : PoolEvent} (worker : Nat)
      (isTurn : event = .enter worker ∨ event = .resume worker)
      (ready : state.stage worker = .calling ∧ worker < state.waits.workers ∨
        state.waits.place worker = .signalled)
      (waits : Waiting) (turned : Turned state.waits waits worker state.afterTurn)
      (workers : waits.workers = state.waits.workers)
      (isNext : next = state.go worker state.afterTurn waits) : Moves state next event
  | ends {event : PoolEvent} (worker : Nat) (processes : state.stage worker = .processing)
      (isEnd : (∃ woken, event = .fail worker woken) ∨ event = .finish worker)
      (waits : Waiting) (calm : Calm state.waits waits)
      (held : waits.session.held = setHeld state.waits.session.held worker none)
      (closed : waits.queue.shutdown = state.waits.queue.shutdown)
      (isNext : next = state.go worker .looping waits) : Moves state next event
  | cancels (isNext : next = { state with cancelled := true }) : Moves state next .cancel
  | shuts (isNext : next = { state with waits := shutDown state.waits }) :
      Moves state next .shutdown

theorem waits_shutdown {event : Event} (taken : before.step event = some after) :
    after.queue.shutdown = before.queue.shutdown := by
  rcases Waiting.step_session taken with same | ⟨operation, stepped, _⟩
  · exact congrArg (fun session => session.queue.shutdown) same
  · exact Session.step_shutdown stepped

private theorem waits_enqueue {key : NamespacedName} {priority : Int} {woken : Option Nat}
    (taken : before.step (.enqueue key priority woken) = some after) :
    Calm before after ∧ after.session.held = before.session.held := by
  cases Waiting.step_happens taken with
  | enqueued _ _ _ session enqueued signalled =>
      cases enqueued
      refine ⟨calm_of_signal signalled rfl rfl, ?_⟩
      rw [Waiting.signal_session signalled]
  | duplicate _ _ _ session known enqueued isAfter =>
      cases enqueued
      cases isAfter
      exact ⟨calm_of_same rfl rfl, rfl⟩

private theorem waits_requeue {worker : Nat} {woken : Option Nat}
    (taken : before.step (.requeue worker woken) = some after) :
    Calm before after ∧ after.session.held = setHeld before.session.held worker none := by
  cases Waiting.step_happens taken with
  | requeued _ _ session requeued signalled =>
      obtain ⟨ref, _holds, rfl⟩ := Session.step_requeue requeued
      refine ⟨calm_of_signal signalled rfl rfl, ?_⟩
      rw [Waiting.signal_session signalled]
  | givenUp _ _ ref session holds exhausted requeued isAfter =>
      obtain ⟨other, _holds, rfl⟩ := Session.step_requeue requeued
      cases isAfter
      exact ⟨calm_of_same rfl rfl, rfl⟩

private theorem waits_done {worker : Nat} (taken : before.step (.done worker) = some after) :
    Calm before after ∧ after.session.held = setHeld before.session.held worker none := by
  cases Waiting.step_happens taken with
  | finished _ session finished isAfter =>
      cases Session.step_done finished
      cases isAfter
      exact ⟨calm_of_same rfl rfl, rfl⟩

private theorem turn_workers {worker : Nat} (turned : before.turn worker = some after) :
    after.workers = before.workers := by
  cases Waiting.turn_cases turned with
  | stopped _ isNext => rw [isNext]; rfl
  | empty _ isNext => rw [isNext]; rfl
  | early _ _ isNext => rw [isNext]; rfl
  | takes _ _ _ isNext _ => rw [isNext]; rfl

theorem step_moves {state next : Pool} {event : PoolEvent} (taken : state.step event = some next) :
    Moves state next event := by
  cases event with
  | enqueue key priority woken =>
      obtain ⟨waits, stepped, rfl⟩ := Option.map_eq_some_iff.mp taken
      obtain ⟨calm, held⟩ := waits_enqueue stepped
      exact .elsewhere rfl calm held (waits_shutdown stepped) rfl rfl
  | fire worker woken =>
      obtain ⟨waits, stepped, rfl⟩ := Option.map_eq_some_iff.mp taken
      cases Waiting.step_happens stepped with
      | fired _ _ signalled =>
          have session := Waiting.signal_session signalled
          exact .elsewhere rfl (calm_of_signal signalled rfl rfl) (congrArg Session.held session)
            (waits_shutdown stepped) rfl rfl
  | pass elapsed =>
      cases taken
      exact .elsewhere rfl (calm_of_same rfl rfl) rfl rfl rfl rfl
  | select worker =>
      simp only [step] at taken
      split at taken
      · rename_i atTop
        exact .selects worker atTop.1 atTop.2 (Option.some.inj taken).symm
      · cases taken
  | enter worker =>
      simp only [step] at taken
      split at taken
      · rename_i calls
        obtain ⟨waits, stepped, rfl⟩ := Option.map_eq_some_iff.mp taken
        cases Waiting.step_happens stepped with
        | entered _ isWorker _ turned =>
            exact .turns worker (.inl rfl) (.inl ⟨calls, isWorker⟩) waits (turned_of_turn turned)
              (turn_workers turned) rfl
      · cases taken
  | resume worker =>
      obtain ⟨waits, stepped, rfl⟩ := Option.map_eq_some_iff.mp taken
      cases Waiting.step_happens stepped with
      | resumed _ signalled turned =>
          have workers := turn_workers turned
          exact .turns worker (.inr rfl) (.inr signalled) waits (turned_of_turn turned) workers rfl
  | fail worker woken =>
      simp only [step] at taken
      split at taken
      · rename_i processes
        obtain ⟨waits, stepped, rfl⟩ := Option.map_eq_some_iff.mp taken
        obtain ⟨calm, held⟩ := waits_requeue stepped
        exact .ends worker processes (.inl ⟨woken, rfl⟩) waits calm held (waits_shutdown stepped)
          rfl
      · cases taken
  | finish worker =>
      simp only [step] at taken
      split at taken
      · rename_i processes
        obtain ⟨waits, stepped, rfl⟩ := Option.map_eq_some_iff.mp taken
        obtain ⟨calm, held⟩ := waits_done stepped
        exact .ends worker processes (.inr rfl) waits calm held (waits_shutdown stepped) rfl
      · cases taken
  | cancel => exact .cancels (Option.some.inj taken).symm
  | shutdown => exact .shuts (Option.some.inj taken).symm

structure Staged (state : Pool) : Prop where
  isWorker : ∀ worker, state.stage worker ≠ .looping → worker < state.waits.workers
  inside : ∀ worker, state.stage worker = .dequeuing ↔ state.waits.place worker ≠ .outside
  holds : ∀ worker, state.stage worker = .processing ↔ state.waits.session.held worker ≠ none

theorem start_staged (maxRetries initialDelay maxDelay maxCycles : Int) (numWorkers : Nat)
    (clock : Time) :
    (startWorkers maxRetries initialDelay maxDelay maxCycles numWorkers clock).Staged where
  isWorker := fun _ notLooping => absurd rfl notLooping
  inside := fun _ => iff_of_false Stage.noConfusion (fun isInside => isInside rfl)
  holds := fun _ => iff_of_false Stage.noConfusion (fun holds => holds rfl)

section Steps

variable {state next : Pool} {worker : Nat}

theorem Staged.outside (staged : state.Staged) (notInside : state.stage worker ≠ .dequeuing) :
    state.waits.place worker = .outside :=
  not_not.mp ((staged.inside worker).not.mp notInside)

theorem Staged.free (staged : state.Staged) (notProcessing : state.stage worker ≠ .processing) :
    state.waits.session.held worker = none :=
  not_not.mp ((staged.holds worker).not.mp notProcessing)

theorem Staged.still (staged : state.Staged) (stage : next.stage = state.stage)
    (workers : next.waits.workers = state.waits.workers)
    (places : ∀ worker,
      next.waits.place worker = .outside ↔ state.waits.place worker = .outside)
    (held : next.waits.session.held = state.waits.session.held) : next.Staged := by
  constructor
  · intro worker notLooping
    rw [workers]
    exact staged.isWorker worker (stage ▸ notLooping)
  · intro worker
    rw [stage, staged.inside worker]
    exact not_congr (places worker).symm
  · intro worker
    rw [stage, held]
    exact staged.holds worker

/-- The worker goes to a stage that says where it is; the others stay as they are. -/
theorem Staged.went (staged : state.Staged) {stage : Stage} {waits : Waiting}
    (isWorker : worker < state.waits.workers) (workers : waits.workers = state.waits.workers)
    (inside : stage = .dequeuing ↔ waits.place worker ≠ .outside)
    (holds : stage = .processing ↔ waits.session.held worker ≠ none)
    (places : ∀ other, other ≠ worker →
      (waits.place other = .outside ↔ state.waits.place other = .outside))
    (held : ∀ other, other ≠ worker →
      waits.session.held other = state.waits.session.held other) :
    (state.go worker stage waits).Staged := by
  constructor
  · intro other notLooping
    change other < waits.workers
    rw [workers]
    by_cases same : other = worker
    · exact same ▸ isWorker
    · rw [go_other state stage waits same] at notLooping
      exact staged.isWorker other notLooping
  · intro other
    by_cases same : other = worker
    · rw [same, go_self]
      exact inside
    · rw [go_other state stage waits same, staged.inside other]
      exact not_congr (places other same).symm
  · intro other
    by_cases same : other = worker
    · rw [same, go_self]
      exact holds
    · rw [go_other state stage waits same, staged.holds other]
      change _ ↔ waits.session.held other ≠ none
      rw [held other same]

theorem update_outside {place : Nat → Place} {other : Nat} {target : Place}
    (different : other ≠ worker) :
    Function.update place worker target other = .outside ↔ place other = .outside := by
  rw [Function.update_of_ne different]

theorem Staged.turned (staged : state.Staged) {stage : Stage} {waits : Waiting}
    (isWorker : worker < state.waits.workers) (free : state.waits.session.held worker = none)
    (workers : waits.workers = state.waits.workers)
    (turned : Turned state.waits waits worker stage) : (state.go worker stage waits).Staged := by
  cases turned with
  | stopped shut place session =>
      refine staged.went isWorker workers ?_ ?_ ?_ ?_
      · rw [place, Function.update_self]
        exact iff_of_false Stage.noConfusion (fun isInside => isInside rfl)
      · rw [session, free]
        exact iff_of_false Stage.noConfusion (fun holds => holds rfl)
      · intro other different
        rw [place, update_outside different]
      · intro other _different
        rw [session]
  | blocked isOpen place session =>
      refine staged.went isWorker workers ?_ ?_ ?_ ?_
      · rw [place, Function.update_self]
        exact ⟨fun _ => Place.noConfusion, fun _ => rfl⟩
      · rw [session, free]
        exact iff_of_false Stage.noConfusion (fun holds => holds rfl)
      · intro other different
        rw [place, update_outside different]
      · intro other _different
        rw [session]
  | takes ref isOpen root place held sameClosed =>
      refine staged.went isWorker workers ?_ ?_ ?_ ?_
      · rw [place, Function.update_self]
        exact iff_of_false Stage.noConfusion (fun isInside => isInside rfl)
      · rw [held, setHeld_self]
        exact ⟨fun _ => Option.some_ne_none ref, fun _ => rfl⟩
      · intro other different
        rw [place, update_outside different]
      · intro other different
        rw [held, setHeld_other _ _ _ _ different]

private theorem shutDown_outside (waits : Waiting) (worker : Nat) :
    (shutDown waits).place worker = .outside ↔ waits.place worker = .outside := by
  unfold shutDown
  dsimp only
  split
  · rename_i isWaiting
    rw [isWaiting]
    exact ⟨Place.noConfusion, Place.noConfusion⟩
  · rfl

theorem Staged.ready (staged : state.Staged)
    (ready : state.stage worker = .calling ∧ worker < state.waits.workers ∨
      state.waits.place worker = .signalled) :
    (state.stage worker = .calling ∨ state.stage worker = .dequeuing) ∧
      worker < state.waits.workers := by
  rcases ready with ⟨calls, isWorker⟩ | signalled
  · exact ⟨.inl calls, isWorker⟩
  · have stage : state.stage worker = .dequeuing := by
      refine (staged.inside worker).mpr ?_
      rw [signalled]
      exact Place.noConfusion
    exact ⟨.inr stage, staged.isWorker worker (by rw [stage]; exact Stage.noConfusion)⟩

theorem step_staged (state : Pool) (event : PoolEvent) (next : Pool) (staged : state.Staged)
    (taken : state.step event = some next) : next.Staged := by
  cases step_moves taken with
  | elsewhere notWork calm held closed stage cancelled =>
      exact staged.still stage calm.workers calm.outside held
  | selects worker isWorker atTop isNext =>
      have isOutside : state.waits.place worker = .outside :=
        staged.outside (by rw [atTop]; exact Stage.noConfusion)
      have isFree : state.waits.session.held worker = none :=
        staged.free (by rw [atTop]; exact Stage.noConfusion)
      rw [isNext]
      refine staged.went isWorker rfl ?_ ?_ (fun _ _ => .rfl) (fun _ _ => rfl)
      · rw [isOutside]
        cases state.cancelled with
        | _ => exact iff_of_false Stage.noConfusion (fun isInside => isInside rfl)
      · rw [isFree]
        cases state.cancelled with
        | true => exact iff_of_false Stage.noConfusion (fun holds => holds rfl)
        | false => exact iff_of_false Stage.noConfusion (fun holds => holds rfl)
  | turns worker isTurn ready waits turned workers isNext =>
      obtain ⟨stage, isWorker⟩ := staged.ready ready
      have isFree : state.waits.session.held worker = none := by
        refine staged.free ?_
        rcases stage with stage | stage
        · rw [stage]
          exact Stage.noConfusion
        · rw [stage]
          exact Stage.noConfusion
      rw [isNext]
      exact staged.turned isWorker isFree workers turned
  | ends worker processes isEnd waits calm held closed isNext =>
      have isOutside : state.waits.place worker = .outside :=
        staged.outside (by rw [processes]; exact Stage.noConfusion)
      have isWorker := staged.isWorker worker (by rw [processes]; exact Stage.noConfusion)
      rw [isNext]
      refine staged.went isWorker calm.workers ?_ ?_ (fun other _ => calm.outside other) ?_
      · rw [(calm.outside worker).mpr isOutside]
        exact iff_of_false Stage.noConfusion (fun isInside => isInside rfl)
      · rw [held, setHeld_self]
        exact iff_of_false Stage.noConfusion (fun holds => holds rfl)
      · intro other different
        rw [held, setHeld_other _ _ _ _ different]
  | cancels isNext =>
      rw [isNext]
      exact staged.still rfl rfl (fun _ => .rfl) rfl
  | shuts isNext =>
      rw [isNext]
      exact staged.still rfl rfl (shutDown_outside state.waits) rfl

end Steps

end Pool

end KubeTemplater.Worker
