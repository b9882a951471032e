/-
How the workers stop.

After `Shutdown` nobody waits and nothing is handed out: a worker finishes the item it has
and returns from its next `Dequeue`.  A cancelled context is only looked at between two
items.  A worker in `Dequeue` does not see it; it takes one more item or waits on.
-/

import KubeTemplater.Worker.Pool

namespace KubeTemplater.Worker.Pool

open Library
open Queue

def load (weight : Stage → Nat) (state : Pool) : Nat :=
  (Finset.range state.waits.workers).sum (fun worker => weight (state.stage worker))

section Load

variable {weight : Stage → Nat} {state : Pool} {worker : Nat}

private theorem load_still {next : Pool} (stage : next.stage = state.stage)
    (workers : next.waits.workers = state.waits.workers) :
    next.load weight = state.load weight := by
  unfold load
  rw [stage, workers]

theorem load_go {cost : Nat} {stage : Stage} {waits : Waiting}
    (isWorker : worker < state.waits.workers) (workers : waits.workers = state.waits.workers)
    (paid : cost + weight stage ≤ weight (state.stage worker)) :
    cost + (state.go worker stage waits).load weight ≤ state.load weight := by
  unfold load
  change cost + (Finset.range waits.workers).sum _ ≤ _
  rw [workers]
  refine sum_pays (Finset.mem_range.mpr isWorker) ?_ ?_
  · rw [go_self]
    exact paid
  · intro other _isWorker different
    rw [go_other state stage waits different]

private theorem load_le {bound : Nat} (bounded : ∀ stage, weight stage ≤ bound) :
    state.load weight ≤ bound * state.waits.workers := by
  unfold load
  refine (Finset.sum_le_card_nsmul _ _ bound (fun worker _ => bounded _)).trans ?_
  rw [Finset.card_range, Nat.nsmul_eq_mul, Nat.mul_comm]

end Load

/-- The events a worker has left until it returns, once the queue is shut down. -/
def stepsLeft : Stage → Nat
  | .returned => 0
  | .dequeuing => 1
  | .calling => 1
  | .looping => 2
  | .processing => 3

def work (_ : Pool) (event : PoolEvent) : Nat := if event.isWork then 1 else 0

structure Closed (state : Pool) : Prop where
  staged : state.Staged
  shut : state.waits.queue.shutdown = true
  awake : ∀ worker, state.waits.place worker ≠ .waiting

private theorem closed_of_shutdown {state : Pool} (staged : state.Staged) :
    Closed { state with waits := shutDown state.waits } where
  staged := step_staged state .shutdown _ staged rfl
  shut := rfl
  awake := by
    intro worker
    unfold shutDown
    dsimp only
    split
    · exact Place.noConfusion
    · rename_i notWaiting
      exact notWaiting

section Steps

variable {state next : Pool} {event : PoolEvent} {worker : Nat}

/-- A turn after `Shutdown` returns and changes nothing else. -/
theorem Closed.turned (closed : state.Closed) {stage : Stage} {waits : Waiting}
    (turned : Turned state.waits waits worker stage) :
    stage = .returned ∧ waits.session = state.waits.session ∧
      ∀ other, waits.place other ≠ .waiting := by
  cases turned with
  | stopped shut place session =>
      refine ⟨rfl, session, ?_⟩
      intro other
      rw [place]
      by_cases same : other = worker
      · rw [same, Function.update_self]
        exact Place.noConfusion
      · rw [Function.update_of_ne same]
        exact closed.awake other
  | blocked isOpen place session =>
      rw [closed.shut] at isOpen
      cases isOpen
  | takes ref isOpen root place held sameClosed =>
      rw [closed.shut] at isOpen
      cases isOpen

theorem step_closed (state : Pool) (event : PoolEvent) (next : Pool) (closed : state.Closed)
    (taken : state.step event = some next) : next.Closed := by
  have staged := step_staged state event next closed.staged taken
  cases step_moves taken with
  | elsewhere notWork calm held shut stage cancelled =>
      exact ⟨staged, shut.trans closed.shut,
        fun worker isWaiting => closed.awake worker (calm.waiting worker isWaiting)⟩
  | selects worker isWorker atTop isNext =>
      rw [isNext] at staged ⊢
      exact ⟨staged, closed.shut, closed.awake⟩
  | turns worker isTurn ready waits turned workers isNext =>
      obtain ⟨_stage, session, awake⟩ := closed.turned turned
      rw [isNext] at staged ⊢
      exact ⟨staged, (congrArg (fun session => session.queue.shutdown) session).trans closed.shut,
        awake⟩
  | ends worker processes isEnd waits calm held shut isNext =>
      rw [isNext] at staged ⊢
      exact ⟨staged, shut.trans closed.shut,
        fun worker isWaiting => closed.awake worker (calm.waiting worker isWaiting)⟩
  | cancels isNext =>
      rw [isNext] at staged ⊢
      exact ⟨staged, closed.shut, closed.awake⟩
  | shuts isNext =>
      rw [isNext]
      exact closed_of_shutdown closed.staged

theorem Closed.pays (state : Pool) (event : PoolEvent) (next : Pool) (closed : state.Closed)
    (taken : state.step event = some next) :
    work state event + next.load stepsLeft ≤ state.load stepsLeft := by
  have staged := closed.staged
  cases step_moves taken with
  | elsewhere notWork calm held shut stage cancelled =>
      rw [load_still stage calm.workers, work, notWork]
      exact Nat.le_of_eq (Nat.zero_add _)
  | selects worker isWorker atTop isNext =>
      rw [isNext]
      refine load_go isWorker rfl ?_
      rw [atTop]
      cases state.cancelled with
      | true => exact Nat.le_succ 1
      | false => exact Nat.le_refl 2
  | turns worker isTurn ready waits turned workers isNext =>
      obtain ⟨stage, isWorker⟩ := staged.ready ready
      have left : stepsLeft (state.stage worker) = 1 := by
        rcases stage with stage | stage
        · rw [stage]
          rfl
        · rw [stage]
          rfl
      rw [isNext]
      refine load_go isWorker workers ?_
      rw [(closed.turned turned).1, left]
      rcases isTurn with rfl | rfl
      · exact Nat.le_refl 1
      · exact Nat.le_refl 1
  | ends worker processes isEnd waits calm held shut isNext =>
      have isWorker := staged.isWorker worker (by rw [processes]; exact Stage.noConfusion)
      rw [isNext]
      refine load_go isWorker calm.workers ?_
      rw [processes]
      rcases isEnd with ⟨woken, rfl⟩ | rfl
      · exact Nat.le_refl 3
      · exact Nat.le_refl 3
  | cancels isNext =>
      rw [isNext]
      exact Nat.le_of_eq (Nat.zero_add _)
  | shuts isNext =>
      rw [isNext]
      exact Nat.le_of_eq (Nat.zero_add _)

theorem Closed.held (closed : state.Closed) (taken : state.step event = some next) {ref : ItemRef}
    (holds : next.waits.session.held worker = some ref) :
    state.waits.session.held worker = some ref := by
  cases step_moves taken with
  | elsewhere notWork calm held shut stage cancelled => rwa [held] at holds
  | selects worker isWorker atTop isNext => rwa [isNext] at holds
  | turns caller isTurn ready waits turned workers isNext =>
      rw [isNext] at holds
      change waits.session.held worker = some ref at holds
      rwa [(closed.turned turned).2.1] at holds
  | ends caller processes isEnd waits calm held shut isNext =>
      rw [isNext] at holds
      change waits.session.held worker = some ref at holds
      rw [held] at holds
      exact (Session.setHeld_none holds).2
  | cancels isNext => rwa [isNext] at holds
  | shuts isNext => rwa [isNext] at holds

/-- A turn of the loop of `Dequeue` that ends with an item. -/
def handed (state : Pool) : PoolEvent → Nat
  | .enter _ => if state.afterTurn = .processing then 1 else 0
  | .resume _ => if state.afterTurn = .processing then 1 else 0
  | _ => 0

theorem Closed.handed (closed : state.Closed) (event : PoolEvent) : handed state event = 0 := by
  have stops : state.afterTurn = .returned := by
    have stopped : state.waits.queue.dequeue state.waits.clock = .stopped := if_pos closed.shut
    unfold afterTurn
    rw [stopped]
  cases event with
  | enter worker =>
      unfold Pool.handed
      rw [stops]
      rfl
  | resume worker =>
      unfold Pool.handed
      rw [stops]
      rfl
  | _ => rfl

theorem Closed.turn_returns (closed : state.Closed) (timer : Nat → Option Time) (worker : Nat) :
    (({ state.waits with timer := timer } : Waiting).turn worker).isSome = true := by
  have stopped : ({ state.waits with timer := timer } : Waiting).queue.dequeue
      state.waits.clock = .stopped := if_pos closed.shut
  unfold Waiting.turn
  rw [stopped]
  rfl

theorem Closed.goes_on (closed : state.Closed) (isWorker : worker < state.waits.workers)
    (notReturned : state.stage worker ≠ .returned) :
    ∃ event, event.isWork = true ∧ (state.step event).isSome = true := by
  have staged := closed.staged
  cases stage : state.stage worker with
  | returned => exact absurd stage notReturned
  | looping =>
      refine ⟨.select worker, rfl, ?_⟩
      rw [step, if_pos ⟨isWorker, stage⟩]
      rfl
  | calling =>
      have isOutside : state.waits.place worker = .outside :=
        staged.outside (by rw [stage]; exact Stage.noConfusion)
      have isFree : state.waits.session.held worker = none :=
        staged.free (by rw [stage]; exact Stage.noConfusion)
      refine ⟨.enter worker, rfl, ?_⟩
      rw [step, if_pos stage, Option.isSome_map, Waiting.step,
        if_pos ⟨isWorker, isOutside, isFree⟩]
      exact closed.turn_returns state.waits.timer worker
  | dequeuing =>
      have isSignalled : state.waits.place worker = .signalled := by
        have isInside := (staged.inside worker).mp stage
        have isAwake := closed.awake worker
        cases place : state.waits.place worker with
        | outside => exact absurd place isInside
        | waiting => exact absurd place isAwake
        | signalled => rfl
      refine ⟨.resume worker, rfl, ?_⟩
      rw [step, Option.isSome_map, Waiting.step, if_pos isSignalled]
      exact closed.turn_returns _ worker
  | processing =>
      obtain ⟨ref, holds⟩ := Option.ne_none_iff_exists'.mp ((staged.holds worker).mp stage)
      refine ⟨.finish worker, rfl, ?_⟩
      rw [step, if_pos stage, Option.isSome_map, Waiting.step, Option.isSome_map, Session.step,
        Option.isSome_map, holds]
      rfl

theorem Closed.progress (closed : state.Closed) :
    (∀ worker, worker < state.waits.workers → state.stage worker = .returned) ∨
      ∃ event, event.isWork = true ∧ (state.step event).isSome = true := by
  by_cases all : ∀ worker, worker < state.waits.workers → state.stage worker = .returned
  · exact .inl all
  · obtain ⟨worker, rest⟩ := not_forall.mp all
    obtain ⟨isWorker, notReturned⟩ := Classical.not_imp.mp rest
    exact .inr (closed.goes_on isWorker notReturned)

private theorem step_workers (taken : state.step event = some next) :
    next.waits.workers = state.waits.workers := by
  cases step_moves taken with
  | elsewhere notWork calm held shut stage cancelled => exact calm.workers
  | selects worker isWorker atTop isNext => rw [isNext]; rfl
  | turns worker isTurn ready waits turned workers isNext => rw [isNext]; exact workers
  | ends worker processes isEnd waits calm held shut isNext => rw [isNext]; exact calm.workers
  | cancels isNext => rw [isNext]
  | shuts isNext => rw [isNext]; rfl

end Steps

section Runs

variable {maxRetries initialDelay maxDelay maxCycles : Int} {numWorkers : Nat} {clock : Time}
  {events : List PoolEvent} {reached : Pool}

private theorem reached_staged
    (isRun : run step (startWorkers maxRetries initialDelay maxDelay maxCycles numWorkers clock)
      events = some reached) : reached.Staged :=
  (throughout_of_preserved step Staged step_staged _ events
    (start_staged _ _ _ _ _ _)).last isRun

private theorem reached_workers
    (isRun : run step (startWorkers maxRetries initialDelay maxDelay maxCycles numWorkers clock)
      events = some reached) : reached.waits.workers = numWorkers :=
  (throughout_of_preserved step (fun state => state.waits.workers = numWorkers)
    (fun _ _ _ same taken => (step_workers taken).trans same) _ events rfl).last isRun

end Runs

/-- After `Shutdown` no item is handed out.  Every worker takes at most three more steps,
and as long as one of them has not returned, one can go on: all of them return. -/
theorem shutdown_returns_workers (maxRetries initialDelay maxDelay maxCycles : Int)
    (numWorkers : Nat) (clock : Time) (before later : List PoolEvent) (here final : Pool)
    (reached : run step (startWorkers maxRetries initialDelay maxDelay maxCycles numWorkers clock)
      before = some here)
    (isRun : run step here (.shutdown :: later) = some final) :
    spent step work here (.shutdown :: later) ≤ 3 * numWorkers ∧
      spent step handed here (.shutdown :: later) = 0 ∧
      (∀ worker ref, final.waits.session.held worker = some ref →
        here.waits.session.held worker = some ref) ∧
      ((∀ worker, worker < numWorkers → final.stage worker = .returned) ∨
        ∃ event, event.isWork = true ∧ (final.step event).isSome = true) := by
  obtain ⟨closed, taken, continues⟩ := (run_cons_iff step here final .shutdown later).mp isRun
  have finalWorkers := reached_workers (run_append reached isRun)
  have isClosed : closed.Closed := by
    cases taken
    exact closed_of_shutdown (reached_staged reached)
  have throughout := throughout_of_preserved step
    (fun state => state.Closed ∧ ∀ worker ref, state.waits.session.held worker = some ref →
      here.waits.session.held worker = some ref)
    (fun state event next holds taken => ⟨step_closed state event next holds.1 taken,
      fun worker ref held => holds.2 worker ref (holds.1.held taken held)⟩)
    closed later ⟨isClosed, by cases taken; exact fun _ _ => id⟩
  obtain ⟨finalClosed, held⟩ := throughout.last continues
  refine ⟨?_, ?_, held, ?_⟩
  · have paid := spent_le step_closed Closed.pays isClosed continues
    have bounded := @load_le stepsLeft closed 3 (fun stage => by cases stage <;> decide)
    rw [step_workers taken, reached_workers reached] at bounded
    rw [spent_cons taken]
    have free : work here .shutdown = 0 := rfl
    omega
  · have none := @spent_le _ _ step handed Closed (fun _ => 0) step_closed
      (fun _ event _ here _ => Nat.le_of_eq (here.handed event)) _ _ _ isClosed continues
    rw [spent_cons taken]
    exact (Nat.zero_add _).trans (Nat.le_zero.mp none)
  · rw [← finalWorkers]
    exact finalClosed.progress

def oneBusy : List PoolEvent :=
  [.select 0, .enter 0, .select 1, .enter 1, .enqueue ⟨"team-a", "web"⟩ 0 (some 1), .resume 1]

theorem oneBusy_returns :
    ∃ here final,
      run step (startWorkers 5 1000000000 300000000000 3 2 0) oneBusy = some here ∧
      run step here [.shutdown, .resume 0, .fail 1 none] = some final ∧
      spent step work here [.shutdown, .resume 0, .fail 1 none] ≤ 3 * 2 ∧
      spent step handed here [.shutdown, .resume 0, .fail 1 none] = 0 ∧
      ((∀ worker, worker < 2 → final.stage worker = .returned) ∨
        ∃ event, event.isWork = true ∧ (final.step event).isSome = true) := by
  refine ⟨_, _, rfl, rfl, ?_⟩
  have returns := shutdown_returns_workers 5 1000000000 300000000000 3 2 0 oneBusy
    [.resume 0, .fail 1 none] _ _ rfl rfl
  exact ⟨returns.1, returns.2.1, returns.2.2.2⟩

def calls : Stage → Nat
  | .calling => 1
  | .dequeuing => 1
  | _ => 0

private theorem handed_of_notWork {state : Pool} {event : PoolEvent}
    (notWork : event.isWork = false) :
    handed state event = 0 := by
  cases event with
  | enter worker => cases notWork
  | resume worker => cases notWork
  | _ => rfl

private theorem handed_calls {before after : Waiting} {worker : Nat} {stage : Stage}
    (turned : Turned before after worker stage) :
    (if stage = .processing then 1 else 0) + calls stage ≤ 1 := by
  cases turned with
  | stopped _ _ _ => decide
  | blocked _ _ _ => decide
  | takes _ _ _ _ _ _ => decide

private theorem cancelled_pays (state : Pool) (event : PoolEvent) (next : Pool)
    (cancelled : state.Staged ∧ state.cancelled = true) (taken : state.step event = some next) :
    handed state event + next.load calls ≤ state.load calls := by
  obtain ⟨staged, isCancelled⟩ := cancelled
  cases step_moves taken with
  | elsewhere notWork calm held shut stage cancelled =>
      rw [load_still stage calm.workers, handed_of_notWork notWork]
      exact Nat.le_of_eq (Nat.zero_add _)
  | selects worker isWorker atTop isNext =>
      rw [isNext, isCancelled]
      refine load_go isWorker rfl ?_
      exact Nat.zero_le _
  | turns worker isTurn ready waits turned workers isNext =>
      obtain ⟨stage, isWorker⟩ := staged.ready ready
      have inDequeue : calls (state.stage worker) = 1 := by
        rcases stage with stage | stage
        · rw [stage]
          rfl
        · rw [stage]
          rfl
      rw [isNext]
      refine load_go isWorker workers ?_
      rw [inDequeue]
      rcases isTurn with rfl | rfl
      · exact handed_calls turned
      · exact handed_calls turned
  | ends worker processes isEnd waits calm held shut isNext =>
      have isWorker := staged.isWorker worker (by rw [processes]; exact Stage.noConfusion)
      rw [isNext]
      refine load_go isWorker calm.workers ?_
      rcases isEnd with ⟨woken, rfl⟩ | rfl
      · exact Nat.zero_le _
      · exact Nat.zero_le _
  | cancels isNext =>
      rw [isNext]
      exact Nat.le_of_eq (Nat.zero_add _)
  | shuts isNext =>
      rw [isNext]
      exact Nat.le_of_eq (Nat.zero_add _)

private theorem step_cancelled (state : Pool) (event : PoolEvent) (next : Pool)
    (cancelled : state.Staged ∧ state.cancelled = true) (taken : state.step event = some next) :
    next.Staged ∧ next.cancelled = true := by
  refine ⟨step_staged state event next cancelled.1 taken, ?_⟩
  have isCancelled := cancelled.2
  cases step_moves taken with
  | elsewhere notWork calm held shut stage same => exact same.trans isCancelled
  | selects worker isWorker atTop isNext => rw [isNext]; exact isCancelled
  | turns worker isTurn ready waits turned workers isNext => rw [isNext]; exact isCancelled
  | ends worker processes isEnd waits calm held shut isNext => rw [isNext]; exact isCancelled
  | cancels isNext => rw [isNext]
  | shuts isNext => rw [isNext]; exact isCancelled

/-- The event neither queues an item nor shuts the queue down. -/
def idles : PoolEvent → Bool
  | .enqueue _ _ _ => false
  | .fail _ _ => false
  | .shutdown => false
  | _ => true

structure Stranded (worker : Nat) (state : Pool) : Prop where
  isEmpty : state.waits.queue.items = #[]
  isOpen : state.waits.queue.shutdown = false
  inside : state.stage worker = .dequeuing

section Stranding

variable {state next : Pool} {worker : Nat}

theorem Stranded.turned (stranded : state.Stranded worker) {caller : Nat} {stage : Stage}
    {waits : Waiting} (turned : Turned state.waits waits caller stage) :
    (state.go caller stage waits).Stranded worker := by
  cases turned with
  | stopped shut place session =>
      rw [stranded.isOpen] at shut
      cases shut
  | blocked isOpen place session =>
      have queue : waits.queue = state.waits.queue := congrArg Session.queue session
      refine ⟨(congrArg WorkQueue.items queue).trans stranded.isEmpty,
        (congrArg WorkQueue.shutdown queue).trans stranded.isOpen, ?_⟩
      by_cases same : worker = caller
      · rw [same, go_self]
      · rw [go_other state _ _ same]
        exact stranded.inside
  | takes ref isOpen root place held sameClosed =>
      rw [stranded.isEmpty] at root
      cases root

theorem Stranded.beside (stranded : state.Stranded worker) {caller : Nat} {stage : Stage}
    {waits : Waiting} (different : state.stage caller ≠ .dequeuing)
    (items : waits.queue.items = state.waits.queue.items)
    (closed : waits.queue.shutdown = state.waits.queue.shutdown) :
    (state.go caller stage waits).Stranded worker := by
  refine ⟨items.trans stranded.isEmpty, closed.trans stranded.isOpen, ?_⟩
  have notCaller : worker ≠ caller := by
    rintro rfl
    exact different stranded.inside
  rw [go_other state _ _ notCaller]
  exact stranded.inside

private theorem step_stranded (state : Pool) (event : PoolEvent) (next : Pool)
    (stranded : state.Stranded worker) (idle : idles event = true)
    (taken : state.step event = some next) : next.Stranded worker := by
  cases event with
  | enqueue key priority woken => cases idle
  | fail caller woken => cases idle
  | shutdown => cases idle
  | fire caller woken =>
      obtain ⟨waits, stepped, rfl⟩ := Option.map_eq_some_iff.mp taken
      cases Waiting.step_happens stepped with
      | fired _ _ signalled =>
          have session := Waiting.signal_session signalled
          have queue : waits.queue = state.waits.queue := congrArg Session.queue session
          exact ⟨(congrArg WorkQueue.items queue).trans stranded.isEmpty,
            (congrArg WorkQueue.shutdown queue).trans stranded.isOpen, stranded.inside⟩
  | pass elapsed =>
      cases taken
      exact ⟨stranded.isEmpty, stranded.isOpen, stranded.inside⟩
  | select caller =>
      cases step_moves taken with
      | elsewhere notWork => cases notWork
      | ends _ _ isEnd => rcases isEnd with ⟨_, impossible⟩ | impossible <;> cases impossible
      | turns _ isTurn => rcases isTurn with impossible | impossible <;> cases impossible
      | selects _ isWorker atTop isNext =>
          rw [isNext]
          exact stranded.beside (by rw [atTop]; exact Stage.noConfusion) rfl rfl
  | finish caller =>
      simp only [step] at taken
      split at taken
      · rename_i processes
        obtain ⟨waits, stepped, rfl⟩ := Option.map_eq_some_iff.mp taken
        refine stranded.beside (by rw [processes]; exact Stage.noConfusion) ?_
          (waits_shutdown stepped)
        cases Waiting.step_happens stepped with
        | finished _ session finished isAfter =>
            cases Session.step_done finished
            cases isAfter
            rfl
      · cases taken
  | cancel =>
      cases taken
      exact ⟨stranded.isEmpty, stranded.isOpen, stranded.inside⟩
  | _ =>
      cases step_moves taken with
      | elsewhere notWork => cases notWork
      | ends _ _ isEnd => rcases isEnd with ⟨_, impossible⟩ | impossible <;> cases impossible
      | turns _ isTurn ready waits turned workers isNext =>
          rw [isNext]
          exact stranded.turned turned

end Stranding

/-- A cancelled context is seen between two items only.  No more items are handed out than
there are workers in `Dequeue` or on their way to it, and a worker that waits for an item
waits on until one is queued. -/
theorem cancellation_seen_between_items (maxRetries initialDelay maxDelay maxCycles : Int)
    (numWorkers : Nat) (clock : Time) (before later : List PoolEvent) (here final : Pool)
    (reached : run step (startWorkers maxRetries initialDelay maxDelay maxCycles numWorkers clock)
      before = some here)
    (isRun : run step here (.cancel :: later) = some final) :
    spent step handed here (.cancel :: later) ≤ here.load calls ∧
      ∀ worker, here.Stranded worker → (∀ event ∈ later, idles event = true) →
        final.stage worker = .dequeuing := by
  obtain ⟨cancelled, taken, continues⟩ := (run_cons_iff step here final .cancel later).mp isRun
  have isCancelled : cancelled.Staged ∧ cancelled.cancelled = true := by
    refine ⟨step_staged _ _ _ (reached_staged reached) taken, ?_⟩
    cases taken
    rfl
  constructor
  · have paid := spent_le step_cancelled cancelled_pays isCancelled continues
    rw [spent_cons taken]
    have same : cancelled.load calls = here.load calls := by
      cases taken
      rfl
    have free : handed here .cancel = 0 := rfl
    omega
  · intro worker stranded idle
    have throughout := throughout_of_along step (fun _ event => idles event = true)
      (Stranded worker) step_stranded cancelled later
      (step_stranded here .cancel cancelled stranded rfl taken) (along_of_labels cancelled idle)
    exact (throughout.last continues).inside

def oneWaits : List PoolEvent :=
  [.select 0, .enter 0, .enqueue ⟨"team-a", "web"⟩ 0 (some 0), .resume 0, .select 1, .enter 1,
    .finish 0]

theorem oneWaits_stays :
    ∃ here final,
      run step (startWorkers 5 1000000000 300000000000 3 2 0) oneWaits = some here ∧
      run step here [.cancel, .pass 5, .select 0] = some final ∧
      here.load calls = 1 ∧ spent step handed here [.cancel, .pass 5, .select 0] ≤ 1 ∧
      final.stage 0 = .returned ∧ final.stage 1 = .dequeuing := by
  refine ⟨_, _, rfl, rfl, by decide +kernel, ?_⟩
  have seen := cancellation_seen_between_items 5 1000000000 300000000000 3 2 0 oneWaits
    [.pass 5, .select 0] _ _ rfl rfl
  refine ⟨seen.1, by decide +kernel, seen.2 1 ⟨rfl, rfl, by decide +kernel⟩ (by decide)⟩

end KubeTemplater.Worker.Pool
