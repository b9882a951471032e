/-
Whether a worker that waits in `Dequeue` will be woken.

With one level of priority the root of the heap is the item that is due first, so a
worker that comes to `Dequeue` from outside and takes it leaves the timers of the others
early enough.  A worker that was woken has used up a signal and stopped its timer: when
it takes an item and leaves others behind, nobody may be left to wake the waiters.
-/

import KubeTemplater.Queue.Attempts
import KubeTemplater.Queue.Waiting

namespace KubeTemplater.Queue

open Library

namespace WorkQueue

private theorem enqueue_unraised {queue : WorkQueue} {key : NamespacedName} {priority : Int}
    {now : Time}
    {existing : ItemRef} (known : queue.itemsMap key = some existing)
    (same : (queue.memory existing).priority = priority) :
    queue.enqueue key priority now = queue := by
  unfold enqueue
  rw [known]
  dsimp only
  rw [same, if_neg (Int.lt_irrefl priority)]

private theorem enqueue_new_priority {queue : WorkQueue} {key : NamespacedName} {priority : Int}
    {now : Time} (unknown : queue.itemsMap key = none) (ref : ItemRef) :
    ((queue.enqueue key priority now).memory ref).priority =
      if ref = queue.allocated then priority else (queue.memory ref).priority := by
  have moved := fun stored => (heapPush_rearranged stored queue.allocated).sameRank ref
  unfold enqueue
  rw [unknown]
  dsimp only
  rw [(moved _).1]
  dsimp only
  by_cases isNew : ref = queue.allocated
  · rw [if_pos isNew, isNew, setItem_self]
  · rw [if_neg isNew, setItem_other _ _ _ _ isNew]

private theorem requeue_priority (queue : WorkQueue) (ref : ItemRef) (now : Time)
    (other : ItemRef) :
    ((queue.requeue ref now).memory other).priority = (queue.memory other).priority := by
  have kept {item : WorkItem} (same : item.priority = (queue.memory ref).priority) :
      (setItem queue.memory ref item other).priority = (queue.memory other).priority := by
    by_cases isRef : other = ref
    · rw [isRef, setItem_self, same]
    · rw [setItem_other _ _ _ _ isRef]
  unfold requeue
  dsimp only
  split
  · exact kept rfl
  · rename_i retried found
    have moved := fun stored => (heapPush_rearranged stored ref).sameRank other
    dsimp only
    rw [(moved _).1]
    exact kept (retryItem_priority found)

private theorem requeue_givenUp_scheduledAt {queue : WorkQueue} {ref : ItemRef} {now : Time}
    (exhausted : queue.retries ref now = false) (other : ItemRef) :
    ((queue.requeue ref now).memory other).scheduledAt = (queue.memory other).scheduledAt := by
  have missing : queue.retryItem (queue.memory ref) now = none :=
    Option.isNone_iff_eq_none.mp (Option.isSome_eq_false_iff.mp exhausted)
  unfold requeue
  dsimp only
  rw [missing]
  dsimp only
  by_cases isRef : other = ref
  · rw [isRef, setItem_self]
  · rw [setItem_other _ _ _ _ isRef]

end WorkQueue

namespace Session

structure Level (level : Int) (session : Session) : Prop where
  queued : ∀ ref ∈ session.queue.items.toList, (session.queue.memory ref).priority = level
  held : ∀ worker ref, session.held worker = some ref →
    (session.queue.memory ref).priority = level

theorem Level.enqueued {level : Int} {session : Session} (levelled : session.Level level)
    (valid : session.Valid) (key : NamespacedName) (now : Time) :
    Level level { session with queue := session.queue.enqueue key level now } := by
  cases known : session.queue.itemsMap key with
  | some existing =>
      have isQueued := (valid.mapped key existing known).1
      rw [WorkQueue.enqueue_unraised known (levelled.queued existing isQueued)]
      exact levelled
  | none =>
      have spec := WorkQueue.enqueue_new session.queue key level now known
      have priorities := @WorkQueue.enqueue_new_priority session.queue key level now known
      constructor
      · intro ref member
        rw [priorities ref]
        split
        · rfl
        · rename_i old
          exact levelled.queued ref
            ((List.mem_cons.mp (spec.items.mem_iff.mp member)).resolve_left old)
      · intro worker ref holds
        rw [priorities ref]
        split
        · rfl
        · exact levelled.held worker ref holds

theorem Level.dequeued {level : Int} {session : Session} (levelled : session.Level level)
    {rest : WorkQueue} {root : ItemRef} {now : Time}
    (hands : session.queue.dequeue now = .take root rest) (worker : Nat) :
    Level level { queue := rest, held := setHeld session.held worker (some root) } := by
  have ranks := WorkQueue.dequeue_sameRank hands
  have spec := WorkQueue.dequeue_take _ _ _ _ hands
  constructor
  · intro ref member
    rw [(ranks ref).1]
    exact levelled.queued ref (spec.items.mem_iff.mp (List.mem_cons_of_mem _ member))
  · intro holder ref holds
    show (rest.memory ref).priority = level
    rw [(ranks ref).1]
    rcases setHeld_some holds with ⟨_, rfl⟩ | ⟨_, earlier⟩
    · exact levelled.queued ref (spec.items.mem_iff.mp List.mem_cons_self)
    · exact levelled.held holder ref earlier

theorem Level.requeued {level : Int} {session : Session} (levelled : session.Level level)
    {worker : Nat} {ref : ItemRef} (holds : session.held worker = some ref) (now : Time) :
    Level level
      { queue := session.queue.requeue ref now, held := setHeld session.held worker none } := by
  have priorities := session.queue.requeue_priority ref now
  constructor
  · intro other member
    rw [priorities other]
    cases again : session.queue.retries ref now with
    | false =>
        rw [(WorkQueue.requeue_givenUp _ _ _ again).items] at member
        exact levelled.queued other member
    | true =>
        have spec := WorkQueue.requeue_putBack _ _ _ again
        rcases List.mem_cons.mp (spec.items.mem_iff.mp member) with rfl | queued
        · exact levelled.held worker other holds
        · exact levelled.queued other queued
  · intro holder other held
    show ((session.queue.requeue ref now).memory other).priority = level
    rw [priorities other]
    exact levelled.held holder other (setHeld_none held).2

theorem step_level {level : Int} {session next : Session} {operation : Operation}
    (valid : session.Valid) (levelled : session.Level level)
    (asked : ∀ key priority now, operation = .enqueue key priority now → priority = level)
    (taken : session.step operation = some next) : next.Level level := by
  cases operation with
  | enqueue key priority now =>
      cases asked key priority now rfl
      cases taken
      exact levelled.enqueued valid key now
  | dequeue worker now =>
      obtain ⟨ref, rest, _free, hands, rfl⟩ := step_hands taken
      exact levelled.dequeued hands worker
  | requeue worker now =>
      obtain ⟨ref, holds, rfl⟩ := step_requeue taken
      exact levelled.requeued holds now
  | done worker =>
      rw [step_done taken]
      exact ⟨levelled.queued, fun holder ref held => levelled.held holder ref (setHeld_none held).2⟩

end Session

namespace Waiting

def signalledWaiter (state : Waiting) : Bool :=
  (List.range state.workers).any (fun worker => state.place worker == .signalled)

def timerBy (state : Waiting) (time : Time) : Bool :=
  (List.range state.workers).any (fun worker =>
    (state.timer worker).any (fun timer => decide (timer ≤ time)))

/-- While the heap is not empty, blocked workers will be woken when its root is due. -/
def awaited (state : Waiting) : Bool :=
  match state.queue.items[0]? with
  | none => true
  | some ref =>
      !state.blocked || state.signalledWaiter ||
        state.timerBy (state.queue.memory ref).scheduledAt

theorem signalledWaiter_iff (state : Waiting) :
    state.signalledWaiter = true ↔
      ∃ worker, worker < state.workers ∧ state.place worker = .signalled := by
  simp only [signalledWaiter, List.any_eq_true, List.mem_range, beq_iff_eq]

theorem timerBy_iff (state : Waiting) (time : Time) :
    state.timerBy time = true ↔
      ∃ worker, worker < state.workers ∧ ∃ timer, state.timer worker = some timer ∧
        timer ≤ time := by
  simp only [timerBy, List.any_eq_true, List.mem_range, Option.any_eq_true, decide_eq_true_eq]

theorem awaited_iff (state : Waiting) :
    state.awaited = true ↔ ∀ ref, state.queue.items[0]? = some ref → state.blocked = true →
      state.signalledWaiter = true ∨
        state.timerBy (state.queue.memory ref).scheduledAt = true := by
  unfold awaited
  cases state.queue.items[0]? with
  | none => simp only [reduceCtorEq, false_implies, implies_true]
  | some root =>
      simp only [Option.some.injEq, forall_eq', Bool.or_eq_true, Bool.not_eq_true', or_assoc]
      cases state.blocked
      · simp only [true_or, Bool.false_eq_true, false_implies]
      · simp only [Bool.true_eq_false, false_or, true_implies]

structure Placed (state : Waiting) : Prop where
  inside : ∀ worker, state.place worker ≠ .outside → worker < state.workers
  untimed : ∀ worker, state.place worker = .outside → state.timer worker = none

variable {state : Waiting} {worker : Nat}

theorem Placed.moved (placed : state.Placed) {place : Place} (isWorker : worker < state.workers)
    (untimed : place = .outside → state.timer worker = none) :
    (state.move worker place).Placed := by
  constructor
  · intro other isInside
    by_cases same : other = worker
    · rw [same]
      exact isWorker
    · refine placed.inside other ?_
      rwa [move_other state place same] at isInside
  · intro other isOutside
    by_cases same : other = worker
    · rw [same, move_self] at isOutside
      rw [same]
      exact untimed isOutside
    · rw [move_other state place same] at isOutside
      exact placed.untimed other isOutside

theorem Placed.stopTimer (placed : state.Placed) (worker : Nat) :
    (state.setTimer worker none).Placed := by
  refine ⟨placed.inside, ?_⟩
  intro other isOutside
  by_cases same : other = worker
  · rw [same, setTimer_self]
  · rw [setTimer_other state none same]
    exact placed.untimed other isOutside

theorem Placed.startTimer (placed : state.Placed) {time : Time}
    (isInside : state.place worker ≠ .outside) : (state.setTimer worker (some time)).Placed := by
  refine ⟨placed.inside, ?_⟩
  intro other isOutside
  have different : other ≠ worker := by
    rintro rfl
    exact isInside isOutside
  rw [setTimer_other state _ different]
  exact placed.untimed other isOutside

variable {next : Waiting}

theorem Placed.signalled (placed : state.Placed) {woken : Option Nat}
    (isSignalled : state.signal woken = some next) : next.Placed := by
  rcases signal_cases isSignalled with ⟨worker, waits, rfl⟩ | ⟨_, rfl⟩
  · refine placed.moved (placed.inside worker ?_) ?_
    · rw [waits]
      exact Place.noConfusion
    · exact Place.noConfusion
  · exact placed

theorem Placed.turned (placed : state.Placed) (isWorker : worker < state.workers)
    (untimed : state.timer worker = none) (turned : state.turn worker = some next) :
    next.Placed := by
  have away := placed.moved isWorker (fun _ : Place.outside = .outside => untimed)
  have waits := placed.moved isWorker (fun impossible : Place.waiting = .outside => by
    cases impossible)
  cases turn_cases turned with
  | stopped _ isNext =>
      rw [isNext]
      exact away
  | empty _ isNext =>
      rw [isNext]
      exact waits
  | early ref root isNext =>
      rw [isNext]
      refine waits.startTimer ?_
      rw [move_self]
      exact Place.noConfusion
  | takes ref rest hands isNext stepped =>
      rw [isNext]
      exact ⟨away.inside, away.untimed⟩

theorem signal_session {woken : Option Nat} (signalled : state.signal woken = some next) :
    next.session = state.session := by
  rcases signal_cases signalled with ⟨_, _, rfl⟩ | ⟨_, rfl⟩ <;> rfl

/-- A turn that takes nothing leaves the session alone. -/
theorem turn_session (turned : state.turn worker = some next) :
    next.session = state.session ∨
      state.session.step (.dequeue worker state.clock) = some next.session := by
  cases turn_cases turned with
  | stopped _ isNext => exact .inl (by rw [isNext]; rfl)
  | empty _ isNext => exact .inl (by rw [isNext]; rfl)
  | early _ _ isNext => exact .inl (by rw [isNext]; rfl)
  | takes _ _ _ _ stepped => exact .inr stepped

def performs (event : Event) : Operation → Prop
  | .enqueue key priority _ => ∃ woken, event = .enqueue key priority woken
  | _ => True

theorem step_session {event : Event} (taken : state.step event = some next) :
    next.session = state.session ∨
      ∃ operation, state.session.step operation = some next.session ∧ performs event operation := by
  cases step_happens taken with
  | enqueued key priority woken session stepped signalled =>
      rw [signal_session signalled]
      exact .inr ⟨.enqueue key priority state.clock, stepped, woken, rfl⟩
  | duplicate key priority woken session known stepped isNext =>
      rw [isNext]
      exact .inr ⟨.enqueue key priority state.clock, stepped, woken, rfl⟩
  | requeued worker woken session stepped signalled =>
      rw [signal_session signalled]
      exact .inr ⟨.requeue worker state.clock, stepped, trivial⟩
  | givenUp worker woken ref session holds exhausted stepped isNext =>
      rw [isNext]
      exact .inr ⟨.requeue worker state.clock, stepped, trivial⟩
  | finished worker session stepped isNext =>
      rw [isNext]
      exact .inr ⟨.done worker, stepped, trivial⟩
  | entered worker isWorker isOutside turned =>
      rcases turn_session turned with same | stepped
      · exact .inl same
      · exact .inr ⟨.dequeue worker state.clock, stepped, trivial⟩
  | resumed worker wasSignalled turned =>
      rcases turn_session turned with same | stepped
      · exact .inl same
      · exact .inr ⟨.dequeue worker state.clock, stepped, trivial⟩
  | fired worker woken signalled =>
      have same := signal_session signalled
      exact .inl same
  | passed elapsed isNext =>
      rw [isNext]
      exact .inl rfl

theorem Placed.isWorker (placed : state.Placed) (wasSignalled : state.place worker = .signalled) :
    worker < state.workers := by
  refine placed.inside worker ?_
  rw [wasSignalled]
  exact Place.noConfusion

theorem Placed.withSession (placed : state.Placed) (session : Session) :
    Placed { state with session := session } :=
  ⟨placed.inside, placed.untimed⟩

private theorem step_placed {event : Event} (placed : state.Placed)
    (taken : state.step event = some next) :
    next.Placed := by
  cases step_happens taken with
  | enqueued key priority woken session stepped signalled =>
      exact (placed.withSession session).signalled signalled
  | duplicate key priority woken session known stepped isNext =>
      rw [isNext]
      exact placed.withSession session
  | requeued worker woken session stepped signalled =>
      exact (placed.withSession session).signalled signalled
  | givenUp worker woken ref session holds exhausted stepped isNext =>
      rw [isNext]
      exact placed.withSession session
  | finished worker session stepped isNext =>
      rw [isNext]
      exact placed.withSession session
  | entered worker isWorker isOutside turned =>
      exact placed.turned isWorker (placed.untimed worker isOutside) turned
  | resumed worker wasSignalled turned =>
      exact (placed.stopTimer worker).turned (placed.isWorker wasSignalled)
        (setTimer_self state worker none) turned
  | fired worker woken signalled => exact (placed.stopTimer worker).signalled signalled
  | passed elapsed isNext =>
      rw [isNext]
      exact ⟨placed.inside, placed.untimed⟩

/-- Every `Enqueue` has the priority, and when a woken worker goes on there is at most one
item, nobody else waits or the root is not due. -/
def undisturbed (level : Int) (state : Waiting) : Event → Bool
  | .enqueue _ priority _ => priority == level
  | .resume _ =>
      decide (state.queue.items.size ≤ 1) || !state.blocked ||
        state.queue.items[0]?.all (fun ref =>
          decide (state.clock < (state.queue.memory ref).scheduledAt))
  | _ => true

structure Sound (level : Int) (state : Waiting) : Prop where
  valid : state.session.Valid
  arranged : state.queue.Arranged
  levelled : state.session.Level level
  isOpen : state.queue.shutdown = false
  placed : state.Placed
  awaited : state.awaited = true

theorem signal_awaited {woken : Option Nat} (placed : state.Placed)
    (isSignalled : state.signal woken = some next) : next.awaited = true := by
  refine (awaited_iff next).mpr ?_
  intro ref _root isBlocked
  rcases signal_cases isSignalled with ⟨worker, waits, rfl⟩ | ⟨nobody, rfl⟩
  · refine .inl ((signalledWaiter_iff _).mpr ⟨worker, placed.inside worker ?_, move_self _ _ _⟩)
    rw [waits]
    exact Place.noConfusion
  · rw [nobody] at isBlocked
    cases isBlocked

private theorem turn_awaited (isWorker : worker < state.workers)
    (isOpen : state.queue.shutdown = false)
    (turned : state.turn worker = some next)
    (taking : ∀ ref rest, state.queue.dequeue state.clock = .take ref rest →
      next = { state.move worker .outside with
        session := { queue := rest, held := setHeld state.session.held worker (some ref) } } →
      next.awaited = true) : next.awaited = true := by
  cases turn_cases turned with
  | stopped shut isNext =>
      rw [isOpen] at shut
      cases shut
  | empty isEmpty isNext =>
      refine (awaited_iff next).mpr ?_
      intro ref root
      have none : next.queue.items[0]? = none := by
        rw [isNext]
        exact isEmpty
      cases none.symm.trans root
  | early ref root isNext =>
      refine (awaited_iff next).mpr ?_
      intro other isRoot _isBlocked
      rw [isNext] at isRoot ⊢
      cases root.symm.trans isRoot
      exact .inr ((timerBy_iff _ _).mpr ⟨worker, isWorker, _, setTimer_self _ _ _, Int.le_refl _⟩)
  | takes ref rest hands isNext stepped => exact taking ref rest hands isNext

/-- When a worker from outside takes the root, what was to wake the others still does. -/
theorem enter_awaited {level : Int} {ref : ItemRef} {rest : WorkQueue} (sound : state.Sound level)
    (isOutside : state.place worker = .outside)
    (hands : state.queue.dequeue state.clock = .take ref rest)
    (isNext : next = { state.move worker .outside with
      session := { queue := rest, held := setHeld state.session.held worker (some ref) } }) :
    next.awaited = true := by
  have spec := WorkQueue.dequeue_take _ _ _ _ hands
  have least := (WorkQueue.dequeue_minimal _ _ _ _ sound.arranged hands).2
  have same (other : Nat) : next.place other = state.place other := by
    rw [isNext]
    by_cases isWorker : other = worker
    · rw [isWorker, isOutside]
      exact move_self _ _ _
    · exact move_other _ _ isWorker
  refine (awaited_iff next).mpr ?_
  intro root isRoot isBlocked
  have blocked : state.blocked = true := by
    obtain ⟨other, isWorker, waits⟩ := (blocked_iff next).mp isBlocked
    rw [same other] at waits
    rw [isNext] at isWorker
    exact (blocked_iff state).mpr ⟨other, isWorker, waits⟩
  rcases (awaited_iff state).mp sound.awaited ref spec.root blocked with isSignalled | timed
  · obtain ⟨other, isWorker, place⟩ := (signalledWaiter_iff state).mp isSignalled
    rw [← same other] at place
    refine .inl ((signalledWaiter_iff next).mpr ⟨other, ?_, place⟩)
    rw [isNext]
    exact isWorker
  · obtain ⟨other, isWorker, timer, isTimer, early⟩ := (timerBy_iff state _).mp timed
    refine .inr ((timerBy_iff next _).mpr ⟨other, ?_, timer, ?_, ?_⟩)
    · rw [isNext]
      exact isWorker
    · rw [isNext]
      exact isTimer
    · -- the new root was in the heap, and with one priority it is not due earlier
      have queue : next.queue = rest := by rw [isNext]; rfl
      rw [queue] at isRoot ⊢
      have member : root ∈ state.queue.items.toList :=
        spec.items.mem_iff.mp (List.mem_cons_of_mem _
          (Array.mem_toList_iff.mpr (Array.mem_of_getElem? isRoot)))
      have rootLevel := sound.levelled.queued root member
      have refLevel := sound.levelled.queued ref (spec.items.mem_iff.mp List.mem_cons_self)
      rw [(WorkQueue.dequeue_sameRank hands root).2]
      rcases (itemLess_eq_false_iff _ _).mp (least root member) with lower | ⟨_, later⟩
      · exact absurd (rootLevel.trans refLevel.symm) (Int.ne_of_lt lower)
      · exact Int.le_trans early later

/-- A change of the session that leaves the root of the heap alone. -/
theorem awaited_congr (before : state.awaited = true) (workers : next.workers = state.workers)
    (place : next.place = state.place) (timer : next.timer = state.timer)
    (items : next.queue.items = state.queue.items) (root : ∀ ref, state.queue.items[0]? = some ref →
      (next.queue.memory ref).scheduledAt = (state.queue.memory ref).scheduledAt) :
    next.awaited = true := by
  unfold awaited blocked signalledWaiter timerBy at *
  rw [items, workers, place, timer]
  cases isRoot : state.queue.items[0]? with
  | none => rfl
  | some ref =>
      rw [isRoot] at before
      dsimp only at before ⊢
      rw [root ref isRoot]
      exact before

/-- A key that is queued keeps its place when the priorities are one. -/
theorem duplicate_awaited {level : Int} {key : NamespacedName} (sound : state.Sound level)
    (known : state.queue.contains key = true) {session : Session}
    (stepped : state.session.step (.enqueue key level state.clock) = some session) :
    awaited { state with session := session } = true := by
  obtain ⟨existing, isKnown⟩ := Option.isSome_iff_exists.mp known
  have queued := (sound.valid.mapped key existing isKnown).1
  have unraised := @WorkQueue.enqueue_unraised state.queue key level state.clock existing
    isKnown (sound.levelled.queued existing queued)
  cases stepped
  refine awaited_congr sound.awaited rfl rfl rfl ?_ ?_
  · exact congrArg WorkQueue.items unraised
  · intro ref _root
    exact congrArg (fun queue : WorkQueue => (queue.memory ref).scheduledAt) unraised

private theorem givenUp_awaited {ref : ItemRef} (before : state.awaited = true)
    (holds : state.session.held worker = some ref)
    (exhausted : state.queue.retries ref state.clock = false) {session : Session}
    (stepped : state.session.step (.requeue worker state.clock) = some session) :
    awaited { state with session := session } = true := by
  obtain ⟨other, alsoHolds, rfl⟩ := Session.step_requeue stepped
  cases holds.symm.trans alsoHolds
  have givenUp := WorkQueue.requeue_givenUp state.queue ref state.clock exhausted
  refine awaited_congr before rfl rfl rfl givenUp.items ?_
  intro root _isRoot
  exact WorkQueue.requeue_givenUp_scheduledAt exhausted root

/-- A woken worker that leaves with the last item, or while nobody else waits, takes no
timer away that is needed. -/
theorem resume_awaited {level : Int} {ref : ItemRef} {rest : WorkQueue}
    (calm : state.undisturbed level (.resume worker) = true)
    (hands : state.queue.dequeue state.clock = .take ref rest)
    (isNext : next = { (state.setTimer worker none).move worker .outside with
      session := { queue := rest, held := setHeld state.session.held worker (some ref) } }) :
    next.awaited = true := by
  refine (awaited_iff next).mpr ?_
  intro root isRoot isBlocked
  have spec := WorkQueue.dequeue_take _ _ _ _ hands
  simp only [undisturbed, spec.root, Option.all_some, Bool.or_eq_true, decide_eq_true_eq,
    Bool.not_eq_true'] at calm
  rcases calm with (last | alone) | early
  · have one := spec.items.length_eq
    rw [List.length_cons, Array.length_toList, Array.length_toList] at one
    have queue : next.queue = rest := by rw [isNext]; rfl
    rw [queue] at isRoot
    obtain ⟨bound, _⟩ := Array.getElem?_eq_some_iff.mp isRoot
    lia
  · obtain ⟨other, isOther, waits⟩ := (blocked_iff next).mp isBlocked
    rw [isNext] at isOther waits
    have different : other ≠ worker := by
      rintro rfl
      cases (move_self _ _ _).symm.trans waits
    have before : state.blocked = true :=
      (blocked_iff state).mpr ⟨other, isOther, (move_other _ _ different).symm.trans waits⟩
    exact absurd before (Bool.eq_false_iff.mp alone)
  · exact absurd spec.due (Int.not_le.mpr early)

private theorem step_awaited {level : Int} {event : Event} (sound : state.Sound level)
    (calm : state.undisturbed level event = true) (taken : state.step event = some next) :
    next.awaited = true := by
  cases step_happens taken with
  | enqueued key priority woken session stepped signalled =>
      exact signal_awaited (sound.placed.withSession session) signalled
  | duplicate key priority woken session known stepped isNext =>
      cases eq_of_beq calm
      rw [isNext]
      exact duplicate_awaited sound known stepped
  | requeued worker woken session stepped signalled =>
      exact signal_awaited (sound.placed.withSession session) signalled
  | givenUp worker woken ref session holds exhausted stepped isNext =>
      rw [isNext]
      exact givenUp_awaited sound.awaited holds exhausted stepped
  | finished worker session stepped isNext =>
      rw [isNext, Session.step_done stepped]
      exact awaited_congr sound.awaited rfl rfl rfl rfl (fun _ _ => rfl)
  | entered worker isWorker isOutside turned =>
      exact turn_awaited isWorker sound.isOpen turned
        (fun _ _ hands isNext => enter_awaited sound isOutside hands isNext)
  | resumed worker wasSignalled turned =>
      exact turn_awaited ((sound.placed.stopTimer worker).isWorker wasSignalled) sound.isOpen turned
        (fun _ _ hands isNext => resume_awaited calm hands isNext)
  | fired worker woken signalled => exact signal_awaited (sound.placed.stopTimer worker) signalled
  | passed elapsed isNext =>
      rw [isNext]
      exact sound.awaited

theorem step_sound {level : Int} {event : Event} (sound : state.Sound level)
    (calm : state.undisturbed level event = true) (taken : state.step event = some next) :
    next.Sound level := by
  have placed := step_placed sound.placed taken
  have awaited := step_awaited sound calm taken
  rcases step_session taken with same | ⟨operation, stepped, asked⟩
  · have queue : next.queue = state.queue := congrArg Session.queue same
    exact ⟨same ▸ sound.valid, queue ▸ sound.arranged, same ▸ sound.levelled,
      queue ▸ sound.isOpen, placed, awaited⟩
  · refine ⟨Session.step_valid _ _ _ sound.valid stepped,
      Session.step_arranged _ _ _ sound.valid sound.arranged stepped,
      Session.step_level sound.valid sound.levelled ?_ stepped,
      (Session.step_shutdown stepped).trans sound.isOpen, placed, awaited⟩
    intro key priority now isEnqueue
    rw [isEnqueue] at asked
    obtain ⟨woken, rfl⟩ := asked
    exact eq_of_beq calm

theorem start_sound (maxRetries initialDelay maxDelay maxCycles : Int) (workers : Nat)
    (clock : Time) (level : Int) :
    (start maxRetries initialDelay maxDelay maxCycles workers clock).Sound level where
  valid := Session.start_valid _ _ _ _
  arranged := Session.start_arranged _ _ _ _
  levelled := ⟨fun _ member => (by cases member), fun _ _ holds => (by cases holds)⟩
  isOpen := rfl
  placed := ⟨fun _ impossible => absurd rfl impossible, fun _ _ => rfl⟩
  awaited := rfl

/-- With one level of priority, no wake-up is lost as long as no woken worker goes on while
the root is due, others are queued and others wait. -/
theorem awaited_throughout (maxRetries initialDelay maxDelay maxCycles : Int) (workers : Nat)
    (clock : Time) (level : Int) (events : List Event)
    (calm : Along step (fun state event => state.undisturbed level event = true)
      (start maxRetries initialDelay maxDelay maxCycles workers clock) events) :
    Throughout step (fun state => state.awaited = true)
      (start maxRetries initialDelay maxDelay maxCycles workers clock) events :=
  (throughout_of_along step (fun state event => state.undisturbed level event = true)
    (Sound level) (fun _ _ _ sound condition taken => step_sound sound condition taken) _ events
    (start_sound _ _ _ _ _ _ _) calm).mono (fun _ sound => sound.awaited)

/-- Three workers wait.  Worker 0 is woken and fails, worker 1 is woken for the retry and
waits for it with a timer; worker 0 comes back for another item, and the timer wakes
worker 1, while worker 2 waits all the time. -/
def retriedByTimer : List Event :=
  [.enter 0, .enter 1, .enter 2, .enqueue ⟨"default", "settings"⟩ 0 (some 0), .resume 0,
    .requeue 0 (some 1), .resume 1, .enqueue ⟨"default", "limits"⟩ 0 (some 1), .enter 0,
    .resume 1, .done 0, .pass 1000000000, .fire 1 (some 1), .resume 1]

theorem awaited_retriedByTimer :
    (run step (start 5 1000000000 300000000000 3 3 0) retriedByTimer).isSome = true ∧
      Throughout step (fun state => state.awaited = true)
        (start 5 1000000000 300000000000 3 3 0) retriedByTimer :=
  ⟨by decide +kernel, awaited_throughout 5 1000000000 300000000000 3 3 0 0 retriedByTimer
    (along_of_checkAlong (fun _ _ calm => calm) (by decide +kernel))⟩

/-- Workers 0 and 1 wait for an empty queue.  The retry of worker 2 wakes worker 0, which
waits again with a timer; the next item wakes it once more, and it stops the timer and
leaves with that item. -/
def timerTakenAway : List Event :=
  [.enqueue ⟨"default", "settings"⟩ 0 none, .enter 2, .enter 0, .enter 1,
    .requeue 2 (some 0), .resume 0, .enqueue ⟨"default", "limits"⟩ 0 (some 0), .resume 0]

/-- Worker 1 is left waiting, and nothing wakes it for the retry. -/
theorem wakeup_lost :
    ∃ final, run step (start 5 1000000000 300000000000 3 3 0) timerTakenAway = some final ∧
      final.queue.shutdown = false ∧ final.blocked = true ∧ final.queue.items.size = 1 ∧
      final.signalledWaiter = false ∧ final.awaited = false ∧
      ∀ worker, worker < 3 → final.timer worker = none := by
  refine ⟨_, rfl, ?_, ?_, ?_, ?_, ?_, ?_⟩
  · decide +kernel
  · decide +kernel
  · decide +kernel
  · decide +kernel
  · decide +kernel
  · decide +kernel

end Waiting

end KubeTemplater.Queue
