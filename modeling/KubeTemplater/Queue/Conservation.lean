/-
No work item is lost and none is handed out twice.

The ledger adds to a session the items that are finished: passed to `Done`, or
given up by `Requeue`.  Every item that was ever made is queued once, held by
one worker or finished, and the counters agree with that.
-/

import KubeTemplater.Queue.Session

namespace KubeTemplater.Queue

open Library

namespace WorkQueue

/-- The depth gauge is the length of the heap, and what went in is what came out
or is still queued. -/
structure Counted (queue : WorkQueue) : Prop where
  depth : queue.metrics.currentDepth = queue.items.size
  balance : queue.metrics.enqueueCount + queue.metrics.retryCount =
    queue.metrics.dequeueCount + queue.items.size

private theorem size_of_perm {before after : WorkQueue}
    (items : after.items.toList.Perm before.items.toList) :
    after.items.size = before.items.size := by
  have length := items.length_eq
  rwa [Array.length_toList, Array.length_toList] at length

theorem size_of_perm_cons {before after : WorkQueue} {ref : ItemRef}
    (items : after.items.toList.Perm (ref :: before.items.toList)) :
    after.items.size = before.items.size + 1 := by
  have length := items.length_eq
  rwa [List.length_cons, Array.length_toList, Array.length_toList] at length

private theorem enqueue_counted (queue : WorkQueue) (key : NamespacedName) (priority : Int)
    (now : Time)
    (counted : queue.Counted) : (queue.enqueue key priority now).Counted := by
  unfold enqueue
  cases known : queue.itemsMap key with
  | some existing =>
      dsimp only
      split
      · have moved := heapFix_reorders
          { queue with
            memory := setItem queue.memory existing
              { queue.memory existing with priority := priority } }
          (queue.memory existing).index
        have size := size_of_perm moved.2
        have metrics := moved.1.metrics
        constructor
        · rw [metrics, size]
          exact counted.depth
        · rw [metrics, size]
          exact counted.balance
      · exact counted
  | none =>
      have size := size_of_perm_cons (enqueue_new queue key priority now known).items
      have metrics := (heapPush_rearranged { queue with
          memory := setItem queue.memory queue.allocated
            { namespacedName := key, priority := priority, retryCount := 0, retryCycle := 0
              enqueuedAt := now, scheduledAt := now, index := 0 }
          allocated := queue.allocated + 1 } queue.allocated).metrics
      simp only [enqueue, known] at size
      refine ⟨rfl, ?_⟩
      dsimp only at metrics ⊢
      rw [metrics, size]
      have balance := counted.balance
      omega

private theorem dequeue_counted (queue after : WorkQueue) (now : Time) (ref : ItemRef)
    (taken : queue.dequeue now = .take ref after) (counted : queue.Counted) : after.Counted := by
  have size := size_of_perm_cons (dequeue_take queue after now ref taken).items.symm
  have metrics := (heapPop_rearranged queue).metrics
  obtain ⟨_root, _due, rfl⟩ := dequeue_withoutRoot taken
  refine ⟨rfl, ?_⟩
  unfold withoutRoot at size ⊢
  dsimp only at metrics size ⊢
  rw [metrics]
  have balance := counted.balance
  omega

private theorem requeue_counted (queue : WorkQueue) (ref : ItemRef) (now : Time)
    (counted : queue.Counted) : (queue.requeue ref now).Counted := by
  cases again : queue.retryItem (queue.memory ref) now with
  | none =>
      simp only [requeue, again]
      exact ⟨counted.depth, counted.balance⟩
  | some retried =>
      have size := size_of_perm_cons (requeue_putBack queue ref now
        (by rw [retries, again]; rfl)).items
      have metrics := (heapPush_rearranged { queue with
          memory := setItem queue.memory ref retried
          metrics :=
            { queue.metrics with processingItems := queue.metrics.processingItems - 1 } }
          ref).metrics
      simp only [requeue, again] at size ⊢
      refine ⟨rfl, ?_⟩
      dsimp only at metrics ⊢
      rw [metrics, size]
      have balance := counted.balance
      dsimp only
      omega

end WorkQueue

structure Ledger where
  session : Session
  /-- The items passed to `Done` or given up by `Requeue`, the latest first. -/
  finished : List ItemRef

namespace Ledger

def start (maxRetries initialDelay maxDelay maxCycles : Int) : Ledger :=
  { session := Session.start maxRetries initialDelay maxDelay maxCycles
    finished := [] }

def finishes (session : Session) : Operation → List ItemRef
  | .requeue worker now =>
      (session.held worker).toList.filter (fun ref => !session.queue.retries ref now)
  | .done worker => (session.held worker).toList
  | .enqueue _ _ _ => []
  | .dequeue _ _ => []

def step (ledger : Ledger) (operation : Operation) : Option Ledger :=
  (ledger.session.step operation).map (fun next =>
    { session := next
      finished := finishes ledger.session operation ++ ledger.finished })

def Queued (ledger : Ledger) (ref : ItemRef) : Prop := ref ∈ ledger.session.queue.items.toList

def Held (ledger : Ledger) (ref : ItemRef) : Prop :=
  ∃ worker, ledger.session.held worker = some ref

def Finished (ledger : Ledger) (ref : ItemRef) : Prop := ref ∈ ledger.finished

structure Conserved (ledger : Ledger) : Prop where
  made : ∀ ref, ref < ledger.session.queue.allocated ↔
    ledger.Queued ref ∨ ledger.Held ref ∨ ledger.Finished ref
  queuedNotHeld : ∀ ref, ledger.Queued ref → ¬ ledger.Held ref
  queuedNotFinished : ∀ ref, ledger.Queued ref → ¬ ledger.Finished ref
  heldNotFinished : ∀ ref, ledger.Held ref → ¬ ledger.Finished ref
  queuedOnce : ledger.session.queue.items.toList.Nodup
  heldOnce : ∀ worker other ref, ledger.session.held worker = some ref →
    ledger.session.held other = some ref → worker = other
  finishedOnce : ledger.finished.Nodup
  depth : ledger.session.queue.metrics.currentDepth = ledger.session.queue.items.size
  balance : ledger.session.queue.metrics.enqueueCount + ledger.session.queue.metrics.retryCount =
    ledger.session.queue.metrics.dequeueCount + ledger.session.queue.items.size

/-- An item that leaves the heap in this step is the one a `Dequeue` hands to its
caller, and to nobody else. -/
def LeavesByDequeue (ledger : Ledger) (operation : Operation) : Prop :=
  ∀ next, ledger.step operation = some next → ∀ ref, ledger.Queued ref → ¬ next.Queued ref →
    ∃ worker now, operation = .dequeue worker now ∧
      ledger.session.queue.dequeue now = .take ref next.session.queue ∧
      ∀ holder, next.session.held holder = some ref ↔ holder = worker

/-- The conservation law over the session's own invariant. -/
structure Kept (ledger : Ledger) : Prop where
  valid : ledger.session.Valid
  counted : ledger.session.queue.Counted
  made : ∀ ref, ref < ledger.session.queue.allocated →
    (ledger.Queued ref ∨ ledger.Held ref) ∨ ledger.Finished ref
  finishedBelow : ∀ ref, ledger.Finished ref → ref < ledger.session.queue.allocated
  finishedAway : ∀ ref, ledger.Finished ref → ¬ (ledger.Queued ref ∨ ledger.Held ref)
  finishedOnce : ledger.finished.Nodup

theorem Kept.conserved {ledger : Ledger} (kept : ledger.Kept) : ledger.Conserved where
  made := by
    intro ref
    constructor
    · intro below
      exact or_assoc.mp (kept.made ref below)
    · rintro (queued | ⟨worker, holds⟩ | finished)
      · exact kept.valid.queuedBelow ref queued
      · exact kept.valid.heldBelow worker ref holds
      · exact kept.finishedBelow ref finished
  queuedNotHeld := by
    rintro ref queued ⟨worker, holds⟩
    exact kept.valid.heldAway worker ref holds queued
  queuedNotFinished := fun ref queued finished => kept.finishedAway ref finished (.inl queued)
  heldNotFinished := fun ref holds finished => kept.finishedAway ref finished (.inr holds)
  queuedOnce := kept.valid.queuedOnce
  heldOnce := kept.valid.heldOnce
  finishedOnce := kept.finishedOnce
  depth := kept.counted.depth
  balance := kept.counted.balance

theorem start_kept (maxRetries initialDelay maxDelay maxCycles : Int) :
    (start maxRetries initialDelay maxDelay maxCycles).Kept where
  valid := Session.start_valid _ _ _ _
  counted := ⟨rfl, rfl⟩
  made := by intro ref below; cases below
  finishedBelow := by intro ref finished; cases finished
  finishedAway := by intro ref finished; cases finished
  finishedOnce := List.nodup_nil

/-- An item changes between queued and held, or none changes. -/
theorem Kept.moved {ledger next : Ledger} (kept : ledger.Kept) (valid : next.session.Valid)
    (counted : next.session.queue.Counted) (finished : next.finished = ledger.finished)
    (allocated : next.session.queue.allocated = ledger.session.queue.allocated)
    (unfinished : ∀ ref, next.Queued ref ∨ next.Held ref ↔ ledger.Queued ref ∨ ledger.Held ref) :
    next.Kept := by
  have same (ref : ItemRef) : next.Finished ref ↔ ledger.Finished ref := by
    unfold Finished
    rw [finished]
  constructor
  · exact valid
  · exact counted
  · intro ref below
    rw [unfinished, same]
    exact kept.made ref (allocated ▸ below)
  · intro ref isFinished
    rw [allocated]
    exact kept.finishedBelow ref ((same ref).mp isFinished)
  · intro ref isFinished
    rw [unfinished]
    exact kept.finishedAway ref ((same ref).mp isFinished)
  · rw [finished]
    exact kept.finishedOnce

theorem Kept.finish {ledger next : Ledger} {ref : ItemRef} (kept : ledger.Kept)
    (valid : next.session.Valid) (counted : next.session.queue.Counted)
    (finished : next.finished = ref :: ledger.finished)
    (allocated : next.session.queue.allocated = ledger.session.queue.allocated)
    (holds : ledger.Held ref) (unqueued : ¬ ledger.Queued ref)
    (queued : ∀ other, next.Queued other ↔ ledger.Queued other)
    (held : ∀ other, next.Held other ↔ other ≠ ref ∧ ledger.Held other) : next.Kept := by
  have isFinished (other : ItemRef) :
      next.Finished other ↔ other = ref ∨ ledger.Finished other := by
    unfold Finished
    rw [finished, List.mem_cons]
  constructor
  · exact valid
  · exact counted
  · intro other below
    rw [queued, held, isFinished]
    by_cases same : other = ref
    · exact .inr (.inl same)
    · rcases kept.made other (allocated ▸ below) with (inQueue | inHand) | ended
      · exact .inl (.inl inQueue)
      · exact .inl (.inr ⟨same, inHand⟩)
      · exact .inr (.inr ended)
  · intro other ended
    rw [allocated]
    rcases (isFinished other).mp ended with same | before
    · obtain ⟨worker, inHand⟩ := holds
      rw [same]
      exact kept.valid.heldBelow worker ref inHand
    · exact kept.finishedBelow other before
  · intro other ended
    rw [queued, held]
    rcases (isFinished other).mp ended with same | before
    · rw [same]
      rintro (inQueue | ⟨different, _⟩)
      · exact unqueued inQueue
      · exact different rfl
    · rintro (inQueue | ⟨_, inHand⟩)
      · exact kept.finishedAway other before (.inl inQueue)
      · exact kept.finishedAway other before (.inr inHand)
  · rw [finished]
    exact List.nodup_cons.mpr ⟨fun before => kept.finishedAway ref before (.inr holds),
      kept.finishedOnce⟩

private theorem held_released {session : Session} (valid : session.Valid) {worker : Nat}
    {ref : ItemRef}
    (holds : session.held worker = some ref) (other : ItemRef) :
    (∃ holder, setHeld session.held worker none holder = some other) ↔
      other ≠ ref ∧ ∃ holder, session.held holder = some other := by
  constructor
  · rintro ⟨holder, held⟩
    obtain ⟨different, before⟩ := Session.setHeld_none held
    refine ⟨?_, holder, before⟩
    intro same
    subst other
    exact different (valid.heldOnce holder worker ref before holds)
  · rintro ⟨different, holder, before⟩
    refine ⟨holder, ?_⟩
    rw [setHeld_other _ _ _ _ ?_]
    · exact before
    · intro same
      subst holder
      rw [holds] at before
      cases before
      exact different rfl

private theorem kept_enqueue (ledger : Ledger) (kept : ledger.Kept) (key : NamespacedName)
    (priority : Int) (now : Time) (next : Session)
    (taken : ledger.session.step (.enqueue key priority now) = some next) :
    Kept { session := next, finished := ledger.finished } := by
  have valid := Session.step_valid _ _ _ kept.valid taken
  cases taken
  have counted := WorkQueue.enqueue_counted _ key priority now kept.counted
  cases known : ledger.session.queue.itemsMap key with
  | some existing =>
      have spec := WorkQueue.enqueue_existing _ key priority now existing known
      refine kept.moved valid counted rfl spec.allocated ?_
      intro ref
      exact or_congr spec.items.mem_iff Iff.rfl
  | none =>
      have spec := WorkQueue.enqueue_new _ key priority now known
      have queued (ref : ItemRef) : Queued
          { session :=
              { ledger.session with queue := ledger.session.queue.enqueue key priority now }
            finished := ledger.finished } ref ↔
            ref = ledger.session.queue.allocated ∨ ledger.Queued ref :=
        spec.items.mem_iff.trans List.mem_cons
      constructor
      · exact valid
      · exact counted
      · intro ref below
        rw [queued]
        rcases Nat.lt_succ_iff_lt_or_eq.mp (spec.allocated ▸ below) with old | fresh
        · rcases kept.made ref old with (inQueue | inHand) | ended
          · exact .inl (.inl (.inr inQueue))
          · exact .inl (.inr inHand)
          · exact .inr ended
        · exact .inl (.inl (.inl fresh))
      · intro ref ended
        dsimp only
        rw [spec.allocated]
        exact Nat.lt_succ_of_lt (kept.finishedBelow ref ended)
      · intro ref ended
        rw [queued]
        rintro ((fresh | inQueue) | inHand)
        · exact Nat.ne_of_lt (kept.finishedBelow ref ended) fresh
        · exact kept.finishedAway ref ended (.inl inQueue)
        · exact kept.finishedAway ref ended (.inr inHand)
      · exact kept.finishedOnce

private theorem kept_dequeue (ledger : Ledger) (kept : ledger.Kept) (worker : Nat) (now : Time)
    (next : Session) (taken : ledger.session.step (.dequeue worker now) = some next) :
    Kept { session := next, finished := ledger.finished } := by
  have valid := Session.step_valid _ _ _ kept.valid taken
  obtain ⟨ref, free, spec, held⟩ := Session.step_dequeue taken
  have counted : next.queue.Counted := by
    obtain ⟨other, rest, _free, hands, rfl⟩ := Session.step_hands taken
    exact WorkQueue.dequeue_counted _ rest now other hands kept.counted
  refine kept.moved valid counted rfl spec.allocated ?_
  intro other
  have inQueue : ledger.Queued other ↔
      other = ref ∨ Queued { session := next, finished := ledger.finished } other :=
    spec.items.symm.mem_iff.trans List.mem_cons
  have inHand : Held { session := next, finished := ledger.finished } other ↔
      other = ref ∨ ledger.Held other := by
    unfold Held
    dsimp only
    rw [held]
    constructor
    · rintro ⟨holder, holds⟩
      rcases setHeld_some holds with ⟨_isWorker, isRoot⟩ | ⟨_different, before⟩
      · exact .inl isRoot
      · exact .inr ⟨holder, before⟩
    · rintro (same | ⟨holder, holds⟩)
      · rw [same]
        exact ⟨worker, setHeld_self _ _ _⟩
      · refine ⟨holder, ?_⟩
        rw [setHeld_other _ _ _ _ ?_]
        · exact holds
        · intro same
          rw [same, free] at holds
          cases holds
  rw [inQueue, inHand, or_comm (a := other = ref) (b := Queued _ other), or_assoc]

private theorem kept_requeue (ledger : Ledger) (kept : ledger.Kept) (worker : Nat) (now : Time)
    (next : Session) (taken : ledger.session.step (.requeue worker now) = some next) :
    Kept
      { session := next
        finished := finishes ledger.session (.requeue worker now) ++ ledger.finished } := by
  have valid := Session.step_valid _ _ _ kept.valid taken
  obtain ⟨ref, holds, rfl⟩ := Session.step_requeue taken
  have counted := WorkQueue.requeue_counted ledger.session.queue ref now kept.counted
  have released := held_released kept.valid holds
  cases again : ledger.session.queue.retries ref now with
  | true =>
      have spec := WorkQueue.requeue_putBack _ ref now again
      have none : finishes ledger.session (.requeue worker now) = [] := by
        simp [finishes, holds, again]
      refine kept.moved valid counted (by rw [none]; rfl) spec.allocated ?_
      intro other
      have inQueue := spec.items.mem_iff.trans (List.mem_cons (a := other))
      refine (or_congr inQueue (released other)).trans ?_
      constructor
      · rintro ((same | queued) | ⟨_, held⟩)
        · rw [same]
          exact .inr ⟨worker, holds⟩
        · exact .inl queued
        · exact .inr held
      · rintro (queued | held)
        · exact .inl (.inr queued)
        · by_cases same : other = ref
          · exact .inl (.inl same)
          · exact .inr ⟨same, held⟩
  | false =>
      have spec := WorkQueue.requeue_givenUp _ ref now again
      refine kept.finish valid counted ?_ spec.allocated ⟨worker, holds⟩
        (kept.valid.heldAway worker ref holds) ?_ released
      · simp [finishes, holds, again]
      · intro other
        unfold Queued
        rw [spec.items]

private theorem kept_done (ledger : Ledger) (kept : ledger.Kept) (worker : Nat) (next : Session)
    (taken : ledger.session.step (.done worker) = some next) :
    Kept
      { session := next
        finished := finishes ledger.session (.done worker) ++ ledger.finished } := by
  have valid := Session.step_valid _ _ _ kept.valid taken
  obtain ⟨ref, holds, rfl⟩ := Option.map_eq_some_iff.mp taken
  refine kept.finish valid ⟨kept.counted.depth, kept.counted.balance⟩ ?_ rfl
    ⟨worker, holds⟩ (kept.valid.heldAway worker ref holds) (fun _ => Iff.rfl)
    (held_released kept.valid holds)
  simp [finishes, holds]

theorem step_kept (ledger : Ledger) (operation : Operation) (next : Ledger)
    (kept : ledger.Kept) (taken : ledger.step operation = some next) : next.Kept := by
  obtain ⟨session, stepped, rfl⟩ := Option.map_eq_some_iff.mp taken
  cases operation with
  | enqueue key priority now => exact kept_enqueue ledger kept key priority now session stepped
  | dequeue worker now => exact kept_dequeue ledger kept worker now session stepped
  | requeue worker now => exact kept_requeue ledger kept worker now session stepped
  | done worker => exact kept_done ledger kept worker session stepped

private theorem step_leaves (ledger : Ledger) (operation : Operation)
    (valid : ledger.session.Valid) :
    ledger.LeavesByDequeue operation := by
  intro next taken ref queued gone
  obtain ⟨session, stepped, rfl⟩ := Option.map_eq_some_iff.mp taken
  cases operation with
  | enqueue key priority now =>
      refine absurd ?_ gone
      cases stepped
      cases known : ledger.session.queue.itemsMap key with
      | some existing =>
          exact (WorkQueue.enqueue_existing _ key priority now existing known).items.mem_iff.mpr
            queued
      | none =>
          exact (WorkQueue.enqueue_new _ key priority now known).items.mem_iff.mpr
            (List.mem_cons_of_mem _ queued)
  | dequeue worker now =>
      obtain ⟨root, _free, spec, held⟩ := Session.step_dequeue stepped
      have isRoot : ref = root := by
        rcases List.mem_cons.mp (spec.items.mem_iff.mpr queued) with same | stays
        · exact same
        · exact absurd stays gone
      subst isRoot
      refine ⟨worker, now, rfl, ?_, ?_⟩
      · obtain ⟨other, rest, _free, hands, isNext⟩ := Session.step_hands stepped
        have sameRoot := (WorkQueue.dequeue_take _ _ _ _ hands).root
        rw [spec.root] at sameRoot
        cases sameRoot
        rw [isNext]
        exact hands
      · intro holder
        dsimp only
        rw [held]
        constructor
        · intro holds
          by_cases same : holder = worker
          · exact same
          · rw [setHeld_other _ _ _ _ same] at holds
            exact absurd queued (valid.heldAway holder ref holds)
        · intro same
          rw [same, setHeld_self]
  | requeue worker now =>
      refine absurd ?_ gone
      obtain ⟨other, _holds, rfl⟩ := Session.step_requeue stepped
      cases again : ledger.session.queue.retries other now with
      | true =>
          exact (WorkQueue.requeue_putBack _ other now again).items.mem_iff.mpr
            (List.mem_cons_of_mem _ queued)
      | false =>
          unfold Queued
          rw [(WorkQueue.requeue_givenUp _ other now again).items]
          exact queued
  | done worker =>
      refine absurd ?_ gone
      rw [Session.step_done stepped]
      exact queued

/-- In every run the items are partitioned into queued, held and finished ones in
every state, the counters agree with that, and items leave the heap only into the
hands of one `Dequeue`. -/
theorem conserved_throughout (maxRetries initialDelay maxDelay maxCycles : Int)
    (operations : List Operation) :
    Throughout step Conserved (start maxRetries initialDelay maxDelay maxCycles) operations ∧
      Along step LeavesByDequeue (start maxRetries initialDelay maxDelay maxCycles)
        operations := by
  have kept := throughout_of_preserved step Kept step_kept
    (start maxRetries initialDelay maxDelay maxCycles) operations (start_kept _ _ _ _)
  exact ⟨kept.mono (fun _ holds => holds.conserved),
    kept.along (fun ledger operation holds => step_leaves ledger operation holds.valid)⟩

end Ledger

end KubeTemplater.Queue
