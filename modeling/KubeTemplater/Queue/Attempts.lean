/-
The retry counters of the work items.

Only `Requeue` of an item changes its counters; the other methods, and `Requeue`
of other items, leave them alone.  The configuration of the queue never changes.
-/

import KubeTemplater.Queue.Session

namespace KubeTemplater.Queue

namespace WorkQueue

def attempts (queue : WorkQueue) (ref : ItemRef) : Int × Int :=
  ((queue.memory ref).retryCount, (queue.memory ref).retryCycle)

structure Settings where
  maxRetries : Int
  initialRetryDelay : Int
  maxRetryDelay : Int
  maxRetryCycles : Int
  shutdown : Bool

def settings (queue : WorkQueue) : Settings :=
  { maxRetries := queue.maxRetries
    initialRetryDelay := queue.initialRetryDelay
    maxRetryDelay := queue.maxRetryDelay
    maxRetryCycles := queue.maxRetryCycles
    shutdown := queue.shutdown }

end WorkQueue

theorem Rearranged.attempts {before after : WorkQueue} (moved : Rearranged before after)
    (ref : ItemRef) : after.attempts ref = before.attempts ref := by
  obtain ⟨_index, same⟩ := moved.memory ref
  unfold WorkQueue.attempts
  rw [same]
  rfl

theorem Rearranged.settings {before after : WorkQueue} (moved : Rearranged before after) :
    after.settings = before.settings := by
  rw [moved.frame]
  rfl

namespace WorkQueue

theorem enqueue_settings (queue : WorkQueue) (key : NamespacedName) (priority : Int)
    (now : Time) : (queue.enqueue key priority now).settings = queue.settings := by
  unfold enqueue
  split
  · dsimp only
    split
    · exact (heapFix_reorders _ _).1.settings
    · rfl
  · exact (heapPush_rearranged _ _).settings

theorem enqueue_attempts (queue : WorkQueue) (key : NamespacedName) (priority : Int)
    (now : Time) (ref : ItemRef) (old : ref ≠ queue.allocated) :
    (queue.enqueue key priority now).attempts ref = queue.attempts ref := by
  unfold enqueue
  split
  · rename_i existing known
    dsimp only
    split
    · refine ((heapFix_reorders _ _).1.attempts ref).trans ?_
      unfold attempts
      by_cases same : ref = existing
      · subst ref
        dsimp only
        rw [setItem_self]
      · dsimp only
        rw [setItem_other _ _ _ _ same]
    · rfl
  · refine ((heapPush_rearranged _ _).attempts ref).trans ?_
    unfold attempts
    dsimp only
    rw [setItem_other _ _ _ _ old]

/-- A new item starts with both counters at zero. -/
theorem enqueue_new_attempts (queue : WorkQueue) (key : NamespacedName) (priority : Int)
    (now : Time) (unknown : queue.itemsMap key = none) :
    (queue.enqueue key priority now).attempts queue.allocated = (0, 0) := by
  unfold enqueue
  rw [unknown]
  refine ((heapPush_rearranged _ _).attempts _).trans ?_
  unfold attempts
  dsimp only
  rw [setItem_self]

theorem dequeue_settings (queue after : WorkQueue) (now : Time) (ref : ItemRef)
    (taken : queue.dequeue now = .take ref after) :
    after.settings = queue.settings ∧ ∀ other, after.attempts other = queue.attempts other := by
  obtain ⟨_root, _due, rfl⟩ := dequeue_withoutRoot taken
  have moved := heapPop_rearranged queue
  exact ⟨moved.settings, moved.attempts⟩

theorem requeue_settings (queue : WorkQueue) (ref : ItemRef) (now : Time) :
    (queue.requeue ref now).settings = queue.settings := by
  unfold requeue
  dsimp only
  split
  · rfl
  · exact (heapPush_rearranged _ _).settings

theorem requeue_attempts_other (queue : WorkQueue) (ref other : ItemRef) (now : Time)
    (different : other ≠ ref) :
    (queue.requeue ref now).attempts other = queue.attempts other := by
  unfold requeue
  dsimp only
  split
  · unfold attempts
    dsimp only
    rw [setItem_other _ _ _ _ different]
  · refine ((heapPush_rearranged _ _).attempts other).trans ?_
    unfold attempts
    dsimp only
    rw [setItem_other _ _ _ _ different]

theorem requeue_givenUp_attempts (queue : WorkQueue) (ref : ItemRef) (now : Time)
    (exhausted : queue.retryItem (queue.memory ref) now = none) :
    (queue.requeue ref now).attempts ref =
      ((queue.attempts ref).1 + 1, (queue.attempts ref).2) := by
  unfold requeue attempts
  dsimp only
  rw [exhausted]
  dsimp only
  rw [setItem_self]

/-- Where `Requeue` puts the item back it is the one `retryItem` makes, but for
the back index. -/
theorem requeue_retried (queue : WorkQueue) (ref : ItemRef) (now : Time) (retried : WorkItem)
    (again : queue.retryItem (queue.memory ref) now = some retried) :
    ∃ index, (queue.requeue ref now).memory ref = retried.withIndex index := by
  unfold requeue
  dsimp only
  rw [again]
  obtain ⟨index, same⟩ := (heapPush_rearranged { queue with
    memory := setItem queue.memory ref retried
    metrics := { queue.metrics with processingItems := queue.metrics.processingItems - 1 } }
    ref).memory ref
  refine ⟨index, same.trans ?_⟩
  dsimp only
  rw [setItem_self]

end WorkQueue

namespace Session

private theorem step_settings {session next : Session} {operation : Operation}
    (taken : session.step operation = some next) :
    next.queue.settings = session.queue.settings := by
  cases operation with
  | enqueue key priority now =>
      cases taken
      exact WorkQueue.enqueue_settings _ _ _ _
  | dequeue worker now =>
      obtain ⟨ref, rest, _free, hands, rfl⟩ := step_hands taken
      exact (WorkQueue.dequeue_settings _ _ _ _ hands).1
  | requeue worker now =>
      obtain ⟨ref, _holds, rfl⟩ := step_requeue taken
      exact WorkQueue.requeue_settings _ _ _
  | done worker =>
      rw [step_done taken]
      rfl

theorem step_shutdown {session next : Session} {operation : Operation}
    (taken : session.step operation = some next) :
    next.queue.shutdown = session.queue.shutdown :=
  congrArg WorkQueue.Settings.shutdown (step_settings taken)

end Session

end KubeTemplater.Queue
