/-
What each method of the work queue does to the queued references, to the keys
of the items and to the deduplication map.
-/

import KubeTemplater.Queue.HeapMoves

namespace KubeTemplater.Queue

namespace WorkQueue

def key (queue : WorkQueue) (ref : ItemRef) : NamespacedName :=
  (queue.memory ref).namespacedName

end WorkQueue

theorem Rearranged.key {before after : WorkQueue} (moved : Rearranged before after)
    (ref : ItemRef) : after.key ref = before.key ref := by
  obtain ⟨_index, same⟩ := moved.memory ref
  unfold WorkQueue.key
  rw [same]
  rfl

theorem Rearranged.itemsMap {before after : WorkQueue} (moved : Rearranged before after) :
    after.itemsMap = before.itemsMap := by
  rw [moved.frame]

theorem Rearranged.metrics {before after : WorkQueue} (moved : Rearranged before after) :
    after.metrics = before.metrics := by
  rw [moved.frame]

theorem Rearranged.allocated {before after : WorkQueue} (moved : Rearranged before after) :
    after.allocated = before.allocated := by
  rw [moved.frame]

theorem setItem_self (memory : ItemRef → WorkItem) (ref : ItemRef) (item : WorkItem) :
    setItem memory ref item ref = item :=
  if_pos rfl

theorem setItem_other (memory : ItemRef → WorkItem) (ref other : ItemRef) (item : WorkItem)
    (different : other ≠ ref) : setItem memory ref item other = memory other :=
  if_neg different

theorem setItem_key (memory : ItemRef → WorkItem) (ref other : ItemRef) (item : WorkItem)
    (same : item.namespacedName = (memory ref).namespacedName) :
    (setItem memory ref item other).namespacedName = (memory other).namespacedName := by
  by_cases equal : other = ref
  · subst other
    rw [setItem_self, same]
  · rw [setItem_other memory ref other item equal]

theorem setKey_self (itemsMap : NamespacedName → Option ItemRef) (key : NamespacedName)
    (ref : Option ItemRef) : setKey itemsMap key ref key = ref :=
  if_pos rfl

theorem setKey_other (itemsMap : NamespacedName → Option ItemRef)
    (key other : NamespacedName) (ref : Option ItemRef) (different : other ≠ key) :
    setKey itemsMap key ref other = itemsMap other :=
  if_neg different

namespace WorkQueue

/-- A key the map knows: only the priority of its item may change. -/
structure EnqueuedExisting (before after : WorkQueue) : Prop where
  items : after.items.toList.Perm before.items.toList
  keys : ∀ ref, after.key ref = before.key ref
  itemsMap : after.itemsMap = before.itemsMap
  allocated : after.allocated = before.allocated

theorem enqueue_existing (queue : WorkQueue) (key : NamespacedName) (priority : Int)
    (now : Time) (existing : ItemRef) (known : queue.itemsMap key = some existing) :
    EnqueuedExisting queue (queue.enqueue key priority now) := by
  unfold enqueue
  rw [known]
  dsimp only
  split
  · have moved := heapFix_reorders
      { queue with
        memory := setItem queue.memory existing
          { queue.memory existing with priority := priority } }
      (queue.memory existing).index
    exact
      { items := moved.2
        keys := fun ref => (moved.1.key ref).trans (setItem_key queue.memory existing ref _ rfl)
        itemsMap := moved.1.itemsMap
        allocated := moved.1.allocated }
  · exact
      { items := .refl _
        keys := fun _ => rfl
        itemsMap := rfl
        allocated := rfl }

/-- A key the map does not know: a fresh item with that key joins the heap. -/
structure EnqueuedNew (before after : WorkQueue) (key : NamespacedName) : Prop where
  items : after.items.toList.Perm (before.allocated :: before.items.toList)
  freshKey : after.key before.allocated = key
  keys : ∀ ref, ref ≠ before.allocated → after.key ref = before.key ref
  itemsMap : after.itemsMap = setKey before.itemsMap key (some before.allocated)
  allocated : after.allocated = before.allocated + 1

theorem enqueue_new (queue : WorkQueue) (key : NamespacedName) (priority : Int)
    (now : Time) (unknown : queue.itemsMap key = none) :
    EnqueuedNew queue (queue.enqueue key priority now) key := by
  let item : WorkItem :=
    { namespacedName := key, priority := priority, retryCount := 0, retryCycle := 0
      enqueuedAt := now, scheduledAt := now, index := 0 }
  let stored : WorkQueue :=
    { queue with
      memory := setItem queue.memory queue.allocated item
      allocated := queue.allocated + 1 }
  have moved := heapPush_rearranged stored queue.allocated
  have permuted := heapPush_perm stored queue.allocated
  unfold enqueue
  rw [unknown]
  exact
    { items := permuted
      freshKey := (moved.key queue.allocated).trans
        (congrArg WorkItem.namespacedName (setItem_self queue.memory queue.allocated item))
      keys := fun ref different => (moved.key ref).trans
        (congrArg WorkItem.namespacedName
          (setItem_other queue.memory queue.allocated ref item different))
      itemsMap := by
        dsimp only
        rw [moved.itemsMap]
      allocated := moved.allocated }

def withoutRoot (queue : WorkQueue) (ref : ItemRef) : WorkQueue :=
  { heapPop queue with
    itemsMap := setKey (heapPop queue).itemsMap (queue.memory ref).namespacedName none
    metrics :=
      { (heapPop queue).metrics with
        dequeueCount := (heapPop queue).metrics.dequeueCount + 1
        currentDepth := (heapPop queue).items.size
        processingItems := (heapPop queue).metrics.processingItems + 1 } }

inductive Turns (queue : WorkQueue) (now : Time) : DequeueTurn → Prop where
  | stopped (shut : queue.shutdown = true) : Turns queue now .stopped
  | wait (isEmpty : queue.items[0]? = none) : Turns queue now .wait
  | waitUntil (ref : ItemRef) (root : queue.items[0]? = some ref)
      (early : now < (queue.memory ref).scheduledAt) :
      Turns queue now (.waitUntil (queue.memory ref).scheduledAt)
  | take (ref : ItemRef) (root : queue.items[0]? = some ref)
      (due : (queue.memory ref).scheduledAt ≤ now) :
      Turns queue now (.take ref (queue.withoutRoot ref))

theorem dequeue_turns (queue : WorkQueue) (now : Time) : Turns queue now (queue.dequeue now) := by
  unfold dequeue
  split
  · rename_i shut
    exact .stopped shut
  · split
    · rename_i isEmpty
      exact .wait isEmpty
    · rename_i ref root
      dsimp only
      split
      · rename_i early
        exact .waitUntil ref root early
      · rename_i due
        exact .take ref root (Int.not_lt.mp due)

theorem dequeue_withoutRoot {queue after : WorkQueue} {now : Time} {ref : ItemRef}
    (taken : queue.dequeue now = .take ref after) :
    queue.items[0]? = some ref ∧ (queue.memory ref).scheduledAt ≤ now ∧
      after = queue.withoutRoot ref := by
  have turns := dequeue_turns queue now
  rw [taken] at turns
  cases turns with
  | take _ root due => exact ⟨root, due, rfl⟩

structure Taken (before after : WorkQueue) (ref : ItemRef) (now : Time) : Prop where
  root : before.items[0]? = some ref
  due : (before.memory ref).scheduledAt ≤ now
  items : (ref :: after.items.toList).Perm before.items.toList
  keys : ∀ other, after.key other = before.key other
  itemsMap : after.itemsMap = setKey before.itemsMap (before.key ref) none
  allocated : after.allocated = before.allocated

theorem dequeue_take (queue after : WorkQueue) (now : Time) (ref : ItemRef)
    (taken : queue.dequeue now = .take ref after) : Taken queue after ref now := by
  obtain ⟨root, due, rfl⟩ := dequeue_withoutRoot taken
  have moved := heapPop_rearranged queue
  exact
    { root := root
      due := due
      items := heapPop_perm queue ref root
      keys := moved.key
      itemsMap := by
        unfold withoutRoot
        dsimp only
        rw [moved.itemsMap]
        rfl
      allocated := moved.allocated }

theorem dequeue_due (queue : WorkQueue) (now : Time) (ref : ItemRef)
    (isOpen : queue.shutdown = false) (root : queue.items[0]? = some ref)
    (due : (queue.memory ref).scheduledAt ≤ now) :
    ∃ after, queue.dequeue now = .take ref after := by
  unfold dequeue
  rw [isOpen, root]
  dsimp only
  rw [if_neg Bool.false_ne_true, if_neg (Int.not_lt.mpr due)]
  exact ⟨_, rfl⟩

/-- The item's retry cycles are used up: nothing of the heap or the map changes. -/
structure GivenUp (before after : WorkQueue) : Prop where
  items : after.items = before.items
  keys : ∀ other, after.key other = before.key other
  itemsMap : after.itemsMap = before.itemsMap
  allocated : after.allocated = before.allocated

structure PutBack (before after : WorkQueue) (ref : ItemRef) : Prop where
  items : after.items.toList.Perm (ref :: before.items.toList)
  keys : ∀ other, after.key other = before.key other
  itemsMap : after.itemsMap = setKey before.itemsMap (before.key ref) (some ref)
  allocated : after.allocated = before.allocated

/-- Whether `Requeue` would put the item back. -/
def retries (queue : WorkQueue) (ref : ItemRef) (now : Time) : Bool :=
  (queue.retryItem (queue.memory ref) now).isSome

/-- The three things `Requeue` does with a failed item. -/
inductive Retry (queue : WorkQueue) (item : WorkItem) (now : Time) : Option WorkItem → Prop where
  | backoff (within : item.retryCount + 1 ≤ queue.maxRetries) :
      Retry queue item now (some
        { item with
          retryCount := item.retryCount + 1
          scheduledAt := now + backoffDelay queue (item.retryCount + 1) })
  | cooldown (beyond : queue.maxRetries < item.retryCount + 1)
      (more : ¬ (0 < queue.maxRetryCycles ∧ queue.maxRetryCycles ≤ item.retryCycle)) :
      Retry queue item now (some
        { item with
          retryCount := 0
          retryCycle := item.retryCycle + 1
          scheduledAt := now + queue.maxRetryDelay })
  | givenUp (beyond : queue.maxRetries < item.retryCount + 1)
      (spent : 0 < queue.maxRetryCycles ∧ queue.maxRetryCycles ≤ item.retryCycle) :
      Retry queue item now none

theorem retryItem_retry (queue : WorkQueue) (item : WorkItem) (now : Time) :
    Retry queue item now (queue.retryItem item now) := by
  unfold retryItem
  dsimp only
  split
  · rename_i beyond
    split
    · rename_i spent
      exact .givenUp beyond spent
    · rename_i more
      exact .cooldown beyond more
  · rename_i within
    exact .backoff (Int.not_lt.mp within)

theorem retryItem_key (queue : WorkQueue) (item retried : WorkItem) (now : Time)
    (found : queue.retryItem item now = some retried) :
    retried.namespacedName = item.namespacedName := by
  have retry := retryItem_retry queue item now
  rw [found] at retry
  cases retry with
  | backoff within => rfl
  | cooldown beyond more => rfl

theorem retryItem_priority {queue : WorkQueue} {item retried : WorkItem} {now : Time}
    (found : queue.retryItem item now = some retried) : retried.priority = item.priority := by
  have retry := retryItem_retry queue item now
  rw [found] at retry
  cases retry with
  | backoff within => rfl
  | cooldown beyond more => rfl

theorem requeue_givenUp (queue : WorkQueue) (ref : ItemRef) (now : Time)
    (exhausted : queue.retries ref now = false) : GivenUp queue (queue.requeue ref now) := by
  have missing : queue.retryItem (queue.memory ref) now = none :=
    Option.not_isSome_iff_eq_none.mp (by rw [← retries, exhausted]; exact Bool.false_ne_true)
  unfold requeue
  dsimp only
  rw [missing]
  exact
    { items := rfl
      keys := fun other => setItem_key queue.memory ref other _ rfl
      itemsMap := rfl
      allocated := rfl }

theorem requeue_putBack (queue : WorkQueue) (ref : ItemRef) (now : Time)
    (again : queue.retries ref now = true) : PutBack queue (queue.requeue ref now) ref := by
  obtain ⟨retried, found⟩ := Option.isSome_iff_exists.mp again
  have sameKey := retryItem_key queue _ retried now found
  let stored : WorkQueue :=
    { queue with
      memory := setItem queue.memory ref retried
      metrics := { queue.metrics with processingItems := queue.metrics.processingItems - 1 } }
  have moved := heapPush_rearranged stored ref
  have permuted := heapPush_perm stored ref
  unfold requeue
  dsimp only
  rw [found]
  exact
    { items := permuted
      keys := fun other => (moved.key other).trans
        (setItem_key queue.memory ref other retried sameKey)
      itemsMap := by
        dsimp only
        rw [moved.itemsMap, sameKey]
        rfl
      allocated := moved.allocated }

end WorkQueue

end KubeTemplater.Queue
