/-
The heap of the work queue: its order, the back indices of the items and the
deduplication map.

The three are kept apart by the code.  `Less` orders the slice, `Swap`, `Push`
and `Pop` write the back index of every item they move, and the map is changed
by the methods of the queue.  In every run the slice is a heap, every back index
is the position of its item, and every map entry points into the slice.
-/

import KubeTemplater.Queue.Session
import KubeTemplater.Library.HeapOrder

namespace KubeTemplater.Queue

open Library

theorem itemLess_eq_false_iff (left right : WorkItem) :
    itemLess left right = false ↔
      left.priority < right.priority ∨
        left.priority = right.priority ∧ right.scheduledAt ≤ left.scheduledAt := by
  unfold itemLess
  split
  · rename_i different
    rw [decide_eq_false_iff_not, Int.not_lt]
    constructor
    · intro lower
      exact .inl (Int.lt_iff_le_and_ne.mpr ⟨lower, different⟩)
    · rintro (lower | ⟨same, _later⟩)
      · exact Int.le_of_lt lower
      · exact absurd same different
  · rename_i same
    rw [decide_eq_false_iff_not, Int.not_lt]
    constructor
    · intro later
      exact .inr ⟨not_not.mp same, later⟩
    · rintro (lower | ⟨_same, later⟩)
      · exact absurd (Int.ne_of_lt lower) same
      · exact later

private theorem itemLess_asymm (left right : WorkItem) (before : itemLess left right = true) :
    itemLess right left = false := by
  unfold itemLess at before ⊢
  split at before
  · rename_i different
    rw [if_pos (Ne.symm different)]
    exact decide_eq_false (Int.not_lt.mpr (Int.le_of_lt (of_decide_eq_true before)))
  · rename_i same
    rw [if_neg (not_not.mpr (not_not.mp same).symm)]
    exact decide_eq_false (Int.not_lt.mpr (Int.le_of_lt (of_decide_eq_true before)))

private theorem itemLess_trans (first second third : WorkItem)
    (one : itemLess second first = false) (two : itemLess third second = false) :
    itemLess third first = false := by
  rw [itemLess_eq_false_iff] at one two ⊢
  rcases two with lower | ⟨same, later⟩
  · rcases one with below | ⟨equal, _⟩
    · exact .inl (Int.lt_trans lower below)
    · exact .inl (equal ▸ lower)
  · rcases one with below | ⟨equal, earlier⟩
    · exact .inl (same ▸ below)
    · exact .inr ⟨same.trans equal, Int.le_trans earlier later⟩

def SameRank (left right : WorkItem) : Prop :=
  left.priority = right.priority ∧ left.scheduledAt = right.scheduledAt

private theorem itemLess_sameRank {left right left' right' : WorkItem} (one : SameRank left left')
    (two : SameRank right right') : itemLess left right = itemLess left' right' := by
  unfold itemLess
  rw [one.1, one.2, two.1, two.2]

theorem Rearranged.sameRank {before after : WorkQueue} (moved : Rearranged before after)
    (ref : ItemRef) : SameRank (after.memory ref) (before.memory ref) := by
  obtain ⟨_index, same⟩ := moved.memory ref
  rw [same]
  exact ⟨rfl, rfl⟩

namespace WorkQueue

variable {queue : WorkQueue}

theorem dequeue_sameRank {after : WorkQueue} {now : Time} {taken : ItemRef}
    (hands : queue.dequeue now = .take taken after) (ref : ItemRef) :
    SameRank (after.memory ref) (queue.memory ref) := by
  obtain ⟨_root, _due, rfl⟩ := dequeue_withoutRoot hands
  exact (heapPop_rearranged queue).sameRank ref

theorem less_congr {before after : WorkQueue} {i j i' j' : Nat}
    (left : after.items[i]? = before.items[i']?)
    (right : after.items[j]? = before.items[j']?)
    (leftRank : ∀ ref, before.items[i']? = some ref →
      SameRank (after.memory ref) (before.memory ref))
    (rightRank : ∀ ref, before.items[j']? = some ref →
      SameRank (after.memory ref) (before.memory ref)) :
    after.less i j = before.less i' j' := by
  unfold less
  rw [left, right]
  cases first : before.items[i']? with
  | none => rfl
  | some ref =>
      cases second : before.items[j']? with
      | none => rfl
      | some ref' => exact itemLess_sameRank (leftRank ref first) (rightRank ref' second)

theorem swap_getElem? (queue : WorkQueue) (i j k : Nat) (left : i < queue.items.size)
    (right : j < queue.items.size) :
    (queue.swap i j).items[k]? = queue.items[Equiv.swap i j k]? := by
  unfold swap
  rw [dif_pos left, dif_pos right]
  dsimp only
  rw [Array.getElem?_swap]
  by_cases last : j = k
  · subst k
    rw [if_pos rfl, Equiv.swap_apply_right, Array.getElem?_eq_getElem left]
  · rw [if_neg last]
    by_cases first : i = k
    · subst k
      rw [if_pos rfl, Equiv.swap_apply_left, Array.getElem?_eq_getElem right]
    · rw [if_neg first, Equiv.swap_apply_of_ne_of_ne (Ne.symm first) (Ne.symm last)]

theorem priorityQueue_lawful : priorityQueue.Lawful where
  asymm := by
    intro queue i j before
    simp only [priorityQueue, less] at before ⊢
    split at before
    · rename_i left right isLeft isRight
      rw [isLeft, isRight]
      exact itemLess_asymm _ _ before
    · cases before
  trans := by
    intro queue i j k inside one two
    simp only [priorityQueue, less] at one two ⊢
    rw [Array.getElem?_eq_getElem inside] at one two
    cases first : queue.items[i]? with
    | none => cases queue.items[k]? <;> rfl
    | some ref =>
        cases third : queue.items[k]? with
        | none => rfl
        | some ref' =>
            rw [first] at one
            rw [third] at two
            exact itemLess_trans _ _ _ one two
  len_swap := swap_size
  less_swap := by
    intro queue i j a b left right
    have ranks := (swap_rearranged queue i j).sameRank
    exact less_congr (swap_getElem? queue i j a left right)
      (swap_getElem? queue i j b left right) (fun ref _ => ranks ref) (fun ref _ => ranks ref)

structure Arranged (queue : WorkQueue) : Prop where
  once : queue.items.toList.Nodup
  ordered : priorityQueue.IsHeap queue queue.items.size
  indexed : ∀ (i : Nat) ref, queue.items[i]? = some ref → (queue.memory ref).index = i

def Indexed (queue : WorkQueue) : Prop :=
  queue.items.toList.Nodup ∧
    ∀ (i : Nat) ref, queue.items[i]? = some ref → (queue.memory ref).index = i

theorem position_unique (once : queue.items.toList.Nodup) {i j : Nat} {ref : ItemRef}
    (first : queue.items[i]? = some ref) (second : queue.items[j]? = some ref) :
    i = j := by
  rw [← Array.getElem?_toList] at first second
  have inside : i < queue.items.toList.length := (List.getElem?_eq_some_iff.mp first).1
  exact (List.getElem?_inj inside once).mp (first.trans second.symm)

theorem setIndex_self (memory : ItemRef → WorkItem) (ref : ItemRef) (index : Int) :
    (setIndex memory ref index ref).index = index := by
  unfold setIndex
  rw [setItem_self]
  rfl

theorem setIndex_other (memory : ItemRef → WorkItem) (ref other : ItemRef) (index : Int)
    (different : other ≠ ref) : setIndex memory ref index other = memory other :=
  setItem_other memory ref other _ different

theorem swap_indexed (queue : WorkQueue) (i j : Nat) (indexed : queue.Indexed) :
    (queue.swap i j).Indexed := by
  refine ⟨(swap_perm queue i j).nodup_iff.mpr indexed.1, ?_⟩
  intro k ref found
  by_cases left : i < queue.items.size
  · by_cases right : j < queue.items.size
    · rw [swap_getElem? queue i j k left right] at found
      have atFirst := Array.getElem?_eq_getElem left
      have atSecond := Array.getElem?_eq_getElem right
      unfold swap
      rw [dif_pos left, dif_pos right]
      dsimp only
      by_cases last : k = j
      · subst k
        rw [Equiv.swap_apply_right, atFirst] at found
        cases found
        exact setIndex_self _ _ _
      · have notFirst : ref ≠ queue.items[i] := by
          intro same
          subst ref
          have moved : Equiv.swap i j k = Equiv.swap i j j :=
            (position_unique indexed.1 found atFirst).trans (Equiv.swap_apply_right i j).symm
          exact last ((Equiv.swap i j).injective moved)
        rw [setIndex_other _ _ _ _ notFirst]
        by_cases first : k = i
        · subst k
          rw [Equiv.swap_apply_left, atSecond] at found
          cases found
          exact setIndex_self _ _ _
        · rw [Equiv.swap_apply_of_ne_of_ne first last] at found
          have notSecond : ref ≠ queue.items[j] := by
            intro same
            subst ref
            exact last (position_unique indexed.1 found atSecond)
          rw [setIndex_other _ _ _ _ notSecond]
          exact indexed.2 k ref found
    · unfold swap at found ⊢
      rw [dif_pos left, dif_neg right] at found ⊢
      exact indexed.2 k ref found
  · unfold swap at found ⊢
    rw [dif_neg left] at found ⊢
    exact indexed.2 k ref found

def KeepsIndexed (before after : WorkQueue) : Prop := before.Indexed → after.Indexed

private theorem siftLast_indexed (queue : WorkQueue) :
    KeepsIndexed queue (priorityQueue.siftLast queue) :=
  HeapInterface.siftLast_related (fun _ indexed => indexed)
    (fun _ _ _ one two indexed => two (one indexed)) swap_indexed queue

private theorem rootToLast_indexed (queue : WorkQueue) :
    KeepsIndexed queue (priorityQueue.rootToLast queue) :=
  HeapInterface.rootToLast_related (fun _ indexed => indexed)
    (fun _ _ _ one two indexed => two (one indexed)) swap_indexed queue

private theorem heapFix_indexed (queue : WorkQueue) (i : Int) : KeepsIndexed queue
    (queue.heapFix i) :=
  HeapInterface.fix_related (fun _ indexed => indexed)
    (fun _ _ _ one two indexed => two (one indexed)) swap_indexed queue i

private theorem push_indexed (queue : WorkQueue) (ref : ItemRef) (indexed : queue.Indexed)
    (fresh : ref ∉ queue.items.toList) : (queue.push ref).Indexed := by
  constructor
  · simp only [push, Array.toList_push]
    exact (List.perm_append_singleton ref _).nodup_iff.mpr
      (List.nodup_cons.mpr ⟨fresh, indexed.1⟩)
  · intro i other found
    simp only [push] at found ⊢
    rw [Array.getElem?_push] at found
    split at found
    · rename_i last
      cases found
      rw [last]
      exact setIndex_self _ _ _
    · have different : other ≠ ref := by
        intro same
        subst other
        exact fresh (Array.mem_toList_iff.mpr (Array.mem_of_getElem? found))
      rw [setIndex_other _ _ _ _ different]
      exact indexed.2 i other found

private theorem pop_indexed (queue : WorkQueue) (indexed : queue.Indexed) : queue.pop.Indexed := by
  unfold pop
  split
  · exact indexed
  · rename_i ref last
    constructor
    · rw [Array.toList_pop]
      exact indexed.1.sublist (List.dropLast_sublist _)
    · intro i other found
      rw [Array.getElem?_pop] at found
      split at found
      · rename_i inside
        have different : other ≠ ref := by
          intro same
          subst other
          rw [Array.back?_eq_getElem?] at last
          have := position_unique indexed.1 found last
          omega
        exact (congrArg WorkItem.index (setIndex_other _ _ _ _ different)).trans
          (indexed.2 i other found)
      · cases found

theorem Arranged.toIndexed (arranged : queue.Arranged) : queue.Indexed :=
  ⟨arranged.once, arranged.indexed⟩

theorem Arranged.congr {before after : WorkQueue} (arranged : before.Arranged)
    (items : after.items = before.items)
    (same : ∀ ref, ref ∈ before.items.toList → after.memory ref = before.memory ref) :
    after.Arranged := by
  have queued {i : Nat} {ref : ItemRef} (found : before.items[i]? = some ref) :
      after.memory ref = before.memory ref :=
    same ref (Array.mem_toList_iff.mpr (Array.mem_of_getElem? found))
  have ranks {i : Nat} (ref : ItemRef) (found : before.items[i]? = some ref) :
      SameRank (after.memory ref) (before.memory ref) := by
    rw [queued found]
    exact ⟨rfl, rfl⟩
  constructor
  · rw [items]
    exact arranged.once
  · intro k positive inside
    rw [items] at inside
    exact (less_congr (by rw [items]) (by rw [items]) ranks ranks).trans
      (arranged.ordered k positive inside)
  · intro i ref found
    rw [items] at found
    rw [queued found]
    exact arranged.indexed i ref found

private theorem heapPush_arranged (queue : WorkQueue) (ref : ItemRef) (arranged : queue.Arranged)
    (fresh : ref ∉ queue.items.toList) : (queue.heapPush ref).Arranged := by
  have pushed := push_indexed queue ref arranged.toIndexed fresh
  have sifted : (queue.heapPush ref).Indexed := siftLast_indexed (queue.push ref) pushed
  have size : (queue.heapPush ref).items.size = queue.items.size + 1 := by
    have length := (heapPush_perm queue ref).length_eq
    rwa [List.length_cons, Array.length_toList, Array.length_toList] at length
  refine ⟨sifted.1, ?_, sifted.2⟩
  rw [size]
  refine HeapInterface.siftLast_isHeap priorityQueue_lawful (queue.push ref) queue.items.size
    (Array.size_push _) ?_
  intro k positive inside
  -- the pushed item stands after every position compared here
  have before {i : Nat} (below : i < queue.items.size) :
      (queue.push ref).items[i]? = queue.items[i]? := by
    simp only [push]
    rw [Array.getElem?_push, if_neg (by omega)]
  have ranks := (push_rearranged queue ref).sameRank
  have up := HeapInterface.parent_lt positive
  exact (less_congr (before inside) (before (by omega)) (fun other _ => ranks other)
    (fun other _ => ranks other)).trans (arranged.ordered k positive inside)

private theorem heapPop_arranged (queue : WorkQueue) (ref : ItemRef) (arranged : queue.Arranged)
    (root : queue.items[0]? = some ref) : queue.heapPop.Arranged := by
  have indexed : queue.heapPop.Indexed :=
    pop_indexed _ (rootToLast_indexed queue arranged.toIndexed)
  have nonempty : 0 < queue.items.size := (Array.getElem?_eq_some_iff.mp root).1
  have kept := HeapInterface.rootToLast_isHeap priorityQueue_lawful queue nonempty
    arranged.ordered
  have last := rootToLast_last queue ref root
  have sameSize : (priorityQueue.rootToLast queue).items.size = queue.items.size := by
    have length := (rootToLast_reorders queue).2.length_eq
    rwa [Array.length_toList, Array.length_toList] at length
  have items : queue.heapPop.items = (priorityQueue.rootToLast queue).items.pop := by
    unfold heapPop pop
    rw [last]
  refine ⟨indexed.1, ?_, indexed.2⟩
  intro k positive inside
  rw [items, Array.size_pop, sameSize] at inside
  have before {i : Nat} (below : i < queue.items.size - 1) :
      queue.heapPop.items[i]? = (priorityQueue.rootToLast queue).items[i]? := by
    rw [items, Array.getElem?_pop, if_pos (by omega)]
  have ranks := (pop_rearranged (priorityQueue.rootToLast queue)).sameRank
  have up := HeapInterface.parent_lt positive
  exact (less_congr (before inside) (before (by omega)) (fun other _ => ranks other)
    (fun other _ => ranks other)).trans (kept k positive inside)

private theorem heapFix_arranged (queue : WorkQueue) (existing : ItemRef) (item : WorkItem)
    (i : Nat)
    (arranged : queue.Arranged) (found : queue.items[i]? = some existing)
    (sameIndex : item.index = i) :
    (heapFix { queue with memory := setItem queue.memory existing item } i).Arranged := by
  let changed : WorkQueue := { queue with memory := setItem queue.memory existing item }
  have inside : i < queue.items.size := (Array.getElem?_eq_some_iff.mp found).1
  -- every position but `i` holds an item that has not changed
  have ranks {k : Nat} (different : k ≠ i) (ref : ItemRef) (isRef : queue.items[k]? = some ref) :
      SameRank (changed.memory ref) (queue.memory ref) := by
    have other : ref ≠ existing := by
      intro same
      subst ref
      exact different (position_unique arranged.once isRef found)
    have unchanged : changed.memory ref = queue.memory ref :=
      setItem_other queue.memory existing ref item other
    rw [unchanged]
    exact ⟨rfl, rfl⟩
  have less {a b : Nat} (first : a ≠ i) (second : b ≠ i) :
      priorityQueue.less changed a b = priorityQueue.less queue a b :=
    less_congr rfl rfl (ranks first) (ranks second)
  have ordered : priorityQueue.OrderedBut changed (priorityQueue.len changed) i := by
    constructor
    · intro k positive below here child
      rw [less here child]
      exact arranged.ordered k positive below
    · intro positive k kPositive below child
      have up := HeapInterface.parent_lt positive
      have down := HeapInterface.parent_lt kPositive
      rw [less (by omega) (by omega)]
      have upper := arranged.ordered i positive inside
      have lower := arranged.ordered k kPositive below
      rw [child] at lower
      exact priorityQueue_lawful.trans queue _ i k inside upper lower
  have indexed : changed.Indexed := by
    refine ⟨arranged.once, ?_⟩
    intro k ref isRef
    by_cases same : ref = existing
    · subst ref
      have position : k = i := position_unique arranged.once isRef found
      have stored : changed.memory existing = item := setItem_self queue.memory existing item
      rw [stored, sameIndex, position]
    · have unchanged : changed.memory ref = queue.memory ref :=
        setItem_other queue.memory existing ref item same
      rw [unchanged]
      exact arranged.indexed k ref isRef
  have fixed := heapFix_indexed changed i indexed
  have size : (changed.heapFix i).items.size = changed.items.size := by
    have length := (heapFix_reorders changed i).2.length_eq
    rwa [Array.length_toList, Array.length_toList] at length
  refine ⟨fixed.1, ?_, fixed.2⟩
  change priorityQueue.IsHeap (changed.heapFix i) (changed.heapFix i).items.size
  rw [size]
  exact HeapInterface.fix_isHeap priorityQueue_lawful changed i inside ordered

theorem Arranged.position (arranged : queue.Arranged) {ref : ItemRef}
    (queued : ref ∈ queue.items.toList) :
    ∃ i : Nat, i < queue.items.size ∧ (queue.memory ref).index = i ∧
      queue.items[i]? = some ref := by
  obtain ⟨i, inside, found⟩ := Array.mem_iff_getElem.mp (Array.mem_toList_iff.mp queued)
  have isAt : queue.items[i]? = some ref := by rw [Array.getElem?_eq_getElem inside, found]
  exact ⟨i, inside, arranged.indexed i ref isAt, isAt⟩

private theorem enqueue_arranged (queue : WorkQueue) (key : NamespacedName) (priority : Int)
    (now : Time)
    (arranged : queue.Arranged)
    (mapped : ∀ ref, queue.itemsMap key = some ref → ref ∈ queue.items.toList)
    (fresh : queue.allocated ∉ queue.items.toList) :
    (queue.enqueue key priority now).Arranged := by
  unfold enqueue
  cases known : queue.itemsMap key with
  | some existing =>
      obtain ⟨i, _inside, index, found⟩ := arranged.position (mapped existing known)
      dsimp only
      split
      · have fixed := heapFix_arranged queue existing
          { queue.memory existing with priority := priority } i arranged found index
        rw [← index] at fixed
        exact fixed
      · exact arranged
  | none =>
      have stored : Arranged { queue with
          memory := setItem queue.memory queue.allocated
            { namespacedName := key, priority := priority, retryCount := 0, retryCycle := 0
              enqueuedAt := now, scheduledAt := now, index := 0 }
          allocated := queue.allocated + 1 } := by
        refine arranged.congr rfl ?_
        intro ref queued
        refine setItem_other _ _ _ _ ?_
        intro same
        exact fresh (same ▸ queued)
      exact (heapPush_arranged _ queue.allocated stored fresh).congr rfl (fun _ _ => rfl)

private theorem dequeue_arranged (queue after : WorkQueue) (now : Time) (ref : ItemRef)
    (arranged : queue.Arranged) (taken : queue.dequeue now = .take ref after) :
    after.Arranged := by
  obtain ⟨root, _due, rfl⟩ := dequeue_withoutRoot taken
  exact (heapPop_arranged queue ref arranged root).congr rfl (fun _ _ => rfl)

private theorem requeue_arranged (queue : WorkQueue) (ref : ItemRef) (now : Time)
    (arranged : queue.Arranged) (away : ref ∉ queue.items.toList) :
    (queue.requeue ref now).Arranged := by
  have elsewhere (item : WorkItem) (other : ItemRef) (queued : other ∈ queue.items.toList) :
      setItem queue.memory ref item other = queue.memory other :=
    setItem_other _ _ _ _ (fun same => away (same ▸ queued))
  unfold requeue
  dsimp only
  split
  · exact arranged.congr rfl (elsewhere _)
  · rename_i retried _again
    have stored : Arranged { queue with
        memory := setItem queue.memory ref retried
        metrics := { queue.metrics with processingItems := queue.metrics.processingItems - 1 } } :=
      arranged.congr rfl (elsewhere retried)
    exact (heapPush_arranged _ ref stored away).congr rfl (fun _ _ => rfl)

theorem Arranged.root_first {ref : ItemRef} (arranged : queue.Arranged)
    (root : queue.items[0]? = some ref) :
    ∀ other, other ∈ queue.items.toList →
      itemLess (queue.memory other) (queue.memory ref) = false := by
  intro other queued
  obtain ⟨i, inside, _index, found⟩ := arranged.position queued
  have least := arranged.ordered.root priorityQueue_lawful (Nat.le_refl _) i inside
  simp only [priorityQueue, less, found, root] at least
  exact least

theorem dequeue_minimal (queue after : WorkQueue) (now : Time) (ref : ItemRef)
    (arranged : queue.Arranged) (taken : queue.dequeue now = .take ref after) :
    (queue.memory ref).scheduledAt ≤ now ∧
      ∀ other, other ∈ queue.items.toList →
        itemLess (queue.memory other) (queue.memory ref) = false := by
  have spec := dequeue_take queue after now ref taken
  exact ⟨spec.due, arranged.root_first spec.root⟩

end WorkQueue

namespace Session

/-- One call on the queue, by any number of callers: a caller that has several
items in hand counts as several.  Only `Requeue` asks for an item in hand;
`Done` by a caller without one moves the gauge. -/
def call (session : Session) : Operation → Option Session
  | .done worker =>
      some { queue := session.queue.done, held := setHeld session.held worker none }
  | operation => session.step operation

structure HeapSound (session : Session) : Prop where
  /-- The slice is a binary heap under `Less`. -/
  ordered : WorkQueue.priorityQueue.IsHeap session.queue session.queue.items.size
  indexed : ∀ (i : Nat) ref, session.queue.items[i]? = some ref →
    (session.queue.memory ref).index = i
  mapped : ∀ key ref, session.queue.itemsMap key = some ref →
    ref ∈ session.queue.items.toList ∧ (session.queue.memory ref).namespacedName = key
  /-- The index `Enqueue` passes to `heap.Fix` is the position of the item. -/
  fixes : ∀ key ref, session.queue.itemsMap key = some ref →
    ∃ i : Nat, i < session.queue.items.size ∧ (session.queue.memory ref).index = i ∧
      session.queue.items[i]? = some ref
  hands : ∀ now ref after, session.queue.dequeue now = .take ref after →
    (session.queue.memory ref).scheduledAt ≤ now ∧
      ∀ other, other ∈ session.queue.items.toList →
        itemLess (session.queue.memory other) (session.queue.memory ref) = false ∧
        ((session.queue.memory other).priority < (session.queue.memory ref).priority ∨
          (session.queue.memory other).priority = (session.queue.memory ref).priority ∧
            (session.queue.memory ref).scheduledAt ≤ (session.queue.memory other).scheduledAt)

private theorem heapSound_of_arranged {session : Session} (valid : session.Valid)
    (arranged : session.queue.Arranged) : session.HeapSound where
  ordered := arranged.ordered
  indexed := arranged.indexed
  mapped := valid.mapped
  fixes := fun key ref known => arranged.position (valid.mapped key ref known).1
  hands := by
    intro now ref after taken
    obtain ⟨due, least⟩ := WorkQueue.dequeue_minimal session.queue after now ref arranged taken
    refine ⟨due, ?_⟩
    intro other queued
    exact ⟨least other queued, (itemLess_eq_false_iff _ _).mp (least other queued)⟩

theorem start_arranged (maxRetries initialDelay maxDelay maxCycles : Int) :
    (start maxRetries initialDelay maxDelay maxCycles).queue.Arranged where
  once := List.nodup_nil
  ordered := by intro k positive inside; cases inside
  indexed := by intro i ref found; cases found

theorem step_arranged (session : Session) (operation : Operation) (next : Session)
    (valid : session.Valid) (arranged : session.queue.Arranged)
    (taken : session.step operation = some next) : next.queue.Arranged := by
  cases operation with
  | enqueue key priority now =>
      cases taken
      refine WorkQueue.enqueue_arranged session.queue key priority now arranged ?_ ?_
      · intro ref known
        exact (valid.mapped key ref known).1
      · intro queued
        exact Nat.lt_irrefl _ (valid.queuedBelow _ queued)
  | dequeue worker now =>
      obtain ⟨ref, rest, _free, hands, rfl⟩ := step_hands taken
      exact WorkQueue.dequeue_arranged session.queue rest now ref arranged hands
  | requeue worker now =>
      obtain ⟨ref, holds, rfl⟩ := step_requeue taken
      exact WorkQueue.requeue_arranged session.queue ref now arranged
        (valid.heldAway worker ref holds)
  | done worker =>
      rw [step_done taken]
      exact arranged.congr rfl (fun _ _ => rfl)

theorem call_valid_arranged (session : Session) (operation : Operation) (next : Session)
    (sound : session.Valid ∧ session.queue.Arranged)
    (taken : session.call operation = some next) : next.Valid ∧ next.queue.Arranged := by
  have stepped (operation : Operation) (taken : session.step operation = some next) :
      next.Valid ∧ next.queue.Arranged :=
    ⟨step_valid _ _ _ sound.1 taken, step_arranged _ _ _ sound.1 sound.2 taken⟩
  cases operation with
  | done worker =>
      cases taken
      exact ⟨(sound.1.released worker).rearranged rfl (.refl _) (fun _ => rfl) rfl rfl,
        sound.2.congr rfl (fun _ _ => rfl)⟩
  | enqueue key priority now => exact stepped (.enqueue key priority now) taken
  | dequeue worker now => exact stepped (.dequeue worker now) taken
  | requeue worker now => exact stepped (.requeue worker now) taken

/-- In every state of every run the slice is a heap with correct back indices, the
map points into it, and `Dequeue` hands out a due item that no other precedes. -/
theorem heapSound_throughout (maxRetries initialDelay maxDelay maxCycles : Int)
    (operations : List Operation) :
    Throughout call HeapSound (start maxRetries initialDelay maxDelay maxCycles) operations :=
  (throughout_of_preserved call (fun session => session.Valid ∧ session.queue.Arranged)
    call_valid_arranged _ operations
    ⟨start_valid _ _ _ _, start_arranged _ _ _ _⟩).mono
    (fun _ sound => heapSound_of_arranged sound.1 sound.2)

end Session

end KubeTemplater.Queue
