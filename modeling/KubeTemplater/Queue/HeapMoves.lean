/-
The heap operations of the work queue move references and rewrite back indices.
They create no item, lose no item and change nothing else of any item.
-/

import KubeTemplater.Queue.WorkQueue

namespace KubeTemplater.Queue

open Library

/-- Only the heap slice and the back indices differ. -/
structure Rearranged (before after : WorkQueue) : Prop where
  memory : ∀ ref, ∃ index, after.memory ref = (before.memory ref).withIndex index
  frame : after = { before with items := after.items, memory := after.memory }

theorem Rearranged.refl (queue : WorkQueue) : Rearranged queue queue :=
  { memory := fun ref => ⟨(queue.memory ref).index, rfl⟩
    frame := rfl }

theorem Rearranged.trans {first second third : WorkQueue}
    (one : Rearranged first second) (two : Rearranged second third) :
    Rearranged first third := by
  constructor
  · intro ref
    obtain ⟨_index, middle⟩ := one.memory ref
    obtain ⟨index, last⟩ := two.memory ref
    refine ⟨index, ?_⟩
    rw [last, middle]
    rfl
  · rw [two.frame, one.frame]

theorem setIndex_apply (memory : ItemRef → WorkItem) (ref other : ItemRef) (index : Int) :
    ∃ index', setIndex memory ref index other = (memory other).withIndex index' := by
  unfold setIndex setItem
  by_cases same : other = ref
  · subst other
    exact ⟨index, by rw [if_pos rfl]⟩
  · exact ⟨(memory other).index, by rw [if_neg same]; rfl⟩

namespace WorkQueue

theorem swap_rearranged (queue : WorkQueue) (i j : Nat) : Rearranged queue (queue.swap i j) := by
  unfold swap
  split
  · split
    · constructor
      · intro ref
        obtain ⟨_first, inner⟩ := setIndex_apply queue.memory queue.items[j] ref i
        obtain ⟨second, outer⟩ := setIndex_apply
          (setIndex queue.memory queue.items[j] i) queue.items[i] ref j
        exact ⟨second, outer.trans (by rw [inner]; rfl)⟩
      · rfl
    · exact .refl queue
  · exact .refl queue

theorem swap_perm (queue : WorkQueue) (i j : Nat) :
    (queue.swap i j).items.toList.Perm queue.items.toList := by
  unfold swap
  split
  · split
    · exact Array.perm_iff_toList_perm.mp (Array.swap_perm _ _)
    · exact .refl _
  · exact .refl _

def Reorders (before after : WorkQueue) : Prop :=
  Rearranged before after ∧ after.items.toList.Perm before.items.toList

theorem Reorders.refl (queue : WorkQueue) : Reorders queue queue :=
  ⟨.refl queue, .refl _⟩

theorem Reorders.trans (first second third : WorkQueue)
    (one : Reorders first second) (two : Reorders second third) : Reorders first third :=
  ⟨one.1.trans two.1, two.2.trans one.2⟩

theorem swap_reorders (queue : WorkQueue) (i j : Nat) : Reorders queue (queue.swap i j) :=
  ⟨swap_rearranged queue i j, swap_perm queue i j⟩

theorem heapFix_reorders (queue : WorkQueue) (i : Int) : Reorders queue (queue.heapFix i) :=
  HeapInterface.fix_related Reorders.refl Reorders.trans swap_reorders queue i

private theorem siftLast_reorders (queue : WorkQueue) :
    Reorders queue (priorityQueue.siftLast queue) :=
  HeapInterface.siftLast_related Reorders.refl Reorders.trans swap_reorders queue

theorem rootToLast_reorders (queue : WorkQueue) :
    Reorders queue (priorityQueue.rootToLast queue) :=
  HeapInterface.rootToLast_related Reorders.refl Reorders.trans swap_reorders queue

theorem push_rearranged (queue : WorkQueue) (ref : ItemRef) :
    Rearranged queue (queue.push ref) :=
  { memory := fun other => setIndex_apply queue.memory ref other queue.items.size
    frame := rfl }

theorem heapPush_rearranged (queue : WorkQueue) (ref : ItemRef) :
    Rearranged queue (queue.heapPush ref) :=
  (push_rearranged queue ref).trans (siftLast_reorders (queue.push ref)).1

theorem heapPush_perm (queue : WorkQueue) (ref : ItemRef) :
    (queue.heapPush ref).items.toList.Perm (ref :: queue.items.toList) := by
  have sifted := (siftLast_reorders (queue.push ref)).2
  have appended : (queue.push ref).items.toList = queue.items.toList ++ [ref] := by
    simp only [push, Array.toList_push]
  rw [appended] at sifted
  exact sifted.trans (List.perm_append_singleton ref queue.items.toList)

def KeepsFrom (n : Nat) (before after : WorkQueue) : Prop :=
  after.items.size = before.items.size ∧ ∀ k, n ≤ k → after.items[k]? = before.items[k]?

theorem swap_size (queue : WorkQueue) (i j : Nat) :
    (queue.swap i j).items.size = queue.items.size := by
  unfold swap
  split
  · split
    · exact Array.size_swap
    · rfl
  · rfl

private theorem swap_keepsFrom (n : Nat) (queue : WorkQueue) (i j : Nat) (left : i < n)
    (right : j < n) :
    KeepsFrom n queue (queue.swap i j) := by
  refine ⟨swap_size queue i j, ?_⟩
  intro k above
  unfold swap
  split
  · split
    · rename_i leftBound rightBound
      dsimp only
      rw [Array.getElem?_swap, if_neg (by omega), if_neg (by omega)]
    · rfl
  · rfl

/-- After the sift the old root stands last. -/
theorem rootToLast_last (queue : WorkQueue) (ref : ItemRef) (root : queue.items[0]? = some ref) :
    (priorityQueue.rootToLast queue).items.back? = some ref := by
  have nonempty : 0 < queue.items.size := by
    rcases Nat.eq_zero_or_pos queue.items.size with empty | positive
    · rw [Array.getElem?_eq_none (by omega)] at root
      cases root
    · exact positive
  have kept : KeepsFrom (queue.items.size - 1) (queue.swap 0 (queue.items.size - 1))
      (priorityQueue.rootToLast queue) :=
    HeapInterface.downLoop_related (fun _ => ⟨rfl, fun _ _ => rfl⟩)
      (fun _ _ _ one two => ⟨two.1.trans one.1, fun k above =>
        (two.2 k above).trans (one.2 k above)⟩)
      _ _ _ _ (swap_keepsFrom (queue.items.size - 1))
  have moved : (queue.swap 0 (queue.items.size - 1)).items[queue.items.size - 1]? = some ref := by
    unfold swap
    rw [dif_pos nonempty, dif_pos (by omega)]
    dsimp only
    rw [Array.getElem?_swap, if_pos rfl]
    rw [Array.getElem?_eq_getElem nonempty] at root
    exact root
  rw [Array.back?_eq_getElem?, kept.1, swap_size, kept.2 _ (Nat.le_refl _)]
  exact moved

private theorem pop_perm (queue : WorkQueue) (ref : ItemRef) (last : queue.items.back? = some ref) :
    (ref :: queue.pop.items.toList).Perm queue.items.toList := by
  have whole : queue.items.toList = queue.items.pop.toList ++ [ref] := by
    have pushed : queue.items = queue.items.pop.push ref := by
      obtain ⟨rest, split⟩ := Array.back?_eq_some_iff.mp last
      rw [split, Array.pop_push]
    rw [← Array.toList_push, ← pushed]
  unfold pop
  rw [last]
  dsimp only
  rw [whole]
  exact (List.perm_append_singleton ref queue.items.pop.toList).symm

theorem heapPop_perm (queue : WorkQueue) (ref : ItemRef) (root : queue.items[0]? = some ref) :
    (ref :: queue.heapPop.items.toList).Perm queue.items.toList :=
  (pop_perm _ ref (rootToLast_last queue ref root)).trans (rootToLast_reorders queue).2

theorem pop_rearranged (queue : WorkQueue) : Rearranged queue queue.pop := by
  unfold pop
  split
  · exact .refl _
  · exact { memory := fun other => setIndex_apply _ _ other _, frame := rfl }

theorem heapPop_rearranged (queue : WorkQueue) : Rearranged queue queue.heapPop :=
  (rootToLast_reorders queue).1.trans (pop_rearranged _)

end WorkQueue

end KubeTemplater.Queue
