/-
What an operation on one item leaves alone, and the items that nobody has tried yet.

An operation is about one key.  The items of every other key stay in the heap, with
their times and their retry counters.  Only `Requeue` sets a time ahead, and it counts
as it does so: an item whose counters are both zero was due when it was made.
-/

import KubeTemplater.Queue.Attempts
import KubeTemplater.Queue.HeapInvariant

namespace KubeTemplater.Queue

namespace WorkQueue

def Fresh (queue : WorkQueue) (ref : ItemRef) (now : Time) : Prop :=
  (queue.memory ref).scheduledAt ≤ now ∧ queue.attempts ref = (0, 0)

private theorem enqueue_scheduledAt (queue : WorkQueue) (key : NamespacedName) (priority : Int)
    (now : Time) (ref : ItemRef) (old : ref ≠ queue.allocated) :
    ((queue.enqueue key priority now).memory ref).scheduledAt =
      (queue.memory ref).scheduledAt := by
  unfold enqueue
  split
  · rename_i existing known
    dsimp only
    split
    · refine ((heapFix_reorders _ _).1.sameRank ref).2.trans ?_
      dsimp only
      by_cases same : ref = existing
      · rw [same, setItem_self]
      · rw [setItem_other _ _ _ _ same]
    · rfl
  · refine ((heapPush_rearranged _ _).sameRank ref).2.trans ?_
    dsimp only
    rw [setItem_other _ _ _ _ old]

private theorem enqueue_new_scheduledAt (queue : WorkQueue) (key : NamespacedName) (priority : Int)
    (now : Time) (unknown : queue.itemsMap key = none) :
    ((queue.enqueue key priority now).memory queue.allocated).scheduledAt = now := by
  unfold enqueue
  rw [unknown]
  refine ((heapPush_rearranged _ _).sameRank _).2.trans ?_
  dsimp only
  rw [setItem_self]

private theorem requeue_scheduledAt_other (queue : WorkQueue) (ref other : ItemRef) (now : Time)
    (different : other ≠ ref) :
    ((queue.requeue ref now).memory other).scheduledAt = (queue.memory other).scheduledAt := by
  unfold requeue
  dsimp only
  split
  · dsimp only
    rw [setItem_other _ _ _ _ different]
  · refine ((heapPush_rearranged _ _).sameRank other).2.trans ?_
    dsimp only
    rw [setItem_other _ _ _ _ different]

/-- `Requeue` counts, whether it puts the item back or gives it up. -/
theorem requeue_counts (queue : WorkQueue) (ref : ItemRef) (now : Time)
    (counted : 0 ≤ (queue.attempts ref).1 ∧ 0 ≤ (queue.attempts ref).2) :
    (0 ≤ ((queue.requeue ref now).attempts ref).1 ∧
        0 ≤ ((queue.requeue ref now).attempts ref).2) ∧
      (queue.requeue ref now).attempts ref ≠ (0, 0) := by
  obtain ⟨count, cycle⟩ : 0 ≤ (queue.memory ref).retryCount ∧
    0 ≤ (queue.memory ref).retryCycle := counted
  have retry := retryItem_retry queue (queue.memory ref) now
  cases found : queue.retryItem (queue.memory ref) now with
  | none =>
      rw [requeue_givenUp_attempts queue ref now found]
      simp only [attempts, ne_eq, Prod.mk.injEq]
      omega
  | some retried =>
      obtain ⟨index, stored⟩ := requeue_retried queue ref now retried found
      rw [found] at retry
      unfold attempts
      rw [stored]
      cases retry with
      | _ =>
          simp only [WorkItem.withIndex, ne_eq, Prod.mk.injEq]
          omega

end WorkQueue

/-- The time of an `Enqueue` has come. -/
def Operation.notAfter (now : Time) : Operation → Prop
  | .enqueue _ _ time => time ≤ now
  | _ => True

namespace Session

/-- The key of the item that an operation on the heap is about. -/
def concerns (session : Session) : Operation → Option NamespacedName
  | .enqueue key _ _ => some key
  | .dequeue _ _ => session.queue.items[0]?.map session.queue.key
  | .requeue worker _ => (session.held worker).map session.queue.key
  | .done _ => none

/-- The items of the key are the same ones, with the same times and counters. -/
structure SameAt (key : NamespacedName) (before after : Session) : Prop where
  items : ∀ ref, ref ∈ after.queue.items.toList ∧ after.queue.key ref = key ↔
    ref ∈ before.queue.items.toList ∧ before.queue.key ref = key
  times : ∀ ref, ref ∈ before.queue.items.toList →
    (after.queue.memory ref).scheduledAt = (before.queue.memory ref).scheduledAt
  attempts : ∀ ref, ref ∈ before.queue.items.toList →
    after.queue.attempts ref = before.queue.attempts ref
  itemsMap : after.queue.itemsMap key = before.queue.itemsMap key

variable {session next : Session} {key : NamespacedName} {now : Time}

theorem sameAt_refl (key : NamespacedName) (session : Session) : session.SameAt key session :=
  ⟨fun _ => Iff.rfl, fun _ _ => rfl, fun _ _ => rfl, rfl⟩

private theorem sameAt_enqueue (valid : session.Valid) {wanted : NamespacedName} {priority : Int}
    (other : wanted ≠ key ∨ ∃ existing, session.queue.itemsMap wanted = some existing) :
    session.SameAt key { session with queue := session.queue.enqueue wanted priority now } := by
  have old (ref : ItemRef) (member : ref ∈ session.queue.items.toList) :
      ref ≠ session.queue.allocated := Nat.ne_of_lt (valid.queuedBelow ref member)
  have times := fun ref member =>
    WorkQueue.enqueue_scheduledAt session.queue wanted priority now ref (old ref member)
  have attempts := fun ref member =>
    WorkQueue.enqueue_attempts session.queue wanted priority now ref (old ref member)
  cases known : session.queue.itemsMap wanted with
  | some existing =>
      have spec := WorkQueue.enqueue_existing _ wanted priority now existing known
      refine ⟨?_, times, attempts, congrFun spec.itemsMap key⟩
      intro ref
      dsimp only
      rw [spec.items.mem_iff, spec.keys]
  | none =>
      have spec := WorkQueue.enqueue_new _ wanted priority now known
      have different : wanted ≠ key := by
        rcases other with different | ⟨existing, found⟩
        · exact different
        · rw [known] at found
          cases found
      refine ⟨?_, times, attempts, ?_⟩
      · intro ref
        dsimp only
        rw [spec.items.mem_iff]
        constructor
        · rintro ⟨member, isKey⟩
          rcases List.mem_cons.mp member with rfl | queued
          · exact absurd (spec.freshKey.symm.trans isKey) different
          · exact ⟨queued, (spec.keys ref (old ref queued)).symm.trans isKey⟩
        · rintro ⟨queued, isKey⟩
          exact ⟨List.mem_cons_of_mem _ queued, (spec.keys ref (old ref queued)).trans isKey⟩
      · dsimp only
        rw [spec.itemsMap, setKey_other _ _ _ _ different.symm]

/-- An operation on another key leaves the items of this one alone. -/
theorem step_sameAt (operation : Operation) (valid : session.Valid)
    (other : session.concerns operation ≠ some key)
    (taken : session.step operation = some next) : session.SameAt key next := by
  cases operation with
  | enqueue wanted priority time =>
      cases taken
      exact sameAt_enqueue valid (.inl (fun same => other (congrArg some same)))
  | dequeue worker time =>
      obtain ⟨ref, rest, _free, hands, rfl⟩ := step_hands taken
      have spec := WorkQueue.dequeue_take _ _ _ _ hands
      have different : session.queue.key ref ≠ key := by
        intro same
        apply other
        simp only [concerns, spec.root, Option.map_some, same]
      refine ⟨?_, fun found _ => (WorkQueue.dequeue_sameRank hands found).2,
        fun found _ => (WorkQueue.dequeue_settings _ _ _ _ hands).2 found, ?_⟩
      · intro found
        dsimp only
        rw [spec.keys, ← spec.items.mem_iff]
        constructor
        · rintro ⟨member, isKey⟩
          exact ⟨List.mem_cons_of_mem _ member, isKey⟩
        · rintro ⟨member, isKey⟩
          rcases List.mem_cons.mp member with rfl | remains
          · exact absurd isKey different
          · exact ⟨remains, isKey⟩
      · dsimp only
        rw [spec.itemsMap, setKey_other _ _ _ _ different.symm]
  | requeue worker time =>
      obtain ⟨ref, holds, rfl⟩ := step_requeue taken
      have different : session.queue.key ref ≠ key := by
        intro same
        apply other
        simp only [concerns, holds, Option.map_some, same]
      have apart (found : ItemRef) (member : found ∈ session.queue.items.toList) :
          found ≠ ref := by
        rintro rfl
        exact valid.heldAway worker found holds member
      have times := fun found member =>
        WorkQueue.requeue_scheduledAt_other session.queue ref found time (apart found member)
      have attempts := fun found member =>
        WorkQueue.requeue_attempts_other session.queue ref found time (apart found member)
      cases again : session.queue.retries ref time with
      | false =>
          have spec := WorkQueue.requeue_givenUp _ ref time again
          refine ⟨?_, times, attempts, congrFun spec.itemsMap key⟩
          intro found
          dsimp only
          rw [spec.items, spec.keys]
      | true =>
          have spec := WorkQueue.requeue_putBack _ ref time again
          refine ⟨?_, times, attempts, ?_⟩
          · intro found
            dsimp only
            rw [spec.items.mem_iff, spec.keys]
            constructor
            · rintro ⟨member, isKey⟩
              rcases List.mem_cons.mp member with rfl | queued
              · exact absurd isKey different
              · exact ⟨queued, isKey⟩
            · rintro ⟨queued, isKey⟩
              exact ⟨List.mem_cons_of_mem _ queued, isKey⟩
          · dsimp only
            rw [spec.itemsMap, setKey_other _ _ _ _ different.symm]
  | done worker =>
      rw [step_done taken]
      exact ⟨fun _ => Iff.rfl, fun _ _ => rfl, fun _ _ => rfl, rfl⟩

def HoldsFresh (session : Session) (key : NamespacedName) (now : Time) : Prop :=
  ∃ ref, (ref ∈ session.queue.items.toList ∧ session.queue.key ref = key) ∧
    session.queue.Fresh ref now

theorem SameAt.holdsFresh (same : session.SameAt key next) (now : Time) :
    next.HoldsFresh key now ↔ session.HoldsFresh key now := by
  constructor
  · rintro ⟨ref, found, due, unused⟩
    have before := (same.items ref).mp found
    rw [same.times ref before.1] at due
    rw [same.attempts ref before.1] at unused
    exact ⟨ref, before, due, unused⟩
  · rintro ⟨ref, found, due, unused⟩
    refine ⟨ref, (same.items ref).mpr found, ?_, ?_⟩
    · rw [same.times ref found.1]
      exact due
    · rw [same.attempts ref found.1]
      exact unused

/-- `Enqueue` brings a fresh item exactly when the map has no entry. -/
theorem enqueue_holdsFresh (valid : session.Valid) (key : NamespacedName) (priority : Int) :
    HoldsFresh { session with queue := session.queue.enqueue key priority now } key now ↔
      session.HoldsFresh key now ∨ session.queue.itemsMap key = none := by
  cases known : session.queue.itemsMap key with
  | some existing =>
      rw [(sameAt_enqueue valid (.inr ⟨existing, known⟩)).holdsFresh]
      exact (or_iff_left (Option.some_ne_none existing)).symm
  | none =>
      have spec := WorkQueue.enqueue_new _ key priority now known
      refine iff_of_true ⟨session.queue.allocated,
        ⟨spec.items.mem_iff.mpr List.mem_cons_self, spec.freshKey⟩, ?_, ?_⟩ (.inr rfl)
      · exact Int.le_of_eq (WorkQueue.enqueue_new_scheduledAt _ _ _ _ known)
      · exact WorkQueue.enqueue_new_attempts _ _ _ _ known

theorem enqueue_mapped (session : Session) (key : NamespacedName) (priority : Int) (now : Time) :
    (session.queue.enqueue key priority now).itemsMap key ≠ none := by
  cases known : session.queue.itemsMap key with
  | some existing =>
      rw [(WorkQueue.enqueue_existing _ key priority now existing known).itemsMap, known]
      exact Option.some_ne_none existing
  | none =>
      rw [(WorkQueue.enqueue_new _ key priority now known).itemsMap, setKey_self]
      exact Option.some_ne_none _

/-- Whatever has not been through `Requeue` is due. -/
def Prompt (session : Session) (now : Time) : Prop :=
  ∀ ref, ref < session.queue.allocated →
    (0 ≤ (session.queue.attempts ref).1 ∧ 0 ≤ (session.queue.attempts ref).2) ∧
      (session.queue.attempts ref = (0, 0) → (session.queue.memory ref).scheduledAt ≤ now)

theorem start_prompt (maxRetries initialDelay maxDelay maxCycles : Int) (now : Time) :
    (start maxRetries initialDelay maxDelay maxCycles).Prompt now := by
  intro ref below
  exact absurd below (Nat.not_lt_zero ref)

theorem Prompt.later (prompt : session.Prompt now) {later : Time} (passes : now ≤ later) :
    session.Prompt later :=
  fun ref below => ⟨(prompt ref below).1,
    fun unused => Int.le_trans ((prompt ref below).2 unused) passes⟩

/-- A fresh item stays fresh, and no other becomes fresh by waiting. -/
theorem Prompt.holdsFresh (prompt : session.Prompt now) (valid : session.Valid) {later : Time}
    (passes : now ≤ later) : session.HoldsFresh key later ↔ session.HoldsFresh key now := by
  constructor
  · rintro ⟨ref, found, _due, unused⟩
    exact ⟨ref, found, (prompt ref (valid.queuedBelow ref found.1)).2 unused, unused⟩
  · rintro ⟨ref, found, due, unused⟩
    exact ⟨ref, found, Int.le_trans due passes, unused⟩

theorem Prompt.kept (prompt : session.Prompt now)
    (allocated : next.queue.allocated = session.queue.allocated)
    (times : ∀ ref, (next.queue.memory ref).scheduledAt = (session.queue.memory ref).scheduledAt)
    (attempts : ∀ ref, next.queue.attempts ref = session.queue.attempts ref) :
    next.Prompt now := by
  intro ref below
  rw [allocated] at below
  rw [times, attempts]
  exact prompt ref below

theorem step_prompt (operation : Operation) (prompt : session.Prompt now)
    (notAfter : operation.notAfter now)
    (taken : session.step operation = some next) : next.Prompt now := by
  cases operation with
  | enqueue wanted priority time =>
      cases taken
      intro ref below
      by_cases isNew : ref = session.queue.allocated
      · subst isNew
        cases known : session.queue.itemsMap wanted with
        | some existing =>
            have spec := WorkQueue.enqueue_existing _ wanted priority time existing known
            exact absurd (spec.allocated ▸ below) (Nat.lt_irrefl _)
        | none =>
            dsimp only
            rw [WorkQueue.enqueue_new_attempts _ _ _ _ known,
              WorkQueue.enqueue_new_scheduledAt _ _ _ _ known]
            exact ⟨⟨Int.le_refl 0, Int.le_refl 0⟩, fun _ => notAfter⟩
      · have grown : (session.queue.enqueue wanted priority time).allocated ≤
            session.queue.allocated + 1 := by
          cases known : session.queue.itemsMap wanted with
          | some existing =>
              rw [(WorkQueue.enqueue_existing _ wanted priority time existing known).allocated]
              exact Nat.le_succ _
          | none =>
              exact Nat.le_of_eq (WorkQueue.enqueue_new _ wanted priority time known).allocated
        have old : ref < session.queue.allocated :=
          Nat.lt_of_le_of_ne (Nat.le_of_lt_succ (Nat.lt_of_lt_of_le below grown)) isNew
        dsimp only
        rw [WorkQueue.enqueue_attempts _ _ _ _ _ isNew,
          WorkQueue.enqueue_scheduledAt _ _ _ _ _ isNew]
        exact prompt ref old
  | dequeue worker time =>
      obtain ⟨ref, rest, _free, hands, rfl⟩ := step_hands taken
      exact prompt.kept (WorkQueue.dequeue_take _ _ _ _ hands).allocated
        (fun ref => (WorkQueue.dequeue_sameRank hands ref).2)
        (WorkQueue.dequeue_settings _ _ _ _ hands).2
  | requeue worker time =>
      obtain ⟨ref, _holds, rfl⟩ := step_requeue taken
      have allocated : (session.queue.requeue ref time).allocated = session.queue.allocated := by
        cases again : session.queue.retries ref time with
        | false => exact (WorkQueue.requeue_givenUp _ ref time again).allocated
        | true => exact (WorkQueue.requeue_putBack _ ref time again).allocated
      intro other below
      dsimp only at below
      rw [allocated] at below
      by_cases same : other = ref
      · subst same
        obtain ⟨counted, used⟩ := WorkQueue.requeue_counts session.queue other time
          (prompt other below).1
        exact ⟨counted, fun unused => absurd unused used⟩
      · dsimp only
        rw [WorkQueue.requeue_attempts_other _ _ _ _ same,
          WorkQueue.requeue_scheduledAt_other _ _ _ _ same]
        exact prompt other below
  | done worker =>
      rw [step_done taken]
      exact prompt.kept rfl (fun _ => rfl) (fun _ => rfl)

end Session

end KubeTemplater.Queue
