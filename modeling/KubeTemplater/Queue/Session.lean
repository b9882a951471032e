/-
Runs of the work queue: any number of workers, each holding at most one item at
a time as the worker loop does, and calls of `Enqueue` at any moment.  Every
operation is one critical section, so a run is a list of operations.
-/

import KubeTemplater.Queue.MethodSpecs
import KubeTemplater.Library.Transition

namespace KubeTemplater.Queue

open Library

structure Session where
  queue : WorkQueue
  /-- The item a worker has dequeued and not yet passed to `Requeue` or `Done`. -/
  held : Nat → Option ItemRef

inductive Operation where
  | enqueue (key : NamespacedName) (priority : Int) (now : Time)
  | dequeue (worker : Nat) (now : Time)
  | requeue (worker : Nat) (now : Time)
  | done (worker : Nat)

def setHeld (held : Nat → Option ItemRef) (worker : Nat) (ref : Option ItemRef) :
    Nat → Option ItemRef :=
  fun other => if other = worker then ref else held other

theorem setHeld_self (held : Nat → Option ItemRef) (worker : Nat) (ref : Option ItemRef) :
    setHeld held worker ref worker = ref :=
  if_pos rfl

theorem setHeld_other (held : Nat → Option ItemRef) (worker other : Nat)
    (ref : Option ItemRef) (different : other ≠ worker) :
    setHeld held worker ref other = held other :=
  if_neg different

theorem setHeld_some {held : Nat → Option ItemRef} {worker holder : Nat} {ref other : ItemRef}
    (holds : setHeld held worker (some ref) holder = some other) :
    holder = worker ∧ other = ref ∨ holder ≠ worker ∧ held holder = some other := by
  by_cases same : holder = worker
  · rw [same, setHeld_self] at holds
    exact .inl ⟨same, (Option.some.inj holds).symm⟩
  · rw [setHeld_other _ _ _ _ same] at holds
    exact .inr ⟨same, holds⟩

namespace Session

def start (maxRetries initialDelay maxDelay maxCycles : Int) : Session :=
  { queue := newWorkQueueWithConfig maxRetries initialDelay maxDelay maxCycles
    held := fun _ => none }

def step (session : Session) : Operation → Option Session
  | .enqueue key priority now =>
      some { session with queue := session.queue.enqueue key priority now }
  | .dequeue worker now =>
      match session.held worker, session.queue.dequeue now with
      | none, .take ref queue =>
          some { queue := queue, held := setHeld session.held worker (some ref) }
      | _, _ => none
  | .requeue worker now =>
      (session.held worker).map (fun ref =>
        { queue := session.queue.requeue ref now
          held := setHeld session.held worker none })
  | .done worker =>
      (session.held worker).map (fun _ =>
        { queue := session.queue.done
          held := setHeld session.held worker none })

variable {session next : Session}

theorem step_hands {worker : Nat} {now : Time}
    (taken : session.step (.dequeue worker now) = some next) :
    ∃ ref rest, session.held worker = none ∧ session.queue.dequeue now = .take ref rest ∧
      next = { queue := rest, held := setHeld session.held worker (some ref) } := by
  simp only [step] at taken
  split at taken
  · rename_i ref rest free hands
    cases taken
    exact ⟨ref, rest, free, hands, rfl⟩
  · cases taken

theorem step_dequeue {worker : Nat} {now : Time}
    (taken : session.step (.dequeue worker now) = some next) :
    ∃ ref, session.held worker = none ∧
      WorkQueue.Taken session.queue next.queue ref now ∧
      next.held = setHeld session.held worker (some ref) := by
  obtain ⟨ref, rest, free, hands, rfl⟩ := step_hands taken
  exact ⟨ref, free, WorkQueue.dequeue_take _ _ _ _ hands, rfl⟩

theorem step_requeue {worker : Nat} {now : Time}
    (taken : session.step (.requeue worker now) = some next) :
    ∃ ref, session.held worker = some ref ∧
      next = { queue := session.queue.requeue ref now
               held := setHeld session.held worker none } := by
  simp only [step] at taken
  obtain ⟨ref, holds, equal⟩ := Option.map_eq_some_iff.mp taken
  exact ⟨ref, holds, equal.symm⟩

theorem step_done {worker : Nat} (taken : session.step (.done worker) = some next) :
    next = { queue := session.queue.done, held := setHeld session.held worker none } := by
  simp only [step] at taken
  obtain ⟨_ref, _holds, equal⟩ := Option.map_eq_some_iff.mp taken
  exact equal.symm

structure Valid (session : Session) : Prop where
  queuedBelow : ∀ ref, ref ∈ session.queue.items.toList → ref < session.queue.allocated
  heldBelow : ∀ worker ref, session.held worker = some ref → ref < session.queue.allocated
  queuedOnce : session.queue.items.toList.Nodup
  heldAway : ∀ worker ref, session.held worker = some ref →
    ref ∉ session.queue.items.toList
  heldOnce : ∀ worker other ref, session.held worker = some ref →
    session.held other = some ref → worker = other
  mapped : ∀ key ref, session.queue.itemsMap key = some ref →
    ref ∈ session.queue.items.toList ∧ session.queue.key ref = key

theorem start_valid (maxRetries initialDelay maxDelay maxCycles : Int) :
    (start maxRetries initialDelay maxDelay maxCycles).Valid where
  queuedBelow := by intro ref member; cases member
  heldBelow := by intro worker ref holds; cases holds
  queuedOnce := List.nodup_nil
  heldAway := by intro worker ref holds; cases holds
  heldOnce := by intro worker other ref holds; cases holds
  mapped := by intro key ref known; cases known

/-- A worker's item leaves its hands: what the other workers hold is unchanged. -/
theorem setHeld_none {held : Nat → Option ItemRef} {worker other : Nat} {ref : ItemRef}
    (holds : setHeld held worker none other = some ref) :
    other ≠ worker ∧ held other = some ref := by
  by_cases same : other = worker
  · rw [same, setHeld_self] at holds
    cases holds
  · rw [setHeld_other _ _ _ _ same] at holds
    exact ⟨same, holds⟩

theorem Valid.released (valid : session.Valid) (worker : Nat) :
    Valid { session with held := setHeld session.held worker none } where
  queuedBelow := valid.queuedBelow
  heldBelow := fun holder ref held => valid.heldBelow holder ref (setHeld_none held).2
  queuedOnce := valid.queuedOnce
  heldAway := fun holder ref held => valid.heldAway holder ref (setHeld_none held).2
  heldOnce := fun holder other ref first second =>
    valid.heldOnce holder other ref (setHeld_none first).2 (setHeld_none second).2
  mapped := valid.mapped

theorem Valid.rearranged (valid : session.Valid) (held : next.held = session.held)
    (items : next.queue.items.toList.Perm session.queue.items.toList)
    (keys : ∀ ref, next.queue.key ref = session.queue.key ref)
    (itemsMap : next.queue.itemsMap = session.queue.itemsMap)
    (allocated : next.queue.allocated = session.queue.allocated) : next.Valid := by
  constructor
  · intro ref member
    rw [allocated]
    exact valid.queuedBelow ref (items.mem_iff.mp member)
  · rw [held, allocated]
    exact valid.heldBelow
  · exact items.nodup_iff.mpr valid.queuedOnce
  · intro worker ref holds member
    rw [held] at holds
    exact valid.heldAway worker ref holds (items.mem_iff.mp member)
  · rw [held]
    exact valid.heldOnce
  · intro key ref found
    rw [itemsMap] at found
    obtain ⟨queued, same⟩ := valid.mapped key ref found
    exact ⟨items.mem_iff.mpr queued, (keys ref).trans same⟩

/-- One more item, which nobody holds, joins the heap and the map points to it. -/
theorem Valid.pushed {ref : ItemRef} {key : NamespacedName} (valid : session.Valid)
    (held : next.held = session.held)
    (items : next.queue.items.toList.Perm (ref :: session.queue.items.toList))
    (own : next.queue.key ref = key) (keys : ∀ other, other ∈ session.queue.items.toList →
      next.queue.key other = session.queue.key other)
    (itemsMap : next.queue.itemsMap = setKey session.queue.itemsMap key (some ref))
    (below : ref < next.queue.allocated) (grows : session.queue.allocated ≤ next.queue.allocated)
    (unqueued : ref ∉ session.queue.items.toList)
    (unheld : ∀ worker, session.held worker ≠ some ref) : next.Valid := by
  constructor
  · intro other member
    rcases List.mem_cons.mp (items.mem_iff.mp member) with same | queued
    · rw [same]
      exact below
    · exact Nat.lt_of_lt_of_le (valid.queuedBelow other queued) grows
  · intro worker other holds
    rw [held] at holds
    exact Nat.lt_of_lt_of_le (valid.heldBelow worker other holds) grows
  · exact items.nodup_iff.mpr (List.nodup_cons.mpr ⟨unqueued, valid.queuedOnce⟩)
  · intro worker other holds member
    rw [held] at holds
    rcases List.mem_cons.mp (items.mem_iff.mp member) with same | queued
    · rw [same] at holds
      exact unheld worker holds
    · exact valid.heldAway worker other holds queued
  · rw [held]
    exact valid.heldOnce
  · intro other found isFound
    rw [itemsMap] at isFound
    by_cases same : other = key
    · subst other
      rw [setKey_self] at isFound
      cases isFound
      exact ⟨items.mem_iff.mpr List.mem_cons_self, own⟩
    · rw [setKey_other _ _ _ _ same] at isFound
      obtain ⟨queued, equal⟩ := valid.mapped other found isFound
      exact ⟨items.mem_iff.mpr (List.mem_cons_of_mem ref queued),
        (keys found queued).trans equal⟩

private theorem valid_enqueue (session : Session) (valid : session.Valid)
    (key : NamespacedName) (priority : Int) (now : Time) :
    Valid { session with queue := session.queue.enqueue key priority now } := by
  cases known : session.queue.itemsMap key with
  | some existing =>
      have spec := WorkQueue.enqueue_existing _ key priority now existing known
      exact valid.rearranged rfl spec.items spec.keys spec.itemsMap spec.allocated
  | none =>
      have spec := WorkQueue.enqueue_new _ key priority now known
      have old (ref : ItemRef) (queued : ref ∈ session.queue.items.toList) :
          ref ≠ session.queue.allocated :=
        Nat.ne_of_lt (valid.queuedBelow ref queued)
      refine valid.pushed rfl spec.items spec.freshKey ?_ spec.itemsMap ?_ ?_ ?_ ?_
      · intro ref queued
        exact spec.keys ref (old ref queued)
      · rw [spec.allocated]
        exact Nat.lt_succ_self _
      · rw [spec.allocated]
        exact Nat.le_succ _
      · intro queued
        exact old _ queued rfl
      · intro worker holds
        exact Nat.lt_irrefl _ (valid.heldBelow worker _ holds)

private theorem valid_dequeue (session next : Session) (valid : session.Valid)
    (worker : Nat) (now : Time)
    (taken : session.step (.dequeue worker now) = some next) : next.Valid := by
  obtain ⟨ref, _free, spec, heldNow⟩ := step_dequeue taken
  have onceAll := spec.items.nodup_iff.mpr valid.queuedOnce
  have once := List.nodup_cons.mp onceAll
  have still (other : ItemRef) (member : other ∈ next.queue.items.toList) :
      other ∈ session.queue.items.toList :=
    spec.items.mem_iff.mp (List.mem_cons_of_mem ref member)
  have wasQueued : ref ∈ session.queue.items.toList :=
    spec.items.mem_iff.mp List.mem_cons_self
  constructor
  · intro other member
    rw [spec.allocated]
    exact valid.queuedBelow other (still other member)
  · intro holder other holds
    rw [spec.allocated]
    rw [heldNow] at holds
    rcases setHeld_some holds with ⟨_isWorker, isRoot⟩ | ⟨_different, before⟩
    · rw [isRoot]
      exact valid.queuedBelow ref wasQueued
    · exact valid.heldBelow holder other before
  · exact once.2
  · intro holder other holds member
    rw [heldNow] at holds
    rcases setHeld_some holds with ⟨_isWorker, isRoot⟩ | ⟨_different, before⟩
    · rw [isRoot] at member
      exact once.1 member
    · exact valid.heldAway holder other before (still other member)
  · intro holder second other first again
    rw [heldNow] at first again
    rcases setHeld_some first with ⟨isWorker, isRoot⟩ | ⟨_, before⟩
    · rcases setHeld_some again with ⟨alsoWorker, _⟩ | ⟨_, held⟩
      · exact isWorker.trans alsoWorker.symm
      · rw [isRoot] at held
        exact absurd wasQueued (valid.heldAway second ref held)
    · rcases setHeld_some again with ⟨_, isRoot⟩ | ⟨_, held⟩
      · rw [isRoot] at before
        exact absurd wasQueued (valid.heldAway holder ref before)
      · exact valid.heldOnce holder second other before held
  · intro key other found
    rw [spec.itemsMap] at found
    by_cases same : key = session.queue.key ref
    · subst key
      rw [setKey_self] at found
      cases found
    · rw [setKey_other _ _ _ _ same] at found
      obtain ⟨queued, equal⟩ := valid.mapped key other found
      refine ⟨?_, (spec.keys other).trans equal⟩
      rcases List.mem_cons.mp (spec.items.mem_iff.mpr queued) with isRoot | rest
      · subst other
        exact absurd equal.symm same
      · exact rest

private theorem valid_requeue (session : Session) (valid : session.Valid)
    (worker : Nat) (now : Time) (ref : ItemRef) (holds : session.held worker = some ref) :
    Valid { queue := session.queue.requeue ref now
            held := setHeld session.held worker none } := by
  have released := valid.released worker
  cases again : session.queue.retries ref now with
  | false =>
      have spec := WorkQueue.requeue_givenUp _ ref now again
      refine released.rearranged rfl ?_ spec.keys spec.itemsMap spec.allocated
      rw [spec.items]
  | true =>
      have spec := WorkQueue.requeue_putBack _ ref now again
      refine released.pushed rfl spec.items (spec.keys ref) (fun other _ => spec.keys other)
        spec.itemsMap ?_ (Nat.le_of_eq spec.allocated.symm) (valid.heldAway worker ref holds) ?_
      · rw [spec.allocated]
        exact valid.heldBelow worker ref holds
      · intro holder held
        obtain ⟨different, before⟩ := setHeld_none held
        exact different (valid.heldOnce holder worker ref before holds)

theorem step_valid (session : Session) (operation : Operation) (next : Session)
    (valid : session.Valid) (taken : session.step operation = some next) : next.Valid := by
  cases operation with
  | enqueue key priority now =>
      cases taken
      exact valid_enqueue session valid key priority now
  | dequeue worker now => exact valid_dequeue session next valid worker now taken
  | requeue worker now =>
      obtain ⟨ref, holds, rfl⟩ := step_requeue taken
      exact valid_requeue session valid worker now ref holds
  | done worker =>
      rw [step_done taken]
      exact (valid.released worker).rearranged rfl (.refl _) (fun _ => rfl) rfl rfl

end Session

end KubeTemplater.Queue
