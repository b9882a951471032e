/-
Which runs of the work queue keep the workers apart.

Nothing in the queue remembers that a key is being worked on, so an `Enqueue`
during that time makes a second item which another worker may take.  As long as
no key is enqueued while a worker holds an item of it, no key is ever held twice.
-/

import KubeTemplater.Queue.Deduplication

namespace KubeTemplater.Queue.Session

open Library

def Exclusive (session : Session) : Prop :=
  ∀ worker other ref ref', session.held worker = some ref → session.held other = some ref' →
    session.queue.key ref = session.queue.key ref' → worker = other

def EnqueuesIdleKey (session : Session) : Operation → Prop
  | .enqueue key _ _ => ∀ worker ref, session.held worker = some ref →
      session.queue.key ref ≠ key
  | _ => True

/-- The invariant behind exclusion: one item per key, queued or held. -/
structure Separate (session : Session) : Prop where
  valid : session.Valid
  deduplicated : session.Deduplicated
  exclusive : session.Exclusive
  heldFree : ∀ worker ref, session.held worker = some ref →
    session.queue.contains (session.queue.key ref) = false

private theorem start_separate (maxRetries initialDelay maxDelay maxCycles : Int) :
    (start maxRetries initialDelay maxDelay maxCycles).Separate where
  valid := start_valid _ _ _ _
  deduplicated := start_deduplicated _ _ _ _
  exclusive := by intro worker other ref ref' holds; cases holds
  heldFree := by intro worker ref holds; cases holds

/-- The part of a step's effect on held items that exclusion depends on. -/
private theorem contains_setKey_other {before after : WorkQueue} {key other : NamespacedName}
    {ref : Option ItemRef} (itemsMap : after.itemsMap = setKey before.itemsMap key ref)
    (different : other ≠ key) : after.contains other = before.contains other := by
  unfold WorkQueue.contains
  rw [itemsMap, setKey_other _ _ _ _ different]

private theorem exclusive_of_keys {session next : Session} (exclusive : session.Exclusive)
    (keys : ∀ worker ref, session.held worker = some ref →
      next.queue.key ref = session.queue.key ref)
    (held : ∀ worker ref, next.held worker = some ref → session.held worker = some ref) :
    next.Exclusive := by
  intro worker other ref ref' first second same
  rw [keys worker ref (held worker ref first), keys other ref' (held other ref' second)] at same
  exact exclusive worker other ref ref' (held worker ref first) (held other ref' second) same

private theorem enqueue_separate (session : Session) (separate : session.Separate)
    (key : NamespacedName) (priority : Int) (now : Time)
    (idle : session.EnqueuesIdleKey (.enqueue key priority now)) :
    Exclusive { session with queue := session.queue.enqueue key priority now } ∧
      ∀ worker ref, session.held worker = some ref →
        (session.queue.enqueue key priority now).contains
          ((session.queue.enqueue key priority now).key ref) = false := by
  cases known : session.queue.itemsMap key with
  | some existing =>
      have spec := WorkQueue.enqueue_existing _ key priority now existing known
      refine ⟨exclusive_of_keys separate.exclusive (fun _ ref _ => spec.keys ref)
        (fun _ _ holds => holds), ?_⟩
      intro worker ref holds
      unfold WorkQueue.contains
      rw [spec.itemsMap, spec.keys ref]
      exact separate.heldFree worker ref holds
  | none =>
      have spec := WorkQueue.enqueue_new _ key priority now known
      have keys : ∀ worker ref, session.held worker = some ref →
          (session.queue.enqueue key priority now).key ref = session.queue.key ref :=
        fun worker ref holds =>
          spec.keys ref (Nat.ne_of_lt (separate.valid.heldBelow worker ref holds))
      refine ⟨exclusive_of_keys separate.exclusive keys (fun _ _ holds => holds), ?_⟩
      intro worker ref holds
      rw [keys worker ref holds, contains_setKey_other spec.itemsMap (idle worker ref holds)]
      exact separate.heldFree worker ref holds

private theorem dequeue_separate (session next : Session) (separate : session.Separate)
    (worker : Nat) (now : Time)
    (taken : session.step (.dequeue worker now) = some next) :
    next.Exclusive ∧ ∀ holder ref, next.held holder = some ref →
      next.queue.contains (next.queue.key ref) = false := by
  obtain ⟨root, _free, spec, heldNow⟩ := step_dequeue taken
  have rootQueued : session.queue.contains (session.queue.key root) = true :=
    (separate.deduplicated.2 _).mpr ⟨root, spec.items.mem_iff.mp List.mem_cons_self, rfl⟩
  -- whoever held an item before held one of another key than the root's
  have apart : ∀ holder ref, session.held holder = some ref →
      session.queue.key ref ≠ session.queue.key root := by
    intro holder ref holds same
    have absent := separate.heldFree holder ref holds
    rw [same, rootQueued] at absent
    cases absent
  constructor
  · intro first second ref ref' holds holds' same
    rw [heldNow] at holds holds'
    rw [spec.keys ref, spec.keys ref'] at same
    rcases setHeld_some holds with ⟨isWorker, isRoot⟩ | ⟨_, before⟩
    · rcases setHeld_some holds' with ⟨alsoWorker, _⟩ | ⟨_, before'⟩
      · exact isWorker.trans alsoWorker.symm
      · rw [isRoot] at same
        exact absurd same.symm (apart second ref' before')
    · rcases setHeld_some holds' with ⟨_, isRoot⟩ | ⟨_, before'⟩
      · rw [isRoot] at same
        exact absurd same (apart first ref before)
      · exact separate.exclusive first second ref ref' before before' same
  · intro holder ref holds
    rw [heldNow] at holds
    rw [spec.keys ref]
    rcases setHeld_some holds with ⟨_isWorker, isRoot⟩ | ⟨_different, before⟩
    · rw [isRoot]
      unfold WorkQueue.contains
      rw [spec.itemsMap, setKey_self]
      rfl
    · rw [contains_setKey_other spec.itemsMap (apart holder ref before)]
      exact separate.heldFree holder ref before

private theorem requeue_separate (session : Session) (separate : session.Separate)
    (worker : Nat) (now : Time) (ref : ItemRef) (holds : session.held worker = some ref) :
    Exclusive { queue := session.queue.requeue ref now
                held := setHeld session.held worker none } ∧
      ∀ holder other, setHeld session.held worker none holder = some other →
        (session.queue.requeue ref now).contains
          ((session.queue.requeue ref now).key other) = false := by
  cases again : session.queue.retries ref now with
  | false =>
      have spec := WorkQueue.requeue_givenUp _ ref now again
      refine ⟨exclusive_of_keys separate.exclusive (fun _ other _ => spec.keys other)
        (fun _ _ held => (setHeld_none held).2), ?_⟩
      intro holder other held
      unfold WorkQueue.contains
      rw [spec.itemsMap, spec.keys other]
      exact separate.heldFree holder other (setHeld_none held).2
  | true =>
      have spec := WorkQueue.requeue_putBack _ ref now again
      refine ⟨exclusive_of_keys separate.exclusive (fun _ other _ => spec.keys other)
        (fun _ _ held => (setHeld_none held).2), ?_⟩
      intro holder other held
      obtain ⟨different, before⟩ := setHeld_none held
      have apart : session.queue.key other ≠ session.queue.key ref :=
        fun same => different (separate.exclusive holder worker other ref before holds same)
      rw [spec.keys other, contains_setKey_other spec.itemsMap apart]
      exact separate.heldFree holder other before

/-- With one item per key a `Requeue` always finds its key free. -/
private theorem requeuesFreeKey_of_separate (session : Session) (separate : session.Separate)
    (operation : Operation) : session.RequeuesFreeKey operation := by
  cases operation with
  | requeue worker now =>
      intro ref holds _again
      exact separate.heldFree worker ref holds
  | enqueue key priority now => trivial
  | dequeue worker now => trivial
  | done worker => trivial

private theorem step_separate (session : Session) (operation : Operation) (next : Session)
    (separate : session.Separate) (idle : session.EnqueuesIdleKey operation)
    (taken : session.step operation = some next) : next.Separate := by
  have valid := step_valid _ _ _ separate.valid taken
  have dedup := step_deduplicated _ _ _ separate.valid separate.deduplicated
    (requeuesFreeKey_of_separate session separate operation) taken
  suffices rest : next.Exclusive ∧ ∀ worker ref, next.held worker = some ref →
      next.queue.contains (next.queue.key ref) = false from
    ⟨valid, dedup, rest.1, rest.2⟩
  cases operation with
  | enqueue key priority now =>
      cases taken
      exact enqueue_separate session separate key priority now idle
  | dequeue worker now => exact dequeue_separate session next separate worker now taken
  | requeue worker now =>
      obtain ⟨ref, holds, rfl⟩ := step_requeue taken
      exact requeue_separate session separate worker now ref holds
  | done worker =>
      rw [step_done taken]
      exact ⟨exclusive_of_keys separate.exclusive (fun _ _ _ => rfl)
          (fun _ _ held => (setHeld_none held).2),
        fun holder ref held => separate.heldFree holder ref (setHeld_none held).2⟩

/-- In a run that enqueues no key while it is held, no key is held by two workers
in any state. -/
theorem exclusive_of_enqueues_idle_keys
    (maxRetries initialDelay maxDelay maxCycles : Int) (operations : List Operation)
    (idle : Along step EnqueuesIdleKey
      (start maxRetries initialDelay maxDelay maxCycles) operations) :
    Throughout step Exclusive (start maxRetries initialDelay maxDelay maxCycles) operations :=
  (throughout_of_along step EnqueuesIdleKey Separate
    (fun session operation next separate condition taken =>
      step_separate session operation next separate condition taken)
    _ operations (start_separate _ _ _ _) idle).mono (fun _ separate => separate.exclusive)

/-- A template fails once, is put back and taken again by another worker. -/
theorem exclusive_of_enqueues_idle_keys_retry :
    Throughout step Exclusive (start 5 1000000000 300000000000 3)
      [.enqueue ⟨"team-a", "web"⟩ 0 0, .dequeue 0 1, .requeue 0 2, .dequeue 1 2000000000] :=
  exclusive_of_enqueues_idle_keys 5 1000000000 300000000000 3 _ (by
    refine ⟨?_, fun next _taken => ⟨trivial, fun next _taken => ⟨trivial, fun next _taken =>
      ⟨trivial, fun next _taken => trivial⟩⟩⟩⟩
    intro worker ref holds
    cases holds)

/-- A template is enqueued again while a worker holds it, and a second worker takes it. -/
def overlap : List Operation :=
  [.enqueue ⟨"team-a", "web"⟩ 0 0, .dequeue 0 1, .enqueue ⟨"team-a", "web"⟩ 0 2, .dequeue 1 3]

theorem overlap_not_exclusive :
    ∃ final, run step (start 5 1000000000 300000000000 3) overlap = some final ∧
      ¬ final.Exclusive := by
  refine ⟨_, rfl, ?_⟩
  intro exclusive
  exact absurd (exclusive 0 1 0 1 (by decide) (by decide) (by decide)) (by decide)

end KubeTemplater.Queue.Session
