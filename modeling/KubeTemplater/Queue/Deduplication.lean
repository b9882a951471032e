/-
Deduplication of the work queue.

`Enqueue` keeps one item per key, but a key leaves the map when its item is
handed out, and `Requeue` pushes without asking the map.  The heap holds every
key at most once, and `Contains` agrees with it, exactly as long as no `Requeue`
puts an item back whose key has been enqueued again in the meantime.
-/

import KubeTemplater.Queue.Session

namespace KubeTemplater.Queue.Session

open Library

def Deduplicated (session : Session) : Prop :=
  (session.queue.items.toList.map session.queue.key).Nodup ∧
    ∀ key, session.queue.contains key = true ↔
      ∃ ref ∈ session.queue.items.toList, session.queue.key ref = key

/-- A `Requeue` that puts its item back finds the item's key free. -/
def RequeuesFreeKey (session : Session) : Operation → Prop
  | .requeue worker now => ∀ ref, session.held worker = some ref →
      session.queue.retries ref now = true →
        session.queue.contains (session.queue.key ref) = false
  | _ => True

theorem start_deduplicated (maxRetries initialDelay maxDelay maxCycles : Int) :
    (start maxRetries initialDelay maxDelay maxCycles).Deduplicated := by
  refine ⟨List.nodup_nil, ?_⟩
  intro key
  constructor
  · intro present
    cases present
  · rintro ⟨ref, member, _same⟩
    cases member

private theorem keys_perm {before after : WorkQueue} {refs : List ItemRef}
    (items : after.items.toList.Perm refs)
    (keys : ∀ ref, ref ∈ refs → after.key ref = before.key ref) :
    (after.items.toList.map after.key).Perm (refs.map before.key) := by
  have moved := items.map after.key
  rw [List.map_congr_left keys] at moved
  exact moved

private theorem contains_some {queue : WorkQueue} {key : NamespacedName} {ref : ItemRef}
    (found : queue.itemsMap key = some ref) : queue.contains key = true := by
  unfold WorkQueue.contains
  rw [found]
  rfl

private theorem contains_none {queue : WorkQueue} {key : NamespacedName}
    (missing : queue.itemsMap key = none) : queue.contains key = false := by
  unfold WorkQueue.contains
  rw [missing]
  rfl

private theorem deduplicated_cons {session next : Session} {ref : ItemRef} {key : NamespacedName}
    (dedup : session.Deduplicated)
    (items : next.queue.items.toList.Perm (ref :: session.queue.items.toList))
    (keys : ∀ other, other ∈ session.queue.items.toList →
      next.queue.key other = session.queue.key other)
    (own : next.queue.key ref = key)
    (itemsMap : next.queue.itemsMap = setKey session.queue.itemsMap key (some ref))
    (free : session.queue.contains key = false) : next.Deduplicated := by
  have absent : ∀ other, other ∈ session.queue.items.toList → session.queue.key other ≠ key := by
    intro other member same
    rw [(dedup.2 key).mpr ⟨other, member, same⟩] at free
    cases free
  constructor
  · rw [(items.map next.queue.key).nodup_iff, List.map_cons, own, List.map_congr_left keys]
    refine List.nodup_cons.mpr ⟨?_, dedup.1⟩
    intro member
    obtain ⟨other, queued, same⟩ := List.mem_map.mp member
    exact absent other queued same
  · intro other
    by_cases same : other = key
    · subst other
      have found : next.queue.itemsMap key = some ref := by rw [itemsMap, setKey_self]
      exact ⟨fun _ => ⟨ref, items.mem_iff.mpr List.mem_cons_self, own⟩,
        fun _ => contains_some found⟩
    · have unchanged : next.queue.contains other = session.queue.contains other := by
        unfold WorkQueue.contains
        rw [itemsMap, setKey_other _ _ _ _ same]
      rw [unchanged, dedup.2 other]
      constructor
      · rintro ⟨ref', member, equal⟩
        exact ⟨ref', items.mem_iff.mpr (List.mem_cons_of_mem ref member),
          (keys ref' member).trans equal⟩
      · rintro ⟨ref', member, equal⟩
        rcases List.mem_cons.mp (items.mem_iff.mp member) with isNew | queued
        · subst ref'
          exact absurd (equal.symm.trans own) same
        · exact ⟨ref', queued, (keys ref' queued).symm.trans equal⟩

private theorem deduplicated_same {session next : Session} (dedup : session.Deduplicated)
    (items : next.queue.items.toList.Perm session.queue.items.toList)
    (keys : ∀ ref, next.queue.key ref = session.queue.key ref)
    (itemsMap : next.queue.itemsMap = session.queue.itemsMap) : next.Deduplicated := by
  constructor
  · exact (keys_perm items (fun ref _ => keys ref)).nodup_iff.mpr dedup.1
  · intro key
    unfold WorkQueue.contains
    rw [itemsMap]
    refine (dedup.2 key).trans ?_
    constructor
    · rintro ⟨ref, member, same⟩
      exact ⟨ref, items.mem_iff.mpr member, (keys ref).trans same⟩
    · rintro ⟨ref, member, same⟩
      exact ⟨ref, items.mem_iff.mp member, (keys ref).symm.trans same⟩

private theorem deduplicated_enqueue (session : Session) (valid : session.Valid)
    (dedup : session.Deduplicated) (key : NamespacedName) (priority : Int) (now : Time) :
    Deduplicated { session with queue := session.queue.enqueue key priority now } := by
  cases known : session.queue.itemsMap key with
  | some existing =>
      have spec := WorkQueue.enqueue_existing _ key priority now existing known
      exact deduplicated_same dedup spec.items spec.keys spec.itemsMap
  | none =>
      have spec := WorkQueue.enqueue_new _ key priority now known
      refine deduplicated_cons dedup spec.items ?_ spec.freshKey spec.itemsMap
        (contains_none known)
      intro other member
      exact spec.keys other (Nat.ne_of_lt (valid.queuedBelow other member))

private theorem deduplicated_dequeue (session next : Session) (dedup : session.Deduplicated)
    (worker : Nat) (now : Time)
    (taken : session.step (.dequeue worker now) = some next) : next.Deduplicated := by
  obtain ⟨ref, _free, spec, _heldNow⟩ := step_dequeue taken
  have keysAll : (session.queue.key ref ::
      next.queue.items.toList.map session.queue.key).Nodup := by
    have moved := (spec.items.map session.queue.key).nodup_iff.mpr dedup.1
    rwa [List.map_cons] at moved
  obtain ⟨gone, others⟩ := List.nodup_cons.mp keysAll
  constructor
  · rw [List.map_congr_left (fun other _ => spec.keys other)]
    exact others
  · intro key
    by_cases same : key = session.queue.key ref
    · subst key
      have missing : next.queue.itemsMap (session.queue.key ref) = none := by
        rw [spec.itemsMap, setKey_self]
      rw [contains_none missing]
      constructor
      · intro impossible
        cases impossible
      · rintro ⟨other, member, equal⟩
        exact absurd (List.mem_map.mpr ⟨other, member, (spec.keys other).symm.trans equal⟩) gone
    · have unchanged : next.queue.contains key = session.queue.contains key := by
        unfold WorkQueue.contains
        rw [spec.itemsMap, setKey_other _ _ _ _ same]
      rw [unchanged, dedup.2 key]
      constructor
      · rintro ⟨other, member, equal⟩
        rcases List.mem_cons.mp (spec.items.mem_iff.mpr member) with isRoot | rest
        · subst other
          exact absurd equal.symm same
        · exact ⟨other, rest, (spec.keys other).trans equal⟩
      · rintro ⟨other, member, equal⟩
        exact ⟨other, spec.items.mem_iff.mp (List.mem_cons_of_mem ref member),
          (spec.keys other).symm.trans equal⟩

private theorem deduplicated_requeue (session : Session) (dedup : session.Deduplicated)
    (worker : Nat) (now : Time) (ref : ItemRef) (holds : session.held worker = some ref)
    (free : session.RequeuesFreeKey (.requeue worker now)) :
    Deduplicated { queue := session.queue.requeue ref now
                   held := setHeld session.held worker none } := by
  cases again : session.queue.retries ref now with
  | false =>
      have spec := WorkQueue.requeue_givenUp _ ref now again
      refine deduplicated_same dedup ?_ spec.keys spec.itemsMap
      dsimp only
      rw [spec.items]
  | true =>
      have spec := WorkQueue.requeue_putBack _ ref now again
      exact deduplicated_cons dedup spec.items (fun other _ => spec.keys other)
        (spec.keys ref) spec.itemsMap (free ref holds again)

theorem step_deduplicated (session : Session) (operation : Operation) (next : Session)
    (valid : session.Valid) (dedup : session.Deduplicated)
    (free : session.RequeuesFreeKey operation)
    (taken : session.step operation = some next) : next.Deduplicated := by
  cases operation with
  | enqueue key priority now =>
      cases taken
      exact deduplicated_enqueue session valid dedup key priority now
  | dequeue worker now => exact deduplicated_dequeue session next dedup worker now taken
  | requeue worker now =>
      obtain ⟨ref, holds, rfl⟩ := step_requeue taken
      exact deduplicated_requeue session dedup worker now ref holds free
  | done worker =>
      rw [step_done taken]
      exact dedup

private theorem requeue_duplicates (session next : Session) (dedup : session.Deduplicated)
    (worker : Nat) (now : Time)
    (taken : session.step (.requeue worker now) = some next)
    (after : next.Deduplicated) : session.RequeuesFreeKey (.requeue worker now) := by
  intro ref holds again
  cases present : session.queue.contains (session.queue.key ref) with
  | false => rfl
  | true =>
      obtain ⟨other, member, same⟩ := (dedup.2 (session.queue.key ref)).mp present
      obtain ⟨ref', holds', rfl⟩ := step_requeue taken
      rw [holds] at holds'
      cases holds'
      have spec := WorkQueue.requeue_putBack _ ref now again
      have permuted := keys_perm spec.items (fun other _ => spec.keys other)
      have distinct := permuted.nodup_iff.mp after.1
      rw [List.map_cons] at distinct
      exact absurd (List.mem_map.mpr ⟨other, member, same⟩) (List.nodup_cons.mp distinct).1

private theorem deduplicated_iff (session : Session) (valid : session.Valid)
    (dedup : session.Deduplicated) (operations : List Operation) :
    Throughout step Deduplicated session operations ↔
      Along step RequeuesFreeKey session operations := by
  induction operations generalizing session with
  | nil => exact ⟨fun _ => trivial, fun _ => dedup⟩
  | cons operation rest ih =>
      constructor
      · intro holds
        have free : session.RequeuesFreeKey operation := by
          cases operation with
          | requeue worker now =>
              intro ref held again
              obtain ⟨next, taken⟩ : ∃ next, session.step (.requeue worker now) = some next :=
                Option.isSome_iff_exists.mp (by simp [step, held])
              exact requeue_duplicates session next dedup worker now taken
                (holds.2 next taken).head ref held again
          | _ => trivial
        refine ⟨free, ?_⟩
        intro next taken
        exact (ih next (step_valid _ _ _ valid taken)
          (step_deduplicated _ _ _ valid dedup free taken)).mp (holds.2 next taken)
      · intro along
        refine ⟨dedup, ?_⟩
        intro next taken
        exact (ih next (step_valid _ _ _ valid taken)
          (step_deduplicated _ _ _ valid dedup along.1 taken)).mpr (along.2 next taken)

/-- Every state of a run is deduplicated exactly when every `Requeue` of the run
that puts its item back finds the key free. -/
theorem deduplicated_iff_requeues_free_key
    (maxRetries initialDelay maxDelay maxCycles : Int) (operations : List Operation) :
    Throughout step Deduplicated (start maxRetries initialDelay maxDelay maxCycles) operations ↔
      Along step RequeuesFreeKey (start maxRetries initialDelay maxDelay maxCycles) operations :=
  deduplicated_iff _ (start_valid _ _ _ _) (start_deduplicated _ _ _ _) operations

def collision : List Operation :=
  [.enqueue ⟨"team-a", "web"⟩ 0 0, .dequeue 0 1, .enqueue ⟨"team-a", "web"⟩ 0 2, .requeue 0 3]

theorem collision_duplicates :
    ∃ final, run step (start 5 1000000000 300000000000 3) collision = some final ∧
      ¬ final.Deduplicated := by
  refine ⟨_, rfl, ?_⟩
  rintro ⟨distinct, _agrees⟩
  revert distinct
  decide

end KubeTemplater.Queue.Session
