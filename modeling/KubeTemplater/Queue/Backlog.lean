/-
What the work queue is for, without its heap.

A backlog is a set of waiting items.  A key has at most one item that `Enqueue` speaks
of; `Dequeue` hands out an item that no other goes before, once it is due.  Where several
items are first, any of them may be handed out.  The queue with its slice and its back
indices refines the backlog: every critical section is one action on it.
-/

import KubeTemplater.Library.Refinement
import KubeTemplater.Queue.Attempts
import KubeTemplater.Queue.HeapInvariant
import Mathlib.Data.Finset.Basic

namespace KubeTemplater.Queue

open Library

/-- A work item without its place in the heap. -/
structure Work where
  key : NamespacedName
  priority : Int
  retryCount : Int
  retryCycle : Int
  enqueuedAt : Time
  scheduledAt : Time
  deriving DecidableEq, Repr

structure Pace where
  maxRetries : Int
  maxCycles : Int
  backoff : Int → Int
  cooldown : Int

namespace Work

def Before (left right : Work) : Prop :=
  right.priority < left.priority ∨
    left.priority = right.priority ∧ left.scheduledAt < right.scheduledAt

def new (key : NamespacedName) (priority : Int) (now : Time) : Work :=
  { key := key, priority := priority, retryCount := 0, retryCycle := 0
    enqueuedAt := now, scheduledAt := now }

def retry (pace : Pace) (work : Work) (now : Time) : Option Work :=
  if work.retryCount + 1 ≤ pace.maxRetries then
    some { work with
      retryCount := work.retryCount + 1
      scheduledAt := now + pace.backoff (work.retryCount + 1) }
  else if 0 < pace.maxCycles ∧ pace.maxCycles ≤ work.retryCycle then none
  else
    some { work with
      retryCount := 0
      retryCycle := work.retryCycle + 1
      scheduledAt := now + pace.cooldown }

end Work

@[ext] structure Backlog where
  waiting : Finset ItemRef
  work : ItemRef → Work
  /-- The item that an `Enqueue` of the key is about. -/
  current : NamespacedName → Option ItemRef
  held : Nat → Option ItemRef
  /-- How many items have been made. -/
  made : Nat
  pace : Pace
  closed : Bool

/-- How a turn of the `Dequeue` loop ends. -/
inductive Decision where
  | stop
  | wait
  | waitUntil (time : Time)
  | take (ref : ItemRef)
  deriving DecidableEq, Repr

inductive Action where
  | enqueue (key : NamespacedName) (priority : Int) (now : Time)
  | turn (worker : Nat) (now : Time) (decision : Decision)
  | requeue (worker : Nat) (now : Time)
  | done (worker : Nat)
  | shutdown
  deriving DecidableEq, Repr

namespace Backlog

structure First (backlog : Backlog) (ref : ItemRef) : Prop where
  waits : ref ∈ backlog.waiting
  first : ∀ other, other ∈ backlog.waiting → ¬ (backlog.work other).Before (backlog.work ref)

inductive Decides (backlog : Backlog) (now : Time) : Decision → Prop where
  | stop (closed : backlog.closed = true) : Decides backlog now .stop
  | wait (isOpen : backlog.closed = false) (nothing : backlog.waiting = ∅) :
      Decides backlog now .wait
  | waitUntil (isOpen : backlog.closed = false) (ref : ItemRef) (first : backlog.First ref)
      (early : now < (backlog.work ref).scheduledAt) :
      Decides backlog now (.waitUntil (backlog.work ref).scheduledAt)
  | take (isOpen : backlog.closed = false) (ref : ItemRef) (first : backlog.First ref)
      (due : (backlog.work ref).scheduledAt ≤ now) : Decides backlog now (.take ref)

inductive Next (backlog : Backlog) : Action → Backlog → Prop where
  | added (key : NamespacedName) (priority : Int) (now : Time)
      (unknown : backlog.current key = none) :
      Next backlog (.enqueue key priority now)
        { backlog with
          waiting := insert backlog.made backlog.waiting
          work := Function.update backlog.work backlog.made (.new key priority now)
          current := Function.update backlog.current key (some backlog.made)
          made := backlog.made + 1 }
  | raised (key : NamespacedName) (priority : Int) (now : Time) (ref : ItemRef)
      (known : backlog.current key = some ref) (higher : (backlog.work ref).priority < priority) :
      Next backlog (.enqueue key priority now)
        { backlog with
          work := Function.update backlog.work ref
            { backlog.work ref with priority := priority } }
  | ignored (key : NamespacedName) (priority : Int) (now : Time) (ref : ItemRef)
      (known : backlog.current key = some ref) (lower : priority ≤ (backlog.work ref).priority) :
      Next backlog (.enqueue key priority now) backlog
  | idle (worker : Nat) (now : Time) (decision : Decision) (free : backlog.held worker = none)
      (decides : backlog.Decides now decision) (nothing : ∀ ref, decision ≠ .take ref) :
      Next backlog (.turn worker now decision) backlog
  | taken (worker : Nat) (now : Time) (ref : ItemRef) (free : backlog.held worker = none)
      (decides : backlog.Decides now (.take ref)) :
      Next backlog (.turn worker now (.take ref))
        { backlog with
          waiting := backlog.waiting.erase ref
          current := Function.update backlog.current (backlog.work ref).key none
          held := Function.update backlog.held worker (some ref) }
  | retried (worker : Nat) (now : Time) (ref : ItemRef) (work : Work)
      (holds : backlog.held worker = some ref)
      (again : (backlog.work ref).retry backlog.pace now = some work) :
      Next backlog (.requeue worker now)
        { backlog with
          waiting := insert ref backlog.waiting
          work := Function.update backlog.work ref work
          current := Function.update backlog.current work.key (some ref)
          held := Function.update backlog.held worker none }
  | givenUp (worker : Nat) (now : Time) (ref : ItemRef) (holds : backlog.held worker = some ref)
      (spent : (backlog.work ref).retry backlog.pace now = none) :
      Next backlog (.requeue worker now)
        { backlog with
          work := Function.update backlog.work ref
            { backlog.work ref with retryCount := (backlog.work ref).retryCount + 1 }
          held := Function.update backlog.held worker none }
  | finished (worker : Nat) (ref : ItemRef) (holds : backlog.held worker = some ref) :
      Next backlog (.done worker)
        { backlog with held := Function.update backlog.held worker none }
  | closes : Next backlog .shutdown { backlog with closed := true }

theorem Next.to {backlog target after : Backlog} {action : Action}
    (next : backlog.Next action target) (same : after = target) : backlog.Next action after :=
  same ▸ next

def empty (pace : Pace) : Backlog :=
  { waiting := ∅
    work := fun _ => .new ⟨"", ""⟩ 0 0
    current := fun _ => none
    held := fun _ => none
    made := 0
    pace := pace
    closed := false }

end Backlog

def WorkQueue.shutDown (queue : WorkQueue) : WorkQueue := { queue with shutdown := true }

/-- A critical section: a call, or one turn of the loop of `Dequeue`. -/
inductive Section where
  | enqueue (key : NamespacedName) (priority : Int) (now : Time)
  | turn (worker : Nat) (now : Time)
  | requeue (worker : Nat) (now : Time)
  | done (worker : Nat)
  | shutdown
  deriving DecidableEq, Repr

def DequeueTurn.decision : DequeueTurn → Decision
  | .stopped => .stop
  | .wait => .wait
  | .waitUntil time => .waitUntil time
  | .take ref _ => .take ref

namespace Session

def turn (session : Session) (worker : Nat) (now : Time) : Option Session :=
  match session.held worker with
  | some _ => none
  | none =>
      match session.queue.dequeue now with
      | .take ref queue =>
          some { queue := queue, held := setHeld session.held worker (some ref) }
      | _ => some session

def enter (session : Session) : Section → Option Session
  | .enqueue key priority now => session.step (.enqueue key priority now)
  | .turn worker now => session.turn worker now
  | .requeue worker now => session.step (.requeue worker now)
  | .done worker => session.step (.done worker)
  | .shutdown => some { session with queue := session.queue.shutDown }

def action (session : Session) : Section → Action
  | .enqueue key priority now => .enqueue key priority now
  | .turn worker now => .turn worker now (session.queue.dequeue now).decision
  | .requeue worker now => .requeue worker now
  | .done worker => .done worker
  | .shutdown => .shutdown

def shows (session : Session) (entered : Section) : List Action := [session.action entered]

end Session

def WorkItem.work (item : WorkItem) : Work :=
  { key := item.namespacedName
    priority := item.priority
    retryCount := item.retryCount
    retryCycle := item.retryCycle
    enqueuedAt := item.enqueuedAt
    scheduledAt := item.scheduledAt }

private theorem itemLess_iff_before (left right : WorkItem) :
    itemLess left right = true ↔ left.work.Before right.work := by
  unfold itemLess Work.Before WorkItem.work
  split
  · rename_i different
    rw [decide_eq_true_iff]
    exact ⟨.inl, fun before => before.resolve_right (fun same => different same.1)⟩
  · rename_i same
    rw [decide_eq_true_iff]
    have equal : left.priority = right.priority := not_not.mp same
    dsimp only
    constructor
    · intro earlier
      exact .inr ⟨equal, earlier⟩
    · rintro (higher | ⟨_, earlier⟩)
      · omega
      · exact earlier

namespace WorkQueue

def works (queue : WorkQueue) (ref : ItemRef) : Work := (queue.memory ref).work

def pace (queue : WorkQueue) : Pace :=
  { maxRetries := queue.maxRetries
    maxCycles := queue.maxRetryCycles
    backoff := queue.backoffDelay
    cooldown := queue.maxRetryDelay }

theorem pace_of_settings {before after : WorkQueue} (same : after.settings = before.settings) :
    after.pace = before.pace := by
  simp only [settings, Settings.mk.injEq] at same
  obtain ⟨retries, initial, most, cycles, _shutdown⟩ := same
  unfold pace
  rw [retries, most, cycles]
  congr 1
  funext count
  unfold backoffDelay
  rw [initial, most]

end WorkQueue

def Session.backlog (session : Session) : Backlog :=
  { waiting := session.queue.items.toList.toFinset
    work := session.queue.works
    current := session.queue.itemsMap
    held := session.held
    made := session.queue.allocated
    pace := session.queue.pace
    closed := session.queue.shutdown }

theorem Rearranged.works {before after : WorkQueue} (moved : Rearranged before after) :
    after.works = before.works := by
  funext ref
  obtain ⟨_index, same⟩ := moved.memory ref
  unfold WorkQueue.works
  rw [same]
  rfl

theorem setItem_work (memory : ItemRef → WorkItem) (ref : ItemRef) (item : WorkItem) :
    (fun other => (setItem memory ref item other).work) =
      Function.update (fun other => (memory other).work) ref item.work := by
  refine Function.eq_update_iff.mpr ⟨congrArg WorkItem.work (setItem_self _ _ _), ?_⟩
  intro other different
  exact congrArg WorkItem.work (setItem_other _ _ _ _ different)

theorem setKey_eq_update (itemsMap : NamespacedName → Option ItemRef) (key : NamespacedName)
    (ref : Option ItemRef) : setKey itemsMap key ref = Function.update itemsMap key ref :=
  Function.eq_update_iff.mpr ⟨setKey_self _ _ _, fun _ different => setKey_other _ _ _ _ different⟩

theorem setHeld_eq_update (held : Nat → Option ItemRef) (worker : Nat) (ref : Option ItemRef) :
    setHeld held worker ref = Function.update held worker ref :=
  Function.eq_update_iff.mpr
    ⟨setHeld_self _ _ _, fun _ different => setHeld_other _ _ _ _ different⟩

namespace WorkQueue

variable {queue : WorkQueue}

private theorem enqueue_new_works {key : NamespacedName} (priority : Int) (now : Time)
    (unknown : queue.itemsMap key = none) :
    (queue.enqueue key priority now).works =
      Function.update queue.works queue.allocated (.new key priority now) := by
  unfold enqueue
  rw [unknown]
  refine (heapPush_rearranged _ _).works.trans ?_
  exact setItem_work _ _ _

private theorem enqueue_raised_works {key : NamespacedName} {priority : Int} (now : Time)
    {existing : ItemRef} (known : queue.itemsMap key = some existing)
    (higher : (queue.memory existing).priority < priority) :
    (queue.enqueue key priority now).works =
      Function.update queue.works existing { queue.works existing with priority := priority } := by
  unfold enqueue
  rw [known]
  dsimp only
  rw [if_pos higher]
  refine (heapFix_reorders _ _).1.works.trans ?_
  exact setItem_work _ _ _

private theorem enqueue_ignored {key : NamespacedName} {priority : Int} {now : Time}
    {existing : ItemRef}
    (known : queue.itemsMap key = some existing)
    (lower : priority ≤ (queue.memory existing).priority) :
    queue.enqueue key priority now = queue := by
  unfold enqueue
  rw [known]
  dsimp only
  rw [if_neg (Int.not_lt.mpr lower)]

private theorem withoutRoot_works (queue : WorkQueue) (ref : ItemRef) :
    (queue.withoutRoot ref).works = queue.works :=
  (heapPop_rearranged queue).works

/-- `Requeue` makes of an item what the backlog does. -/
theorem retryItem_work (queue : WorkQueue) (item : WorkItem) (now : Time) :
    (queue.retryItem item now).map WorkItem.work = item.work.retry queue.pace now := by
  have retries := retryItem_retry queue item now
  generalize queue.retryItem item now = result at retries ⊢
  unfold Work.retry
  cases retries with
  | backoff within => exact (if_pos within).symm
  | cooldown beyond more => exact ((if_neg (Int.not_le.mpr beyond)).trans (if_neg more)).symm
  | givenUp beyond spent => exact ((if_neg (Int.not_le.mpr beyond)).trans (if_pos spent)).symm

private theorem requeue_works_retried {ref : ItemRef} {now : Time} {retried : WorkItem}
    (again : queue.retryItem (queue.memory ref) now = some retried) :
    (queue.requeue ref now).works = Function.update queue.works ref retried.work := by
  unfold requeue
  dsimp only
  rw [again]
  refine (heapPush_rearranged _ _).works.trans ?_
  exact setItem_work _ _ _

private theorem requeue_works_givenUp {ref : ItemRef} {now : Time}
    (spent : queue.retryItem (queue.memory ref) now = none) :
    (queue.requeue ref now).works = Function.update queue.works ref
      { queue.works ref with retryCount := (queue.works ref).retryCount + 1 } := by
  unfold requeue
  dsimp only
  rw [spent]
  exact setItem_work _ _ _

end WorkQueue

namespace Session

variable {session next : Session}

private theorem waiting_of_perm {before after : WorkQueue}
    (items : after.items.toList.Perm before.items.toList) :
    after.items.toList.toFinset = before.items.toList.toFinset :=
  List.toFinset_eq_of_perm _ _ items

theorem waiting_of_perm_cons {before after : WorkQueue} {ref : ItemRef}
    (items : after.items.toList.Perm (ref :: before.items.toList)) :
    after.items.toList.toFinset = insert ref before.items.toList.toFinset :=
  (List.toFinset_eq_of_perm _ _ items).trans List.toFinset_cons

private theorem waiting_erased {before after : WorkQueue} {ref : ItemRef}
    (once : before.items.toList.Nodup)
    (items : (ref :: after.items.toList).Perm before.items.toList) :
    after.items.toList.toFinset = before.items.toList.toFinset.erase ref := by
  have away : ref ∉ after.items.toList := (List.nodup_cons.mp (items.nodup_iff.mpr once)).1
  rw [waiting_of_perm_cons items.symm, Finset.erase_insert]
  exact fun member => away (List.mem_toFinset.mp member)

private theorem enqueue_follows (session : Session) (key : NamespacedName) (priority : Int)
    (now : Time) :
    Backlog.Next session.backlog (.enqueue key priority now)
      { session with queue := session.queue.enqueue key priority now : Session }.backlog := by
  have sameSettings := session.queue.enqueue_settings key priority now
  have samePace := WorkQueue.pace_of_settings sameSettings
  have sameClosed := congrArg WorkQueue.Settings.shutdown sameSettings
  cases known : session.queue.itemsMap key with
  | none =>
      have spec := WorkQueue.enqueue_new session.queue key priority now known
      refine (Backlog.Next.added key priority now known).to ?_
      exact Backlog.ext (waiting_of_perm_cons spec.items)
        (WorkQueue.enqueue_new_works priority now known)
        (spec.itemsMap.trans (setKey_eq_update _ _ _)) rfl spec.allocated samePace sameClosed
  | some existing =>
      have spec := WorkQueue.enqueue_existing session.queue key priority now existing known
      by_cases higher : (session.queue.memory existing).priority < priority
      · refine (Backlog.Next.raised key priority now existing known higher).to ?_
        exact Backlog.ext (waiting_of_perm spec.items)
          (WorkQueue.enqueue_raised_works now known higher) spec.itemsMap rfl spec.allocated
          samePace sameClosed
      · have lower := Int.not_lt.mp higher
        rw [WorkQueue.enqueue_ignored known lower]
        exact .ignored key priority now existing known lower

/-! The root of the heap is an item that the backlog may hand out. -/

private theorem first_of_root (arranged : session.queue.Arranged) {ref : ItemRef}
    (root : session.queue.items[0]? = some ref) : session.backlog.First ref where
  waits := List.mem_toFinset.mpr (Array.mem_toList_iff.mpr (Array.mem_of_getElem? root))
  first := by
    intro other waits before
    have notLess := arranged.root_first root other (List.mem_toFinset.mp waits)
    rw [(itemLess_iff_before _ _).mpr before] at notLess
    cases notLess

private theorem dequeue_decides (arranged : session.queue.Arranged) (now : Time) :
    session.backlog.Decides now (session.queue.dequeue now).decision := by
  cases closed : session.queue.shutdown with
  | true =>
      have stopped : session.queue.dequeue now = .stopped := if_pos closed
      rw [stopped]
      exact .stop closed
  | false =>
      have turns := WorkQueue.dequeue_turns session.queue now
      generalize session.queue.dequeue now = turn at turns ⊢
      cases turns with
      | stopped shut => rw [closed] at shut; cases shut
      | wait isEmpty =>
          refine .wait closed ?_
          have noItems : session.queue.items = #[] :=
            Array.eq_empty_of_size_eq_zero (Nat.le_zero.mp (Array.getElem?_eq_none_iff.mp isEmpty))
          unfold backlog
          rw [noItems]
          rfl
      | waitUntil ref root early => exact .waitUntil closed ref (first_of_root arranged root) early
      | take ref root due => exact .take closed ref (first_of_root arranged root) due

/-- A turn hands the root to a free worker, or it changes nothing. -/
theorem turn_cases {worker : Nat} {now : Time} (taken : session.turn worker now = some next) :
    session.held worker = none ∧
      ((∃ ref rest, session.queue.dequeue now = .take ref rest ∧
          next = { queue := rest, held := setHeld session.held worker (some ref) }) ∨
        next = session ∧ ∀ ref, (session.queue.dequeue now).decision ≠ .take ref) := by
  unfold turn at taken
  cases free : session.held worker with
  | some ref => rw [free] at taken; cases taken
  | none =>
      refine ⟨rfl, ?_⟩
      rw [free] at taken
      cases hands : session.queue.dequeue now with
      | take ref rest =>
          rw [hands] at taken
          exact .inl ⟨ref, rest, rfl, (Option.some.inj taken).symm⟩
      | _ =>
          rw [hands] at taken
          exact .inr ⟨(Option.some.inj taken).symm, fun _ => Decision.noConfusion⟩

private theorem turn_follows (arranged : session.queue.Arranged) {worker : Nat} {now : Time}
    (taken : session.turn worker now = some next) :
    Backlog.Next session.backlog (.turn worker now (session.queue.dequeue now).decision)
      next.backlog := by
  have decides := dequeue_decides arranged now
  obtain ⟨free, ⟨ref, rest, hands, rfl⟩ | ⟨rfl, nothing⟩⟩ := turn_cases taken
  · rw [hands] at decides ⊢
    have spec := WorkQueue.dequeue_take _ _ _ _ hands
    have sameSettings := (WorkQueue.dequeue_settings _ _ _ _ hands).1
    refine (Backlog.Next.taken worker now ref free decides).to ?_
    refine Backlog.ext (waiting_erased arranged.once spec.items) ?_
      (spec.itemsMap.trans (setKey_eq_update _ _ _)) (setHeld_eq_update _ _ _)
      spec.allocated (WorkQueue.pace_of_settings sameSettings)
      (congrArg WorkQueue.Settings.shutdown sameSettings)
    obtain ⟨_root, _due, rfl⟩ := WorkQueue.dequeue_withoutRoot hands
    exact WorkQueue.withoutRoot_works _ _
  · exact .idle worker now _ free decides nothing

private theorem requeue_follows {worker : Nat} {ref : ItemRef} (now : Time)
    (holds : session.held worker = some ref) :
    Backlog.Next session.backlog (.requeue worker now)
      { queue := session.queue.requeue ref now
        held := setHeld session.held worker none : Session }.backlog := by
  have sameSettings := session.queue.requeue_settings ref now
  have samePace := WorkQueue.pace_of_settings sameSettings
  have sameClosed := congrArg WorkQueue.Settings.shutdown sameSettings
  have sameRetry := WorkQueue.retryItem_work session.queue (session.queue.memory ref) now
  cases again : session.queue.retryItem (session.queue.memory ref) now with
  | none =>
      rw [again] at sameRetry
      have spec := WorkQueue.requeue_givenUp session.queue ref now
        (by rw [WorkQueue.retries, again]; rfl)
      refine (Backlog.Next.givenUp worker now ref holds sameRetry.symm).to ?_
      exact Backlog.ext (congrArg (fun items => items.toList.toFinset) spec.items)
        (WorkQueue.requeue_works_givenUp again) spec.itemsMap (setHeld_eq_update _ _ _)
        spec.allocated samePace sameClosed
  | some retried =>
      rw [again] at sameRetry
      have spec := WorkQueue.requeue_putBack session.queue ref now
        (by rw [WorkQueue.retries, again]; rfl)
      have sameKey := WorkQueue.retryItem_key _ _ _ _ again
      refine (Backlog.Next.retried worker now ref retried.work holds sameRetry.symm).to ?_
      refine Backlog.ext (waiting_of_perm_cons spec.items)
        (WorkQueue.requeue_works_retried again) ?_ (setHeld_eq_update _ _ _)
        spec.allocated samePace sameClosed
      exact spec.itemsMap.trans ((setKey_eq_update _ _ _).trans
        (congrArg (Function.update _ · _) sameKey.symm))

theorem enter_sound (session : Session) (entered : Section) (next : Session)
    (sound : session.Valid ∧ session.queue.Arranged)
    (taken : session.enter entered = some next) : next.Valid ∧ next.queue.Arranged := by
  have stepped (operation : Operation) (taken : session.step operation = some next) :
      next.Valid ∧ next.queue.Arranged :=
    ⟨step_valid _ _ _ sound.1 taken, step_arranged _ _ _ sound.1 sound.2 taken⟩
  cases entered with
  | enqueue key priority now => exact stepped (.enqueue key priority now) taken
  | turn worker now =>
      obtain ⟨free, ⟨ref, rest, hands, rfl⟩ | ⟨rfl, _⟩⟩ := turn_cases taken
      · refine stepped (.dequeue worker now) ?_
        simp only [step, free, hands]
      · exact sound
  | requeue worker now => exact stepped (.requeue worker now) taken
  | done worker => exact stepped (.done worker) taken
  | shutdown =>
      cases taken
      exact ⟨sound.1.rearranged rfl (.refl _) (fun _ => rfl) rfl rfl,
        sound.2.congr rfl (fun _ _ => rfl)⟩

theorem enter_next (session : Session) (entered : Section) (next : Session)
    (arranged : session.queue.Arranged) (taken : session.enter entered = some next) :
    Backlog.Next session.backlog (session.action entered) next.backlog := by
  cases entered with
  | enqueue key priority now =>
      cases taken
      exact enqueue_follows session key priority now
  | turn worker now => exact turn_follows arranged taken
  | requeue worker now =>
      obtain ⟨ref, holds, rfl⟩ := step_requeue taken
      exact requeue_follows now holds
  | done worker =>
      obtain ⟨ref, holds, rfl⟩ := Option.map_eq_some_iff.mp taken
      exact (Backlog.Next.finished worker ref holds).to
        (Backlog.ext rfl rfl rfl (setHeld_eq_update _ _ _) rfl rfl rfl)
  | shutdown =>
      cases taken
      exact .closes

theorem refines_backlog :
    Refines enter Backlog.Next (fun session => session.Valid ∧ session.queue.Arranged) backlog
      shows where
  preserved := enter_sound
  follows := fun session entered next sound taken =>
    .single (enter_next session entered next sound.2 taken)

/-- Every interleaving of the callers and the workers is a history of the backlog. -/
theorem enter_performs (maxRetries initialDelay maxDelay maxCycles : Int) (sections : List Section)
    (final : Session)
    (isRun : run enter (start maxRetries initialDelay maxDelay maxCycles) sections = some final) :
    Performs Backlog.Next
      (Backlog.empty (newWorkQueueWithConfig maxRetries initialDelay maxDelay maxCycles).pace)
      (shown enter shows (start maxRetries initialDelay maxDelay maxCycles) sections)
      final.backlog :=
  refines_backlog.performs ⟨start_valid _ _ _ _, start_arranged _ _ _ _⟩ isRun

/-- The second template waits behind a failed one, whose priority is raised. -/
def raisedWhileFailing : List Section :=
  [.enqueue ⟨"team-a", "web"⟩ 0 0, .turn 0 0, .enqueue ⟨"team-a", "api"⟩ 0 1, .requeue 0 2,
    .enqueue ⟨"team-a", "web"⟩ 5 3, .turn 1 4, .turn 1 1000000002, .turn 2 1000000003, .done 1,
    .shutdown, .turn 1 1000000004]

theorem raisedWhileFailing_performs :
    ∃ final,
      run enter (start 5 1000000000 300000000000 3) raisedWhileFailing = some final ∧
      Performs Backlog.Next
        (Backlog.empty (newWorkQueueWithConfig 5 1000000000 300000000000 3).pace)
        [.enqueue ⟨"team-a", "web"⟩ 0 0, .turn 0 0 (.take 0), .enqueue ⟨"team-a", "api"⟩ 0 1,
          .requeue 0 2, .enqueue ⟨"team-a", "web"⟩ 5 3, .turn 1 4 (.waitUntil 1000000002),
          .turn 1 1000000002 (.take 0), .turn 2 1000000003 (.take 1), .done 1, .shutdown,
          .turn 1 1000000004 .stop] final.backlog := by
  have shownAs : shown enter shows (start 5 1000000000 300000000000 3) raisedWhileFailing =
      [.enqueue ⟨"team-a", "web"⟩ 0 0, .turn 0 0 (.take 0), .enqueue ⟨"team-a", "api"⟩ 0 1,
        .requeue 0 2, .enqueue ⟨"team-a", "web"⟩ 5 3, .turn 1 4 (.waitUntil 1000000002),
        .turn 1 1000000002 (.take 0), .turn 2 1000000003 (.take 1), .done 1, .shutdown,
        .turn 1 1000000004 .stop] := by
    decide +kernel
  have ends : (run enter (start 5 1000000000 300000000000 3) raisedWhileFailing).isSome = true := by
    decide +kernel
  obtain ⟨final, isRun⟩ := Option.isSome_iff_exists.mp ends
  refine ⟨final, isRun, ?_⟩
  rw [← shownAs]
  exact enter_performs 5 1000000000 300000000000 3 raisedWhileFailing final isRun

end Session

end KubeTemplater.Queue
