/-
Which ready items `Dequeue` hands out.

The heap is ordered by priority first, and `Dequeue` looks at its root only.  An
item in backoff that outranks the others hides every item that is ready: the
caller waits although there is work.
-/

import KubeTemplater.Queue.HeapInvariant
import KubeTemplater.Queue.Attempts

namespace KubeTemplater.Queue.Session

open Library

def Ready (session : Session) (now : Time) (ref : ItemRef) : Prop :=
  ref ∈ session.queue.items.toList ∧ (session.queue.memory ref).scheduledAt ≤ now

/-- When an item is ready, `Dequeue` returns one without waiting, and no ready item has
a higher priority. -/
def ServesReady (session : Session) (now : Time) : Prop :=
  (∃ ref, session.Ready now ref) →
    ∃ ref after, session.queue.dequeue now = .take ref after ∧ session.Ready now ref ∧
      ∀ other, session.Ready now other →
        (session.queue.memory other).priority ≤ (session.queue.memory ref).priority

def TopReady (session : Session) (now : Time) : Prop :=
  (∃ ref, session.Ready now ref) →
    ∃ ref, session.Ready now ref ∧
      ∀ other, other ∈ session.queue.items.toList →
        (session.queue.memory other).priority ≤ (session.queue.memory ref).priority

private theorem priority_le_of_not_before {left right : WorkItem}
    (after : itemLess left right = false) :
    left.priority ≤ right.priority := by
  rcases (itemLess_eq_false_iff left right).mp after with lower | ⟨same, _later⟩
  · exact Int.le_of_lt lower
  · exact Int.le_of_eq same

private theorem root_due {session : Session} (arranged : session.queue.Arranged) {now : Time}
    {root top : ItemRef} (isRoot : session.queue.items[0]? = some root)
    (ready : session.Ready now top)
    (highest : ∀ other, other ∈ session.queue.items.toList →
      (session.queue.memory other).priority ≤ (session.queue.memory top).priority) :
    (session.queue.memory root).scheduledAt ≤ now := by
  have queued : root ∈ session.queue.items.toList :=
    Array.mem_toList_iff.mpr (Array.mem_of_getElem? isRoot)
  have first := arranged.root_first isRoot top ready.1
  rcases (itemLess_eq_false_iff _ _).mp first with lower | ⟨_same, earlier⟩
  · exact absurd (highest root queued) (Int.not_le.mpr lower)
  · exact Int.le_trans earlier ready.2

private theorem servesReady_of_topReady {session : Session} (arranged : session.queue.Arranged)
    (isOpen : session.queue.shutdown = false) {now : Time} (topReady : session.TopReady now) :
    session.ServesReady now := by
  intro some
  obtain ⟨top, ready, highest⟩ := topReady some
  have nonempty : 0 < session.queue.items.size := by
    obtain ⟨i, inside, _index, _found⟩ := arranged.position ready.1
    omega
  have isRoot := Array.getElem?_eq_getElem nonempty
  have due := root_due arranged isRoot ready highest
  obtain ⟨after, takes⟩ := WorkQueue.dequeue_due session.queue now _ isOpen isRoot due
  refine ⟨_, after, takes, ⟨?_, due⟩, ?_⟩
  · exact Array.mem_toList_iff.mpr (Array.mem_of_getElem? isRoot)
  · intro other alsoReady
    exact priority_le_of_not_before (arranged.root_first isRoot other alsoReady.1)

private theorem topReady_of_servesReady {session : Session} (arranged : session.queue.Arranged)
    {now : Time} (serves : session.ServesReady now) : session.TopReady now := by
  intro some
  obtain ⟨ref, after, takes, ready, _highest⟩ := serves some
  refine ⟨ref, ready, ?_⟩
  intro other queued
  have least := (WorkQueue.dequeue_minimal _ after now ref arranged takes).2
  exact priority_le_of_not_before (least other queued)

private theorem call_shutdown {session next : Session} {operation : Operation}
    (taken : session.call operation = some next) :
    next.queue.shutdown = session.queue.shutdown := by
  cases operation with
  | done worker =>
      cases taken
      rfl
  | enqueue key priority now => exact @step_shutdown _ _ (.enqueue key priority now) taken
  | dequeue worker now => exact @step_shutdown _ _ (.dequeue worker now) taken
  | requeue worker now => exact @step_shutdown _ _ (.requeue worker now) taken

/-- In every state of every run and at every time, no ready item is held back exactly
when an item of the highest queued priority is ready as soon as any item is. -/
theorem servesReady_iff_topReady (maxRetries initialDelay maxDelay maxCycles : Int)
    (operations : List Operation) :
    Throughout call (fun session => ∀ now, session.ServesReady now ↔ session.TopReady now)
      (start maxRetries initialDelay maxDelay maxCycles) operations := by
  have sound := throughout_of_preserved call
    (fun session => (session.Valid ∧ session.queue.Arranged) ∧ session.queue.shutdown = false)
    (fun session operation next holds taken =>
      ⟨call_valid_arranged session operation next holds.1 taken,
        (call_shutdown taken).trans holds.2⟩)
    (start maxRetries initialDelay maxDelay maxCycles) operations
    ⟨⟨start_valid _ _ _ _, start_arranged _ _ _ _⟩, rfl⟩
  apply sound.mono
  rintro session ⟨⟨_valid, arranged⟩, isOpen⟩ now
  exact ⟨topReady_of_servesReady arranged, servesReady_of_topReady arranged isOpen⟩

/-- A template of high priority fails and backs off, then one of low priority comes. -/
def outranked : List Operation :=
  [.enqueue ⟨"team-a", "web"⟩ 10 0, .dequeue 0 0, .requeue 0 0, .enqueue ⟨"team-a", "api"⟩ 0 5]

/-- The second template is ready at once, and `Dequeue` waits for the first. -/
theorem outranked_held_back :
    ∃ final, run call (start 5 1000000000 300000000000 3) outranked = some final ∧
      (∃ ref, final.Ready 5 ref) ∧ final.queue.dequeue 5 = .waitUntil 1000000000 ∧
        ¬ final.ServesReady 5 := by
  refine ⟨_, rfl, ⟨1, by decide, by decide⟩, rfl, ?_⟩
  intro serves
  obtain ⟨ref, after, takes, _ready⟩ := serves ⟨1, by decide, by decide⟩
  cases takes

end KubeTemplater.Queue.Session
