/-
The gauge of items in flight.

`Dequeue` raises it and `Requeue` and `Done` lower it, but the exit of `Requeue`
that gives an item up lowers it twice.  The gauge is right in every state of a
run exactly when no item is given up.
-/

import Mathlib.Data.Finset.Card
import KubeTemplater.Queue.Session

namespace KubeTemplater.Queue

open Library

namespace WorkQueue

private theorem enqueue_gauge (queue : WorkQueue) (key : NamespacedName) (priority : Int)
    (now : Time) :
    (queue.enqueue key priority now).metrics.processingItems = queue.metrics.processingItems := by
  unfold enqueue
  split
  · dsimp only
    split
    · rw [(heapFix_reorders _ _).1.metrics]
    · rfl
  · dsimp only
    rw [(heapPush_rearranged _ _).metrics]

private theorem withoutRoot_gauge (queue : WorkQueue) (ref : ItemRef) :
    (queue.withoutRoot ref).metrics.processingItems = queue.metrics.processingItems + 1 := by
  unfold withoutRoot
  dsimp only
  rw [(heapPop_rearranged queue).metrics]

private theorem requeue_gauge (queue : WorkQueue) (ref : ItemRef) (now : Time) :
    (queue.requeue ref now).metrics.processingItems =
      queue.metrics.processingItems - if queue.retries ref now then 1 else 2 := by
  unfold requeue retries
  dsimp only
  split
  · rename_i exhausted
    rw [exhausted]
    exact Int.sub_sub _ 1 1
  · rename_i retried again
    rw [again]
    dsimp only
    rw [(heapPush_rearranged _ _).metrics]
    rfl

end WorkQueue

namespace Session

def Busy (session : Session) (busy : Finset Nat) : Prop :=
  ∀ worker, worker ∈ busy ↔ (session.held worker).isSome = true

def GaugeRight (session : Session) : Prop :=
  ∃ busy, session.Busy busy ∧ session.queue.metrics.processingItems = busy.card ∧
    0 ≤ session.queue.metrics.processingItems

theorem Busy.unique {session : Session} {busy other : Finset Nat} (one : session.Busy busy)
    (two : session.Busy other) : busy = other := by
  ext worker
  rw [one worker, two worker]

theorem Busy.taken {session : Session} {busy : Finset Nat} {worker : Nat}
    (known : session.Busy busy) (free : session.held worker = none) (ref : ItemRef)
    (queue : WorkQueue) :
    Busy { queue := queue, held := setHeld session.held worker (some ref) }
        (insert worker busy) ∧
      (insert worker busy).card = busy.card + 1 := by
  have idle : worker ∉ busy := by
    rw [known worker, free]
    exact Bool.false_ne_true
  refine ⟨?_, Finset.card_insert_of_notMem idle⟩
  intro other
  rw [Finset.mem_insert, known other]
  dsimp only
  by_cases same : other = worker
  · rw [same, setHeld_self]
    exact iff_of_true (.inl rfl) rfl
  · rw [setHeld_other _ _ _ _ same]
    exact or_iff_right same

theorem Busy.passedOn {session : Session} {busy : Finset Nat} {worker : Nat} {ref : ItemRef}
    (known : session.Busy busy) (holds : session.held worker = some ref) (queue : WorkQueue) :
    Busy { queue := queue, held := setHeld session.held worker none } (busy.erase worker) ∧
      (busy.erase worker).card + 1 = busy.card := by
  have member : worker ∈ busy := by
    rw [known worker, holds]
    rfl
  refine ⟨?_, Finset.card_erase_add_one member⟩
  intro other
  rw [Finset.mem_erase, known other]
  dsimp only
  by_cases same : other = worker
  · rw [same, setHeld_self]
    exact iff_of_false (fun both => both.1 rfl) Bool.false_ne_true
  · rw [setHeld_other _ _ _ _ same]
    exact and_iff_right same

def KeepsItem (session : Session) : Operation → Prop
  | .requeue worker now => ∀ ref, session.held worker = some ref →
      session.queue.retries ref now = true
  | _ => True

private theorem start_gaugeRight (maxRetries initialDelay maxDelay maxCycles : Int) :
    (start maxRetries initialDelay maxDelay maxCycles).GaugeRight := by
  refine ⟨∅, ?_, rfl, Int.le_refl 0⟩
  intro worker
  exact iff_of_false (Finset.notMem_empty worker) Bool.false_ne_true

private theorem step_gaugeRight (session : Session) (operation : Operation) (next : Session)
    (right : session.GaugeRight) (keeps : session.KeepsItem operation)
    (taken : session.step operation = some next) : next.GaugeRight := by
  obtain ⟨busy, known, count, _nonnegative⟩ := right
  cases operation with
  | enqueue key priority now =>
      cases taken
      refine ⟨busy, known, ?_⟩
      dsimp only
      rw [WorkQueue.enqueue_gauge]
      omega
  | dequeue worker now =>
      obtain ⟨ref, rest, free, hands, rfl⟩ := step_hands taken
      obtain ⟨nowBusy, card⟩ := known.taken free ref rest
      obtain ⟨_root, _due, rfl⟩ := WorkQueue.dequeue_withoutRoot hands
      refine ⟨_, nowBusy, ?_⟩
      dsimp only
      rw [WorkQueue.withoutRoot_gauge, card]
      omega
  | requeue worker now =>
      obtain ⟨ref, holds, rfl⟩ := step_requeue taken
      obtain ⟨stillBusy, card⟩ := known.passedOn holds (session.queue.requeue ref now)
      refine ⟨_, stillBusy, ?_⟩
      dsimp only
      rw [WorkQueue.requeue_gauge, keeps ref holds, if_pos rfl]
      omega
  | done worker =>
      obtain ⟨ref, holds, rfl⟩ := Option.map_eq_some_iff.mp taken
      obtain ⟨stillBusy, card⟩ := known.passedOn holds session.queue.done
      refine ⟨_, stillBusy, ?_⟩
      dsimp only [WorkQueue.done]
      omega

/-- After a give-up the gauge is one too low. -/
theorem step_gauge_givenUp (session : Session) (operation : Operation)
    (right : session.GaugeRight) (gives : ¬ session.KeepsItem operation) :
    ∃ next, session.step operation = some next ∧ ¬ next.GaugeRight := by
  obtain ⟨busy, known, count, _nonnegative⟩ := right
  cases operation with
  | requeue worker now =>
      simp only [KeepsItem, not_forall, Bool.not_eq_true] at gives
      obtain ⟨ref, holds, exhausted⟩ := gives
      refine ⟨{ queue := session.queue.requeue ref now
                held := setHeld session.held worker none }, ?_, ?_⟩
      · simp only [step, holds, Option.map_some]
      · rintro ⟨others, alsoBusy, wrong, _⟩
        obtain ⟨stillBusy, card⟩ := known.passedOn holds (session.queue.requeue ref now)
        rw [alsoBusy.unique stillBusy] at wrong
        dsimp only at wrong
        rw [WorkQueue.requeue_gauge, exhausted, if_neg Bool.false_ne_true] at wrong
        omega
  | _ => exact absurd trivial gives

private theorem gaugeRight_iff_of_right (operations : List Operation) (session : Session)
    (right : session.GaugeRight) :
    Throughout step GaugeRight session operations ↔ Along step KeepsItem session operations := by
  induction operations generalizing session with
  | nil => exact iff_of_true right trivial
  | cons operation rest ih =>
      by_cases keeps : session.KeepsItem operation
      · constructor
        · intro throughout
          refine ⟨keeps, ?_⟩
          intro next taken
          exact (ih next (step_gaugeRight _ _ _ right keeps taken)).mp (throughout.2 next taken)
        · intro along
          refine ⟨right, ?_⟩
          intro next taken
          exact (ih next (step_gaugeRight _ _ _ right keeps taken)).mpr (along.2 next taken)
      · obtain ⟨next, taken, wrong⟩ := step_gauge_givenUp session operation right keeps
        exact iff_of_false (fun throughout => wrong (throughout.2 next taken).head)
          (fun along => keeps along.1)

/-- In every run the gauge is the number of items in flight, and so never negative,
in all its states exactly when no `Requeue` gives its item up. -/
theorem gaugeRight_iff_keeps_items (maxRetries initialDelay maxDelay maxCycles : Int)
    (operations : List Operation) :
    Throughout step GaugeRight (start maxRetries initialDelay maxDelay maxCycles) operations ↔
      Along step KeepsItem (start maxRetries initialDelay maxDelay maxCycles) operations :=
  gaugeRight_iff_of_right operations _ (start_gaugeRight _ _ _ _)

/-- One retry and one cycle: the fourth failure of the only template is the last. -/
def givingUp : List Operation :=
  [.enqueue ⟨"team-a", "web"⟩ 0 0,
    .dequeue 0 0, .requeue 0 0,
    .dequeue 0 60000000000, .requeue 0 60000000000,
    .dequeue 0 120000000000, .requeue 0 120000000000,
    .dequeue 0 180000000000, .requeue 0 180000000000]

theorem givenUp_gauge_negative :
    ∃ final, run step (start 1 1000000000 60000000000 1) givingUp = some final ∧
      (∀ worker, final.held worker = none) ∧ final.queue.metrics.processingItems = -1 ∧
        ¬ final.GaugeRight := by
  refine ⟨_, rfl, ?_, by decide +kernel, ?_⟩
  · intro worker
    by_cases first : worker = 0
    · rw [first]
      rfl
    · simp only [setHeld, if_neg first]
      rfl
  · rintro ⟨_busy, _known, _count, nonnegative⟩
    revert nonnegative
    decide +kernel

end Session

end KubeTemplater.Queue
