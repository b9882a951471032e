/-
How often the worker loop processes an item that fails every time.

Two give-up tests look at the same two counters: the worker's, before it hands
the item back, and the one in `Requeue`.  The worker's comes first and is the
weaker of the two, so the one in `Requeue` never decides.  An item whose
processing always fails is therefore put back after each failure until its
cycles are used up, and then paused.

A turn of the loop starts with `Dequeue` and ends with `Requeue` or `Done`; in
between anything may happen to the queue, and the calls of the turn may be
answered in any way.
-/

import KubeTemplater.Queue.Attempts
import KubeTemplater.Queue.Conservation
import KubeTemplater.Reference
import KubeTemplater.Worker.TemplateProcessor
import Mathlib.Logic.Function.Basic

namespace KubeTemplater.Worker

open Library Library.Program Queue

/-- The answers to the calls of a turn; each may depend on all that went before. -/
abbrev Answers := (request : Call) → List (Exchange client) → request.Answer

def recording (answers : Answers) (request : Call) (history : List (Exchange client)) :
    request.Answer × List (Exchange client) :=
  (answers request history, history ++ [⟨request, answers request history⟩])

structure Loop where
  ledger : Ledger
  /-- How many turns on an item have ended. -/
  processed : ItemRef → Nat

namespace Loop

inductive Label where
  | enqueue (key : NamespacedName) (priority : Int) (now : Time)
  | dequeue (worker : Nat) (now : Time)
  | finish (worker : Nat) (now : Time) (answers : Answers)

def start (maxRetries initialDelay maxDelay maxCycles : Int) : Loop :=
  { ledger := Ledger.start maxRetries initialDelay maxDelay maxCycles
    processed := fun _ => 0 }

abbrev queue (loop : Loop) : WorkQueue := loop.ledger.session.queue

abbrev held (loop : Loop) : Nat → Option ItemRef := loop.ledger.session.held

def turnEnd (worker : Nat) (now : Time) : Disposition → Operation
  | .done => .done worker
  | .requeue _ => .requeue worker now

section

variable (platform : Platform) (operatorNamespace : String)

def failure (queue : WorkQueue) (ref : ItemRef) (answers : Answers) : Option GoError :=
  (runWith (recording answers) (processItem platform operatorNamespace (queue.key ref)) []).1

def disposition (queue : WorkQueue) (ref : ItemRef) (answers : Answers) : Disposition :=
  (runWith (recording answers)
    (handleItem platform operatorNamespace queue.maxRetryCycles (queue.memory ref)) []).1

def step (loop : Loop) : Label → Option Loop
  | .enqueue key priority now =>
      (loop.ledger.step (.enqueue key priority now)).map (fun next => { loop with ledger := next })
  | .dequeue worker now =>
      (loop.ledger.step (.dequeue worker now)).map (fun next => { loop with ledger := next })
  | .finish worker now answers =>
      (loop.held worker).bind (fun ref =>
        (loop.ledger.step (turnEnd worker now
            (disposition platform operatorNamespace loop.queue ref answers))).map (fun next =>
          { ledger := next
            processed := Function.update loop.processed ref (loop.processed ref + 1) }))

private theorem succ_cooldown (retries count : Nat) (last : count % (retries + 1) = retries) :
    (count + 1) / (retries + 1) = count / (retries + 1) + 1 ∧
      (count + 1) % (retries + 1) = 0 := by
  have parts := Nat.div_add_mod count (retries + 1)
  have positive : 0 < retries + 1 := Nat.zero_lt_succ retries
  refine (Nat.div_mod_unique positive).mpr ⟨?_, positive⟩
  rw [Nat.zero_add, Nat.mul_add, Nat.mul_one]
  omega

private theorem succ_backoff (retries count : Nat) (inner : count % (retries + 1) ≠ retries) :
    (count + 1) / (retries + 1) = count / (retries + 1) ∧
      (count + 1) % (retries + 1) = count % (retries + 1) + 1 := by
  have parts := Nat.div_add_mod count (retries + 1)
  have positive : 0 < retries + 1 := Nat.zero_lt_succ retries
  have bound : count % (retries + 1) < retries + 1 := Nat.mod_lt count positive
  refine (Nat.div_mod_unique positive).mpr ⟨?_, ?_⟩
  · omega
  · omega

def countersAfter (retries count : Nat) : Int × Int :=
  ((count % (retries + 1) : Nat), (count / (retries + 1) : Nat))

def delayAfter (queue : WorkQueue) (retries count : Nat) : Int :=
  if count % (retries + 1) = 0 then queue.maxRetryDelay
  else queue.backoffDelay (count % (retries + 1) : Nat)

private theorem retryItem_counters (queue : WorkQueue) (item : WorkItem) (now : Time)
    (retries count : Nat) (limit : queue.maxRetries = retries)
    (counters : (item.retryCount, item.retryCycle) = countersAfter retries count)
    (more : ¬ (0 < queue.maxRetryCycles ∧ queue.maxRetryCycles ≤ item.retryCycle)) :
    ∃ retried, queue.retryItem item now = some retried ∧
      (retried.retryCount, retried.retryCycle) = countersAfter retries (count + 1) ∧
      retried.scheduledAt = now + delayAfter queue retries (count + 1) := by
  obtain ⟨isCount, isCycle⟩ := Prod.mk.inj counters
  unfold WorkQueue.retryItem countersAfter delayAfter
  dsimp only
  by_cases last : count % (retries + 1) = retries
  · obtain ⟨next, reset⟩ := succ_cooldown retries count last
    rw [if_pos (by omega), if_neg more, reset, next]
    refine ⟨_, rfl, ?_, rfl⟩
    dsimp only
    rw [isCycle]
    rfl
  · obtain ⟨same, next⟩ := succ_backoff retries count last
    have bound : count % (retries + 1) < retries + 1 :=
      Nat.mod_lt count (Nat.zero_lt_succ retries)
    rw [if_neg (by omega), next, same, if_neg (Nat.succ_ne_zero _)]
    refine ⟨_, rfl, ?_, ?_⟩
    · dsimp only
      rw [isCount, isCycle]
      rfl
    · dsimp only
      rw [isCount]
      rfl

/-- The calls of the turn are those of `processItem`, which fails, and then those
of the pause branch. -/
def TakesPauseBranch (queue : WorkQueue) (ref : ItemRef) (answers : Answers) : Prop :=
  ∃ err, failure platform operatorNamespace queue ref answers = some err ∧
    traceWith (recording answers)
        (handleItem platform operatorNamespace queue.maxRetryCycles (queue.memory ref)) [] =
      traceWith (recording answers) (processItem platform operatorNamespace (queue.key ref)) [] ++
        traceWith (recording answers) (pauseTemplate queue.maxRetryCycles (queue.key ref) err)
          (runWith (recording answers)
            (processItem platform operatorNamespace (queue.key ref)) []).2

private theorem handleItem_failed (queue : WorkQueue) (ref : ItemRef) (answers : Answers)
    (err : GoError)
    (failed : failure platform operatorNamespace queue ref answers = some err) :
    (0 < queue.maxRetryCycles ∧ queue.maxRetryCycles ≤ (queue.memory ref).retryCycle →
      disposition platform operatorNamespace queue ref answers = .done ∧
        TakesPauseBranch platform operatorNamespace queue ref answers) ∧
    (¬ (0 < queue.maxRetryCycles ∧ queue.maxRetryCycles ≤ (queue.memory ref).retryCycle) →
      disposition platform operatorNamespace queue ref answers = .requeue err) := by
  unfold failure WorkQueue.key at failed
  constructor
  · intro exhausted
    constructor
    · unfold disposition handleItem
      rw [runWith_bind, failed]
      dsimp only
      rw [if_pos exhausted, runWith_bind]
      rfl
    · refine ⟨err, failed, ?_⟩
      unfold handleItem
      rw [traceWith_bind, failed]
      dsimp only
      rw [if_pos exhausted, traceWith_bind]
      exact congrArg (_ ++ ·) (List.append_nil _)
  · intro more
    unfold disposition handleItem
    rw [runWith_bind, failed]
    dsimp only
    rw [if_neg more]
    rfl

theorem ledger_step {ledger next : Ledger} {operation : Operation}
    (taken : ledger.step operation = some next) :
    ∃ session, ledger.session.step operation = some session ∧
      next = { session := session
               finished := Ledger.finishes ledger.session operation ++ ledger.finished } := by
  obtain ⟨session, stepped, equal⟩ := Option.map_eq_some_iff.mp taken
  exact ⟨session, stepped, equal.symm⟩

private theorem step_enqueue {loop next : Loop} {key : NamespacedName} {priority : Int} {now : Time}
    (taken : loop.step platform operatorNamespace (.enqueue key priority now) = some next) :
    ∃ ledger, loop.ledger.step (.enqueue key priority now) = some ledger ∧
      next = { loop with ledger := ledger } := by
  simp only [step] at taken
  obtain ⟨ledger, stepped, equal⟩ := Option.map_eq_some_iff.mp taken
  exact ⟨ledger, stepped, equal.symm⟩

theorem step_dequeue {loop next : Loop} {worker : Nat} {now : Time}
    (taken : loop.step platform operatorNamespace (.dequeue worker now) = some next) :
    ∃ ledger, loop.ledger.step (.dequeue worker now) = some ledger ∧
      next = { loop with ledger := ledger } := by
  simp only [step] at taken
  obtain ⟨ledger, stepped, equal⟩ := Option.map_eq_some_iff.mp taken
  exact ⟨ledger, stepped, equal.symm⟩

theorem step_finish {loop next : Loop} {worker : Nat} {now : Time} {answers : Answers}
    (taken : loop.step platform operatorNamespace (.finish worker now answers) = some next) :
    ∃ ref ledger, loop.held worker = some ref ∧
      loop.ledger.step (turnEnd worker now
        (disposition platform operatorNamespace loop.queue ref answers)) = some ledger ∧
      next = { ledger := ledger
               processed := Function.update loop.processed ref (loop.processed ref + 1) } := by
  simp only [step] at taken
  obtain ⟨ref, holds, ended⟩ := Option.bind_eq_some_iff.mp taken
  obtain ⟨ledger, stepped, equal⟩ := Option.map_eq_some_iff.mp ended
  exact ⟨ref, ledger, holds, stepped, equal.symm⟩

structure TurnEnded (ledger next : Ledger) (worker : Nat) (ref : ItemRef) : Prop where
  settings : next.session.queue.settings = ledger.session.queue.settings
  allocated : next.session.queue.allocated = ledger.session.queue.allocated
  held : next.session.held = setHeld ledger.session.held worker none
  others : ∀ other, other ≠ ref →
    next.session.queue.attempts other = ledger.session.queue.attempts other ∧
      (next.Finished other ↔ ledger.Finished other)

private theorem turnEnded {ledger next : Ledger} {worker : Nat} {now : Time} {ending : Disposition}
    {ref : ItemRef} (holds : ledger.session.held worker = some ref)
    (taken : ledger.step (turnEnd worker now ending) = some next) :
    TurnEnded ledger next worker ref := by
  obtain ⟨session, stepped, rfl⟩ := ledger_step taken
  have others (added : List ItemRef) (only : ∀ item, item ∈ added → item = ref) (other : ItemRef)
      (different : other ≠ ref) :
      other ∈ added ++ ledger.finished ↔ other ∈ ledger.finished := by
    rw [List.mem_append]
    exact ⟨fun either => either.resolve_left (fun member => different (only other member)), .inr⟩
  cases ending with
  | done =>
      rw [turnEnd, Session.step_done stepped]
      refine ⟨rfl, rfl, rfl, ?_⟩
      intro other different
      refine ⟨rfl, others _ ?_ other different⟩
      intro item member
      rw [Ledger.finishes, holds] at member
      exact List.mem_singleton.mp member
  | requeue err =>
      obtain ⟨item, isItem, rfl⟩ := Session.step_requeue stepped
      rw [holds] at isItem
      cases isItem
      refine ⟨WorkQueue.requeue_settings _ _ _, ?_, rfl, ?_⟩
      · cases again : ledger.session.queue.retries ref now with
        | true => exact (WorkQueue.requeue_putBack _ ref now again).allocated
        | false => exact (WorkQueue.requeue_givenUp _ ref now again).allocated
      · intro other different
        refine ⟨WorkQueue.requeue_attempts_other _ _ _ _ different, others _ ?_ other different⟩
        intro item member
        rw [turnEnd, Ledger.finishes, holds] at member
        exact List.mem_singleton.mp (List.mem_filter.mp member).1

def TurnsLeft (retries cycles count : Nat) : Prop :=
  cycles = 0 ∨ count ≤ cycles * (retries + 1)

/-- A turn that is not the last of the budget leaves one more. -/
theorem TurnsLeft.succ {retries cycles count : Nat} (left : TurnsLeft retries cycles count)
    (unspent : ¬ (0 < cycles ∧ count = cycles * (retries + 1))) :
    TurnsLeft retries cycles (count + 1) := by
  rcases left with unlimited | below
  · exact .inl unlimited
  · rcases Nat.eq_zero_or_pos cycles with none | positive
    · exact .inl none
    · exact .inr (Nat.lt_of_le_of_ne below (fun same => unspent ⟨positive, same⟩))

/-- The worker's test, read off the counters. -/
theorem exhausted_iff (retries cycles count : Nat) (left : TurnsLeft retries cycles count) :
    (0 < (cycles : Int) ∧ (cycles : Int) ≤ (count / (retries + 1) : Nat)) ↔
      0 < cycles ∧ count = cycles * (retries + 1) := by
  rw [Int.ofNat_le, Nat.le_div_iff_mul_le (Nat.zero_lt_succ retries)]
  constructor
  · rintro ⟨positive, reached⟩
    rcases left with none | below
    · omega
    · exact ⟨by omega, Nat.le_antisymm below reached⟩
  · rintro ⟨positive, reached⟩
    exact ⟨by omega, Nat.le_of_eq reached.symm⟩

def FailsOn (ref : ItemRef) (loop : Loop) : Label → Prop
  | .finish worker _ answers => loop.held worker = some ref →
      (failure platform operatorNamespace loop.queue ref answers).isSome = true
  | _ => True

structure Tallied (retries cycles : Nat) (initialDelay maxDelay : Int) (ref : ItemRef)
    (loop : Loop) : Prop where
  kept : loop.ledger.Kept
  settings : loop.queue.settings =
    { maxRetries := retries, initialRetryDelay := initialDelay, maxRetryDelay := maxDelay
      maxRetryCycles := cycles, shutdown := false }
  idle : ∃ bound, ∀ worker, bound ≤ worker → loop.held worker = none
  unmade : loop.queue.allocated ≤ ref → loop.processed ref = 0
  running : ref < loop.queue.allocated → ¬ loop.ledger.Finished ref →
    TurnsLeft retries cycles (loop.processed ref) ∧
      loop.queue.attempts ref = countersAfter retries (loop.processed ref)
  spent : loop.ledger.Finished ref →
    0 < cycles ∧ loop.processed ref = cycles * (retries + 1) + 1

structure Retried (retries : Nat) (loop next : Loop) (worker : Nat) (now : Time) (ref : ItemRef) :
    Prop where
  requeues : loop.ledger.session.step (.requeue worker now) = some next.ledger.session
  /-- `Requeue` does not give up. -/
  again : loop.queue.retries ref now = true
  queued : ref ∈ next.queue.items.toList
  unfinished : next.ledger.finished = loop.ledger.finished
  counters : next.queue.attempts ref = countersAfter retries (loop.processed ref + 1)
  delayed : (next.queue.memory ref).scheduledAt =
    now + delayAfter loop.queue retries (loop.processed ref + 1)

structure Paused (loop next : Loop) (worker : Nat) (ref : ItemRef) (answers : Answers) : Prop where
  branch : TakesPauseBranch platform operatorNamespace loop.queue ref answers
  done : loop.ledger.session.step (.done worker) = some next.ledger.session
  finished : next.ledger.finished = ref :: loop.ledger.finished

section Tally

variable {platform operatorNamespace}
variable {retries cycles : Nat} {initialDelay maxDelay : Int} {ref : ItemRef} {loop next : Loop}

private theorem tallied_start (retries cycles : Nat) (initialDelay maxDelay : Int) (ref : ItemRef) :
    Tallied retries cycles initialDelay maxDelay ref
      (start retries initialDelay maxDelay cycles) where
  kept := Ledger.start_kept _ _ _ _
  settings := rfl
  idle := ⟨0, fun _ _ => rfl⟩
  unmade := fun _ => rfl
  running := by intro below; cases below
  spent := by intro finished; cases finished

section Tallies

variable (tallied : Tallied retries cycles initialDelay maxDelay ref loop)

include tallied

theorem Tallied.enqueued {key : NamespacedName} {priority : Int} {now : Time}
    (taken : loop.step platform operatorNamespace (.enqueue key priority now) = some next) :
    Tallied retries cycles initialDelay maxDelay ref next := by
  obtain ⟨ledger, stepped, rfl⟩ := step_enqueue platform operatorNamespace taken
  have kept := Ledger.step_kept _ _ _ tallied.kept stepped
  obtain ⟨session, moved, rfl⟩ := ledger_step stepped
  cases moved
  constructor
  · exact kept
  · exact (WorkQueue.enqueue_settings _ _ _ _).trans tallied.settings
  · exact tallied.idle
  · intro above
    refine tallied.unmade (Nat.le_trans ?_ above)
    cases known : loop.queue.itemsMap key with
    | some existing =>
        exact Nat.le_of_eq
          (WorkQueue.enqueue_existing _ key priority now existing known).allocated.symm
    | none =>
        rw [(WorkQueue.enqueue_new _ key priority now known).allocated]
        exact Nat.le_succ _
  · intro below unfinished
    by_cases fresh : ref = loop.queue.allocated
    · cases known : loop.queue.itemsMap key with
      | some existing =>
          rw [(WorkQueue.enqueue_existing _ key priority now existing known).allocated] at below
          exact absurd fresh (Nat.ne_of_lt below)
      | none =>
          dsimp only
          rw [tallied.unmade (Nat.le_of_eq fresh.symm), fresh]
          refine ⟨.inr (Nat.zero_le _), ?_⟩
          rw [WorkQueue.enqueue_new_attempts _ key priority now known]
          simp [countersAfter]
    · have older : ref < loop.queue.allocated := by
        cases known : loop.queue.itemsMap key with
        | some existing =>
            rwa [(WorkQueue.enqueue_existing _ key priority now existing known).allocated] at below
        | none =>
            rw [(WorkQueue.enqueue_new _ key priority now known).allocated] at below
            exact Nat.lt_of_le_of_ne (Nat.le_of_lt_succ below) fresh
      obtain ⟨left, counters⟩ := tallied.running older unfinished
      exact ⟨left, (WorkQueue.enqueue_attempts _ _ _ _ _ fresh).trans counters⟩
  · exact tallied.spent

theorem Tallied.dequeued {worker : Nat} {now : Time}
    (taken : loop.step platform operatorNamespace (.dequeue worker now) = some next) :
    Tallied retries cycles initialDelay maxDelay ref next := by
  obtain ⟨ledger, stepped, rfl⟩ := step_dequeue platform operatorNamespace taken
  have kept := Ledger.step_kept _ _ _ tallied.kept stepped
  obtain ⟨session, moved, rfl⟩ := ledger_step stepped
  obtain ⟨item, _free, spec, held⟩ := Session.step_dequeue moved
  have same : session.queue.settings = loop.queue.settings ∧
      ∀ other, session.queue.attempts other = loop.queue.attempts other := by
    obtain ⟨root, rest, _free, hands, rfl⟩ := Session.step_hands moved
    exact WorkQueue.dequeue_settings _ rest now root hands
  constructor
  · exact kept
  · exact same.1.trans tallied.settings
  · obtain ⟨bound, none⟩ := tallied.idle
    refine ⟨max bound (worker + 1), ?_⟩
    intro other above
    change session.held other = _
    rw [held, setHeld_other _ _ _ _ (by omega)]
    exact none other (by omega)
  · intro above
    exact tallied.unmade (spec.allocated ▸ above)
  · intro below unfinished
    obtain ⟨left, counters⟩ := tallied.running (spec.allocated ▸ below) unfinished
    exact ⟨left, (same.2 ref).trans counters⟩
  · exact tallied.spent

theorem Tallied.held_running {worker : Nat}
    (holds : loop.held worker = some ref) :
    ¬ loop.ledger.Finished ref ∧ TurnsLeft retries cycles (loop.processed ref) ∧
      loop.queue.attempts ref = countersAfter retries (loop.processed ref) := by
  have unfinished : ¬ loop.ledger.Finished ref :=
    fun finished => tallied.kept.finishedAway ref finished (.inr ⟨worker, holds⟩)
  exact ⟨unfinished,
    tallied.running (tallied.kept.valid.heldBelow worker ref holds) unfinished⟩

/-- A failing turn on the item: the last of its budget pauses, the others retry. -/
theorem Tallied.turn {worker : Nat} {now : Time} {answers : Answers}
    (holds : loop.held worker = some ref)
    (failed : (failure platform operatorNamespace loop.queue ref answers).isSome = true)
    (taken : loop.step platform operatorNamespace (.finish worker now answers) = some next) :
    (0 < cycles ∧ loop.processed ref = cycles * (retries + 1) →
      Paused platform operatorNamespace loop next worker ref answers) ∧
    (¬ (0 < cycles ∧ loop.processed ref = cycles * (retries + 1)) →
      Retried retries loop next worker now ref) := by
  obtain ⟨err, isErr⟩ := Option.isSome_iff_exists.mp failed
  obtain ⟨_unfinished, left, counters⟩ := tallied.held_running holds
  obtain ⟨item, ledger, isItem, stepped, rfl⟩ := step_finish platform operatorNamespace taken
  rw [holds] at isItem
  cases isItem
  obtain ⟨pauses, goesOn⟩ := handleItem_failed platform operatorNamespace loop.queue ref answers
    err isErr
  have limit : loop.queue.maxRetries = retries := congrArg WorkQueue.Settings.maxRetries
    tallied.settings
  have budget : loop.queue.maxRetryCycles = cycles :=
    congrArg WorkQueue.Settings.maxRetryCycles tallied.settings
  have cycle : (loop.queue.memory ref).retryCycle = (loop.processed ref / (retries + 1) : Nat) :=
    (Prod.mk.inj counters).2
  have test := exhausted_iff retries cycles (loop.processed ref) left
  rw [← cycle, ← budget] at test
  constructor
  · intro reached
    obtain ⟨isDone, branch⟩ := pauses (test.mpr reached)
    rw [isDone] at stepped
    obtain ⟨session, moved, rfl⟩ := ledger_step stepped
    refine ⟨branch, moved, ?_⟩
    simp only [turnEnd, Ledger.finishes, show loop.ledger.session.held worker = some ref from holds,
      Option.toList_some, List.singleton_append]
  · intro below
    rw [goesOn (fun reached => below (test.mp reached))] at stepped
    obtain ⟨session, moved, rfl⟩ := ledger_step stepped
    obtain ⟨retried, isRetried, next, delay⟩ := retryItem_counters loop.queue
      (loop.queue.memory ref) now retries (loop.processed ref) limit counters
      (fun reached => below (test.mp reached))
    have again : loop.queue.retries ref now = true := by
      unfold WorkQueue.retries
      rw [isRetried]
      rfl
    have requeues := moved
    obtain ⟨item, isItem, rfl⟩ := Session.step_requeue moved
    have same : item = ref := Option.some.inj (isItem.symm.trans holds)
    subst same
    obtain ⟨index, stored⟩ := WorkQueue.requeue_retried _ item now retried isRetried
    refine ⟨requeues, again, ?_, ?_, ?_, ?_⟩
    · exact (WorkQueue.requeue_putBack _ item now again).items.mem_iff.mpr List.mem_cons_self
    · simp only [turnEnd, Ledger.finishes, isItem, Option.toList_some, again, Bool.not_true,
        List.filter_cons_of_neg, Bool.false_eq_true, not_false_eq_true, List.filter_nil,
        List.nil_append]
    · exact (congrArg (fun item : WorkItem => (item.retryCount, item.retryCycle)) stored).trans next
    · exact (congrArg WorkItem.scheduledAt stored).trans delay

theorem Tallied.finished {worker : Nat} {now : Time} {answers : Answers}
    (fails : FailsOn platform operatorNamespace ref loop (.finish worker now answers))
    (taken : loop.step platform operatorNamespace (.finish worker now answers) = some next) :
    Tallied retries cycles initialDelay maxDelay ref next := by
  obtain ⟨item, ledger, holds, stepped, equal⟩ := step_finish platform operatorNamespace taken
  have ended := turnEnded holds stepped
  have kept := Ledger.step_kept _ _ _ tallied.kept stepped
  have idle : ∃ bound, ∀ other, bound ≤ other → ledger.session.held other = none := by
    obtain ⟨bound, none⟩ := tallied.idle
    refine ⟨bound, ?_⟩
    intro other above
    rw [ended.held]
    by_cases same : other = worker
    · rw [same, setHeld_self]
    · rw [setHeld_other _ _ _ _ same]
      exact none other above
  suffices counted : (ledger.session.queue.allocated ≤ ref → next.processed ref = 0) ∧
      (ref < ledger.session.queue.allocated → ¬ ledger.Finished ref →
        TurnsLeft retries cycles (next.processed ref) ∧
          ledger.session.queue.attempts ref = countersAfter retries (next.processed ref)) ∧
      (ledger.Finished ref → 0 < cycles ∧
        next.processed ref = cycles * (retries + 1) + 1) by
    obtain ⟨unmade, running, spent⟩ := counted
    subst equal
    exact ⟨kept, ended.settings.trans tallied.settings, idle, unmade, running, spent⟩
  rw [ended.allocated]
  by_cases own : item = ref
  · subst own
    have made := tallied.kept.valid.heldBelow worker item holds
    obtain ⟨unfinished, left, _counters⟩ := tallied.held_running holds
    obtain ⟨pauses, retry⟩ := tallied.turn holds (fails holds) taken
    have count : next.processed item = loop.processed item + 1 := by
      rw [equal]
      exact Function.update_self _ _ _
    have sameLedger : next.ledger = ledger := by rw [equal]
    rw [count]
    refine ⟨fun above => absurd made (Nat.not_lt.mpr above), ?_⟩
    by_cases last : 0 < cycles ∧ loop.processed item = cycles * (retries + 1)
    · have spent : ledger.Finished item := by
        unfold Ledger.Finished
        rw [← sameLedger, (pauses last).finished]
        exact List.mem_cons_self
      exact ⟨fun _ unfinished => absurd spent unfinished, fun _ => ⟨last.1, by rw [last.2]⟩⟩
    · have still : ¬ ledger.Finished item := by
        unfold Ledger.Finished
        rw [← sameLedger, (retry last).unfinished]
        exact unfinished
      refine ⟨fun _ _ => ⟨left.succ last, ?_⟩, fun spent => absurd spent still⟩
      rw [← sameLedger]
      exact (retry last).counters
  · obtain ⟨attempts, finished⟩ := ended.others ref (Ne.symm own)
    have count : next.processed ref = loop.processed ref := by
      rw [equal]
      exact Function.update_of_ne (Ne.symm own) _ _
    rw [count, attempts, finished]
    exact ⟨tallied.unmade, tallied.running, tallied.spent⟩

theorem Tallied.stepped (label : Label) (fails : FailsOn platform operatorNamespace ref loop label)
    (taken : loop.step platform operatorNamespace label = some next) :
    Tallied retries cycles initialDelay maxDelay ref next := by
  cases label with
  | enqueue key priority now => exact tallied.enqueued taken
  | dequeue worker now => exact tallied.dequeued taken
  | finish worker now answers => exact tallied.finished fails taken

theorem Tallied.unfinished_iff (made : ref < loop.queue.allocated) :
    (loop.ledger.Queued ref ∨ loop.ledger.Held ref) ↔ ¬ loop.ledger.Finished ref := by
  constructor
  · intro unfinished finished
    exact tallied.kept.finishedAway ref finished unfinished
  · intro unfinished
    exact (tallied.kept.made ref made).resolve_right unfinished

end Tallies

end Tally

section Progress

variable {retries cycles : Nat} {initialDelay maxDelay : Int} {ref : ItemRef} {loop : Loop}

theorem Tallied.takes (tallied : Tallied retries cycles initialDelay maxDelay ref loop)
    {root : ItemRef} (isRoot : loop.queue.items[0]? = some root) :
    ∃ worker now next, loop.step platform operatorNamespace (.dequeue worker now) = some next ∧
      next.held worker = some root ∧ next.processed = loop.processed ∧
      (root :: next.queue.items.toList).Perm loop.queue.items.toList := by
  obtain ⟨worker, none⟩ := tallied.idle
  have free : loop.ledger.session.held worker = .none := none worker (Nat.le_refl _)
  obtain ⟨after, hands⟩ := WorkQueue.dequeue_due loop.queue (loop.queue.memory root).scheduledAt
    root (congrArg WorkQueue.Settings.shutdown tallied.settings) isRoot (Int.le_refl _)
  refine ⟨worker, (loop.queue.memory root).scheduledAt,
    { loop with ledger := { loop.ledger with session :=
      { queue := after, held := setHeld loop.held worker (some root) } } }, ?_,
    setHeld_self _ _ _, rfl, (WorkQueue.dequeue_take _ _ _ _ hands).items⟩
  simp only [step, Ledger.step, Session.step, free, hands, Option.map_some]
  rfl

/-- A queued item comes into a worker's hands after some more `Dequeue`s. -/
theorem Tallied.handed (tallied : Tallied retries cycles initialDelay maxDelay ref loop)
    (queued : loop.ledger.Queued ref) :
    ∃ labels last worker, run (step platform operatorNamespace) loop labels = some last ∧
      Along (step platform operatorNamespace) (FailsOn platform operatorNamespace ref) loop
        labels ∧
      last.held worker = some ref ∧ last.processed = loop.processed := by
  generalize size : loop.queue.items.toList.length = count
  induction count generalizing loop with
  | zero =>
      have empty : loop.ledger.session.queue.items.toList = [] :=
        List.eq_nil_of_length_eq_zero size
      unfold Ledger.Queued at queued
      rw [empty] at queued
      cases queued
  | succ count ih =>
      have inside : 0 < loop.queue.items.size := by
        rw [Array.length_toList] at size
        omega
      have isRoot := Array.getElem?_eq_getElem inside
      generalize loop.queue.items[0] = root at isRoot
      obtain ⟨worker, now, next, taken, holds, processed, items⟩ :=
        tallied.takes platform operatorNamespace isRoot
      by_cases same : root = ref
      · subst same
        exact ⟨[.dequeue worker now], next, worker, (run_cons_iff _ _ _ _ _).mpr
          ⟨next, taken, rfl⟩, ⟨trivial, fun _ _ => trivial⟩, holds, processed⟩
      · have remains : next.ledger.Queued ref := by
          rcases List.mem_cons.mp (items.mem_iff.mpr queued) with isSame | later
          · exact absurd isSame.symm same
          · exact later
        have smaller := items.length_eq
        rw [List.length_cons, size] at smaller
        obtain ⟨labels, last, holder, ends, along, isHeld, unchanged⟩ :=
          ih (tallied.dequeued taken) remains (Nat.succ.inj smaller)
        refine ⟨.dequeue worker now :: labels, last, holder,
          (run_cons_iff _ _ _ _ _).mpr ⟨next, taken, ends⟩, ⟨trivial, ?_⟩, isHeld,
          unchanged.trans processed⟩
        intro other isOther
        rw [taken] at isOther
        cases isOther
        exact along

def refusing : Answers
  | .getTemplate _, _ => .error (errorf "connection refused")
  | .updateStatus _, _ => .error (errorf "connection refused")
  | .policyCacheGet _ _, _ => .error (errorf "connection refused")
  | .getResource _ _ _, _ => .error (errorf "connection refused")
  | .patch _ _ _, _ => .error (errorf "connection refused")
  | .delete _, _ => .error (errorf "connection refused")
  | .enqueue _ _, _ => ()
  | .queueContains _, _ => false
  | .recordEvent _ _ _, _ => ()
  | .now, _ => 0

theorem Tallied.once_more (tallied : Tallied retries cycles initialDelay maxDelay ref loop)
    (made : ref < loop.queue.allocated) (unfinished : ¬ loop.ledger.Finished ref) :
    ∃ labels last, run (step platform operatorNamespace) loop labels = some last ∧
      Along (step platform operatorNamespace) (FailsOn platform operatorNamespace ref) loop
        labels ∧
      last.processed ref = loop.processed ref + 1 := by
  obtain ⟨labels, middle, worker, ends, along, holds, processed⟩ :
      ∃ labels middle worker, run (step platform operatorNamespace) loop labels = some middle ∧
        Along (step platform operatorNamespace) (FailsOn platform operatorNamespace ref) loop
          labels ∧
        middle.held worker = some ref ∧ middle.processed = loop.processed := by
    rcases (tallied.unfinished_iff made).mpr unfinished with queued | ⟨worker, holds⟩
    · exact tallied.handed platform operatorNamespace queued
    · exact ⟨[], loop, worker, rfl, trivial, holds, rfl⟩
  obtain ⟨last, taken⟩ : ∃ last,
      middle.step platform operatorNamespace (.finish worker 0 refusing) = some last := by
    have inHand : middle.ledger.session.held worker = some ref := holds
    simp only [step, holds, Option.bind_some]
    cases disposition platform operatorNamespace middle.queue ref refusing with
    | _ =>
        simp only [turnEnd, Ledger.step, Session.step, inHand, Option.map_some]
        exact ⟨_, rfl⟩
  have fails : FailsOn platform operatorNamespace ref middle (.finish worker 0 refusing) :=
    fun _ => rfl
  refine ⟨labels ++ [.finish worker 0 refusing], last,
    run_append ends ((run_cons_iff _ _ _ _ _).mpr ⟨last, taken, rfl⟩),
    along_append ends along ⟨fails, fun _ _ => trivial⟩, ?_⟩
  obtain ⟨item, ledger, isItem, _stepped, rfl⟩ := step_finish platform operatorNamespace taken
  have same : item = ref := Option.some.inj (isItem.symm.trans holds)
  subst same
  rw [← processed]
  exact Function.update_self _ _ _

/-- With a budget, the item can be processed until the budget is used up. -/
theorem Tallied.to_the_end (tallied : Tallied retries cycles initialDelay maxDelay ref loop)
    (positive : 0 < cycles) (made : ref < loop.queue.allocated) :
    ∃ labels last, run (step platform operatorNamespace) loop labels = some last ∧
      Along (step platform operatorNamespace) (FailsOn platform operatorNamespace ref) loop
        labels ∧
      last.processed ref = cycles * (retries + 1) + 1 := by
  generalize turns : cycles * (retries + 1) + 1 - loop.processed ref = missing
  induction missing generalizing loop with
  | zero =>
      refine ⟨[], loop, rfl, trivial, ?_⟩
      by_cases finished : loop.ledger.Finished ref
      · exact (tallied.spent finished).2
      · rcases (tallied.running made finished).1 with none | below
        · omega
        · omega
  | succ missing ih =>
      have unfinished : ¬ loop.ledger.Finished ref := by
        intro finished
        have := (tallied.spent finished).2
        omega
      obtain ⟨front, middle, ends, along, count⟩ :=
        tallied.once_more platform operatorNamespace made unfinished
      have again := (throughout_of_along (step platform operatorNamespace)
        (FailsOn platform operatorNamespace ref)
        (Tallied retries cycles initialDelay maxDelay ref)
        (fun _ label _ holds fails taken => holds.stepped label fails taken)
        loop front tallied along).last ends
      have still : ref < middle.queue.allocated := by
        rcases Nat.lt_or_ge ref middle.queue.allocated with below | above
        · exact below
        · have := again.unmade above
          omega
      obtain ⟨back, last, ends', along', count'⟩ := ih again still (by omega)
      exact ⟨front ++ back, last, run_append ends ends', along_append ends along along', count'⟩

end Progress

def EndsTurn (retries cycles : Nat) (ref : ItemRef) (loop : Loop) : Label → Prop
  | .finish worker now answers => loop.held worker = some ref →
      ∀ next, loop.step platform operatorNamespace (.finish worker now answers) = some next →
        (loop.processed ref < cycles * (retries + 1) → Retried retries loop next worker now ref) ∧
        (loop.processed ref = cycles * (retries + 1) →
          Paused platform operatorNamespace loop next worker ref answers)
  | _ => True

/-- How a failing turn on the item ends when no budget is set. -/
def PutsBack (retries : Nat) (ref : ItemRef) (loop : Loop) : Label → Prop
  | .finish worker now answers => loop.held worker = some ref →
      ∀ next, loop.step platform operatorNamespace (.finish worker now answers) = some next →
        Retried retries loop next worker now ref
  | _ => True

/-- The turns on the item stay within the budget; while some are left the item is
queued or in a worker's hands, afterwards it is neither. -/
structure WithinBudget (retries cycles : Nat) (ref : ItemRef) (loop : Loop) : Prop where
  atMost : loop.processed ref ≤ cycles * (retries + 1) + 1
  unfinished : ref < loop.queue.allocated →
    ((loop.ledger.Queued ref ∨ loop.ledger.Held ref) ↔
      loop.processed ref < cycles * (retries + 1) + 1)

theorem Tallied.withinBudget {retries cycles : Nat} {initialDelay maxDelay : Int} {ref : ItemRef}
    {loop : Loop} (tallied : Tallied retries cycles initialDelay maxDelay ref loop)
    (positive : 0 < cycles) : WithinBudget retries cycles ref loop := by
  by_cases finished : loop.ledger.Finished ref
  · have used := (tallied.spent finished).2
    refine ⟨Nat.le_of_eq used, ?_⟩
    intro made
    rw [tallied.unfinished_iff made]
    exact ⟨fun unfinished => absurd finished unfinished, fun fewer => by omega⟩
  · rcases Nat.lt_or_ge ref loop.queue.allocated with made | unmade
    · rcases (tallied.running made finished).1 with none | below
      · omega
      · refine ⟨by omega, ?_⟩
        intro _made
        rw [tallied.unfinished_iff made]
        exact ⟨fun _ => by omega, fun _ => finished⟩
    · have none := tallied.unmade unmade
      exact ⟨by omega, fun made => absurd made (Nat.not_lt.mpr unmade)⟩

theorem Tallied.endsTurn {retries cycles : Nat} {initialDelay maxDelay : Int} {ref : ItemRef}
    {loop : Loop} (tallied : Tallied retries cycles initialDelay maxDelay ref loop)
    (label : Label) (fails : FailsOn platform operatorNamespace ref loop label) :
    (0 < cycles → EndsTurn platform operatorNamespace retries cycles ref loop label) ∧
      (cycles = 0 → PutsBack platform operatorNamespace retries ref loop label) := by
  cases label with
  | finish worker now answers =>
      constructor
      · intro positive holds next taken
        obtain ⟨pauses, retry⟩ := tallied.turn holds (fails holds) taken
        exact ⟨fun below => retry (fun last => Nat.ne_of_lt below last.2),
          fun last => pauses ⟨positive, last⟩⟩
      · intro none holds next taken
        exact (tallied.turn holds (fails holds) taken).2 (fun last => by omega)
  | _ => exact ⟨fun _ => trivial, fun _ => trivial⟩

/-- An item whose processing fails every time, in any run: with `cycles` retry
cycles of `retries` retries it is processed `cycles * (retries + 1) + 1` times and
no more, it is put back after each failure but the last, with the cooldown and a
fresh count after each cycle, and after the last failure the worker pauses the
template and calls `Done`; every run goes on to that.  Without a limit on cycles
it is put back after every failure. -/
theorem retry_budget (retries cycles : Nat) (initialDelay maxDelay : Int) (ref : ItemRef)
    (labels : List Label)
    (fails : Along (step platform operatorNamespace) (FailsOn platform operatorNamespace ref)
      (start retries initialDelay maxDelay cycles) labels) :
    (1 ≤ cycles →
      Throughout (step platform operatorNamespace) (WithinBudget retries cycles ref)
        (start retries initialDelay maxDelay cycles) labels ∧
      Along (step platform operatorNamespace)
        (EndsTurn platform operatorNamespace retries cycles ref)
        (start retries initialDelay maxDelay cycles) labels ∧
      ∀ final, run (step platform operatorNamespace)
          (start retries initialDelay maxDelay cycles) labels = some final →
        ref < final.queue.allocated →
          ∃ more last, run (step platform operatorNamespace) final more = some last ∧
            Along (step platform operatorNamespace) (FailsOn platform operatorNamespace ref) final
              more ∧
            last.processed ref = cycles * (retries + 1) + 1) ∧
    (cycles = 0 →
      Along (step platform operatorNamespace) (PutsBack platform operatorNamespace retries ref)
        (start retries initialDelay maxDelay cycles) labels) := by
  have tallied := throughout_of_along (step platform operatorNamespace)
    (FailsOn platform operatorNamespace ref) (Tallied retries cycles initialDelay maxDelay ref)
    (fun _ label _ holds condition taken => holds.stepped label condition taken) _ labels
    (tallied_start retries cycles initialDelay maxDelay ref) fails
  have ends := tallied.along_both fails (fun loop label holds condition =>
    holds.endsTurn platform operatorNamespace label condition)
  constructor
  · intro positive
    refine ⟨tallied.mono (fun _ holds => holds.withinBudget positive), ?_, ?_⟩
    · exact ends.mono (fun _ _ both => both.1 positive)
    · intro final reached made
      exact (tallied.last reached).to_the_end platform operatorNamespace positive made
  · intro none
    exact ends.mono (fun _ _ both => both.2 none)

end

/-- One retry and one cycle: a template that cannot be read is tried three times. -/
def refused : List Label :=
  [.enqueue ⟨"team-a", "web"⟩ 0 0,
    .dequeue 0 0, .finish 0 0 refusing,
    .dequeue 0 1000000000, .finish 0 1000000000 refusing,
    .dequeue 0 301000000000, .finish 0 301000000000 refusing]

theorem retry_budget_refused :
    (run (step Reference.settingsPlatform "kubetemplater-system")
        (start (1 : Nat) 1000000000 300000000000 (1 : Nat)) refused).map
      (fun final => final.processed 0) = some (1 * (1 + 1) + 1) ∧
    Along (step Reference.settingsPlatform "kubetemplater-system")
      (EndsTurn Reference.settingsPlatform "kubetemplater-system" 1 1 0)
      (start (1 : Nat) 1000000000 300000000000 (1 : Nat)) refused := by
  have fails : Along (step Reference.settingsPlatform "kubetemplater-system")
      (FailsOn Reference.settingsPlatform "kubetemplater-system" 0)
      (start (1 : Nat) 1000000000 300000000000 (1 : Nat)) refused :=
    ⟨trivial, fun _ _ => ⟨trivial, fun _ _ => ⟨fun _ => rfl, fun _ _ => ⟨trivial, fun _ _ =>
      ⟨fun _ => rfl, fun _ _ => ⟨trivial, fun _ _ => ⟨fun _ => rfl, fun _ _ => trivial⟩⟩⟩⟩⟩⟩⟩
  exact ⟨by decide +kernel, ((retry_budget Reference.settingsPlatform "kubetemplater-system" 1 1
    1000000000 300000000000 0 refused fails).1 (Nat.le_refl 1)).2.1⟩

end Loop

end KubeTemplater.Worker
