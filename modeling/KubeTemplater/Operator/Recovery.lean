/-
What comes back after a restart of the operator.

A restart loses the work queue, the workers and every request, and keeps what the
API server has.  `Reconcile` is then started for every KubeTemplate and puts it back
into the queue as its phase and its recorded hash say.  A Failed KubeTemplate is put
back only when its spec has changed since the hash was recorded: `Reconcile` leaves
the others to the retries of the queue, which are lost.
-/

import KubeTemplater.Operator.SoleVisit

namespace KubeTemplater.Operator

open Library Library.Program

namespace Journal

def restart (journal : Journal) : Journal :=
  let queue := journal.system.session.queue
  { system :=
      { journal.system with
        session := Queue.Session.start queue.maxRetries queue.initialRetryDelay
          queue.maxRetryDelay queue.maxRetryCycles
        workers := fun _ => none
        reconciles := fun _ => none
        active := []
        -- every KubeTemplate is listed again
        pending := fun key => (journal.system.templates key).isSome }
    scheduled := fun _ => false
    turns := fun _ => []
    visits := fun _ => []
    past := journal.past }

inductive Reached (config : Config) : Journal → Prop where
  | start (maxRetries initialDelay maxDelay maxCycles : Int)
      (policies : String → Except GoError KubeTemplatePolicy) :
      Reached config
        (start (Queue.Session.start maxRetries initialDelay maxDelay maxCycles) policies)
  | step (journal : Journal) (event : Event) (next : Journal) (before : Reached config journal)
      (taken : journal.step config event = some next) : Reached config next
  | restart (journal : Journal) (before : Reached config journal) :
      Reached config journal.restart

variable {config : Config} {journal final : Journal} {key : NamespacedName}

private theorem restart_faithful (keyed : journal.system.Keyed) :
    journal.restart.Faithful config where
  keyed := keyed
  valid := Queue.Session.start_valid _ _ _ _
  listed := ⟨fun _ _ inside => (by cases inside), fun _ _ inside => (by cases inside)⟩
  idle := fun _ _ => rfl
  turn := by intro worker execution inside; cases inside
  visit := by intro key execution inside; cases inside

theorem Reached.faithful (reached : Reached config journal) : journal.Faithful config := by
  induction reached with
  | start => exact start_faithful config _ _ _ _ _
  | step journal event next _ taken ih => exact step_faithful journal event next ih taken
  | restart journal _ ih => exact restart_faithful ih.keyed

theorem Reached.run {events : List Event} (reached : Reached config journal)
    (isRun : run (Journal.step config) journal events = some final) :
    Reached config final := by
  induction events generalizing journal with
  | nil =>
      cases isRun
      exact reached
  | cons event rest ih =>
      obtain ⟨next, taken, isRest⟩ := Option.bind_eq_some_iff.mp isRun
      exact ih (.step journal event next reached taken) isRest

/-- Nobody but `Reconcile` does anything, every call succeeds, and no KubeTemplate
is reconciled twice. -/
def Recovering (journal : Journal) : Event → Prop
  | .operator (.deliver key) => journal.visits key = []
  | .operator (.controller key outcome) =>
      ∀ execution, journal.system.reconciles key = some execution →
        Passes execution.program outcome
  | .operator (.pass _) => True
  | _ => False

private theorem sole_of_recovering (key : NamespacedName) (journal : Journal) (event : Event)
    (recovering : journal.Recovering event) : journal.Sole key event := by
  intro own
  cases event with
  | expire wanted => trivial
  | operator label =>
      cases label with
      | deliver wanted =>
          cases own
          exact recovering
      | controller wanted outcome =>
          cases own
          exact recovering
      | pass elapsed => cases own
      | _ => exact recovering

private theorem restart_attended (keyed : journal.system.Keyed) {current : KubeTemplate}
    (isStored : journal.system.templates key = some current) :
    journal.restart.Attended config current False key where
  faithful := restart_faithful keyed
  read := .inl rfl
  granted := by intro exchange member; cases member
  unread := fun _ => isStored
  stored := ⟨current, isStored, rfl⟩
  queued := by
    constructor
    · rintro ⟨ref, member, _⟩
      cases member
    · rintro (impossible | impossible) <;> cases impossible
  ended := fun _ visited => absurd rfl visited

private theorem reconciled_handed (platform : Platform) {current : KubeTemplate}
    (notCompleted : current.status.processingPhase ≠ .completed)
    (notPaused : current.status.processingPhase ≠ .paused) :
    (reconciled platform current).handed = true ↔
      (current.status.processingPhase = .failed → specChanged platform current) := by
  unfold reconciled stageAfterRead
  cases phase : current.status.processingPhase with
  | completed => exact absurd phase notCompleted
  | paused => exact absurd phase notPaused
  | failed =>
      dsimp only
      by_cases changed : specChanged platform current
      · rw [if_pos changed]
        exact ⟨fun _ _ => changed, fun _ => rfl⟩
      · rw [if_neg changed]
        exact ⟨fun impossible => (by cases impossible),
          fun changes => absurd (changes rfl) changed⟩
  | _ => exact ⟨fun _ impossible => (by cases impossible), fun _ => rfl⟩

/-- After a restart and one execution of `Reconcile`, a KubeTemplate that is neither
Completed nor Paused is queued exactly when it is not Failed with the hash it has. -/
theorem recovered_iff (config : Config) (crashed : Journal) (reached : Reached config crashed)
    (events : List Event) (along : Along (step config) Recovering crashed.restart events)
    (final : Journal) (isRun : run (step config) crashed.restart events = some final)
    (key : NamespacedName) (current : KubeTemplate)
    (isStored : crashed.system.templates key = some current)
    (notCompleted : current.status.processingPhase ≠ .completed)
    (notPaused : current.status.processingPhase ≠ .paused)
    (visited : final.visits key ≠ []) (ended : final.system.reconciles key = none) :
    Queued final.system.session key ↔
      (current.status.processingPhase = .failed → specChanged config.platform current) := by
  have attended := (throughout_of_along (step config) (Sole key)
    (Attended config current False key) Attended.step crashed.restart events
    (restart_attended reached.faithful.keyed isStored)
    (along.mono (sole_of_recovering key))).last isRun
  rw [(attended.finished ended visited).1, false_or]
  exact reconciled_handed config.platform notCompleted notPaused

def recovers (journal : Journal) : Event → Bool
  | .operator (.deliver key) => (journal.visits key).isEmpty
  | .operator (.controller _ outcome) => outcome.isSuccess
  | .operator (.pass _) => true
  | _ => false

private theorem recovering_of_recovers (journal : Journal) (event : Event)
    (checked : journal.recovers event = true) : journal.Recovering event := by
  cases event with
  | expire wanted => cases checked
  | operator label =>
      cases label with
      | deliver wanted => exact List.isEmpty_iff.mp checked
      | controller wanted outcome => exact fun _ _ => .inl checked
      | pass elapsed => trivial
      | _ => cases checked

def interrupted : List Event :=
  List.map .operator (.create System.webTemplate :: System.queuing ++
    .dequeue 0 :: List.replicate 3 (.worker 0 .succeeds))

/-- A worker cannot get the policy: it writes Failed and hands its item back. -/
def rejected : List Event :=
  List.map .operator (.create System.webTemplate :: System.queuing ++
    .dequeue 0 :: List.replicate 3 (.worker 0 .succeeds) ++
    .worker 0 unavailable :: List.replicate 4 (.worker 0 .succeeds))

/-- `Reconcile` for the one KubeTemplate: a read, one more call, the end. -/
def relisted : List Event :=
  List.map .operator (.deliver System.webKey ::
    List.replicate 3 (.controller System.webKey .succeeds))

def afterRestart (events : List Event) : Option (Option Phase × Bool × Bool × List Queue.ItemRef) :=
  (run (step System.settingsConfig) smallStart events).bind (fun crashed =>
    (run (step System.settingsConfig) crashed.restart relisted).map (fun final =>
      ((crashed.system.templates System.webKey).map
          (fun current => current.status.processingPhase),
        checkAlong (step System.settingsConfig) recovers crashed.restart relisted &&
          !(final.visits System.webKey).isEmpty,
        (final.system.reconciles System.webKey).isNone,
        final.system.session.queue.items.toList)))

theorem interrupted_recovers :
    ∃ crashed current final,
      run (step System.settingsConfig) smallStart interrupted = some crashed ∧
      crashed.system.templates System.webKey = some current ∧
      current.status.processingPhase = .processing ∧
      run (step System.settingsConfig) crashed.restart relisted = some final ∧
      Queued final.system.session System.webKey := by
  have seen : (afterRestart interrupted).map (fun observed =>
      (observed.1, observed.2.1, observed.2.2.1)) = some (some .processing, true, true) := by
    decide
  obtain ⟨_, isSeen, observed⟩ := Option.map_eq_some_iff.mp seen
  obtain ⟨crashed, ran, isSeen⟩ := Option.bind_eq_some_iff.mp isSeen
  obtain ⟨final, recovered, rfl⟩ := Option.map_eq_some_iff.mp isSeen
  simp only [Prod.mk.injEq, Option.map_eq_some_iff, Bool.and_eq_true, Bool.not_eq_true',
    List.isEmpty_eq_false_iff, Option.isNone_iff_eq_none] at observed
  obtain ⟨⟨current, isStored, processing⟩, ⟨checked, visited⟩, ended⟩ := observed
  refine ⟨crashed, current, final, ran, isStored, processing, recovered, ?_⟩
  have recovers := recovered_iff System.settingsConfig crashed
    (Reached.run (.start 1 1000000000 60000000000 1 _) ran) relisted
    (along_of_checkAlong recovering_of_recovers checked) final recovered System.webKey current
    isStored (by rw [processing]; decide) (by rw [processing]; decide) visited ended
  refine recovers.mpr ?_
  rw [processing]
  intro impossible
  cases impossible

/-- The Failed KubeTemplate is not: it has never been applied, so no hash is recorded. -/
theorem rejected_not_recovered :
    ∃ crashed current final,
      run (step System.settingsConfig) smallStart rejected = some crashed ∧
      crashed.system.templates System.webKey = some current ∧
      current.status.processingPhase = .failed ∧
      Along (step System.settingsConfig) Recovering crashed.restart relisted ∧
      run (step System.settingsConfig) crashed.restart relisted = some final ∧
      final.visits System.webKey ≠ [] ∧ final.system.reconciles System.webKey = none ∧
      ¬ Queued final.system.session System.webKey := by
  have seen : afterRestart rejected = some (some .failed, true, true, []) := by
    decide
  obtain ⟨crashed, ran, isSeen⟩ := Option.bind_eq_some_iff.mp seen
  obtain ⟨final, recovered, observed⟩ := Option.map_eq_some_iff.mp isSeen
  simp only [Prod.mk.injEq, Option.map_eq_some_iff, Bool.and_eq_true, Bool.not_eq_true',
    List.isEmpty_eq_false_iff, Option.isNone_iff_eq_none] at observed
  obtain ⟨⟨current, isStored, failed⟩, ⟨checked, visited⟩, ended, empty⟩ := observed
  refine ⟨crashed, current, final, ran, isStored, failed,
    along_of_checkAlong recovering_of_recovers checked, recovered, visited, ended, ?_⟩
  rintro ⟨ref, member, _⟩
  rw [empty] at member
  cases member

end Journal

end KubeTemplater.Operator
