/-
Statuses that make sense.

A status is written by any of the workers and by `Reconcile`, each time from one that was
read before, and users edit the KubeTemplate in between.  Every version that is ever stored
has the fields that its phase calls for.
-/

import KubeTemplater.Operator.StatusUpdates

namespace KubeTemplater.Operator

open Library

def PhaseRecorded (status : KubeTemplateStatus) : Prop :=
  match status.processingPhase with
  | .empty => status.queuedAt = none ∧ status.processedAt = none ∧ status.pausedAt = none
  | .queued => status.queuedAt.isSome = true
  | .processing => status.processedAt = none
  | .completed => status.status = "Completed" ∧ status.processedAt.isSome = true
  | .failed => status.processedAt.isSome = true
  | .paused => status.status = "Paused due to repeated failures" ∧ status.pausedAt.isSome = true

structure StatusRecorded (status : KubeTemplateStatus) : Prop where
  phase : PhaseRecorded status
  /-- Retries are counted in the work queue only. -/
  retries : status.retryCount = 0 ∧ status.retryCycle = 0
  /-- A reason is given only together with its time. -/
  reason : status.pausedAt = none → status.pausedReason = ""
  drifts : 0 ≤ status.driftDetectionCount ∧
    (status.driftDetectionCount = 0 ↔ status.lastDriftDetected = none)
  passes : status.lastReconcileTime = none → status.lastDriftDetected = none

private theorem statusRecorded_initial : StatusRecorded .initial where
  phase := ⟨rfl, rfl, rfl⟩
  retries := ⟨rfl, rfl⟩
  reason := fun _ => rfl
  drifts := ⟨Int.le_refl 0, fun _ => rfl, fun _ => rfl⟩
  passes := fun _ => rfl

private theorem reconciledStatus_recorded {status : KubeTemplateStatus}
    (recorded : StatusRecorded status)
    (total : Nat) (tally : Controller.DriftTally) (now : Time) :
    StatusRecorded (Controller.reconciledStatus total tally now status) := by
  obtain ⟨phase, retries, reason, ⟨nonneg, drifts⟩, _⟩ := recorded
  unfold Controller.reconciledStatus
  dsimp only
  split
  · refine ⟨phase, retries, reason, ⟨?_, iff_of_false ?_ (Option.some_ne_none now)⟩, ?_⟩
    · dsimp only
      omega
    · dsimp only
      omega
    · intro impossible
      cases impossible
  · refine ⟨phase, retries, reason, ⟨nonneg, drifts⟩, ?_⟩
    intro impossible
    cases impossible

/-- Whoever writes a status leaves it recorded. -/
theorem StatusChange.recorded {change : KubeTemplateStatus → KubeTemplateStatus}
    (isChange : StatusChange change) {status : KubeTemplateStatus}
    (recorded : StatusRecorded status) : StatusRecorded (change status) := by
  obtain ⟨phase, retries, reason, drifts, passes⟩ := id recorded
  cases isChange with
  | processing => exact ⟨rfl, retries, reason, drifts, passes⟩
  | failed text now => exact ⟨rfl, retries, reason, drifts, passes⟩
  | completed specHash now => exact ⟨⟨rfl, rfl⟩, retries, reason, drifts, passes⟩
  | paused text now =>
      refine ⟨⟨rfl, rfl⟩, retries, ?_, drifts, passes⟩
      intro impossible
      cases impossible
  | resumed now => exact ⟨rfl, ⟨rfl, retries.2⟩, fun _ => rfl, drifts, passes⟩
  | failedRequeued hash now => exact ⟨rfl, ⟨rfl, rfl⟩, reason, drifts, passes⟩
  | hashed hash => exact ⟨phase, retries, reason, drifts, passes⟩
  | reconciled total tally now => exact reconciledStatus_recorded recorded total tally now
  | _ => exact ⟨rfl, ⟨rfl, retries.2⟩, reason, drifts, passes⟩

namespace System

def Recorded (system : System) : Prop :=
  ∀ template ∈ system.history, StatusRecorded template.status

private theorem step_recorded {config : Config} {system next : System} {label : Label}
    (rewriting : system.Rewriting) (recorded : system.Recorded)
    (taken : system.step config label = some next) : next.Recorded := by
  have grown {new : KubeTemplate} (fresh : StatusRecorded new.status)
      (same : SameStore next (system.put new)) : next.Recorded := by
    intro template member
    rw [same.history] at member
    rcases List.mem_cons.mp member with rfl | old
    · exact fresh
    · exact recorded template old
  have found {key : NamespacedName} {stored : KubeTemplate}
      (isStored : system.templates key = some stored) : StatusRecorded stored.status :=
    recorded stored (rewriting.versioned.stored key stored isStored)
  cases step_stores config taken with
  | kept same =>
      intro template member
      rw [same.history] at member
      exact recorded template member
  | removed key isLabel same =>
      intro template member
      rw [same.history] at member
      exact recorded template member
  | created template isLabel free same => exact grown statusRecorded_initial same
  | edited key spec labels annotations old isLabel isStored same =>
      have was := found isStored
      exact @grown (System.edited old spec labels annotations) was same
  | updated read template stored calls isStored version same =>
      -- the writer has read what is stored
      obtain ⟨change, _isRead, isChange, rfl⟩ := rewriting.current calls isStored version
      exact grown (isChange.recorded (found isStored)) same

/-- Whatever the order of the steps and the fate of the calls, every version makes sense. -/
theorem statuses_recorded (config : Config) (session : Queue.Session)
    (policies : String → Except GoError KubeTemplatePolicy) (labels : List Label) :
    Throughout (step config) Recorded (start session policies) labels := by
  have both := throughout_of_preserved (step config)
    (fun system => system.Rewriting ∧ system.Recorded)
    (fun system label next here taken =>
      ⟨step_rewriting here.1 taken, step_recorded here.1 here.2 taken⟩)
    (start session policies) labels
    ⟨start_rewriting session policies, fun template member => by cases member⟩
  exact both.mono (fun _ here => here.2)

end System

end KubeTemplater.Operator
