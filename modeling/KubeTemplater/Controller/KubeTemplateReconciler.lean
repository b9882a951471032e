/-
The controller: `KubeTemplateReconciler.Reconcile`, the periodic drift
correction it runs for completed templates, and the filter on update events.
-/

import KubeTemplater.Client

namespace KubeTemplater.Controller

open Library

/-- `ctrl.Result` and the error; a zero `requeueAfter` asks for no timer. -/
structure ReconcileResult where
  requeueAfter : Time
  err : Option GoError
  deriving DecidableEq, Repr

def ReconcileResult.finished : ReconcileResult :=
  { requeueAfter := 0, err := none }

def ReconcileResult.failed (err : GoError) : ReconcileResult :=
  { requeueAfter := 0, err := some err }

def ReconcileResult.after (delay : Time) : ReconcileResult :=
  { requeueAfter := delay, err := none }

def second : Time := 1000000000

section

variable (platform : Platform)

def fieldOf (object : Unstructured) (field : String) : Option Value :=
  match platform.nestedFieldCopy object [field] with
  | .ok found => found
  | .error _ => none

def hasDrift (current desired : Unstructured) : Bool :=
  match fieldOf platform current "spec", fieldOf platform desired "spec" with
  | some currentSpec, some desiredSpec => !platform.deepEqual currentSpec desiredSpec
  | some _, none => true
  | none, some _ => true
  | none, none =>
      match fieldOf platform current "data", fieldOf platform desired "data" with
      | some currentData, some desiredData => !platform.deepEqual currentData desiredData
      | some _, none => true
      | none, some _ => true
      | none, none => false

/-- What one turn of the loop of `applyTemplateResources` adds to its counters. -/
structure DriftTally where
  syncedResources : Int
  driftDetected : Bool
  deriving DecidableEq, Repr

def applyDrifted (object : Unstructured) (tally : DriftTally) : Program client DriftTally := do
  match ← patch object true false with
  | .error _ => pure tally
  | .ok _ => pure { tally with syncedResources := tally.syncedResources + 1 }

/-- One turn of the loop of `applyTemplateResources`.  The object is applied as
it was decoded. -/
def applyTemplateResource (template : Template) (tally : DriftTally) :
    Program client DriftTally :=
  match platform.unmarshal template.object.raw with
  | .error _ => pure tally
  | .ok object => do
      let found ← getResource (platform.groupVersionKind object)
        (platform.getNamespace object) (platform.getName object)
      match ← patch object true true with
      | .error _ => pure tally
      | .ok dryRun =>
          match found with
          | .ok current =>
              if hasDrift platform current dryRun then
                applyDrifted object { tally with driftDetected := true }
              else pure { tally with syncedResources := tally.syncedResources + 1 }
          | .error err =>
              -- a missing resource is created without counting as drift
              if err.isNotFound then applyDrifted object tally else pure tally

def applyTemplateResourceLoop : List Template → DriftTally → Program client DriftTally
  | [], tally => pure tally
  | template :: rest, tally => do
      let tally ← applyTemplateResource platform template tally
      applyTemplateResourceLoop rest tally

def reconciledStatus (totalResources : Int) (tally : DriftTally) (now : Time)
    (status : KubeTemplateStatus) : KubeTemplateStatus :=
  let counted := { status with
    lastReconcileTime := some now
    resourcesTotal := totalResources
    resourcesSynced := tally.syncedResources
    dryRunChecks := status.dryRunChecks + totalResources }
  if tally.driftDetected then
    { counted with
      lastDriftDetected := some now
      driftDetectionCount := status.driftDetectionCount + 1 }
  else counted

theorem reconciledStatus_keeps (total : Int) (tally : DriftTally) (now : Time)
    (status : KubeTemplateStatus) :
    (reconciledStatus total tally now status).processingPhase =
        status.processingPhase ∧
      (reconciledStatus total tally now status).appliedSpecHash =
        status.appliedSpecHash := by
  unfold reconciledStatus
  dsimp only
  split
  · exact ⟨rfl, rfl⟩
  · exact ⟨rfl, rfl⟩

def applyTemplateResources (kubeTemplate : KubeTemplate) : Program client (Option GoError) := do
  let tally ← applyTemplateResourceLoop platform kubeTemplate.spec.templates
    { syncedResources := 0, driftDetected := false }
  let now ← timeNow
  if tally.driftDetected || kubeTemplate.status.lastReconcileTime.isNone then
    match ← updateStatus { kubeTemplate with
        status := reconciledStatus kubeTemplate.spec.templates.length tally now
          kubeTemplate.status } with
    | .error err => pure (some err)
    | .ok _ => pure none
  else pure none

def resumeAnnotation : String := "kubetemplater.io/resume"

def resumedStatus (now : Time) (status : KubeTemplateStatus) : KubeTemplateStatus :=
  { status with
    processingPhase := .queued
    pausedReason := ""
    pausedAt := none
    retryCount := 0
    queuedAt := some now }

def failedRequeuedStatus (currentHash : String) (now : Time) (status : KubeTemplateStatus) :
    KubeTemplateStatus :=
  { status with
    processingPhase := .queued
    retryCount := 0
    retryCycle := 0
    queuedAt := some now
    appliedSpecHash := currentHash }

def completedRequeuedStatus (currentHash : String) (now : Time) (status : KubeTemplateStatus) :
    KubeTemplateStatus :=
  { status with
    processingPhase := .queued
    retryCount := 0
    queuedAt := some now
    appliedSpecHash := currentHash }

def queuedStatus (now : Time) (status : KubeTemplateStatus) : KubeTemplateStatus :=
  { status with
    processingPhase := .queued
    queuedAt := some now
    processedAt := none
    retryCount := 0 }

/-- The end that three branches share: write the status, enqueue unless the
write failed for another reason than a conflict. -/
def updateAndEnqueue (kubeTemplate : KubeTemplate) (status : KubeTemplateStatus) :
    Program client ReconcileResult := do
  match ← updateStatus { kubeTemplate with status := status } with
  | .error err =>
      if err.isConflict then do
        enqueue kubeTemplate.key 0
        pure .finished
      else pure (.failed err)
  | .ok _ => do
      enqueue kubeTemplate.key 0
      pure .finished

def reconcilePaused (kubeTemplate : KubeTemplate) : Program client ReconcileResult :=
  if mapGet kubeTemplate.metadata.annotations resumeAnnotation = some "true" then do
    let now ← timeNow
    updateAndEnqueue kubeTemplate (resumedStatus now kubeTemplate.status)
  else pure .finished

def reconcileFailed (kubeTemplate : KubeTemplate) : Program client ReconcileResult :=
  let currentHash := calculateSpecHash platform kubeTemplate.spec
  if kubeTemplate.status.appliedSpecHash ≠ "" ∧
      currentHash ≠ kubeTemplate.status.appliedSpecHash then do
    let now ← timeNow
    updateAndEnqueue kubeTemplate (failedRequeuedStatus currentHash now kubeTemplate.status)
  else do
    -- the answer only decides what is logged
    let _ ← queueContains kubeTemplate.key
    pure .finished

/-- The drift pass of a completed template, unless it ran recently. -/
def reconcileIdle (interval : Time) (kubeTemplate : KubeTemplate) :
    Program client ReconcileResult := do
  match kubeTemplate.status.lastReconcileTime with
  | none => do
      let _ ← applyTemplateResources platform kubeTemplate
      pure (.after interval)
  | some last => do
      let now ← timeNow
      if now - last < interval.tdiv 2 then pure (.after interval)
      else do
        let _ ← applyTemplateResources platform kubeTemplate
        pure (.after interval)

def reconcileCompleted (interval : Time) (kubeTemplate : KubeTemplate) :
    Program client ReconcileResult :=
  let currentHash := calculateSpecHash platform kubeTemplate.spec
  if kubeTemplate.status.appliedSpecHash = "" then do
    -- an error of this update is dropped
    let _ ← updateStatus { kubeTemplate with
      status := { kubeTemplate.status with appliedSpecHash := currentHash } }
    pure (.after interval)
  else if currentHash ≠ kubeTemplate.status.appliedSpecHash then do
    let now ← timeNow
    updateAndEnqueue kubeTemplate (completedRequeuedStatus currentHash now kubeTemplate.status)
  else do
    if ← queueContains kubeTemplate.key then pure (.after interval)
    else reconcileIdle platform interval kubeTemplate

/-- The closure handed to `RetryOnConflict`: read again, then write Queued. -/
def queueNewTemplate (key : NamespacedName) : Program client (Option GoError) := do
  match ← getTemplate key with
  | .error err => pure (some err)
  | .ok latest => do
      let now ← timeNow
      match ← updateStatus { latest with status := queuedStatus now latest.status } with
      | .error err => pure (some err)
      | .ok _ => pure none

def retryOnConflict (body : Program client (Option GoError)) :
    Nat → Program client (Option GoError)
  | 0 => body
  | retries + 1 => do
      match ← body with
      | none => pure none
      | some err =>
          if err.isConflict then retryOnConflict body retries else pure (some err)

def reconcileNew (req : NamespacedName) (kubeTemplate : KubeTemplate) :
    Program client ReconcileResult := do
  match ← retryOnConflict (queueNewTemplate req) platform.conflictRetries with
  | some _ => pure (.after second)
  | none => do
      enqueue kubeTemplate.key 0
      pure .finished

def reconcilePhase (interval : Time) (req : NamespacedName) (kubeTemplate : KubeTemplate) :
    Program client ReconcileResult :=
  match kubeTemplate.status.processingPhase with
  | .paused => reconcilePaused kubeTemplate
  | .failed => reconcileFailed platform kubeTemplate
  | .completed => reconcileCompleted platform interval kubeTemplate
  | .empty => reconcileNew platform req kubeTemplate
  | .queued | .processing => do
      enqueue kubeTemplate.key 0
      pure .finished

def reconcile (interval : Time) (req : NamespacedName) : Program client ReconcileResult := do
  match ← getTemplate req with
  | .error err => if err.isNotFound then pure .finished else pure (.failed err)
  | .ok kubeTemplate => reconcilePhase platform interval req kubeTemplate

end

def sameEntries (left right : List (String × String)) : Bool :=
  (left ++ right).all (fun entry => mapGet left entry.1 == mapGet right entry.1)

def updateFunc (old new : KubeTemplate) : Bool :=
  decide (old.spec ≠ new.spec) ||
    !sameEntries old.metadata.annotations new.metadata.annotations ||
    !sameEntries old.metadata.labels new.metadata.labels

private theorem sameEntries_get {left right : List (String × String)}
    (same : sameEntries left right = true) (name : String) :
    mapGet left name = mapGet right name := by
  have absent (entries : List (String × String))
      (unknown : ∀ entry, entry ∈ entries → entry.1 ≠ name) : mapGet entries name = none := by
    refine List.lookup_eq_none_iff.mpr ?_
    intro entry member
    exact bne_iff_ne.mpr (unknown entry member).symm
  by_cases known : ∃ entry, entry ∈ left ++ right ∧ entry.1 = name
  · obtain ⟨entry, member, rfl⟩ := known
    exact beq_iff_eq.mp (List.all_eq_true.mp same entry member)
  · rw [absent left, absent right]
    · intro entry member isName
      exact known ⟨entry, List.mem_append_right left member, isName⟩
    · intro entry member isName
      exact known ⟨entry, List.mem_append_left right member, isName⟩

theorem updateFunc_of_annotation {old new : KubeTemplate} {name : String}
    (differs : mapGet old.metadata.annotations name ≠ mapGet new.metadata.annotations name) :
    updateFunc old new = true := by
  have changed : sameEntries old.metadata.annotations new.metadata.annotations = false := by
    refine Bool.eq_false_iff.mpr ?_
    intro same
    exact differs (sameEntries_get same name)
  unfold updateFunc
  rw [changed, Bool.not_false, Bool.or_true, Bool.true_or]

end KubeTemplater.Controller
