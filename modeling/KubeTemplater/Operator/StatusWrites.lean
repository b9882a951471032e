/-
The status updates of the operator.

A worker and `Reconcile` write a status that is computed from the one they have read
last, by one of a few functions.  None of them takes anything away from the two
counters.
-/

import KubeTemplater.Operator.Duties

namespace KubeTemplater.Operator

open Library Library.Program

section

variable (platform : Platform)

inductive StatusChange : (KubeTemplateStatus → KubeTemplateStatus) → Prop where
  | processing : StatusChange Worker.processingStatus
  | failed (text : String) (now : Time) : StatusChange (Worker.failedStatus text now)
  | completed (specHash : String) (now : Time) :
      StatusChange (Worker.completedStatus specHash now)
  | paused (reason : String) (now : Time) : StatusChange (Worker.pausedStatus reason now)
  | resumed (now : Time) : StatusChange (Controller.resumedStatus now)
  | failedRequeued (hash : String) (now : Time) :
      StatusChange (Controller.failedRequeuedStatus hash now)
  | completedRequeued (hash : String) (now : Time) :
      StatusChange (Controller.completedRequeuedStatus hash now)
  | hashed (hash : String) : StatusChange (fun status => { status with appliedSpecHash := hash })
  | queued (now : Time) : StatusChange (Controller.queuedStatus now)
  | reconciled (total : Nat) (tally : Controller.DriftTally) (now : Time) :
      StatusChange (Controller.reconciledStatus total tally now)

inductive Counter where
  | driftDetectionCount
  | dryRunChecks
  deriving DecidableEq, Repr

def Counter.value : Counter → KubeTemplateStatus → Int
  | .driftDetectionCount, status => status.driftDetectionCount
  | .dryRunChecks, status => status.dryRunChecks

theorem reconciledStatus_counts (counter : Counter) (total : Nat) (tally : Controller.DriftTally)
    (now : Time) (status : KubeTemplateStatus) :
    counter.value status ≤ counter.value (Controller.reconciledStatus total tally now status) := by
  unfold Controller.reconciledStatus
  dsimp only
  split
  · cases counter <;> simp only [Counter.value] <;> omega
  · cases counter <;> simp only [Counter.value] <;> omega

variable {change : KubeTemplateStatus → KubeTemplateStatus}

theorem StatusChange.counts (isChange : StatusChange change) (counter : Counter)
    (status : KubeTemplateStatus) :
    counter.value status ≤ counter.value (change status) := by
  cases isChange with
  | reconciled total tally now => exact reconciledStatus_counts counter total tally now status
  | _ => cases counter <;> exact Int.le_refl _

def rewriting : Protocol client (Option KubeTemplate) where
  expected := fun _ _ _ => True
  permitted := fun read request =>
    match request with
    | .updateStatus template => ∃ seen change, read = some seen ∧ StatusChange change ∧
        template = { seen with status := change seen.status }
    | _ => True
  after := readAfter

private theorem updateStatusTurns_rewriting {update : KubeTemplateStatus → KubeTemplateStatus}
    (isChange : StatusChange update) (turns : Nat) (read : Option KubeTemplate)
    (kubeTemplate : KubeTemplate) :
    Guarantees rewriting (fun _ _ => True) read
      (Worker.updateStatusTurns update turns kubeTemplate) := by
  induction turns generalizing read kubeTemplate with
  | zero => trivial
  | succ turns ih =>
      simp only [Worker.updateStatusTurns, getTemplate, updateStatus, call_bind, done_bind]
      refine ⟨trivial, ?_⟩
      intro answer _expected
      cases answer with
      | error err => trivial
      | ok latest =>
          refine ⟨⟨latest, update, rfl, isChange, rfl⟩, ?_⟩
          intro stored _expected
          cases stored with
          | ok revision => trivial
          | error err =>
              dsimp only
              split
              · exact ih _ _
              · trivial

theorem updateStatusWithRetry_rewriting {update : KubeTemplateStatus → KubeTemplateStatus}
    (isChange : StatusChange update) (read : Option KubeTemplate) (kubeTemplate : KubeTemplate) :
    Guarantees rewriting (fun _ _ => True) read
      (Worker.updateStatusWithRetry kubeTemplate update) :=
  updateStatusTurns_rewriting isChange 3 read kubeTemplate

private theorem applyObject_rewriting (read : Option KubeTemplate) (kubeTemplate : KubeTemplate)
    (template : Template) (gvk : GroupVersionKind) (object : Unstructured) :
    Guarantees rewriting (fun _ _ => True) read
      (Worker.applyObject platform kubeTemplate template gvk object) := by
  simp only [Worker.applyObject, patch, deleteResource, timeNow, call_bind, done_bind]
  refine ⟨trivial, ?_⟩
  intro answer _expected
  cases answer with
  | ok stored => trivial
  | error err =>
      dsimp only
      split
      · refine ⟨trivial, ?_⟩
        intro deleted _expected
        cases deleted with
        | error refused => trivial
        | ok nothing => exact ⟨trivial, fun _ _ => trivial⟩
      · refine ⟨trivial, ?_⟩
        intro now _expected
        apply guarantees_bind _ (updateStatusWithRetry_rewriting (.failed _ now) _ kubeTemplate)
        intro later result _ended
        trivial

private theorem processTemplate_rewriting (policy : KubeTemplatePolicy) (read : Option KubeTemplate)
    (kubeTemplate : KubeTemplate) (template : Template) :
    Guarantees rewriting (fun _ _ => True) read
      (Worker.processTemplate platform policy kubeTemplate template) := by
  unfold Worker.processTemplate
  split
  · trivial
  · rename_i decoded _decodes
    dsimp only
    split
    · rename_i text _refused
      simp only [timeNow, call_bind, done_bind]
      refine ⟨trivial, ?_⟩
      intro now _expected
      apply guarantees_bind _ (updateStatusWithRetry_rewriting (.failed text now) _ kubeTemplate)
      intro later result _ended
      trivial
    · exact applyObject_rewriting platform read kubeTemplate template _ _

private theorem processTemplates_rewriting (policy : KubeTemplatePolicy) (templates : List Template)
    (read : Option KubeTemplate) (kubeTemplate : KubeTemplate) :
    Guarantees rewriting (fun _ _ => True) read
      (Worker.processTemplates platform policy templates kubeTemplate) := by
  induction templates generalizing read kubeTemplate with
  | nil => trivial
  | cons template rest ih =>
      apply guarantees_bind _ (processTemplate_rewriting platform policy read kubeTemplate template)
      rintro later ⟨after, failure⟩ _ended
      cases failure with
      | some err => trivial
      | none => exact ih later after

private theorem completeTemplate_rewriting (read : Option KubeTemplate)
    (kubeTemplate : KubeTemplate) :
    Guarantees rewriting (fun _ _ => True) read
      (Worker.completeTemplate platform kubeTemplate) := by
  simp only [Worker.completeTemplate, timeNow, call_bind, done_bind]
  refine ⟨trivial, ?_⟩
  intro now _expected
  apply guarantees_bind _ (updateStatusWithRetry_rewriting (.completed _ now) _ kubeTemplate)
  intro later result _ended
  trivial

private theorem applyTemplates_rewriting (policy : KubeTemplatePolicy) (read : Option KubeTemplate)
    (kubeTemplate : KubeTemplate) :
    Guarantees rewriting (fun _ _ => True) read
      (Worker.applyTemplates platform policy kubeTemplate) := by
  apply guarantees_bind _ (processTemplates_rewriting platform policy _ read kubeTemplate)
  rintro later ⟨after, failure⟩ _ended
  cases failure with
  | some err => trivial
  | none => exact completeTemplate_rewriting platform later after

private theorem processFetched_rewriting (operatorNamespace : String) (read : Option KubeTemplate)
    (kubeTemplate : KubeTemplate) :
    Guarantees rewriting (fun _ _ => True) read
      (Worker.processFetched platform operatorNamespace kubeTemplate) := by
  apply guarantees_bind _ (updateStatusWithRetry_rewriting .processing read kubeTemplate)
  rintro later ⟨latest, _failure⟩ _ended
  simp only [policyCacheGet, call_bind, done_bind]
  refine ⟨trivial, ?_⟩
  intro answer _expected
  cases answer with
  | error err =>
      simp only [timeNow, call_bind, done_bind]
      refine ⟨trivial, ?_⟩
      intro now _expected
      apply guarantees_bind _ (updateStatusWithRetry_rewriting (.failed _ now) _ latest)
      intro last result _ended
      trivial
  | ok policy => exact applyTemplates_rewriting platform policy _ latest

private theorem processItem_rewriting (operatorNamespace : String) (read : Option KubeTemplate)
    (key : NamespacedName) :
    Guarantees rewriting (fun _ _ => True) read
      (Worker.processItem platform operatorNamespace key) := by
  simp only [Worker.processItem, getTemplate, call_bind, done_bind]
  refine ⟨trivial, ?_⟩
  intro answer _expected
  cases answer with
  | error err =>
      dsimp only
      split <;> trivial
  | ok kubeTemplate => exact processFetched_rewriting platform operatorNamespace _ kubeTemplate

private theorem pauseTemplate_rewriting (maxRetryCycles : Int) (read : Option KubeTemplate)
    (key : NamespacedName) (err : GoError) :
    Guarantees rewriting (fun _ _ => True) read
      (Worker.pauseTemplate maxRetryCycles key err) := by
  simp only [Worker.pauseTemplate, getTemplate, timeNow, call_bind, done_bind]
  refine ⟨trivial, ?_⟩
  intro answer _expected
  cases answer with
  | error failure => trivial
  | ok kubeTemplate =>
      refine ⟨trivial, ?_⟩
      intro now _expected
      apply guarantees_bind _ (updateStatusWithRetry_rewriting (.paused _ now) _ kubeTemplate)
      rintro later ⟨latest, failure⟩ _ended
      cases failure with
      | some err => trivial
      | none => exact ⟨trivial, fun _ _ => trivial⟩

theorem handleItem_rewriting (operatorNamespace : String) (maxRetryCycles : Int)
    (item : Queue.WorkItem) (read : Option KubeTemplate) :
    Guarantees rewriting (fun _ _ => True) read
      (Worker.handleItem platform operatorNamespace maxRetryCycles item) := by
  apply guarantees_bind _ (processItem_rewriting platform operatorNamespace read _)
  intro later result _ended
  cases result with
  | none => trivial
  | some err =>
      dsimp only
      split
      · apply guarantees_bind _ (pauseTemplate_rewriting maxRetryCycles later _ err)
        intro last _ _ended
        trivial
      · trivial

inductive ReconcileChange (seen : KubeTemplate) :
    (KubeTemplateStatus → KubeTemplateStatus) → Prop where
  | resumed (now : Time) : ReconcileChange seen (Controller.resumedStatus now)
  | failedRequeued (failed : seen.status.processingPhase = .failed)
      (recorded : seen.status.appliedSpecHash ≠ "")
      (differs : calculateSpecHash platform seen.spec ≠ seen.status.appliedSpecHash) (now : Time) :
      ReconcileChange seen
        (Controller.failedRequeuedStatus (calculateSpecHash platform seen.spec) now)
  | completedRequeued (completed : seen.status.processingPhase = .completed)
      (differs : calculateSpecHash platform seen.spec ≠ seen.status.appliedSpecHash) (now : Time) :
      ReconcileChange seen
        (Controller.completedRequeuedStatus (calculateSpecHash platform seen.spec) now)
  | hashed (completed : seen.status.processingPhase = .completed) :
      ReconcileChange seen
        (fun status => { status with appliedSpecHash := calculateSpecHash platform seen.spec })
  | queued (now : Time) : ReconcileChange seen (Controller.queuedStatus now)
  | reconciled (total : Nat) (tally : Controller.DriftTally) (now : Time) :
      ReconcileChange seen (Controller.reconciledStatus total tally now)

def updating (key : NamespacedName) : Protocol client (Option KubeTemplate) where
  expected := fun _ _ _ => True
  permitted := fun read request =>
    match request with
    | .getTemplate wanted => wanted = key
    | .updateStatus template => ∃ seen change, read = some seen ∧
        ReconcileChange platform seen change ∧
        template = { seen with status := change seen.status }
    | _ => True
  after := readAfter

variable {key : NamespacedName}

theorem updateAndEnqueue_updating {kubeTemplate : KubeTemplate}
    (isChange : ReconcileChange platform kubeTemplate change) :
    Guarantees (updating platform key) (fun _ _ => True) (some kubeTemplate)
      (Controller.updateAndEnqueue kubeTemplate (change kubeTemplate.status)) := by
  simp only [Controller.updateAndEnqueue, updateStatus, enqueue, call_bind, done_bind]
  refine ⟨⟨kubeTemplate, change, rfl, isChange, rfl⟩, ?_⟩
  intro answer _expected
  cases answer with
  | ok revision => exact ⟨trivial, fun _ _ => trivial⟩
  | error err =>
      dsimp only
      split
      · exact ⟨trivial, fun _ _ => trivial⟩
      · trivial

private theorem applyTemplateResources_updating (kubeTemplate : KubeTemplate) :
    Guarantees (updating platform key) (fun _ _ => True) (some kubeTemplate)
      (Controller.applyTemplateResources platform kubeTemplate) := by
  apply guarantees_bind (fun after _ => after = some kubeTemplate)
  · refine (applyTemplateResourceLoop_makes platform _ _).steady _ ?_ ?_
    · intro request resource
      cases request <;> trivial
    · intro request answer resource
      cases request <;> first | rfl | cases resource
  · rintro _ tally rfl
    simp only [timeNow, updateStatus, call_bind, done_bind]
    refine ⟨trivial, ?_⟩
    intro now _expected
    dsimp only
    split
    · refine ⟨⟨kubeTemplate, _, rfl, .reconciled _ tally now, rfl⟩, ?_⟩
      intro answer _expected
      cases answer with
      | error err => trivial
      | ok revision => trivial
    · trivial

private theorem reconcileIdle_updating (interval : Time) (kubeTemplate : KubeTemplate) :
    Guarantees (updating platform key) (fun _ _ => True) (some kubeTemplate)
      (Controller.reconcileIdle platform interval kubeTemplate) := by
  have corrects : Guarantees (updating platform key) (fun _ _ => True) (some kubeTemplate)
      (do
        let _ ← Controller.applyTemplateResources platform kubeTemplate
        pure (Controller.ReconcileResult.after interval)) := by
    apply guarantees_bind _ (applyTemplateResources_updating platform kubeTemplate)
    intro later result _ended
    trivial
  unfold Controller.reconcileIdle
  cases kubeTemplate.status.lastReconcileTime with
  | none => exact corrects
  | some last =>
      simp only [timeNow, call_bind, done_bind]
      refine ⟨trivial, ?_⟩
      intro now _expected
      dsimp only
      split
      · trivial
      · exact corrects

private theorem reconcileCompleted_updating (interval : Time) (kubeTemplate : KubeTemplate)
    (completed : kubeTemplate.status.processingPhase = .completed) :
    Guarantees (updating platform key) (fun _ _ => True) (some kubeTemplate)
      (Controller.reconcileCompleted platform interval kubeTemplate) := by
  unfold Controller.reconcileCompleted
  dsimp only
  split
  · simp only [updateStatus, call_bind, done_bind]
    exact ⟨⟨kubeTemplate, _, rfl, .hashed completed, rfl⟩, fun _ _ => trivial⟩
  · split
    · rename_i differs
      simp only [timeNow, call_bind, done_bind]
      refine ⟨trivial, ?_⟩
      intro now _expected
      exact updateAndEnqueue_updating platform (.completedRequeued completed differs now)
    · simp only [queueContains, call_bind, done_bind]
      refine ⟨trivial, ?_⟩
      intro queued _expected
      cases queued with
      | true => trivial
      | false => exact reconcileIdle_updating platform interval kubeTemplate

private theorem queueNewTemplate_updating (read : Option KubeTemplate) :
    Guarantees (updating platform key) (fun _ _ => True) read
      (Controller.queueNewTemplate key) := by
  simp only [Controller.queueNewTemplate, getTemplate, timeNow, updateStatus, call_bind,
    done_bind]
  refine ⟨rfl, ?_⟩
  intro answer _expected
  cases answer with
  | error err => trivial
  | ok latest =>
      refine ⟨trivial, fun now _expected => ⟨⟨latest, _, rfl, .queued now, rfl⟩, ?_⟩⟩
      intro stored _expected
      cases stored with
      | error err => trivial
      | ok revision => trivial

private theorem retryOnConflict_updating (retries : Nat) (read : Option KubeTemplate) :
    Guarantees (updating platform key) (fun _ _ => True) read
      (Controller.retryOnConflict (Controller.queueNewTemplate key) retries) := by
  induction retries generalizing read with
  | zero => exact queueNewTemplate_updating platform read
  | succ retries ih =>
      apply guarantees_bind _ (queueNewTemplate_updating platform read)
      intro after result _ended
      cases result with
      | none => trivial
      | some err =>
          dsimp only
          split
          · exact ih after
          · trivial

private theorem reconcilePhase_updating (interval : Time) (kubeTemplate : KubeTemplate) :
    Guarantees (updating platform key) (fun _ _ => True) (some kubeTemplate)
      (Controller.reconcilePhase platform interval key kubeTemplate) := by
  unfold Controller.reconcilePhase
  cases phase : kubeTemplate.status.processingPhase with
  | paused =>
      dsimp only
      unfold Controller.reconcilePaused
      split
      · simp only [timeNow, call_bind, done_bind]
        refine ⟨trivial, ?_⟩
        intro now _expected
        exact updateAndEnqueue_updating platform (.resumed now)
      · trivial
  | failed =>
      dsimp only
      unfold Controller.reconcileFailed
      dsimp only
      split
      · rename_i changed
        simp only [timeNow, call_bind, done_bind]
        refine ⟨trivial, ?_⟩
        intro now _expected
        exact updateAndEnqueue_updating platform (.failedRequeued phase changed.1 changed.2 now)
      · exact ⟨trivial, fun _ _ => trivial⟩
  | completed => exact reconcileCompleted_updating platform interval kubeTemplate phase
  | empty =>
      apply guarantees_bind _ (retryOnConflict_updating platform platform.conflictRetries _)
      intro after result _ended
      cases result with
      | some err => trivial
      | none => exact ⟨trivial, fun _ _ => trivial⟩
  | queued => exact ⟨trivial, fun _ _ => trivial⟩
  | processing => exact ⟨trivial, fun _ _ => trivial⟩

theorem reconcile_updating (interval : Time) (read : Option KubeTemplate) :
    Guarantees (updating platform key) (fun _ _ => True) read
      (Controller.reconcile platform interval key) := by
  simp only [Controller.reconcile, getTemplate, call_bind, done_bind]
  refine ⟨rfl, ?_⟩
  intro answer _expected
  cases answer with
  | error err =>
      dsimp only
      split <;> trivial
  | ok kubeTemplate => exact reconcilePhase_updating platform interval kubeTemplate

theorem ReconcileChange.statusChange {seen : KubeTemplate}
    (isChange : ReconcileChange platform seen change) : StatusChange change := by
  cases isChange with
  | resumed now => exact .resumed now
  | failedRequeued failed recorded differs now => exact .failedRequeued _ now
  | completedRequeued completed differs now => exact .completedRequeued _ now
  | hashed completed => exact .hashed _
  | queued now => exact .queued now
  | reconciled total tally now => exact .reconciled total tally now

theorem reconcile_rewriting (interval : Time) (key : NamespacedName)
    (read : Option KubeTemplate) :
    Guarantees rewriting (fun _ _ => True) read
      (Controller.reconcile platform interval key) := by
  apply @Guarantees.simulate _ _ _ _ _ rewriting _ _ _ Eq _ _
    (@reconcile_updating platform key interval read) rfl
  · intro _ _ _ _ _ _
    trivial
  · rintro seen _ request rfl permitted
    cases request with
    | updateStatus template =>
        obtain ⟨found, change, isRead, isChange, isTemplate⟩ := permitted
        exact ⟨found, change, isRead, isChange.statusChange platform, isTemplate⟩
    | _ => trivial
  · rintro seen _ request answer rfl _permitted _expected
    rfl
  · intro _ _ _ _ _
    trivial

end

end KubeTemplater.Operator
