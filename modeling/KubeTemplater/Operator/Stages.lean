/-
The stages a worker's turn and an execution of `Reconcile` go through when every
call succeeds and the policy allows every element: which call each stage makes
next, and what it has done when it ends.
-/

import KubeTemplater.Operator.WriteProtocol

namespace KubeTemplater.Operator

open Library Library.Program

structure ResourceId where
  gvk : GroupVersionKind
  ns : String
  name : String
  deriving DecidableEq, Repr

section

variable (platform : Platform)

def resourceOf (object : Unstructured) : ResourceId :=
  { gvk := platform.groupVersionKind object
    ns := platform.getNamespace object
    name := platform.getName object }

/-- The metadata of one KubeTemplate, whatever the version. -/
structure SameIdentity (left right : ObjectMeta) : Prop where
  ns : left.ns = right.ns
  name : left.name = right.name
  uid : left.uid = right.uid

/-- The worker takes nothing but the identity from the metadata. -/
theorem appliedObject_identity {left right : ObjectMeta} (same : SameIdentity left right)
    (template : Template) (object : Unstructured) :
    Worker.appliedObject platform left template object =
      Worker.appliedObject platform right template object := by
  simp only [Worker.appliedObject, Worker.addTrackingLabels, Worker.addOwnerReference,
    Worker.ownerReference, same.ns, same.name, same.uid]

def elementResource (metadata : ObjectMeta) (template : Template) (decoded : Unstructured) :
    ResourceId :=
  resourceOf platform (Worker.appliedObject platform metadata template
    (defaultNamespace platform metadata.ns decoded))

theorem elementResource_identity {left right : ObjectMeta} (same : SameIdentity left right)
    (template : Template) (decoded : Unstructured) :
    elementResource platform left template decoded =
      elementResource platform right template decoded := by
  unfold elementResource
  rw [appliedObject_identity platform same, same.ns]

inductive WorkerStage where
  | waiting
  | fetched
  /-- The status Processing is written next, to the version read here. -/
  | reread (latest : KubeTemplate)
  | applying (kubeTemplate : KubeTemplate) (applied : List ResourceId)
  /-- Everything is applied; the status Completed is written next. -/
  | closing (kubeTemplate latest : KubeTemplate)
  | finished

/-- The turn has yet to read the spec it will apply. -/
def WorkerStage.early : WorkerStage → Prop
  | .waiting => True
  | .fetched => True
  | .reread _ => True
  | _ => False

def AllApplied (kubeTemplate : KubeTemplate) (applied : List ResourceId) : Prop :=
  ∀ template, template ∈ kubeTemplate.spec.templates → ∀ decoded,
    platform.unmarshal template.object.raw = .ok decoded →
    elementResource platform kubeTemplate.metadata template decoded ∈ applied

def PolicyAccepts (granted : KubeTemplatePolicy) (kubeTemplate : KubeTemplate) : Prop :=
  ∀ template, template ∈ kubeTemplate.spec.templates → ∀ decoded,
    platform.unmarshal template.object.raw = .ok decoded →
    ∃ rule, Worker.checkPolicy platform granted
      (defaultNamespace platform kubeTemplate.metadata.ns decoded) = .ok rule

def workerPermitted (key : NamespacedName) : WorkerStage → Call → Prop
  | .waiting, .getTemplate wanted => wanted = key
  | .fetched, .getTemplate wanted => wanted = key
  | .reread latest, .updateStatus template =>
      template = { latest with status := Worker.processingStatus latest.status }
  | .applying _ _, .policyCacheGet source _ => source = key.ns
  | .applying _ _, .now => True
  | .applying _ _, .patch _ _ dryRun => dryRun = false
  | .applying kubeTemplate applied, .getTemplate wanted =>
      wanted = key ∧ AllApplied platform kubeTemplate applied
  | .closing kubeTemplate latest, .updateStatus template =>
      ∃ now, template = { latest with
        status := Worker.completedStatus (calculateSpecHash platform kubeTemplate.spec) now
          latest.status }
  | _, _ => False

def workerAfter : WorkerStage → (request : Call) → request.Answer → WorkerStage
  | .waiting, .getTemplate _, .ok _ => .fetched
  | .fetched, .getTemplate _, .ok latest => .reread latest
  | .reread latest, .updateStatus _, .ok _ => .applying latest []
  | .applying kubeTemplate applied, .patch object _ _, .ok _ =>
      .applying kubeTemplate (resourceOf platform object :: applied)
  | .applying kubeTemplate _, .getTemplate _, .ok latest => .closing kubeTemplate latest
  | .closing _ _, .updateStatus _, .ok _ => .finished
  | stage, _, _ => stage

def workerExpected (key : NamespacedName) (stage : WorkerStage) :
    (request : Call) → request.Answer → Prop
  | .getTemplate _ => fun answer => ∃ template, answer = .ok template ∧ template.key = key
  | .updateStatus _ => fun answer => ∃ revision, answer = .ok revision
  | .policyCacheGet _ _ => fun answer => ∃ granted, answer = .ok granted ∧
      ∀ kubeTemplate applied, stage = .applying kubeTemplate applied →
        PolicyAccepts platform granted kubeTemplate
  | .patch _ _ _ => fun answer => ∃ stored, answer = .ok stored
  | _ => fun _ => True

def turnProtocol (key : NamespacedName) : Protocol client WorkerStage where
  expected := workerExpected platform key
  permitted := workerPermitted platform key
  after := workerAfter platform

section Turn

variable {key : NamespacedName}

theorem processTemplate_turn (granted : KubeTemplatePolicy) (kubeTemplate latest : KubeTemplate)
    (applied : List ResourceId) (template : Template)
    (same : SameIdentity kubeTemplate.metadata latest.metadata)
    (accepts : ∀ decoded, platform.unmarshal template.object.raw = .ok decoded →
      ∃ rule, Worker.checkPolicy platform granted
        (defaultNamespace platform latest.metadata.ns decoded) = .ok rule) :
    Guarantees (turnProtocol platform key)
      (fun stage result => result = (kubeTemplate, none) ∧
        ∃ more, stage = .applying latest more ∧ applied ⊆ more ∧
          ∀ decoded, platform.unmarshal template.object.raw = .ok decoded →
            elementResource platform latest.metadata template decoded ∈ more)
      (.applying latest applied)
      (Worker.processTemplate platform granted kubeTemplate template) := by
  unfold Worker.processTemplate
  cases decodes : platform.unmarshal template.object.raw with
  | error text =>
      refine ⟨rfl, applied, rfl, List.Subset.refl _, ?_⟩
      intro decoded impossible
      cases impossible
  | ok decoded =>
      obtain ⟨rule, passes⟩ := accepts decoded decodes
      dsimp only
      rw [same.ns, passes]
      simp only [Worker.applyObject, patch, call_bind, done_bind]
      refine ⟨rfl, ?_⟩
      intro answer expected
      obtain ⟨stored, rfl⟩ := expected
      refine ⟨rfl, _, rfl, List.subset_cons_self _ _, ?_⟩
      intro other isOther
      cases isOther
      rw [appliedObject_identity platform same]
      exact List.mem_cons_self

private theorem processTemplates_turn (granted : KubeTemplatePolicy)
    (kubeTemplate latest : KubeTemplate)
    (templates : List Template) (applied : List ResourceId)
    (same : SameIdentity kubeTemplate.metadata latest.metadata)
    (accepts : ∀ template, template ∈ templates → ∀ decoded,
      platform.unmarshal template.object.raw = .ok decoded →
      ∃ rule, Worker.checkPolicy platform granted
        (defaultNamespace platform latest.metadata.ns decoded) = .ok rule) :
    Guarantees (turnProtocol platform key)
      (fun stage result => result = (kubeTemplate, none) ∧
        ∃ more, stage = .applying latest more ∧ applied ⊆ more ∧
          ∀ template, template ∈ templates → ∀ decoded,
            platform.unmarshal template.object.raw = .ok decoded →
            elementResource platform latest.metadata template decoded ∈ more)
      (.applying latest applied)
      (Worker.processTemplates platform granted templates kubeTemplate) := by
  induction templates generalizing applied with
  | nil =>
      refine ⟨rfl, applied, rfl, List.Subset.refl _, ?_⟩
      intro template member
      cases member
  | cons template rest ih =>
      apply guarantees_bind (fun stage result => result = (kubeTemplate, none) ∧
        ∃ more, stage = .applying latest more ∧ applied ⊆ more ∧
          ∀ decoded, platform.unmarshal template.object.raw = .ok decoded →
            elementResource platform latest.metadata template decoded ∈ more)
      · exact processTemplate_turn platform granted kubeTemplate latest applied template same
          (accepts template List.mem_cons_self)
      · intro stage result first
        obtain ⟨rfl, more, rfl, kept, own⟩ := first
        dsimp only
        refine (ih more (fun other member => accepts other (List.mem_cons_of_mem _ member))).mono ?_
        intro later result second
        obtain ⟨isResult, all, isStage, keptAgain, others⟩ := second
        refine ⟨isResult, all, isStage, fun resource old => keptAgain (kept old), ?_⟩
        intro other member decoded decodes
        rcases List.mem_cons.mp member with rfl | later
        · exact keptAgain (own decoded decodes)
        · exact others other later decoded decodes

private theorem completeTemplate_turn (kubeTemplate latest : KubeTemplate)
    (applied : List ResourceId)
    (own : kubeTemplate.key = key) (spec : kubeTemplate.spec = latest.spec)
    (all : AllApplied platform latest applied) :
    Guarantees (turnProtocol platform key)
      (fun stage result => stage = .finished ∧ result = none) (.applying latest applied)
      (Worker.completeTemplate platform kubeTemplate) := by
  simp only [Worker.completeTemplate, Worker.updateStatusWithRetry, Worker.updateStatusTurns,
    timeNow, getTemplate, updateStatus, call_bind, done_bind]
  refine ⟨trivial, ?_⟩
  intro now _expected
  refine ⟨⟨own, all⟩, ?_⟩
  intro answer expected
  obtain ⟨newest, rfl, _own⟩ := expected
  rw [spec]
  refine ⟨⟨now, rfl⟩, ?_⟩
  intro stored expected
  obtain ⟨revision, rfl⟩ := expected
  exact ⟨rfl, rfl⟩

private theorem processFetched_turn (operatorNamespace : String) (kubeTemplate : KubeTemplate)
    (own : kubeTemplate.key = key) :
    Guarantees (turnProtocol platform key)
      (fun stage result => stage = .finished ∧ result = none) .fetched
      (Worker.processFetched platform operatorNamespace kubeTemplate) := by
  simp only [Worker.processFetched, Worker.updateStatusWithRetry, Worker.updateStatusTurns,
    getTemplate, updateStatus, policyCacheGet, call_bind, done_bind]
  refine ⟨own, ?_⟩
  intro answer expected
  obtain ⟨latest, rfl, latestOwn⟩ := expected
  refine ⟨rfl, ?_⟩
  intro stored expected
  obtain ⟨revision, rfl⟩ := expected
  refine ⟨congrArg NamespacedName.ns latestOwn, ?_⟩
  intro policy expected
  obtain ⟨granted, rfl, accepts⟩ := expected
  apply guarantees_bind
  · exact processTemplates_turn platform granted _ latest _ [] ⟨rfl, rfl, rfl⟩
      (accepts latest [] rfl)
  · intro stage result looped
    obtain ⟨rfl, applied, rfl, _kept, all⟩ := looped
    exact completeTemplate_turn platform _ latest applied latestOwn rfl all

theorem handleItem_turn (operatorNamespace : String) (maxRetryCycles : Int)
    (item : Queue.WorkItem) (own : item.namespacedName = key) :
    Guarantees (turnProtocol platform key)
      (fun stage result => stage = .finished ∧ result = .done) .waiting
      (Worker.handleItem platform operatorNamespace maxRetryCycles item) := by
  apply guarantees_bind (fun stage result => stage = .finished ∧ result = none)
  · simp only [Worker.processItem, getTemplate, call_bind, done_bind]
    refine ⟨own, ?_⟩
    intro answer expected
    obtain ⟨kubeTemplate, rfl, isOwn⟩ := expected
    exact processFetched_turn platform operatorNamespace kubeTemplate isOwn
  · intro stage result ended
    obtain ⟨isStage, rfl⟩ := ended
    exact ⟨isStage, rfl⟩

end Turn

inductive ReconcileStage where
  | waiting
  /-- A new template has been read; it is read again next. -/
  | fresh
  /-- The status Queued is written next, to the version read here. -/
  | queuing (latest : KubeTemplate)
  | enqueuing
  | correcting (kubeTemplate : KubeTemplate)
  | finished

/-- The execution will see the latest spec or put the template into the queue. -/
def ReconcileStage.owes : ReconcileStage → Prop
  | .correcting _ => False
  | .finished => False
  | _ => True

def ReconcileStage.corrects : ReconcileStage → Prop
  | .correcting _ => True
  | _ => False

def specChanged (kubeTemplate : KubeTemplate) : Prop :=
  kubeTemplate.status.appliedSpecHash ≠ "" ∧
    calculateSpecHash platform kubeTemplate.spec ≠ kubeTemplate.status.appliedSpecHash

instance (kubeTemplate : KubeTemplate) : Decidable (specChanged platform kubeTemplate) := by
  unfold specChanged
  infer_instance

def stageAfterRead (kubeTemplate : KubeTemplate) : ReconcileStage :=
  match kubeTemplate.status.processingPhase with
  | .empty => .fresh
  | .queued | .processing => .enqueuing
  | .paused =>
      if mapGet kubeTemplate.metadata.annotations Controller.resumeAnnotation = some "true" then
        .queuing kubeTemplate
      else .finished
  | .failed => if specChanged platform kubeTemplate then .queuing kubeTemplate else .finished
  | .completed =>
      if specChanged platform kubeTemplate then .queuing kubeTemplate
      else .correcting kubeTemplate

def reconcilePermitted (key : NamespacedName) : ReconcileStage → Call → Prop
  | .waiting, .getTemplate wanted => wanted = key
  | .fresh, .getTemplate wanted => wanted = key
  | .queuing _, .now => True
  | .queuing latest, .updateStatus template =>
      ∃ status, template = { latest with status := status } ∧ status.processingPhase = .queued
  | .enqueuing, .enqueue wanted _ => wanted = key
  | .correcting _, .queueContains _ => True
  | .correcting _, .now => True
  | .correcting _, .getResource _ _ _ => True
  | .correcting _, .patch _ _ _ => True
  | .correcting kubeTemplate, .updateStatus template =>
      ∃ status, template = { kubeTemplate with status := status } ∧
        status.processingPhase = kubeTemplate.status.processingPhase ∧
        status.appliedSpecHash = kubeTemplate.status.appliedSpecHash
  | .finished, .queueContains _ => True
  | _, _ => False

def reconcileAfter : ReconcileStage → (request : Call) → request.Answer → ReconcileStage
  | .waiting, .getTemplate _, .ok kubeTemplate => stageAfterRead platform kubeTemplate
  | .waiting, .getTemplate _, .error _ => .finished
  | .fresh, .getTemplate _, .ok latest => .queuing latest
  | .queuing _, .updateStatus _, .ok _ => .enqueuing
  | .enqueuing, .enqueue _ _, _ => .finished
  | .correcting _, .updateStatus _, .ok _ => .finished
  | stage, _, _ => stage

def reconcileExpected (key : NamespacedName) (stage : ReconcileStage) :
    (request : Call) → request.Answer → Prop
  | .getTemplate _ => fun answer =>
      match stage with
      | .waiting =>
          (∃ template, answer = .ok template ∧ template.key = key ∧
            (template.status.processingPhase = .completed →
              template.status.appliedSpecHash ≠ "")) ∨
          ∃ err, answer = .error err ∧ err.isNotFound = true
      | _ => ∃ template, answer = .ok template ∧ template.key = key
  | .updateStatus _ => fun answer => ∃ revision, answer = .ok revision
  | .patch _ _ _ => fun answer => ∃ stored, answer = .ok stored
  | _ => fun _ => True

def reconcileProtocol (key : NamespacedName) : Protocol client ReconcileStage where
  expected := reconcileExpected key
  permitted := reconcilePermitted key
  after := reconcileAfter platform

section Reconcile

variable {key : NamespacedName}

theorem updateAndEnqueue_stages (kubeTemplate : KubeTemplate) (status : KubeTemplateStatus)
    (own : kubeTemplate.key = key) (queued : status.processingPhase = .queued) :
    Guarantees (reconcileProtocol platform key) (fun stage _ => ¬ stage.owes)
      (.queuing kubeTemplate) (Controller.updateAndEnqueue kubeTemplate status) := by
  simp only [Controller.updateAndEnqueue, updateStatus, enqueue, call_bind, done_bind]
  refine ⟨⟨status, rfl, queued⟩, ?_⟩
  intro stored expected
  obtain ⟨revision, rfl⟩ := expected
  exact ⟨own, fun _ _ => id⟩

private theorem reconcileNew_stages (kubeTemplate : KubeTemplate) (own : kubeTemplate.key = key) :
    Guarantees (reconcileProtocol platform key) (fun stage _ => ¬ stage.owes) .fresh
      (Controller.reconcileNew platform key kubeTemplate) := by
  have queues : Guarantees (reconcileProtocol platform key)
      (fun stage result => stage = .enqueuing ∧ result = none) .fresh
      (Controller.queueNewTemplate key) := by
    simp only [Controller.queueNewTemplate, getTemplate, timeNow, updateStatus, call_bind,
      done_bind]
    refine ⟨rfl, ?_⟩
    intro answer expected
    obtain ⟨latest, rfl, _own⟩ := expected
    refine ⟨trivial, fun now _expected => ⟨⟨_, rfl, rfl⟩, ?_⟩⟩
    intro stored expected
    obtain ⟨revision, rfl⟩ := expected
    exact ⟨rfl, rfl⟩
  have retried : Guarantees (reconcileProtocol platform key)
      (fun stage result => stage = .enqueuing ∧ result = none) .fresh
      (Controller.retryOnConflict (Controller.queueNewTemplate key)
        platform.conflictRetries) := by
    cases platform.conflictRetries with
    | zero => exact queues
    | succ retries =>
        apply guarantees_bind _ queues
        intro stage result ended
        obtain ⟨isStage, rfl⟩ := ended
        exact ⟨isStage, rfl⟩
  apply guarantees_bind _ retried
  intro stage result ended
  obtain ⟨rfl, rfl⟩ := ended
  exact ⟨own, fun _ _ => id⟩

private theorem applyTemplateResourceLoop_stages (kubeTemplate : KubeTemplate)
    (templates : List Template) (tally : Controller.DriftTally) :
    Guarantees (reconcileProtocol platform key)
      (fun stage _ => stage = .correcting kubeTemplate) (.correcting kubeTemplate)
      (Controller.applyTemplateResourceLoop platform templates tally) := by
  have drifted (object : Unstructured) (tally : Controller.DriftTally) :
      Guarantees (reconcileProtocol platform key)
        (fun stage _ => stage = .correcting kubeTemplate) (.correcting kubeTemplate)
        (Controller.applyDrifted object tally) := by
    simp only [Controller.applyDrifted, patch, call_bind, done_bind]
    refine ⟨trivial, ?_⟩
    intro answer expected
    obtain ⟨stored, rfl⟩ := expected
    rfl
  induction templates generalizing tally with
  | nil => rfl
  | cons template rest ih =>
      apply guarantees_bind (fun stage _ => stage = .correcting kubeTemplate)
      · unfold Controller.applyTemplateResource
        cases platform.unmarshal template.object.raw with
        | error text => rfl
        | ok object =>
            simp only [getResource, patch, call_bind, done_bind]
            refine ⟨trivial, fun found _expected => ⟨trivial, ?_⟩⟩
            intro checked expected
            obtain ⟨dryRun, rfl⟩ := expected
            cases found with
            | _ =>
                dsimp only
                split
                · exact drifted _ _
                · rfl
      · intro stage tally isStage
        subst isStage
        exact ih tally

private theorem applyTemplateResources_stages (kubeTemplate : KubeTemplate) :
    Guarantees (reconcileProtocol platform key) (fun stage _ => ¬ stage.owes)
      (.correcting kubeTemplate)
      (Controller.applyTemplateResources platform kubeTemplate) := by
  apply guarantees_bind (fun stage _ => stage = .correcting kubeTemplate)
  · exact applyTemplateResourceLoop_stages platform kubeTemplate _ _
  · intro stage tally isStage
    subst isStage
    simp only [timeNow, updateStatus, call_bind, done_bind]
    refine ⟨trivial, ?_⟩
    intro now _expected
    dsimp only
    split
    · refine ⟨⟨_, rfl, Controller.reconciledStatus_keeps _ _ _ _⟩, ?_⟩
      intro stored expected
      obtain ⟨revision, rfl⟩ := expected
      exact id
    · exact id

private theorem reconcileIdle_stages (interval : Time) (kubeTemplate : KubeTemplate) :
    Guarantees (reconcileProtocol platform key) (fun stage _ => ¬ stage.owes)
      (.correcting kubeTemplate) (Controller.reconcileIdle platform interval kubeTemplate) := by
  have corrected : Guarantees (reconcileProtocol platform key) (fun stage _ => ¬ stage.owes)
      (.correcting kubeTemplate)
      (do
        let _ ← Controller.applyTemplateResources platform kubeTemplate
        pure (Controller.ReconcileResult.after interval)) := by
    apply guarantees_bind (fun stage _ => ¬ stage.owes)
    · exact applyTemplateResources_stages platform kubeTemplate
    · intro stage result ended
      exact ended
  unfold Controller.reconcileIdle
  split
  · exact corrected
  · simp only [timeNow, call_bind, done_bind]
    refine ⟨trivial, ?_⟩
    intro now _expected
    dsimp only
    split
    · exact id
    · exact corrected

private theorem reconcileCompleted_stages (interval : Time) (kubeTemplate : KubeTemplate)
    (own : kubeTemplate.key = key) (completed : kubeTemplate.status.processingPhase = .completed)
    (hashed : kubeTemplate.status.appliedSpecHash ≠ "") :
    Guarantees (reconcileProtocol platform key) (fun stage _ => ¬ stage.owes)
      (stageAfterRead platform kubeTemplate)
      (Controller.reconcileCompleted platform interval kubeTemplate) := by
  unfold Controller.reconcileCompleted stageAfterRead
  rw [completed]
  dsimp only
  rw [if_neg hashed]
  by_cases changed : specChanged platform kubeTemplate
  · rw [if_pos changed, if_pos changed.2]
    refine ⟨trivial, ?_⟩
    intro now _expected
    exact updateAndEnqueue_stages platform kubeTemplate _ own rfl
  · rw [if_neg changed, if_neg (fun differs => changed ⟨hashed, differs⟩)]
    simp only [queueContains, call_bind, done_bind]
    refine ⟨trivial, ?_⟩
    intro queued _expected
    dsimp only
    split
    · exact id
    · exact reconcileIdle_stages platform interval kubeTemplate

theorem reconcile_stages (interval : Time) :
    Guarantees (reconcileProtocol platform key) (fun stage _ => ¬ stage.owes) .waiting
      (Controller.reconcile platform interval key) := by
  simp only [Controller.reconcile, getTemplate, call_bind, done_bind]
  refine ⟨rfl, ?_⟩
  intro answer expected
  rcases expected with ⟨kubeTemplate, rfl, own, hashed⟩ | ⟨err, rfl, missing⟩
  · change Guarantees _ _ (stageAfterRead platform kubeTemplate) _
    dsimp only
    unfold Controller.reconcilePhase
    split
    · rename_i paused
      unfold Controller.reconcilePaused stageAfterRead
      rw [paused]
      dsimp only
      split
      · exact ⟨trivial, fun now _ => updateAndEnqueue_stages platform kubeTemplate _ own rfl⟩
      · exact id
    · rename_i failed
      unfold Controller.reconcileFailed stageAfterRead
      rw [failed]
      dsimp only
      by_cases changed : specChanged platform kubeTemplate
      · rw [if_pos changed]
        refine (if_pos changed).symm ▸ ?_
        exact ⟨trivial, fun now _ => updateAndEnqueue_stages platform kubeTemplate _ own rfl⟩
      · rw [if_neg changed]
        refine (if_neg changed).symm ▸ ?_
        exact ⟨trivial, fun _ _ => id⟩
    · rename_i completed
      exact reconcileCompleted_stages platform interval kubeTemplate own completed
        (hashed completed)
    · rename_i empty
      unfold stageAfterRead
      rw [empty]
      exact reconcileNew_stages platform kubeTemplate own
    · rename_i queued
      unfold stageAfterRead
      rw [queued]
      exact ⟨own, fun _ _ => id⟩
    · rename_i processing
      unfold stageAfterRead
      rw [processing]
      exact ⟨own, fun _ _ => id⟩
  · dsimp only
    rw [if_pos missing]
    exact id

end Reconcile

end

end KubeTemplater.Operator
