/-
The worker: `TemplateProcessor.processItem` and the body of the loop of
`TemplateProcessor.Start` after an item has been dequeued.

An error of Go is `some`, its `nil` is `none`.  The variable `kubeTemplate` is
overwritten by every status update, so the functions below hand it on.
-/

import KubeTemplater.Client
import KubeTemplater.PolicyRules
import KubeTemplater.Queue.WorkQueue

namespace KubeTemplater.Worker

open Library

/-- `updateStatusWithRetry` with the given number of its turns left. -/
def updateStatusTurns (update : KubeTemplateStatus → KubeTemplateStatus) :
    Nat → KubeTemplate → Program client (KubeTemplate × Option GoError)
  | 0, kubeTemplate =>
      pure (kubeTemplate, some (errorf "failed to update status after 3 retries"))
  | turns + 1, kubeTemplate => do
      match ← getTemplate kubeTemplate.key with
      | .error err => pure (kubeTemplate, some err)
      | .ok latest =>
          let changed := { latest with status := update latest.status }
          match ← updateStatus changed with
          | .ok revision =>
              pure ({ changed with
                metadata := { changed.metadata with resourceVersion := revision } }, none)
          | .error err =>
              -- `retries < 2`: the third turn gives up on a conflict too
              if err.isConflict && decide (0 < turns) then updateStatusTurns update turns changed
              else pure (changed, some err)

def updateStatusWithRetry (kubeTemplate : KubeTemplate)
    (update : KubeTemplateStatus → KubeTemplateStatus) :
    Program client (KubeTemplate × Option GoError) :=
  updateStatusTurns update 3 kubeTemplate

def processingStatus (status : KubeTemplateStatus) : KubeTemplateStatus :=
  { status with processingPhase := .processing, processedAt := none }

def failedStatus (text : String) (now : Time) (status : KubeTemplateStatus) :
    KubeTemplateStatus :=
  { status with processingPhase := .failed, status := text, processedAt := some now }

def completedStatus (specHash : String) (now : Time) (status : KubeTemplateStatus) :
    KubeTemplateStatus :=
  { status with
    processingPhase := .completed
    status := "Completed"
    processedAt := some now
    appliedSpecHash := specHash }

def pausedStatus (reason : String) (now : Time) (status : KubeTemplateStatus) :
    KubeTemplateStatus :=
  { status with
    processingPhase := .paused
    pausedReason := reason
    pausedAt := some now
    status := "Paused due to repeated failures" }

section

variable (platform : Platform)

def validateWithCEL (rule : String) (object : Unstructured) : Except String Bool :=
  match platform.cel .object rule (.map object.object) with
  | .error failure => .error failure.text
  | .ok (.bool true) => .ok true
  | .ok _ => .ok false

def checkPolicy (policy : KubeTemplatePolicy) (object : Unstructured) :
    Except String ValidationRule :=
  let gvk := platform.groupVersionKind object
  let gvkText := platform.gvkString gvk
  match firstMatchingRule policy gvk with
  | none => .error ("Error: Resource " ++ gvkText ++ " is not allowed by policy")
  | some rule =>
      if rule.targetNamespaces.isEmpty then
        .error ("Error: Resource " ++ gvkText ++ " has no target namespaces")
      else if !contains rule.targetNamespaces (platform.getNamespace object) then
        .error ("Error: namespace " ++ platform.getNamespace object ++ " not allowed for " ++
          gvkText)
      else if rule.rule = "" then .ok rule
      else
        match validateWithCEL platform rule.rule object with
        | .error text =>
            .error ("Error: CEL validation failed for " ++ gvkText ++ ": " ++ text)
        | .ok false => .error ("Error: Resource " ++ gvkText ++ " failed CEL validation")
        | .ok true => .ok rule

def templateNameLabel : String := "kubetemplater.io/template-name"

def templateNamespaceLabel : String := "kubetemplater.io/template-namespace"

def addTrackingLabels (metadata : ObjectMeta) (object : Unstructured) : Unstructured :=
  let labels := (platform.getLabels object).getD []
  platform.setLabels object
    (mapSet (mapSet labels templateNameLabel metadata.name) templateNamespaceLabel metadata.ns)

def ownerReference (metadata : ObjectMeta) : OwnerReference :=
  { apiVersion := "kubetemplater.io/v1alpha1"
    kind := "KubeTemplate"
    name := metadata.name
    uid := metadata.uid
    controller := none
    blockOwnerDeletion := none }

def addOwnerReference (metadata : ObjectMeta) (object : Unstructured) : Unstructured :=
  platform.setOwnerReferences object
    (platform.getOwnerReferences object ++ [ownerReference metadata])

def appliedObject (metadata : ObjectMeta) (template : Template) (object : Unstructured) :
    Unstructured :=
  let labelled := addTrackingLabels platform metadata object
  if template.referenced then addOwnerReference platform metadata labelled else labelled

/-- The apply at the end of a turn, with the replacement of a resource the server
calls invalid. -/
def applyObject (kubeTemplate : KubeTemplate) (template : Template) (gvk : GroupVersionKind)
    (object : Unstructured) : Program client (KubeTemplate × Option GoError) := do
  match ← patch object false false with
  | .ok _ => pure (kubeTemplate, none)
  | .error err =>
      if err.isInvalid && template.replace then
        match ← deleteResource object with
        | .error _ => pure (kubeTemplate, none)
        | .ok _ => do
            -- a failure of the second apply is only logged
            let _ ← patch object false false
            pure (kubeTemplate, none)
      else do
        let now ← timeNow
        let text := "Error: Failed to apply " ++ platform.gvkString gvk ++ "/" ++
          platform.getName object ++ ": " ++ err.message
        let (kubeTemplate, _) ← updateStatusWithRetry kubeTemplate (failedStatus text now)
        pure (kubeTemplate, some err)

/-- One turn of the loop over `spec.templates`: an error ends `processItem`. -/
def processTemplate (policy : KubeTemplatePolicy) (kubeTemplate : KubeTemplate)
    (template : Template) : Program client (KubeTemplate × Option GoError) :=
  match platform.unmarshal template.object.raw with
  | .error _ => pure (kubeTemplate, none)
  | .ok decoded =>
      let object := defaultNamespace platform kubeTemplate.metadata.ns decoded
      match checkPolicy platform policy object with
      | .error text => do
          let now ← timeNow
          let (kubeTemplate, _) ← updateStatusWithRetry kubeTemplate (failedStatus text now)
          pure (kubeTemplate, none)
      | .ok _ =>
          applyObject platform kubeTemplate template (platform.groupVersionKind object)
            (appliedObject platform kubeTemplate.metadata template object)

/-- The loop ranges over the slice it started with, whatever `kubeTemplate` becomes. -/
def processTemplates (policy : KubeTemplatePolicy) :
    List Template → KubeTemplate → Program client (KubeTemplate × Option GoError)
  | [], kubeTemplate => pure (kubeTemplate, none)
  | template :: rest, kubeTemplate => do
      match ← processTemplate platform policy kubeTemplate template with
      | (kubeTemplate, some err) => pure (kubeTemplate, some err)
      | (kubeTemplate, none) => processTemplates policy rest kubeTemplate

/-- The end of `processItem` after the loop. -/
def completeTemplate (kubeTemplate : KubeTemplate) : Program client (Option GoError) := do
  let specHash := calculateSpecHash platform kubeTemplate.spec
  let now ← timeNow
  let (_, err) ← updateStatusWithRetry kubeTemplate (completedStatus specHash now)
  pure err

def applyTemplates (policy : KubeTemplatePolicy) (kubeTemplate : KubeTemplate) :
    Program client (Option GoError) := do
  match ← processTemplates platform policy kubeTemplate.spec.templates kubeTemplate with
  | (_, some err) => pure (some err)
  | (kubeTemplate, none) => completeTemplate platform kubeTemplate

/-- `processItem` once the template has been read: a failed status update to
Processing is only logged. -/
def processFetched (operatorNamespace : String) (kubeTemplate : KubeTemplate) :
    Program client (Option GoError) := do
  let (kubeTemplate, _) ← updateStatusWithRetry kubeTemplate processingStatus
  match ← policyCacheGet kubeTemplate.metadata.ns operatorNamespace with
  | .error err => do
      let now ← timeNow
      let _ ← updateStatusWithRetry kubeTemplate (failedStatus ("Error: " ++ err.message) now)
      pure (some err)
  | .ok policy => applyTemplates platform policy kubeTemplate

def processItem (operatorNamespace : String) (key : NamespacedName) :
    Program client (Option GoError) := do
  match ← getTemplate key with
  | .error err =>
      if err.isNotFound then pure none
      else pure (some (err.wrap "failed to get KubeTemplate: "))
  | .ok kubeTemplate => processFetched platform operatorNamespace kubeTemplate

/-- What the loop does with the item at the end of a turn. -/
inductive Disposition where
  | done
  | requeue (err : GoError)
  deriving DecidableEq, Repr

def pauseTemplate (maxRetryCycles : Int) (key : NamespacedName) (err : GoError) :
    Program client Unit := do
  match ← getTemplate key with
  | .error _ => pure ()
  | .ok kubeTemplate => do
      let now ← timeNow
      let reason := "Max retry cycles (" ++ toString maxRetryCycles ++
        ") exceeded. Last error: " ++ err.message
      match ← updateStatusWithRetry kubeTemplate (pausedStatus reason now) with
      | (_, some _) => pure ()
      | (kubeTemplate, none) =>
          recordEvent kubeTemplate.key "TemplatePaused"
            ("Template automatically paused after " ++ toString maxRetryCycles ++
              " failed retry cycles. Manual intervention required. " ++ reason)

def handleItem (operatorNamespace : String) (maxRetryCycles : Int) (item : Queue.WorkItem) :
    Program client Disposition := do
  match ← processItem platform operatorNamespace item.namespacedName with
  | none => pure .done
  | some err =>
      if 0 < maxRetryCycles ∧ maxRetryCycles ≤ item.retryCycle then do
        pauseTemplate maxRetryCycles item.namespacedName err
        pure .done
      else pure (.requeue err)

end

end KubeTemplater.Worker
