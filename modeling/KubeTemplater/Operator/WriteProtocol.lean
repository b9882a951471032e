/-
Which resources an execution writes: a worker's turn and an execution of
`Reconcile`, each followed under what it relies on.

The worker looks at the kind, the target namespace and the CEL rule but not at
the field validations, and the drift correction of `Reconcile` looks at nothing.
-/

import KubeTemplater.Operator.System
import KubeTemplater.Webhook.Acceptance
import KubeTemplater.Worker.Executions

namespace KubeTemplater.Operator

open Library Library.Program Webhook

section

variable (platform : Platform)

/-- The policy allows the object, taken to the namespace `ns` when it names none. -/
def ObjectAllowed (ns : String) (policy : Except GoError KubeTemplatePolicy)
    (object : Unstructured) : Prop :=
  ∃ granted, policy = .ok granted ∧
    PolicyAllows platform platform.cel granted (defaultNamespace platform ns object)

/-- What the worker leaves unchecked of the object it applies: it evaluates the CEL rule before
it adds the labels and the owner, and the field validations never. -/
def RestPasses (rule : ValidationRule) (object : Unstructured) : Prop :=
  (rule.rule = "" ∨ platform.cel .object rule.rule (.map object.object) = .ok (.bool true)) ∧
    ∀ validation, validation ∈ rule.fieldValidations →
      FieldPasses platform platform.cel object validation

/-- The object that is applied for the element, whichever version of the KubeTemplate is its
owner then. -/
def ElementFits (key : NamespacedName) (granted : KubeTemplatePolicy) (template : Template) :
    Prop :=
  ∀ decoded rule, Worker.Checked platform granted key.ns template decoded rule →
    ∀ owner : KubeTemplate, owner.key = key →
      RestPasses platform rule (defaultNamespace platform key.ns
        (Worker.appliedObject platform owner.metadata template
          (defaultNamespace platform key.ns decoded)))

def ElementsFit (granted : KubeTemplatePolicy) (kubeTemplate : KubeTemplate) : Prop :=
  ∀ template, template ∈ kubeTemplate.spec.templates →
    ElementFits platform kubeTemplate.key granted template

/-- `Reconcile` takes the template for idle and corrects drift. -/
def DriftReady (kubeTemplate : KubeTemplate) : Prop :=
  kubeTemplate.status.processingPhase = .completed ∧
    kubeTemplate.status.appliedSpecHash ≠ "" ∧
    calculateSpecHash platform kubeTemplate.spec = kubeTemplate.status.appliedSpecHash

instance (kubeTemplate : KubeTemplate) : Decidable (DriftReady platform kubeTemplate) :=
  inferInstanceAs (Decidable (_ ∧ _ ∧ _))

def Admitted (policy : Except GoError KubeTemplatePolicy) (kubeTemplate : KubeTemplate) : Prop :=
  ∀ template, template ∈ kubeTemplate.spec.templates → ∀ decoded,
    platform.unmarshal template.object.raw = .ok decoded →
      ObjectAllowed platform kubeTemplate.metadata.ns policy decoded

def reconcileTrust (policy : Except GoError KubeTemplatePolicy) (read : Option KubeTemplate)
    (kubeTemplate : KubeTemplate) : Prop :=
  read = none → DriftReady platform kubeTemplate → Admitted platform policy kubeTemplate

def writing (party : Party) (key : NamespacedName)
    (policy : Except GoError KubeTemplatePolicy) : Protocol client (Option KubeTemplate) where
  expected := fun read request =>
    match request with
    | .getTemplate wanted => fun answer => ∀ template, answer = .ok template →
        template.key = wanted ∧
          (party = .controller → reconcileTrust platform policy read template)
    | .policyCacheGet _ _ => fun answer => ∀ granted, answer = .ok granted →
        policy = .ok granted ∧ ∀ template, read = some template →
          ElementsFit platform granted template
    | _ => fun _ => True
  permitted := fun _ request =>
    match request with
    | .getTemplate wanted => wanted = key
    | .policyCacheGet source _ => source = key.ns ∧ party ≠ .controller
    | .patch object _ false => ObjectAllowed platform key.ns policy object
    | .delete object => ObjectAllowed platform key.ns policy object
    | _ => True
  after := readAfter

section Worker

variable {party : Party} {key : NamespacedName} {policy : Except GoError KubeTemplatePolicy}

def Follows (key : NamespacedName) (read : Option KubeTemplate) (kubeTemplate : KubeTemplate) :
    Prop :=
  kubeTemplate.key = key ∧
    ∃ template, read = some template ∧ template.key = key ∧ template.spec = kubeTemplate.spec

theorem updateStatusTurns_writing (update : KubeTemplateStatus → KubeTemplateStatus)
    (turns : Nat) (read : Option KubeTemplate) (kubeTemplate : KubeTemplate)
    (follows : Follows key read kubeTemplate) :
    Guarantees (writing platform party key policy) (fun read result => Follows key read result.1)
      read (Worker.updateStatusTurns update turns kubeTemplate) := by
  induction turns generalizing read kubeTemplate with
  | zero => exact follows
  | succ turns ih =>
      simp only [Worker.updateStatusTurns, getTemplate, updateStatus, call_bind, done_bind]
      refine ⟨follows.1, ?_⟩
      intro answer expected
      cases answer with
      | error err => exact follows
      | ok latest =>
          have own : latest.key = key := (expected latest rfl).1.trans follows.1
          have again : ∀ status, Follows key (some latest) { latest with status := status } :=
            fun status => ⟨own, latest, rfl, own, rfl⟩
          refine ⟨trivial, ?_⟩
          intro stored _expected
          cases stored with
          | ok revision => exact ⟨own, latest, rfl, own, rfl⟩
          | error err =>
              dsimp only
              split
              · exact ih (some latest) _ (again _)
              · exact again _

private theorem applyObject_writing (read : Option KubeTemplate) (kubeTemplate : KubeTemplate)
    (template : Template) (gvk : GroupVersionKind) (object : Unstructured)
    (follows : Follows key read kubeTemplate)
    (allowed : ObjectAllowed platform key.ns policy object) :
    Guarantees (writing platform party key policy) (fun read result => Follows key read result.1)
      read (Worker.applyObject platform kubeTemplate template gvk object) := by
  simp only [Worker.applyObject, patch, deleteResource, timeNow, call_bind, done_bind]
  refine ⟨allowed, ?_⟩
  intro answer _expected
  cases answer with
  | ok stored => exact follows
  | error err =>
      dsimp only
      split
      · refine ⟨allowed, ?_⟩
        intro deleted _expected
        cases deleted with
        | error refused => exact follows
        | ok nothing => exact ⟨allowed, fun _ _ => follows⟩
      · refine ⟨trivial, ?_⟩
        intro now _expected
        apply guarantees_bind (fun read result => Follows key read result.1)
        · exact updateStatusTurns_writing platform _ 3 _ _ follows
        · intro later result still
          exact still

section Checked

variable (laws : MetadataLaws platform) (kinds : KindLaws platform)
include laws kinds

/-- The kind and the namespace of an applied object are those that were checked. -/
theorem policyAllows_of_checked {granted : KubeTemplatePolicy} {template : Template}
    {decoded : Unstructured} {rule : ValidationRule} {owner : KubeTemplate}
    (checked : Worker.Checked platform granted owner.metadata.ns template decoded rule)
    (rest : RestPasses platform rule (defaultNamespace platform owner.metadata.ns
      (Worker.appliedObject platform owner.metadata template
        (defaultNamespace platform owner.metadata.ns decoded)))) :
    PolicyAllows platform platform.cel granted (defaultNamespace platform owner.metadata.ns
      (Worker.appliedObject platform owner.metadata template
        (defaultNamespace platform owner.metadata.ns decoded))) := by
  obtain ⟨first, admits⟩ := (Worker.checkPolicy_ok_iff platform granted _ rule).mp checked.passes
  refine ⟨rule, ?_, ⟨?_, rest.1⟩, rest.2⟩
  · rw [Worker.defaultNamespace_kind kinds, Worker.appliedObject_kind kinds]
    exact first
  · rw [Worker.appliedObject_place laws kinds]
    exact admits.target

private theorem processTemplate_writing {granted : KubeTemplatePolicy}
    (inForce : policy = .ok granted)
    (read : Option KubeTemplate) (kubeTemplate : KubeTemplate) (template : Template)
    (follows : Follows key read kubeTemplate)
    (fits : ElementFits platform key granted template) :
    Guarantees (writing platform party key policy) (fun read result => Follows key read result.1)
      read (Worker.processTemplate platform granted kubeTemplate template) := by
  have own : kubeTemplate.metadata.ns = key.ns := congrArg NamespacedName.ns follows.1
  unfold Worker.processTemplate
  cases decodes : platform.unmarshal template.object.raw with
  | error text => exact follows
  | ok decoded =>
      dsimp only
      cases passes : Worker.checkPolicy platform granted
          (defaultNamespace platform kubeTemplate.metadata.ns decoded) with
      | error text =>
          simp only [timeNow, call_bind, done_bind]
          refine ⟨trivial, ?_⟩
          intro now _expected
          apply guarantees_bind (fun read result => Follows key read result.1)
          · exact updateStatusTurns_writing platform _ 3 _ _ follows
          · intro later result still
            exact still
      | ok rule =>
          have rest := fits decoded rule ⟨decodes, own ▸ passes⟩ kubeTemplate follows.1
          rw [← own] at rest
          have allowed := policyAllows_of_checked platform laws kinds ⟨decodes, passes⟩ rest
          rw [own] at allowed
          apply applyObject_writing platform _ _ _ _ _ follows
          exact ⟨granted, inForce, own ▸ allowed⟩

private theorem processTemplates_writing {granted : KubeTemplatePolicy}
    (inForce : policy = .ok granted)
    (templates : List Template) (read : Option KubeTemplate) (kubeTemplate : KubeTemplate)
    (follows : Follows key read kubeTemplate)
    (fits : ∀ template, template ∈ templates → ElementFits platform key granted template) :
    Guarantees (writing platform party key policy) (fun read result => Follows key read result.1)
      read (Worker.processTemplates platform granted templates kubeTemplate) := by
  induction templates generalizing read kubeTemplate with
  | nil => exact follows
  | cons template rest ih =>
      apply guarantees_bind (fun read result => Follows key read result.1)
      · exact processTemplate_writing platform laws kinds inForce read kubeTemplate template follows
          (fits template List.mem_cons_self)
      · intro later result still
        obtain ⟨changed, failure⟩ := result
        cases failure with
        | some err => exact still
        | none =>
            exact ih later changed still
              (fun other member => fits other (List.mem_cons_of_mem template member))

private theorem processFetched_writing (worker : party ≠ .controller) (operatorNamespace : String)
    (kubeTemplate : KubeTemplate) (own : kubeTemplate.key = key) :
    Guarantees (writing platform party key policy) (fun _ _ => True) (some kubeTemplate)
      (Worker.processFetched platform operatorNamespace kubeTemplate) := by
  apply guarantees_bind (fun read result => Follows key read result.1)
  · exact updateStatusTurns_writing platform _ 3 _ _ ⟨own, kubeTemplate, rfl, own, rfl⟩
  · intro read result follows
    obtain ⟨kubeTemplate, failure⟩ := result
    dsimp only at follows ⊢
    simp only [policyCacheGet, call_bind, done_bind]
    refine ⟨⟨congrArg NamespacedName.ns follows.1, worker⟩, ?_⟩
    intro answer expected
    cases answer with
    | error err =>
        simp only [timeNow, call_bind, done_bind]
        refine ⟨trivial, ?_⟩
        intro now _expected
        apply guarantees_bind (fun read result => Follows key read result.1)
        · exact updateStatusTurns_writing platform _ 3 _ _ follows
        · intro later result _still
          exact trivial
    | ok granted =>
        obtain ⟨inForce, fields⟩ := expected granted rfl
        obtain ⟨latest, isRead, latestOwn, sameSpec⟩ := follows.2
        have fits : ∀ template, template ∈ kubeTemplate.spec.templates →
            ElementFits platform key granted template := by
          intro template member
          rw [← sameSpec] at member
          exact latestOwn ▸ fields latest isRead template member
        apply guarantees_bind (fun read result => Follows key read result.1)
        · exact processTemplates_writing platform laws kinds inForce _ read kubeTemplate follows
            fits
        · intro later result still
          obtain ⟨changed, failure⟩ := result
          cases failure with
          | some err => exact trivial
          | none =>
              simp only [Worker.completeTemplate, timeNow, call_bind, done_bind]
              refine ⟨trivial, ?_⟩
              intro now _expected
              apply guarantees_bind (fun read result => Follows key read result.1)
              · exact updateStatusTurns_writing platform _ 3 _ _ still
              · intro last result _still
                exact trivial

theorem handleItem_writing (worker : party ≠ .controller) (operatorNamespace : String)
    (maxRetryCycles : Int) (item : Queue.WorkItem) (own : item.namespacedName = key) :
    Guarantees (writing platform party key policy) (fun _ _ => True) none
      (Worker.handleItem platform operatorNamespace maxRetryCycles item) := by
  apply guarantees_bind (fun _ _ => True)
  · simp only [Worker.processItem, getTemplate, call_bind, done_bind]
    refine ⟨own, ?_⟩
    intro answer expected
    cases answer with
    | error err =>
        dsimp only
        split
        · exact trivial
        · exact trivial
    | ok kubeTemplate =>
        exact processFetched_writing platform laws kinds worker operatorNamespace kubeTemplate
          ((expected kubeTemplate rfl).1.trans own)
  · intro read result _ended
    cases result with
    | none => exact trivial
    | some err =>
        dsimp only
        split
        · apply guarantees_bind (fun _ _ => True)
          · simp only [Worker.pauseTemplate, getTemplate, timeNow, call_bind, done_bind]
            refine ⟨own, ?_⟩
            intro answer expected
            cases answer with
            | error err => exact trivial
            | ok kubeTemplate =>
                have same := (expected kubeTemplate rfl).1.trans own
                refine ⟨trivial, ?_⟩
                intro now _expected
                apply guarantees_bind (fun read result => Follows key read result.1)
                · exact updateStatusTurns_writing platform _ 3 _ _
                    ⟨same, kubeTemplate, rfl, same, rfl⟩
                · intro later result _still
                  obtain ⟨changed, failure⟩ := result
                  cases failure with
                  | some err => exact trivial
                  | none => exact ⟨trivial, fun _ _ => trivial⟩
          · intro later result _ended
            exact trivial
        · exact trivial

end Checked

end Worker

section Reconcile

variable {key : NamespacedName} {policy : Except GoError KubeTemplatePolicy}

/-- Calls that write no resource. -/
def Call.quiet (key : NamespacedName) : Call → Prop
  | .getTemplate wanted => wanted = key
  | .policyCacheGet _ _ => False
  | .patch _ _ dryRun => dryRun = true
  | .delete _ => False
  | _ => True

private theorem permitted_of_quiet (key : NamespacedName)
    (policy : Except GoError KubeTemplatePolicy)
    (read : Option KubeTemplate) (request : Call) (quiet : Call.quiet key request) :
    (writing platform .controller key policy).permitted read request := by
  cases request with
  | getTemplate wanted => exact quiet
  | patch object forceOwnership dryRun =>
      cases quiet
      trivial
  | policyCacheGet source operator => cases quiet
  | delete object => cases quiet
  | _ => trivial

theorem updateAndEnqueue_quiet (kubeTemplate : KubeTemplate) (status : KubeTemplateStatus) :
    Makes (Call.quiet key) (Controller.updateAndEnqueue kubeTemplate status) := by
  simp only [Controller.updateAndEnqueue, updateStatus, enqueue, call_bind, done_bind]
  refine makes_call trivial ?_
  intro answer
  cases answer with
  | ok revision => exact makes_call trivial (fun _ => makes_done _ _)
  | error err =>
      dsimp only
      split
      · exact makes_call trivial (fun _ => makes_done _ _)
      · exact makes_done _ _

private theorem queueNewTemplate_quiet : Makes (Call.quiet key)
    (Controller.queueNewTemplate key) := by
  simp only [Controller.queueNewTemplate, getTemplate, timeNow, updateStatus, call_bind,
    done_bind]
  refine makes_call rfl ?_
  intro answer
  cases answer with
  | error err => exact makes_done _ _
  | ok latest =>
      refine makes_call trivial (fun now => makes_call trivial ?_)
      intro stored
      cases stored with
      | error err => exact makes_done _ _
      | ok revision => exact makes_done _ _

private theorem retryOnConflict_quiet (retries : Nat) :
    Makes (Call.quiet key)
      (Controller.retryOnConflict (Controller.queueNewTemplate key) retries) := by
  induction retries with
  | zero => exact queueNewTemplate_quiet
  | succ retries ih =>
      refine makes_bind queueNewTemplate_quiet ?_
      intro result
      cases result with
      | none => exact makes_done _ _
      | some err =>
          dsimp only
          split
          · exact ih
          · exact makes_done _ _

private theorem reconcileNew_quiet (kubeTemplate : KubeTemplate) :
    Makes (Call.quiet key) (Controller.reconcileNew platform key kubeTemplate) := by
  refine makes_bind (retryOnConflict_quiet platform.conflictRetries) ?_
  intro result
  cases result with
  | some err => exact makes_done _ _
  | none => exact makes_call trivial (fun _ => makes_done _ _)

private theorem applyTemplateResource_writing (read : Option KubeTemplate) (template : Template)
    (tally : Controller.DriftTally)
    (allowed : ∀ decoded, platform.unmarshal template.object.raw = .ok decoded →
      ObjectAllowed platform key.ns policy decoded) :
    Guarantees (writing platform .controller key policy) (fun _ _ => True) read
      (Controller.applyTemplateResource platform template tally) := by
  unfold Controller.applyTemplateResource
  cases decodes : platform.unmarshal template.object.raw with
  | error text => exact trivial
  | ok object =>
      have drifted (tally : Controller.DriftTally) (read : Option KubeTemplate) :
          Guarantees (writing platform .controller key policy) (fun _ _ => True) read
            (Controller.applyDrifted object tally) := by
        simp only [Controller.applyDrifted, patch, call_bind, done_bind]
        refine ⟨allowed object decodes, ?_⟩
        intro answer _expected
        cases answer with
        | error err => exact trivial
        | ok stored => exact trivial
      simp only [getResource, patch, call_bind, done_bind]
      refine ⟨trivial, fun found _expected => ⟨trivial, ?_⟩⟩
      intro checked _expected
      cases checked with
      | error err => exact trivial
      | ok dryRun =>
          cases found with
          | _ =>
              dsimp only
              split
              · exact drifted _ _
              · exact trivial

private theorem applyTemplateResourceLoop_writing (templates : List Template)
    (read : Option KubeTemplate) (tally : Controller.DriftTally)
    (allowed : ∀ template, template ∈ templates → ∀ decoded,
      platform.unmarshal template.object.raw = .ok decoded →
        ObjectAllowed platform key.ns policy decoded) :
    Guarantees (writing platform .controller key policy) (fun _ _ => True) read
      (Controller.applyTemplateResourceLoop platform templates tally) := by
  induction templates generalizing read tally with
  | nil => exact trivial
  | cons template rest ih =>
      apply guarantees_bind (fun _ _ => True)
      · exact applyTemplateResource_writing platform read template tally
          (allowed template List.mem_cons_self)
      · intro later tally _ended
        exact ih later tally
          (fun other member => allowed other (List.mem_cons_of_mem template member))

private theorem applyTemplateResources_writing (read : Option KubeTemplate)
    (kubeTemplate : KubeTemplate) (own : kubeTemplate.key = key)
    (admitted : Admitted platform policy kubeTemplate) :
    Guarantees (writing platform .controller key policy) (fun _ _ => True) read
      (Controller.applyTemplateResources platform kubeTemplate) := by
  have ns : kubeTemplate.metadata.ns = key.ns := congrArg NamespacedName.ns own
  apply guarantees_bind (fun _ _ => True)
  · apply applyTemplateResourceLoop_writing
    intro template member decoded decodes
    exact ns ▸ admitted template member decoded decodes
  · intro later tally _ended
    simp only [timeNow, updateStatus, call_bind, done_bind]
    refine ⟨trivial, ?_⟩
    intro now _expected
    dsimp only
    split
    · refine ⟨trivial, ?_⟩
      intro stored _expected
      cases stored with
      | error err => exact trivial
      | ok revision => exact trivial
    · exact trivial

private theorem reconcileIdle_writing (interval : Time) (read : Option KubeTemplate)
    (kubeTemplate : KubeTemplate) (own : kubeTemplate.key = key)
    (admitted : Admitted platform policy kubeTemplate) :
    Guarantees (writing platform .controller key policy) (fun _ _ => True) read
      (Controller.reconcileIdle platform interval kubeTemplate) := by
  have corrected (read : Option KubeTemplate) :
      Guarantees (writing platform .controller key policy) (fun _ _ => True) read
        (do
          let _ ← Controller.applyTemplateResources platform kubeTemplate
          pure (Controller.ReconcileResult.after interval)) := by
    apply guarantees_bind (fun _ _ => True)
    · exact applyTemplateResources_writing platform read kubeTemplate own admitted
    · intro later result _ended
      exact trivial
  unfold Controller.reconcileIdle
  split
  · exact corrected read
  · simp only [timeNow, call_bind, done_bind]
    refine ⟨trivial, ?_⟩
    intro now _expected
    dsimp only
    split
    · exact trivial
    · exact corrected _

private theorem reconcileCompleted_writing (interval : Time) (read : Option KubeTemplate)
    (kubeTemplate : KubeTemplate) (own : kubeTemplate.key = key)
    (completed : kubeTemplate.status.processingPhase = .completed)
    (admitted : DriftReady platform kubeTemplate → Admitted platform policy kubeTemplate) :
    Guarantees (writing platform .controller key policy) (fun _ _ => True) read
      (Controller.reconcileCompleted platform interval kubeTemplate) := by
  have quiet := permitted_of_quiet platform key policy
  unfold Controller.reconcileCompleted
  dsimp only
  split
  · exact ⟨trivial, fun _ _ => trivial⟩
  · rename_i hashed
    split
    · refine ⟨trivial, ?_⟩
      intro now _expected
      exact (updateAndEnqueue_quiet _ _).guarantees quiet _
    · rename_i same
      simp only [queueContains, call_bind, done_bind]
      refine ⟨trivial, ?_⟩
      intro queued _expected
      dsimp only
      split
      · exact trivial
      · exact reconcileIdle_writing platform interval _ kubeTemplate own
          (admitted ⟨completed, hashed, not_not.mp same⟩)

theorem reconcile_writing (interval : Time) :
    Guarantees (writing platform .controller key policy) (fun _ _ => True)
      none (Controller.reconcile platform interval key) := by
  have quiet := permitted_of_quiet platform key policy
  simp only [Controller.reconcile, getTemplate, call_bind, done_bind]
  refine ⟨rfl, ?_⟩
  intro answer expected
  cases answer with
  | error err =>
      dsimp only
      split
      · exact trivial
      · exact trivial
  | ok kubeTemplate =>
      obtain ⟨own, trust⟩ := expected kubeTemplate rfl
      dsimp only
      unfold Controller.reconcilePhase
      split
      · unfold Controller.reconcilePaused
        split
        · exact ⟨trivial, fun _ _ => (updateAndEnqueue_quiet _ _).guarantees quiet _⟩
        · exact trivial
      · unfold Controller.reconcileFailed
        dsimp only
        split
        · exact ⟨trivial, fun _ _ => (updateAndEnqueue_quiet _ _).guarantees quiet _⟩
        · exact ⟨trivial, fun _ _ => trivial⟩
      · rename_i completed
        exact reconcileCompleted_writing platform interval _ kubeTemplate own completed
          (trust rfl rfl)
      · exact (reconcileNew_quiet platform kubeTemplate).guarantees quiet _
      · exact ⟨trivial, fun _ _ => trivial⟩
      · exact ⟨trivial, fun _ _ => trivial⟩

end Reconcile

end

end KubeTemplater.Operator
