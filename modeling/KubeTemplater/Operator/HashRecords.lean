/-
What the executions write into `status.appliedSpecHash`.

A worker writes the hash of the spec it has looped over, and every other status
update of a worker keeps the hash that was read.  `Reconcile` writes the hash of a
changed spec when it queues the KubeTemplate, and keeps the hash otherwise.
-/

import KubeTemplater.Operator.StatusWrites
import KubeTemplater.Operator.WriteProtocol
import KubeTemplater.Worker.Completion

namespace KubeTemplater.Operator

open Library Library.Program

section

variable (platform : Platform)

structure PatchedAll (kubeTemplate : KubeTemplate) (patched : List Unstructured) : Prop where
  decodes : ∀ template, template ∈ kubeTemplate.spec.templates →
    (Worker.objectFor platform kubeTemplate.metadata template).isSome = true
  objects : (kubeTemplate.spec.templates.filterMap
    (Worker.objectFor platform kubeTemplate.metadata)).Sublist patched

def Covered (key : NamespacedName) (patched : List Unstructured) (hash : String) : Prop :=
  ∃ kubeTemplate, kubeTemplate.key = key ∧
    calculateSpecHash platform kubeTemplate.spec = hash ∧ PatchedAll platform kubeTemplate patched

variable {platform} in
theorem Covered.mono {key : NamespacedName} {patched more : List Unstructured} {hash : String}
    (covered : Covered platform key patched hash) (longer : patched.Sublist more) :
    Covered platform key more hash := by
  obtain ⟨kubeTemplate, own, isHash, all⟩ := covered
  exact ⟨kubeTemplate, own, isHash, all.decodes, all.objects.trans longer⟩

end

structure Credit where
  read : Option KubeTemplate
  /-- The objects of the real Patches that have succeeded. -/
  patched : List Unstructured
  /-- The last call was a Delete. -/
  replacing : Bool

def Credit.after (credit : Credit) (request : Call) (answer : request.Answer) : Credit :=
  { read := readAfter credit.read request answer
    patched :=
      match successfulPatch ⟨request, answer⟩ with
      | none => credit.patched
      | some object => credit.patched ++ [object]
    replacing :=
      match request with
      | .delete _ => true
      | _ => false }

def creditOf (trace : List (Exchange client)) : Credit :=
  trace.foldl (fun credit exchange => credit.after exchange.request exchange.answer)
    { read := none, patched := [], replacing := false }

theorem creditOf_snoc (trace : List (Exchange client)) (request : Call)
    (answer : request.Answer) :
    creditOf (trace ++ [⟨request, answer⟩]) = (creditOf trace).after request answer :=
  List.foldl_append

theorem creditOf_patched (trace : List (Exchange client)) :
    (creditOf trace).patched = trace.filterMap successfulPatch := by
  have collected (credit : Credit) : (trace.foldl (fun credit exchange =>
      credit.after exchange.request exchange.answer) credit).patched =
        credit.patched ++ trace.filterMap successfulPatch := by
    induction trace generalizing credit with
    | nil => exact (List.append_nil _).symm
    | cons exchange rest ih =>
        rw [List.foldl_cons, ih, List.filterMap_cons]
        simp only [Credit.after]
        cases successfulPatch exchange with
        | none => rfl
        | some object => exact List.append_assoc _ _ _
  exact collected { read := none, patched := [], replacing := false }

section

variable (platform : Platform)

/-- The elements of the spec that was read decode and pass the policy that is found,
and a replacement goes through. -/
def Applicable (credit : Credit) : (request : Call) → request.Answer → Prop
  | .policyCacheGet _ _, answer => ∀ policy seen, answer = .ok policy →
      credit.read = some seen → ∀ template, template ∈ seen.spec.templates →
        Worker.Passes platform policy seen.metadata template
  | .delete _, answer => answer.isOk = true
  | .patch _ _ _, answer => credit.replacing = true → answer.isOk = true
  | _, _ => True

/-- A status update of a worker keeps the hash that was read last, or writes one that
the turn has earned. -/
def crediting (key : NamespacedName) : Protocol client Credit where
  expected := fun credit request answer =>
    keyedAnswer request answer ∧ Applicable platform credit request answer
  permitted := fun credit request =>
    match request with
    | .updateStatus template =>
        (∃ seen, credit.read = some seen ∧ seen.key = key ∧
          template.status.appliedSpecHash = seen.status.appliedSpecHash) ∨
        Covered platform key credit.patched template.status.appliedSpecHash
    | _ => True
  after := Credit.after

variable {key : NamespacedName}

private theorem updateStatusTurns_crediting {update : KubeTemplateStatus → KubeTemplateStatus}
    {patched : List Unstructured}
    (records : ∀ status, (update status).appliedSpecHash = status.appliedSpecHash ∨
      Covered platform key patched (update status).appliedSpecHash)
    (turns : Nat) (credit : Credit) (same : credit.patched = patched)
    (kubeTemplate : KubeTemplate) (follows : Follows key credit.read kubeTemplate) :
    Guarantees (crediting platform key) (fun after result => Follows key after.read result.1)
      credit (Worker.updateStatusTurns update turns kubeTemplate) := by
  induction turns generalizing credit kubeTemplate with
  | zero => exact follows
  | succ turns ih =>
      simp only [Worker.updateStatusTurns, getTemplate, updateStatus, call_bind, done_bind]
      refine ⟨trivial, ?_⟩
      intro answer expected
      cases answer with
      | error err => exact follows
      | ok latest =>
          have own : latest.key = key := (expected.1 latest rfl).trans follows.1
          have again : ∀ status, Follows key (some latest) { latest with status := status } :=
            fun status => ⟨own, latest, rfl, own, rfl⟩
          constructor
          · rcases records latest.status with kept | covered
            · exact .inl ⟨latest, rfl, own, kept⟩
            · rw [← same] at covered
              exact .inr covered
          · intro stored _expected
            cases stored with
            | ok revision => exact ⟨own, latest, rfl, own, rfl⟩
            | error err =>
                dsimp only
                split
                · refine ih _ ?_ _ ?_
                  · exact same
                  · exact again _
                · exact again _

theorem updateStatusWithRetry_crediting {update : KubeTemplateStatus → KubeTemplateStatus}
    {credit : Credit} {kubeTemplate : KubeTemplate}
    (follows : Follows key credit.read kubeTemplate)
    (records : ∀ status, (update status).appliedSpecHash = status.appliedSpecHash ∨
      Covered platform key credit.patched (update status).appliedSpecHash) :
    Guarantees (crediting platform key) (fun after result => Follows key after.read result.1)
      credit (Worker.updateStatusWithRetry kubeTemplate update) :=
  updateStatusTurns_crediting platform records 3 credit rfl kubeTemplate follows

/-- After a turn of the loop that no error has ended, `kubeTemplate` is the same and the
objects have been patched. -/
def Looped (key : NamespacedName) (kubeTemplate : KubeTemplate) (patched : List Unstructured)
    (after : Credit) (result : KubeTemplate × Option GoError) : Prop :=
  Follows key after.read result.1 ∧
    (result.2 = none → result.1 = kubeTemplate ∧ after.patched = patched)

private theorem applyObject_crediting (credit : Credit) (kubeTemplate : KubeTemplate)
    (template : Template) (gvk : GroupVersionKind) (object : Unstructured)
    (follows : Follows key credit.read kubeTemplate) :
    Guarantees (crediting platform key) (Looped key kubeTemplate (credit.patched ++ [object]))
      credit (Worker.applyObject platform kubeTemplate template gvk object) := by
  simp only [Worker.applyObject, patch, deleteResource, timeNow, call_bind, done_bind]
  refine ⟨trivial, ?_⟩
  intro answer _expected
  cases answer with
  | ok stored => exact ⟨follows, fun _ => ⟨rfl, rfl⟩⟩
  | error err =>
      dsimp only
      split
      · refine ⟨trivial, ?_⟩
        intro deleted isDeleted
        cases deleted with
        | error refused => cases isDeleted.2
        | ok nothing =>
            refine ⟨trivial, ?_⟩
            intro replaced isReplaced
            have isOk : replaced.isOk = true := isReplaced.2 rfl
            cases replaced with
            | error again => cases isOk
            | ok stored => exact ⟨follows, fun _ => ⟨rfl, rfl⟩⟩
      · refine ⟨trivial, ?_⟩
        intro now _expected
        apply guarantees_bind (fun after result => Follows key after.read result.1)
        · exact updateStatusWithRetry_crediting platform follows (fun _ => .inl rfl)
        · intro later result still
          exact ⟨still, fun impossible => by cases impossible⟩

private theorem processTemplate_crediting (policy : KubeTemplatePolicy) (credit : Credit)
    (kubeTemplate : KubeTemplate) (template : Template) (object : Unstructured)
    (follows : Follows key credit.read kubeTemplate)
    (passes : Worker.Passes platform policy kubeTemplate.metadata template)
    (isObject : Worker.objectFor platform kubeTemplate.metadata template = some object) :
    Guarantees (crediting platform key) (Looped key kubeTemplate (credit.patched ++ [object]))
      credit (Worker.processTemplate platform policy kubeTemplate template) := by
  obtain ⟨decoded, rule, checked⟩ := passes
  unfold Worker.objectFor at isObject
  rw [checked.decodes] at isObject
  cases isObject
  simp only [Worker.processTemplate, checked.decodes, checked.passes]
  exact applyObject_crediting platform credit kubeTemplate template _ _ follows

private theorem objectFor_isSome {policy : KubeTemplatePolicy} {metadata : ObjectMeta}
    {template : Template} (passes : Worker.Passes platform policy metadata template) :
    (Worker.objectFor platform metadata template).isSome = true := by
  obtain ⟨decoded, rule, checked⟩ := passes
  unfold Worker.objectFor
  rw [checked.decodes]
  rfl

private theorem processTemplates_crediting (policy : KubeTemplatePolicy) (templates : List Template)
    (credit : Credit) (kubeTemplate : KubeTemplate)
    (follows : Follows key credit.read kubeTemplate)
    (passes : ∀ template, template ∈ templates →
      Worker.Passes platform policy kubeTemplate.metadata template) :
    Guarantees (crediting platform key)
      (Looped key kubeTemplate
        (credit.patched ++ templates.filterMap (Worker.objectFor platform kubeTemplate.metadata)))
      credit (Worker.processTemplates platform policy templates kubeTemplate) := by
  induction templates generalizing credit with
  | nil => exact ⟨follows, fun _ => ⟨rfl, (List.append_nil _).symm⟩⟩
  | cons template rest ih =>
      have first := passes template List.mem_cons_self
      obtain ⟨object, isObject⟩ := Option.isSome_iff_exists.mp (objectFor_isSome platform first)
      apply guarantees_bind _ (processTemplate_crediting platform policy credit kubeTemplate
        template object follows first isObject)
      rintro later ⟨after, failure⟩ ⟨still, looped⟩
      cases failure with
      | some err => exact ⟨still, fun impossible => by cases impossible⟩
      | none =>
          obtain ⟨same, patched⟩ := looped rfl
          dsimp only at same still ⊢
          subst same
          have remaining := ih later still
            (fun other member => passes other (List.mem_cons_of_mem template member))
          rw [patched, List.append_assoc] at remaining
          rw [List.filterMap_cons_some isObject]
          exact remaining

private theorem completeTemplate_crediting (credit : Credit) (kubeTemplate : KubeTemplate)
    (follows : Follows key credit.read kubeTemplate)
    (patched : PatchedAll platform kubeTemplate credit.patched) :
    Guarantees (crediting platform key) (fun _ _ => True) credit
      (Worker.completeTemplate platform kubeTemplate) := by
  simp only [Worker.completeTemplate, timeNow, call_bind, done_bind]
  refine ⟨trivial, ?_⟩
  intro now _expected
  apply guarantees_bind (fun after result => Follows key after.read result.1)
  · exact updateStatusWithRetry_crediting platform follows
      (fun _ => .inr ⟨kubeTemplate, follows.1, rfl, patched⟩)
  · intro later result _still
    trivial

private theorem applyTemplates_crediting (policy : KubeTemplatePolicy) (credit : Credit)
    (kubeTemplate : KubeTemplate) (follows : Follows key credit.read kubeTemplate)
    (passes : ∀ template, template ∈ kubeTemplate.spec.templates →
      Worker.Passes platform policy kubeTemplate.metadata template) :
    Guarantees (crediting platform key) (fun _ _ => True) credit
      (Worker.applyTemplates platform policy kubeTemplate) := by
  apply guarantees_bind _ (processTemplates_crediting platform policy _ credit kubeTemplate follows
    passes)
  rintro later ⟨after, failure⟩ ⟨still, looped⟩
  cases failure with
  | some err => trivial
  | none =>
      obtain ⟨same, patched⟩ := looped rfl
      dsimp only at same still ⊢
      subst same
      refine completeTemplate_crediting platform later after still ⟨?_, ?_⟩
      · intro template member
        exact objectFor_isSome platform (passes template member)
      · rw [patched]
        exact List.sublist_append_right _ _

private theorem processFetched_crediting (operatorNamespace : String) (credit : Credit)
    (kubeTemplate : KubeTemplate) (follows : Follows key credit.read kubeTemplate) :
    Guarantees (crediting platform key) (fun _ _ => True) credit
      (Worker.processFetched platform operatorNamespace kubeTemplate) := by
  apply guarantees_bind (fun after result => Follows key after.read result.1)
  · exact updateStatusWithRetry_crediting platform follows (fun _ => .inl rfl)
  · rintro later ⟨latest, _failure⟩ still
    simp only [policyCacheGet, call_bind, done_bind]
    refine ⟨trivial, ?_⟩
    intro answer expected
    cases answer with
    | error err =>
        simp only [timeNow, call_bind, done_bind]
        refine ⟨trivial, ?_⟩
        intro now _expected
        apply guarantees_bind (fun after result => Follows key after.read result.1)
        · exact updateStatusWithRetry_crediting platform still (fun _ => .inl rfl)
        · intro last result _still
          trivial
    | ok policy =>
        refine applyTemplates_crediting platform policy _ latest still ?_
        obtain ⟨own, seen, isRead, seenOwn, sameSpec⟩ := still
        intro template member
        dsimp only at sameSpec member
        rw [← sameSpec] at member
        have passes := expected.2 policy seen rfl isRead template member
        have sameNs : seen.metadata.ns = latest.metadata.ns :=
          congrArg NamespacedName.ns (seenOwn.trans own.symm)
        unfold Worker.Passes at passes ⊢
        rw [← sameNs]
        exact passes

private theorem processItem_crediting (operatorNamespace : String) (credit : Credit) :
    Guarantees (crediting platform key) (fun _ _ => True) credit
      (Worker.processItem platform operatorNamespace key) := by
  simp only [Worker.processItem, getTemplate, call_bind, done_bind]
  refine ⟨trivial, ?_⟩
  intro answer expected
  cases answer with
  | error err =>
      dsimp only
      split <;> trivial
  | ok kubeTemplate =>
      have own := expected.1 kubeTemplate rfl
      exact processFetched_crediting platform operatorNamespace _ kubeTemplate
        ⟨own, kubeTemplate, rfl, own, rfl⟩

private theorem pauseTemplate_crediting (maxRetryCycles : Int) (err : GoError) (credit : Credit) :
    Guarantees (crediting platform key) (fun _ _ => True) credit
      (Worker.pauseTemplate maxRetryCycles key err) := by
  simp only [Worker.pauseTemplate, getTemplate, timeNow, call_bind, done_bind]
  refine ⟨trivial, ?_⟩
  intro answer expected
  cases answer with
  | error failure => trivial
  | ok kubeTemplate =>
      have own := expected.1 kubeTemplate rfl
      refine ⟨trivial, ?_⟩
      intro now _expected
      apply guarantees_bind (fun after result => Follows key after.read result.1)
      · exact updateStatusWithRetry_crediting platform ⟨own, kubeTemplate, rfl, own, rfl⟩
          (fun _ => .inl rfl)
      · rintro later ⟨latest, failure⟩ _still
        cases failure with
        | some err => trivial
        | none => exact ⟨trivial, fun _ _ => trivial⟩

theorem handleItem_crediting (operatorNamespace : String) (maxRetryCycles : Int)
    (item : Queue.WorkItem) (own : item.namespacedName = key) (credit : Credit) :
    Guarantees (crediting platform key) (fun _ _ => True) credit
      (Worker.handleItem platform operatorNamespace maxRetryCycles item) := by
  subst own
  apply guarantees_bind _ (processItem_crediting platform operatorNamespace credit)
  intro later result _ended
  cases result with
  | none => trivial
  | some err =>
      dsimp only
      split
      · apply guarantees_bind _ (pauseTemplate_crediting platform maxRetryCycles err later)
        intro last _ _ended
        trivial
      · trivial

/-- `Reconcile` finds that the spec has changed and writes its hash. -/
def Records (seen : KubeTemplate) : Prop :=
  calculateSpecHash platform seen.spec ≠ seen.status.appliedSpecHash ∧
    (seen.status.processingPhase = .completed ∨
      seen.status.processingPhase = .failed ∧ seen.status.appliedSpecHash ≠ "")

instance (seen : KubeTemplate) : Decidable (Records platform seen) :=
  inferInstanceAs (Decidable (_ ∧ _))

/-- A hash that `Reconcile` may write once it has read the KubeTemplate. -/
def Recordable (seen : KubeTemplate) (hash : String) : Prop :=
  hash = seen.status.appliedSpecHash ∨
    Records platform seen ∧ hash = calculateSpecHash platform seen.spec

/-- A status update of `Reconcile` keeps the hash that was read last, or writes the one
of a changed spec. -/
def recording (key : NamespacedName) : Protocol client (Option KubeTemplate) where
  expected := fun _ => keyedAnswer
  permitted := fun read request =>
    match request with
    | .updateStatus template => ∃ seen, read = some seen ∧ seen.key = key ∧
        Recordable platform seen template.status.appliedSpecHash
    | _ => True
  after := readAfter

theorem ReconcileChange.recordable {seen : KubeTemplate}
    {change : KubeTemplateStatus → KubeTemplateStatus}
    (isChange : ReconcileChange platform seen change) :
    Recordable platform seen (change seen.status).appliedSpecHash := by
  cases isChange with
  | resumed now => exact .inl rfl
  | failedRequeued failed recorded differs now =>
      exact .inr ⟨⟨differs, .inr ⟨failed, recorded⟩⟩, rfl⟩
  | completedRequeued completed differs now => exact .inr ⟨⟨differs, .inl completed⟩, rfl⟩
  | hashed completed =>
      by_cases same : calculateSpecHash platform seen.spec = seen.status.appliedSpecHash
      · exact .inl same
      · exact .inr ⟨⟨same, .inl completed⟩, rfl⟩
  | queued now => exact .inl rfl
  | reconciled total tally now => exact .inl (Controller.reconciledStatus_keeps _ _ _ _).2

theorem reconcile_recording (interval : Time) :
    Guarantees (recording platform key) (fun _ _ => True) none
      (Controller.reconcile platform interval key) := by
  -- what has been read has the key
  apply @Guarantees.simulate _ _ _ _ _ (recording platform key) _ _ _
    (fun place read => place = read ∧ ∀ seen, read = some seen → seen.key = key) _ _
    (@reconcile_updating platform key interval none)
  · exact ⟨rfl, fun _ impossible => by cases impossible⟩
  · intro _ _ _ _ _ _
    trivial
  · rintro _ read request ⟨rfl, own⟩ permitted
    cases request with
    | updateStatus template =>
        obtain ⟨seen, change, isRead, isChange, rfl⟩ := permitted
        exact ⟨seen, isRead, own seen isRead, isChange.recordable platform⟩
    | _ => trivial
  · rintro _ read request answer ⟨rfl, own⟩ permitted expected
    refine ⟨rfl, ?_⟩
    cases request with
    | getTemplate wanted =>
        cases answer with
        | error err => exact own
        | ok found =>
            intro seen isSeen
            cases isSeen
            exact (expected found rfl).trans permitted
    | _ => exact own
  · intro _ _ _ _ _
    trivial

end

end KubeTemplater.Operator
