/-
Admission is enough: what the webhook accepts, the worker applies.

The webhook and the worker walk over `spec.templates` separately.  Every check
of the worker is among those of the webhook, on the same object, so when the
webhook has accepted a spec under a policy no turn of the worker's loop is
skipped, and without a failing call the loop patches each element in turn.
-/

import KubeTemplater.Agreement.SecondCheck
import KubeTemplater.Worker.Completion

namespace KubeTemplater.Agreement

open Library Library.Program Worker Webhook

def writtenStatus : Exchange client → Option KubeTemplateStatus
  | ⟨.updateStatus template, answer⟩ =>
      match (answer : Except GoError Nat) with
      | .ok _ => some template.status
      | .error _ => none
  | _ => none

def lastStatus (trace : List (Exchange client)) : Option KubeTemplateStatus :=
  (trace.filterMap writtenStatus).getLast?

private theorem lastStatus_append {back : List (Exchange client)} {status : KubeTemplateStatus}
    (front : List (Exchange client)) (written : lastStatus back = some status) :
    lastStatus (front ++ back) = some status := by
  unfold lastStatus at written ⊢
  rw [List.filterMap_append, List.getLast?_append, written]
  rfl

/-- The call succeeds.  A read finds the KubeTemplate with the same spec, whatever
has become of its status and labels, and the policy is the given one. -/
def Succeeds (kubeTemplate : KubeTemplate) (policy : KubeTemplatePolicy) :
    Exchange client → Prop
  | ⟨.getTemplate _, answer⟩ => ∃ template, answer = .ok template ∧
      template.key = kubeTemplate.key ∧ template.spec = kubeTemplate.spec
  | ⟨.updateStatus _, answer⟩ => ∃ revision, answer = .ok revision
  | ⟨.policyCacheGet _ _, answer⟩ => answer = .ok policy
  | ⟨.patch _ _ _, answer⟩ => ∃ object, answer = .ok object
  | ⟨.delete _, answer⟩ => answer = .ok ()
  -- the clock, and calls the worker does not make
  | _ => True

def AllSucceed (kubeTemplate : KubeTemplate) (policy : KubeTemplatePolicy)
    (trace : List (Exchange client)) : Prop :=
  ∀ exchange, exchange ∈ trace → Succeeds kubeTemplate policy exchange

theorem AllSucceed.append {kubeTemplate : KubeTemplate} {policy : KubeTemplatePolicy}
    {front back : List (Exchange client)}
    (succeed : AllSucceed kubeTemplate policy (front ++ back)) :
    AllSucceed kubeTemplate policy front ∧ AllSucceed kubeTemplate policy back :=
  List.forall_mem_append.mp succeed

theorem AllSucceed.cons {kubeTemplate : KubeTemplate} {policy : KubeTemplatePolicy}
    {exchange : Exchange client} {rest : List (Exchange client)}
    (succeed : AllSucceed kubeTemplate policy (exchange :: rest)) :
    Succeeds kubeTemplate policy exchange ∧ AllSucceed kubeTemplate policy rest :=
  List.forall_mem_cons.mp succeed

section

variable (platform : Platform) {kubeTemplate : KubeTemplate} {policy : KubeTemplatePolicy}

/-- The webhook's checks of a template imply the worker's. -/
theorem checked_of_accepted {ns : String} {template : Template}
    (accepted : TemplateAccepted platform policy ns template) :
    ∃ decoded rule, Checked platform policy ns template decoded rule := by
  obtain ⟨_size, decoded, decodes, rule, found, admits, _fields⟩ := accepted
  refine ⟨decoded, rule, decodes, (checkPolicy_ok_iff platform policy _ rule).mpr ⟨found, ?_⟩⟩
  refine ⟨admits.target, ?_⟩
  rcases admits.celRule with unruled | holds
  · exact .inl unruled
  · exact .inr ((celWithLimits_ok_iff platform _ _ _ _).mp holds).1

/-- A status update without a failure is one read and one write. -/
theorem updateStatus_succeeds (update : KubeTemplateStatus → KubeTemplateStatus) (turns : Nat)
    (before : KubeTemplate) (trace : List (Exchange client))
    (result : KubeTemplate × Option GoError)
    (execution : Executes (updateStatusTurns update (turns + 1) before) trace result)
    (succeed : AllSucceed kubeTemplate policy trace) :
    ∃ latest revision,
      trace = [⟨.getTemplate before.key, .ok latest⟩,
        ⟨.updateStatus { latest with status := update latest.status }, .ok revision⟩] ∧
      result.2 = none ∧ result.1.key = kubeTemplate.key ∧
      result.1.spec = kubeTemplate.spec := by
  simp only [updateStatusTurns, getTemplate, updateStatus, call_bind, done_bind] at execution
  obtain ⟨answer, later, rfl, written⟩ := (executes_call_iff _ _ _ _).mp execution
  obtain ⟨⟨latest, rfl, sameKey, sameSpec⟩, succeedWrite⟩ := succeed.cons
  obtain ⟨answer, later, rfl, ended⟩ := (executes_call_iff _ _ _ _).mp written
  obtain ⟨⟨revision, rfl⟩, _ended⟩ := succeedWrite.cons
  obtain ⟨rfl, rfl⟩ := (executes_done_iff _ _ _).mp ended
  exact ⟨latest, revision, rfl, rfl, sameKey, sameSpec⟩

def Deletes (exchange : Exchange client) : Prop := ∃ object, exchange.request = .delete object

def PatchesInOrder (metadata : ObjectMeta) (templates : List Template)
    (trace : List (Exchange client)) : Prop :=
  (trace.filterMap issuedPatch).map some = templates.map (objectFor platform metadata)

/-- The loop over checked templates patches each and does nothing else. -/
theorem processTemplates_succeeds (templates : List Template) (before : KubeTemplate)
    (trace : List (Exchange client)) (result : KubeTemplate × Option GoError)
    (checked : ∀ template, template ∈ templates →
      Passes platform policy before.metadata template)
    (execution : Executes (processTemplates platform policy templates before) trace result)
    (succeed : AllSucceed kubeTemplate policy trace) :
    result = (before, none) ∧ PatchesInOrder platform before.metadata templates trace ∧
      ∀ exchange, exchange ∈ trace → ¬ Deletes exchange := by
  induction templates generalizing trace with
  | nil =>
      obtain ⟨rfl, rfl⟩ := (executes_done_iff _ _ _).mp execution
      exact ⟨rfl, rfl, fun exchange member => by cases member⟩
  | cons template rest ih =>
      obtain ⟨decoded, rule, decodes, passes⟩ := checked template List.mem_cons_self
      obtain ⟨front, later, value, rfl, first, second⟩ := (executes_bind_iff _ _ _ _).mp execution
      obtain ⟨succeedFirst, succeedLater⟩ := succeed.append
      simp only [processTemplate, decodes, passes, applyObject, patch, call_bind, done_bind]
        at first
      obtain ⟨answer, tail, rfl, applied⟩ := (executes_call_iff _ _ _ _).mp first
      obtain ⟨⟨stored, rfl⟩, _succeed⟩ := succeedFirst.cons
      obtain ⟨rfl, rfl⟩ := (executes_done_iff _ _ _).mp applied
      obtain ⟨same, patched, undeleted⟩ := ih later
        (fun other member => checked other (List.mem_cons_of_mem _ member)) second succeedLater
      refine ⟨same, ?_, ?_⟩
      · have here : objectFor platform before.metadata template = some
            (appliedObject platform before.metadata template
              (defaultNamespace platform before.metadata.ns decoded)) := by
          unfold objectFor
          rw [decodes]
        unfold PatchesInOrder
        rw [List.map_cons, here]
        exact congrArg (List.cons _) patched
      · intro exchange member
        rcases List.mem_cons.mp member with isPatch | isLater
        · rw [isPatch]
          rintro ⟨object, impossible⟩
          cases impossible
        · exact undeleted exchange isLater

def Quiet (trace : List (Exchange client)) : Prop :=
  ∀ exchange, exchange ∈ trace → issuedPatch exchange = none ∧ ¬ Deletes exchange

theorem Quiet.unpatched {trace : List (Exchange client)} (quiet : Quiet trace) :
    trace.filterMap issuedPatch = [] :=
  List.filterMap_eq_nil_iff.mpr (fun exchange member => (quiet exchange member).1)

/-- Before it applies anything, `processItem` reads the KubeTemplate, writes Processing
and gets the policy. -/
theorem processItem_opens {operatorNamespace : String} {trace : List (Exchange client)}
    {result : Option GoError}
    (execution : Executes (processItem platform operatorNamespace kubeTemplate.key) trace result)
    (succeed : AllSucceed kubeTemplate policy trace) :
    ∃ opening rest started, trace = opening ++ rest ∧ Quiet opening ∧
      started.key = kubeTemplate.key ∧ started.spec = kubeTemplate.spec ∧
      Executes (applyTemplates platform policy started) rest result := by
  simp only [processItem, getTemplate, call_bind, done_bind] at execution
  obtain ⟨answer, later, rfl, fetched⟩ := (executes_call_iff _ _ _ _).mp execution
  obtain ⟨⟨first, rfl, _sameKey, _sameSpec⟩, succeedFetched⟩ := succeed.cons
  obtain ⟨statusTrace, rest, ⟨started, startedErr⟩, rfl, status, asked⟩ :=
    (executes_bind_iff _ _ _ _).mp fetched
  obtain ⟨succeedStatus, succeedAsked⟩ := succeedFetched.append
  obtain ⟨latest, revision, rfl, _noError, startedKey, startedSpec⟩ :=
    updateStatus_succeeds _ 2 _ _ _ status succeedStatus
  simp only [policyCacheGet, call_bind, done_bind] at asked
  obtain ⟨answer, later, rfl, applied⟩ := (executes_call_iff _ _ _ _).mp asked
  obtain ⟨isPolicy, _succeedApplied⟩ := succeedAsked.cons
  subst isPolicy
  refine ⟨[_, _, _, _], later, started, rfl, ?_, startedKey, startedSpec, applied⟩
  simp only [Quiet, Deletes, issuedPatch, List.forall_mem_cons, reduceCtorEq, exists_false,
    not_false_eq_true, true_and, List.not_mem_nil, false_implies, implies_true]

private theorem completeTemplate_succeeds {applied : KubeTemplate} {trace : List (Exchange client)}
    {result : Option GoError}
    (execution : Executes (completeTemplate platform applied) trace result)
    (succeed : AllSucceed kubeTemplate policy trace) :
    result = none ∧ Quiet trace ∧
      ∃ status, lastStatus trace = some status ∧ status.processingPhase = .completed ∧
        status.appliedSpecHash = calculateSpecHash platform applied.spec := by
  simp only [completeTemplate, timeNow, call_bind, done_bind] at execution
  obtain ⟨now, later, rfl, written⟩ := (executes_call_iff _ _ _ _).mp execution
  obtain ⟨_time, succeedWritten⟩ := succeed.cons
  obtain ⟨writeTrace, back, after, rfl, write, returns⟩ := (executes_bind_iff _ _ _ _).mp written
  obtain ⟨succeedWrite, _succeedBack⟩ := succeedWritten.append
  obtain ⟨last, revision, rfl, noError, _afterKey, _afterSpec⟩ :=
    updateStatus_succeeds _ 2 _ _ _ write succeedWrite
  obtain ⟨rfl, rfl⟩ := (executes_done_iff _ _ _).mp returns
  refine ⟨noError, ?_, completedStatus (calculateSpecHash platform applied.spec) now last.status,
    rfl, rfl, rfl⟩
  simp only [Quiet, Deletes, issuedPatch, List.cons_append, List.nil_append, List.forall_mem_cons,
    reduceCtorEq, exists_false, not_false_eq_true, true_and, List.not_mem_nil, false_implies,
    implies_true]

/-- An execution of `processItem` on an accepted spec in which every call succeeds
patches every element once, in order, deletes nothing, returns nil and leaves the
phase Completed with the hash of the spec. -/
theorem admitted_template_completes (operatorNamespace : String) (cache : RegexCache platform)
    (accepted : Accepts platform operatorNamespace policy kubeTemplate cache)
    (trace : List (Exchange client)) (result : Option GoError)
    (execution : Executes (processItem platform operatorNamespace kubeTemplate.key) trace result)
    (succeed : AllSucceed kubeTemplate policy trace) :
    result = none ∧
      (∃ metadata : ObjectMeta,
        metadata.ns = kubeTemplate.metadata.ns ∧ metadata.name = kubeTemplate.metadata.name ∧
        PatchesInOrder platform metadata kubeTemplate.spec.templates trace) ∧
      (∀ exchange, exchange ∈ trace → ¬ Deletes exchange) ∧
      ∃ status, lastStatus trace = some status ∧ status.processingPhase = .completed ∧
        status.appliedSpecHash = calculateSpecHash platform kubeTemplate.spec := by
  have allowed := ((validateWithPolicy_ok_iff platform policy kubeTemplate cache).mp
    ((accepts_iff platform operatorNamespace policy kubeTemplate cache).mp accepted)).2
  obtain ⟨opening, rest, started, rfl, quiet, startedKey, startedSpec, applied⟩ :=
    processItem_opens platform execution succeed
  obtain ⟨loop, final, ended, rfl, loops, completes⟩ := (executes_bind_iff _ _ _ _).mp applied
  obtain ⟨succeedLoop, succeedFinal⟩ := succeed.append.2.append
  -- the worker makes the webhook's checks again, on the same objects
  have passes : ∀ template, template ∈ started.spec.templates →
      Passes platform policy started.metadata template := by
    intro template member
    rw [startedSpec] at member
    have sameNs : started.metadata.ns = kubeTemplate.metadata.ns :=
      congrArg NamespacedName.ns startedKey
    unfold Passes
    rw [sameNs]
    exact checked_of_accepted platform (allowed template member)
  obtain ⟨rfl, patched, undeleted⟩ := processTemplates_succeeds platform _ started loop ended
    passes loops succeedLoop
  obtain ⟨noError, quietEnd, status, isLast, isCompleted, isHash⟩ :=
    completeTemplate_succeeds platform completes succeedFinal
  rw [startedSpec] at patched isHash
  refine ⟨noError, ⟨started.metadata, congrArg NamespacedName.ns startedKey,
    congrArg NamespacedName.name startedKey, ?_⟩, ?_, status, ?_, isCompleted, isHash⟩
  · unfold PatchesInOrder
    rw [List.filterMap_append, List.filterMap_append, quiet.unpatched, quietEnd.unpatched,
      List.append_nil, List.nil_append]
    exact patched
  · intro exchange member
    rcases List.mem_append.mp member with early | later
    · exact (quiet exchange early).2
    · rcases List.mem_append.mp later with inLoop | late
      · exact undeleted exchange inLoop
      · exact (quietEnd exchange late).2
  · exact lastStatus_append _ (lastStatus_append _ isLast)

end

private theorem answering_succeeds (policy : KubeTemplatePolicy) (kubeTemplate : KubeTemplate)
    {α : Type} (program : Program client α) (stored : KubeTemplate)
    (sameKey : stored.key = kubeTemplate.key) (sameSpec : stored.spec = kubeTemplate.spec) :
    AllSucceed kubeTemplate policy (traceWith (Reference.answering policy) program stored) := by
  induction program generalizing stored with
  | done result =>
      intro exchange member
      cases member
  | call request next ih =>
      refine List.forall_mem_cons.mpr ⟨?_, ih _ _ ?_ ?_⟩
      · cases request with
        | getTemplate key => exact ⟨stored, rfl, sameKey, sameSpec⟩
        | updateStatus template => exact ⟨_, rfl⟩
        | policyCacheGet source ns => exact rfl
        | patch object force dryRun => exact ⟨object, rfl⟩
        | delete object => exact rfl
        | _ => trivial
      · cases request <;> exact sameKey
      · cases request <;> exact sameSpec

theorem admitted_settings_completes :
    (runWith (Reference.answering (Reference.configMapPolicy []))
        (processItem Reference.settingsPlatform "kubetemplater-system" ⟨"team-a", "web"⟩)
        (Reference.kubeTemplate [Reference.settingsTemplate])).1 = none ∧
      ∃ status, lastStatus (traceWith (Reference.answering (Reference.configMapPolicy []))
          (processItem Reference.settingsPlatform "kubetemplater-system" ⟨"team-a", "web"⟩)
          (Reference.kubeTemplate [Reference.settingsTemplate])) = some status ∧
        status.processingPhase = .completed ∧
        status.appliedSpecHash = calculateSpecHash Reference.settingsPlatform
          (Reference.kubeTemplate [Reference.settingsTemplate]).spec := by
  have accepted : Accepts Reference.settingsPlatform "kubetemplater-system"
      (Reference.configMapPolicy []) (Reference.kubeTemplate [Reference.settingsTemplate])
      (RegexCache.empty _) := by
    rw [accepts_iff]
    decide
  obtain ⟨returns, _patched, _undeleted, status⟩ := admitted_template_completes
    Reference.settingsPlatform "kubetemplater-system" (RegexCache.empty _) accepted _ _
    (executes_runWith (Reference.answering (Reference.configMapPolicy [])) _
      (Reference.kubeTemplate [Reference.settingsTemplate]))
    (answering_succeeds _ _ _ _ rfl rfl)
  exact ⟨returns, status⟩

end KubeTemplater.Agreement
