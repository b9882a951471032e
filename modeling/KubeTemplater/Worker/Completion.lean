/-
What a completed template has had applied.

`processItem` writes Completed after every loop that no apply error has ended.
A template that does not decode, one the policy rejects and one whose
replacement fails do not end the loop, so they are completed all the same.
-/

import KubeTemplater.Worker.Executions
import KubeTemplater.Reference

namespace KubeTemplater.Worker

open Library Library.Program

def notPolicyGet : Exchange client → Bool
  | ⟨.policyCacheGet _ _, _⟩ => false
  | _ => true

def loopTemplate (trace : List (Exchange client)) : Option KubeTemplate :=
  lastRead (trace.takeWhile notPolicyGet)

def policyAnswer : Exchange client → Option KubeTemplatePolicy
  | ⟨.policyCacheGet _ _, answer⟩ =>
      match (answer : Except GoError KubeTemplatePolicy) with
      | .ok policy => some policy
      | .error _ => none
  | _ => none

def loopPolicy (trace : List (Exchange client)) : Option KubeTemplatePolicy :=
  (trace.dropWhile notPolicyGet).head?.bind policyAnswer

def ReplacesSucceed : List (Exchange client) → Prop
  | [] => True
  | ⟨.delete _, answer⟩ :: rest =>
      match (answer : Except GoError Unit) with
      | .error _ => False
      | .ok _ => (rest.head?.bind successfulPatch).isSome = true ∧ ReplacesSucceed rest
  | _ :: rest => ReplacesSucceed rest

private theorem replacesSucceed_append_onTemplate (front back : List (Exchange client))
    (onTemplate : ∀ exchange, exchange ∈ front → exchange.request.onTemplate) :
    ReplacesSucceed (front ++ back) ↔ ReplacesSucceed back := by
  induction front with
  | nil => exact Iff.rfl
  | cons exchange rest ih =>
      have here := onTemplate exchange List.mem_cons_self
      have later := ih (fun other member => onTemplate other (List.mem_cons_of_mem _ member))
      obtain ⟨request, answer⟩ := exchange
      cases request <;> first | exact later | cases here

private theorem filterMap_onTemplate (trace : List (Exchange client))
    (onTemplate : ∀ exchange, exchange ∈ trace → exchange.request.onTemplate) :
    trace.filterMap successfulPatch = [] := by
  rw [List.filterMap_eq_nil_iff]
  intro exchange member
  exact successfulPatch_onTemplate exchange (onTemplate exchange member)

section

variable (platform : Platform)

def objectFor (metadata : ObjectMeta) (template : Template) : Option Unstructured :=
  match platform.unmarshal template.object.raw with
  | .ok decoded => some
      (appliedObject platform metadata template
        (defaultNamespace platform metadata.ns decoded))
  | .error _ => none

def Passes (policy : KubeTemplatePolicy) (metadata : ObjectMeta) (template : Template) : Prop :=
  ∃ decoded rule, Checked platform policy metadata.ns template decoded rule

def passesCheck (policy : KubeTemplatePolicy) (metadata : ObjectMeta) (template : Template) :
    Bool :=
  match platform.unmarshal template.object.raw with
  | .error _ => false
  | .ok decoded =>
      (checkPolicy platform policy (defaultNamespace platform metadata.ns decoded)).isOk

theorem passes_of_check {policy : KubeTemplatePolicy} {metadata : ObjectMeta}
    {template : Template} (checked : passesCheck platform policy metadata template = true) :
    Passes platform policy metadata template := by
  unfold passesCheck at checked
  split at checked
  · cases checked
  · rename_i decoded decodes
    cases passes : checkPolicy platform policy (defaultNamespace platform metadata.ns decoded) with
    | error text =>
        rw [passes] at checked
        cases checked
    | ok rule => exact ⟨decoded, rule, decodes, passes⟩

structure AllApplied (policy : KubeTemplatePolicy) (kubeTemplate : KubeTemplate)
    (trace : List (Exchange client)) : Prop where
  passes : ∀ template, template ∈ kubeTemplate.spec.templates →
    Passes platform policy kubeTemplate.metadata template
  patched : (kubeTemplate.spec.templates.filterMap
      (objectFor platform kubeTemplate.metadata)).Sublist (trace.filterMap successfulPatch)

private theorem processTemplate_passes (policy : KubeTemplatePolicy)
    (kubeTemplate after : KubeTemplate)
    (template : Template) (trace : List (Exchange client))
    (passes : Passes platform policy kubeTemplate.metadata template)
    (execution : Executes (processTemplate platform policy kubeTemplate template) trace
      (after, none)) :
    ∃ object, objectFor platform kubeTemplate.metadata template = some object ∧
      after = kubeTemplate ∧ ApplyTrace object template.replace trace := by
  obtain ⟨decoded, rule, checked⟩ := passes
  simp only [processTemplate, checked.decodes, checked.passes] at execution
  refine ⟨_, ?_, applyObject_executes platform _ _ _ _ _ _ execution⟩
  unfold objectFor
  rw [checked.decodes]

/-- An apply contributes its object when its replacement succeeds, and nothing otherwise. -/
theorem ApplyTrace.successes {object : Unstructured} {replace : Bool}
    {front : List (Exchange client)} (applied : ApplyTrace object replace front)
    (back : List (Exchange client)) :
    (front.filterMap successfulPatch = [object] ∧
        (ReplacesSucceed (front ++ back) ↔ ReplacesSucceed back)) ∨
      (front.filterMap successfulPatch = [] ∧ ¬ ReplacesSucceed (front ++ back)) := by
  cases applied with
  | applied stored => exact .inl ⟨rfl, Iff.rfl⟩
  | undeleted err refused wanted => exact .inr ⟨rfl, fun succeed => succeed⟩
  | replaced err stored wanted =>
      exact .inl ⟨rfl, ⟨fun succeed => succeed.2, fun succeed => ⟨rfl, succeed⟩⟩⟩
  | unreplaced err again wanted =>
      refine .inr ⟨rfl, ?_⟩
      intro succeed
      cases succeed.1

/-- When every template passes, the loop keeps `kubeTemplate` and patches at most
one object for each template; it patches them all exactly when the replacements
succeed. -/
theorem processTemplates_passes (policy : KubeTemplatePolicy) (templates : List Template)
    (kubeTemplate after : KubeTemplate) (trace : List (Exchange client))
    (passes : ∀ template, template ∈ templates →
      Passes platform policy kubeTemplate.metadata template)
    (execution : Executes (processTemplates platform policy templates kubeTemplate) trace
      (after, none)) (back : List (Exchange client)) :
    after = kubeTemplate ∧
      ((trace.filterMap successfulPatch =
            templates.filterMap (objectFor platform kubeTemplate.metadata) ∧
          (ReplacesSucceed (trace ++ back) ↔ ReplacesSucceed back)) ∨
        ((trace.filterMap successfulPatch).length <
            (templates.filterMap (objectFor platform kubeTemplate.metadata)).length ∧
          ¬ ReplacesSucceed (trace ++ back))) := by
  induction templates generalizing kubeTemplate trace with
  | nil =>
      obtain ⟨rfl, same⟩ := (executes_done_iff _ _ _).mp execution
      cases same
      exact ⟨rfl, .inl ⟨rfl, Iff.rfl⟩⟩
  | cons template rest ih =>
      obtain ⟨front, later, ⟨middle, ended⟩, rfl, first, second⟩ :=
        (executes_bind_iff _ _ _ _).mp execution
      cases ended with
      | some err =>
          obtain ⟨_, same⟩ := (executes_done_iff _ _ _).mp second
          cases same
      | none =>
          obtain ⟨object, isObject, rfl, applied⟩ := processTemplate_passes platform policy _ _
            template front (passes template List.mem_cons_self) first
          obtain ⟨same, remaining⟩ := ih middle later
            (fun other member => passes other (List.mem_cons_of_mem _ member)) second
          refine ⟨same, ?_⟩
          rw [List.filterMap_append, List.filterMap_cons_some isObject, List.append_assoc]
          rcases applied.successes (later ++ back) with ⟨one, replaced⟩ | ⟨none, failed⟩
          · rw [one, replaced]
            rcases remaining with ⟨all, succeed⟩ | ⟨fewer, failed⟩
            · exact .inl ⟨by rw [all]; rfl, succeed⟩
            · exact .inr ⟨Nat.succ_lt_succ fewer, failed⟩
          · rw [none]
            refine .inr ⟨?_, failed⟩
            rcases remaining with ⟨all, _succeed⟩ | ⟨fewer, _failed⟩
            · rw [all]
              exact Nat.lt_succ_self _
            · exact Nat.lt_succ_of_lt fewer

/-- A status update that succeeds leaves the phase its function sets. -/
theorem updateStatusTurns_phase (update : KubeTemplateStatus → KubeTemplateStatus)
    (phase : Phase) (sets : ∀ status, (update status).processingPhase = phase) (turns : Nat)
    (kubeTemplate after : KubeTemplate) (trace : List (Exchange client))
    (execution : Executes (updateStatusTurns update turns kubeTemplate) trace (after, none)) :
    lastPhase trace = some phase := by
  induction turns generalizing kubeTemplate trace with
  | zero =>
      obtain ⟨_, same⟩ := (executes_done_iff _ _ _).mp execution
      cases same
  | succ turns ih =>
      simp only [updateStatusTurns, getTemplate, updateStatus, call_bind, done_bind]
        at execution
      obtain ⟨answer, later, rfl, written⟩ := (executes_call_iff _ _ _ _).mp execution
      cases answer with
      | error err =>
          obtain ⟨_, same⟩ := (executes_done_iff _ _ _).mp written
          cases same
      | ok latest =>
          obtain ⟨stored, later, rfl, retried⟩ := (executes_call_iff _ _ _ _).mp written
          cases stored with
          | ok revision =>
              obtain ⟨rfl, _⟩ := (executes_done_iff _ _ _).mp retried
              exact congrArg some (sets latest.status)
          | error err =>
              dsimp only at retried
              split at retried
              · have written := ih _ _ retried
                exact (lastPhase_append
                  [⟨.getTemplate kubeTemplate.key, .ok latest⟩,
                    ⟨.updateStatus { latest with status := update latest.status },
                      .error err⟩] later).trans (by rw [written]; rfl)
              · obtain ⟨_, same⟩ := (executes_done_iff _ _ _).mp retried
                cases same

theorem completeTemplate_makes (kubeTemplate : KubeTemplate) :
    Makes Call.onTemplate (completeTemplate platform kubeTemplate) := by
  simp only [completeTemplate, timeNow, call_bind, done_bind]
  refine makes_call trivial ?_
  intro now
  exact makes_bind (updateStatusTurns_makes _ 3 kubeTemplate) (fun _ => makes_done _ _)

private theorem completeTemplate_executes (kubeTemplate : KubeTemplate)
    (trace : List (Exchange client))
    (execution : Executes (completeTemplate platform kubeTemplate) trace none) :
    (∀ exchange, exchange ∈ trace → exchange.request.onTemplate) ∧
      lastPhase trace = some .completed := by
  constructor
  · exact (completeTemplate_makes platform kubeTemplate).executes execution
  · simp only [completeTemplate, timeNow, call_bind, done_bind] at execution
    obtain ⟨now, later, rfl, written⟩ := (executes_call_iff _ _ _ _).mp execution
    obtain ⟨front, back, ⟨after, err⟩, rfl, first, last⟩ :=
      (executes_bind_iff _ _ _ _).mp written
    obtain ⟨rfl, same⟩ := (executes_done_iff _ _ _).mp last
    cases same
    have phase := updateStatusTurns_phase _ .completed (fun _ => rfl) 3 _ _ _ first
    rw [List.append_nil]
    exact (lastPhase_append [⟨.now, now⟩] front).trans (by rw [phase]; rfl)

/-- An execution that returns nil after asking for a policy: it reads the template,
asks for the policy, runs the loop to its end and writes Completed. -/
structure LoopParts (policy : KubeTemplatePolicy) (kubeTemplate : KubeTemplate)
    (trace : List (Exchange client)) where
  reads : List (Exchange client)
  ask : Exchange client
  loop : List (Exchange client)
  final : List (Exchange client)
  parts : trace = reads ++ ask :: (loop ++ final)
  readsOnly : ∀ exchange, exchange ∈ reads → exchange.request.onTemplate
  asks : notPolicyGet ask = false
  started : KubeTemplate
  same : started.unversioned = kubeTemplate.unversioned
  ended : KubeTemplate
  loops : Executes (processTemplates platform policy started.spec.templates started) loop
    (ended, none)
  completes : Executes (completeTemplate platform ended) final none

private theorem notPolicyGet_onTemplate (exchange : Exchange client)
    (onTemplate : exchange.request.onTemplate) : notPolicyGet exchange = true := by
  obtain ⟨request, answer⟩ := exchange
  cases request <;> first | rfl | cases onTemplate

section Reads

variable {reads rest : List (Exchange client)} {ask : Exchange client}
  (readsOnly : ∀ exchange, exchange ∈ reads → exchange.request.onTemplate)
  (asks : notPolicyGet ask = false)
include readsOnly asks

private theorem loopTemplate_of_reads : loopTemplate (reads ++ ask :: rest) = lastRead reads := by
  unfold loopTemplate
  rw [List.takeWhile_append_of_pos
      (fun exchange member => notPolicyGet_onTemplate exchange (readsOnly exchange member)),
    List.takeWhile_cons_of_neg (Bool.eq_false_iff.mp asks), List.append_nil]

private theorem loopPolicy_of_reads : loopPolicy (reads ++ ask :: rest) = policyAnswer ask := by
  unfold loopPolicy
  rw [List.dropWhile_append_of_pos
      (fun exchange member => notPolicyGet_onTemplate exchange (readsOnly exchange member)),
    List.dropWhile_cons_of_neg (Bool.eq_false_iff.mp asks)]
  rfl

end Reads

/-- An execution that has got a policy, whatever it returns: the loop, and after a loop
that no error has ended the update to Completed. -/
structure LoopRun (policy : KubeTemplatePolicy) (kubeTemplate : KubeTemplate)
    (trace : List (Exchange client)) (result : Option GoError) where
  reads : List (Exchange client)
  ask : Exchange client
  loop : List (Exchange client)
  final : List (Exchange client)
  parts : trace = reads ++ ask :: (loop ++ final)
  readsOnly : ∀ exchange, exchange ∈ reads → exchange.request.onTemplate
  asks : notPolicyGet ask = false
  lastRead : lastRead reads = some kubeTemplate
  started : KubeTemplate
  same : started.unversioned = kubeTemplate.unversioned
  ended : KubeTemplate
  err : Option GoError
  loops : Executes (processTemplates platform policy started.spec.templates started) loop
    (ended, err)
  finishes : match err with
    | some failure => final = [] ∧ result = some failure
    | none => Executes (completeTemplate platform ended) final result

inductive ItemRun (trace : List (Exchange client)) (result : Option GoError) : Prop where
  | unpolicied (none : loopPolicy trace = none)
      (quiet : ∀ exchange, exchange ∈ trace →
        exchange.request.onTemplate ∨ notPolicyGet exchange = false)
  | looped (policy : KubeTemplatePolicy) (kubeTemplate : KubeTemplate)
      (ranges : loopTemplate trace = some kubeTemplate)
      (governs : loopPolicy trace = some policy)
      (run : LoopRun platform policy kubeTemplate trace result)

private theorem lastRead_started {key : NamespacedName} {first started : KubeTemplate}
    {statusTrace : List (Exchange client)}
    (current : started.unversioned = ((lastRead statusTrace).getD first).unversioned) :
    ∃ kubeTemplate,
      lastRead (⟨.getTemplate key, .ok first⟩ :: statusTrace) = some kubeTemplate ∧
        started.unversioned = kubeTemplate.unversioned := by
  have append := lastRead_append [⟨.getTemplate key, .ok first⟩] statusTrace
  cases found : lastRead statusTrace with
  | none =>
      rw [found] at append current
      exact ⟨first, append, current⟩
  | some newer =>
      rw [found] at append current
      exact ⟨newer, append, current⟩

theorem processItem_run (operatorNamespace : String) (key : NamespacedName)
    (trace : List (Exchange client)) (result : Option GoError)
    (execution : Executes (processItem platform operatorNamespace key) trace result) :
    ItemRun platform trace result := by
  simp only [processItem, getTemplate, call_bind, done_bind] at execution
  obtain ⟨answer, later, rfl, fetched⟩ := (executes_call_iff _ _ _ _).mp execution
  cases answer with
  | error err =>
      have ended : later = [] := by
        dsimp only at fetched
        split at fetched
        · exact ((executes_done_iff _ _ _).mp fetched).1
        · exact ((executes_done_iff _ _ _).mp fetched).1
      subst ended
      refine .unpolicied rfl ?_
      intro exchange member
      rw [List.mem_singleton.mp member]
      exact .inl trivial
  | ok first =>
      obtain ⟨statusTrace, rest, ⟨started, written⟩, rfl, status, asked⟩ :=
        (executes_bind_iff _ _ _ _).mp fetched
      simp only [policyCacheGet, call_bind, done_bind] at asked
      obtain ⟨answer, later, rfl, applied⟩ := (executes_call_iff _ _ _ _).mp asked
      have readsOnly : ∀ exchange,
          exchange ∈ (⟨.getTemplate key, .ok first⟩ :: statusTrace : List (Exchange client)) →
            exchange.request.onTemplate :=
        onTemplate_cons_update _ trivial status
      obtain ⟨kubeTemplate, isLast, sameTemplate⟩ :=
        @lastRead_started key _ _ _ (updateStatusTurns_template _ 3 _ _ _ status)
      rw [← List.cons_append]
      have ranges := (@loopTemplate_of_reads _ later
        ⟨.policyCacheGet started.metadata.ns operatorNamespace, answer⟩ readsOnly rfl).trans isLast
      have governs := @loopPolicy_of_reads _ later
        ⟨.policyCacheGet started.metadata.ns operatorNamespace, answer⟩ readsOnly rfl
      cases answer with
      | error err =>
          refine .unpolicied governs ?_
          simp only [timeNow, call_bind, done_bind] at applied
          obtain ⟨now, later, rfl, failed⟩ := (executes_call_iff _ _ _ _).mp applied
          obtain ⟨front, back, value, rfl, updates, last⟩ :=
            (executes_bind_iff _ _ _ _).mp failed
          obtain ⟨rfl, _⟩ := (executes_done_iff _ _ _).mp last
          intro exchange member
          rcases List.mem_append.mp member with before | after
          · exact .inl (readsOnly exchange before)
          · rcases List.mem_cons.mp after with same | after
            · rw [same]
              exact .inr rfl
            · rw [List.append_nil] at after
              exact .inl (onTemplate_cons_update ⟨.now, now⟩ trivial updates exchange after)
      | ok policy =>
          obtain ⟨loop, final, ⟨ended, err⟩, rfl, loops, completes⟩ :=
            (executes_bind_iff _ _ _ _).mp applied
          refine .looped policy kubeTemplate ranges governs {
            reads := ⟨.getTemplate key, .ok first⟩ :: statusTrace
            ask := ⟨.policyCacheGet started.metadata.ns operatorNamespace, .ok policy⟩
            loop := loop
            final := final
            parts := rfl
            readsOnly := readsOnly
            asks := rfl
            lastRead := isLast
            started := started
            same := sameTemplate
            ended := ended
            err := err
            loops := loops
            finishes := ?_ }
          cases err with
          | some failure => exact (executes_done_iff _ _ _).mp completes
          | none => exact completes

private theorem processItem_parts (operatorNamespace : String) (key : NamespacedName)
    (trace : List (Exchange client))
    (execution : Executes (processItem platform operatorNamespace key) trace none)
    (policy : KubeTemplatePolicy) (kubeTemplate : KubeTemplate)
    (ranges : loopTemplate trace = some kubeTemplate)
    (governs : loopPolicy trace = some policy) :
    Nonempty (LoopParts platform policy kubeTemplate trace) := by
  cases processItem_run platform operatorNamespace key trace none execution with
  | unpolicied none _quiet =>
      rw [none] at governs
      cases governs
  | looped answered read isRead isAnswered run =>
      rw [isRead] at ranges
      rw [isAnswered] at governs
      cases ranges
      cases governs
      obtain ⟨reads, ask, loop, final, parts, readsOnly, asks, _, started, same, ended, err,
        loops, finishes⟩ := run
      cases err with
      | some failure => cases finishes.2
      | none =>
          exact ⟨⟨reads, ask, loop, final, parts, readsOnly, asks, started, same, ended, loops,
            finishes⟩⟩

section Parts

variable {platform} {policy : KubeTemplatePolicy} {kubeTemplate : KubeTemplate}
  {trace : List (Exchange client)} (parts : LoopParts platform policy kubeTemplate trace)
include parts

/-! The loop ranges over the template that was read last. -/

theorem LoopParts.spec_eq : parts.started.spec = kubeTemplate.spec := by
  change parts.started.unversioned.spec = kubeTemplate.unversioned.spec
  rw [parts.same]

theorem LoopParts.passes_eq : Passes platform policy parts.started.metadata =
    Passes platform policy kubeTemplate.metadata := by
  change Passes platform policy parts.started.unversioned.metadata = _
  rw [parts.same]
  rfl

theorem LoopParts.objectFor_eq : objectFor platform parts.started.metadata =
    objectFor platform kubeTemplate.metadata := by
  change objectFor platform parts.started.unversioned.metadata = _
  rw [parts.same]
  rfl

theorem LoopParts.finalOnly : ∀ exchange, exchange ∈ parts.final →
    exchange.request.onTemplate :=
  (completeTemplate_executes platform parts.ended parts.final parts.completes).1

theorem LoopParts.lastPhase_completed : lastPhase trace = some .completed := by
  obtain ⟨reads, ask, loop, final, rfl, _, _, _, _, ended, _, completes⟩ := parts
  rw [← List.cons_append, ← List.append_assoc, lastPhase_append,
    (completeTemplate_executes platform ended final completes).2]
  rfl

/-! Only the loop patches, and only the loop deletes. -/

theorem LoopParts.successes :
    trace.filterMap successfulPatch = parts.loop.filterMap successfulPatch := by
  have finalOnly := parts.finalOnly
  obtain ⟨reads, ask, loop, final, rfl, readsOnly, asks, _, _, _, _, _⟩ := parts
  have askSuccess : successfulPatch ask = none := by
    obtain ⟨request, answer⟩ := ask
    cases request <;> first | rfl | cases asks
  rw [List.filterMap_append, filterMap_onTemplate reads readsOnly,
    List.filterMap_cons_none askSuccess, List.filterMap_append,
    filterMap_onTemplate final finalOnly, List.append_nil, List.nil_append]

theorem LoopParts.replaces :
    ReplacesSucceed trace ↔ ReplacesSucceed (parts.loop ++ parts.final) := by
  obtain ⟨reads, ask, loop, final, rfl, readsOnly, asks, _, _, _, _, _⟩ := parts
  rw [replacesSucceed_append_onTemplate reads _ readsOnly]
  obtain ⟨request, answer⟩ := ask
  cases request <;> first | exact Iff.rfl | cases asks

theorem LoopParts.final_replaces : ReplacesSucceed parts.final := by
  have nothing := replacesSucceed_append_onTemplate parts.final [] parts.finalOnly
  rw [List.append_nil] at nothing
  exact nothing.mpr trivial

theorem LoopParts.looped (passes : ∀ template, template ∈ kubeTemplate.spec.templates →
      Passes platform policy kubeTemplate.metadata template) :
    (trace.filterMap successfulPatch =
        kubeTemplate.spec.templates.filterMap (objectFor platform kubeTemplate.metadata) ∧
      ReplacesSucceed trace) ∨
    ((trace.filterMap successfulPatch).length <
        (kubeTemplate.spec.templates.filterMap
          (objectFor platform kubeTemplate.metadata)).length ∧
      ¬ ReplacesSucceed trace) := by
  have before := (processTemplates_passes platform policy _ parts.started parts.ended parts.loop
    (by rw [parts.spec_eq, parts.passes_eq]; exact passes) parts.loops parts.final).2
  rw [parts.successes, parts.replaces]
  rw [parts.spec_eq, parts.objectFor_eq] at before
  rcases before with ⟨all, succeed⟩ | ⟨fewer, failed⟩
  · exact .inl ⟨all, succeed.mpr parts.final_replaces⟩
  · exact .inr ⟨fewer, failed⟩

end Parts

/-- Every execution of `processItem` that returns nil after its loop leaves the
phase Completed.  Everything has been applied exactly when every template decodes
and passes the policy checks and every replacement succeeds. -/
theorem completed_allApplied_iff (operatorNamespace : String) (key : NamespacedName)
    (trace : List (Exchange client))
    (execution : Executes (processItem platform operatorNamespace key) trace none)
    (policy : KubeTemplatePolicy) (kubeTemplate : KubeTemplate)
    (ranges : loopTemplate trace = some kubeTemplate)
    (governs : loopPolicy trace = some policy) :
    lastPhase trace = some .completed ∧
      (AllApplied platform policy kubeTemplate trace ↔
        (∀ template, template ∈ kubeTemplate.spec.templates →
          Passes platform policy kubeTemplate.metadata template) ∧ ReplacesSucceed trace) := by
  obtain ⟨parts⟩ := processItem_parts platform operatorNamespace key trace execution policy
    kubeTemplate ranges governs
  refine ⟨parts.lastPhase_completed, ?_⟩
  constructor
  · intro applied
    refine ⟨applied.passes, ?_⟩
    rcases parts.looped applied.passes with ⟨_all, succeed⟩ | ⟨fewer, _failed⟩
    · exact succeed
    · exact absurd applied.patched.length_le (Nat.not_le.mpr fewer)
  · rintro ⟨passes, succeeded⟩
    refine ⟨passes, ?_⟩
    rcases parts.looped passes with ⟨all, _succeed⟩ | ⟨_fewer, failed⟩
    · exact all.symm ▸ List.Sublist.refl _
    · exact absurd succeeded failed

end

theorem completed_allApplied_settings :
    AllApplied Reference.settingsPlatform (Reference.configMapPolicy [])
      (Reference.kubeTemplate [Reference.settingsTemplate])
      (traceWith (Reference.answering (Reference.configMapPolicy []))
        (processItem Reference.settingsPlatform "kubetemplater-system" ⟨"team-a", "web"⟩)
        (Reference.kubeTemplate [Reference.settingsTemplate])) := by
  have execution := executes_runWith (Reference.answering (Reference.configMapPolicy []))
    (processItem Reference.settingsPlatform "kubetemplater-system" ⟨"team-a", "web"⟩)
    (Reference.kubeTemplate [Reference.settingsTemplate])
  refine (completed_allApplied_iff Reference.settingsPlatform _ _ _ execution
    (Reference.configMapPolicy []) _ (by decide) (by decide)).2.mpr ⟨?_, trivial⟩
  intro template member
  cases List.mem_singleton.mp member
  exact ⟨_, _, Reference.settings_decodes, rfl⟩

theorem rejected_template_completes :
    ∃ trace, Executes (processItem Reference.settingsPlatform "kubetemplater-system"
        ⟨"team-a", "web"⟩) trace none ∧
      loopTemplate trace = some (Reference.kubeTemplate [Reference.settingsTemplate]) ∧
      lastPhase trace = some .completed ∧ trace.filterMap issuedPatch = [] := by
  refine ⟨_, executes_runWith
    (Reference.answering { Reference.configMapPolicy [] with validationRules := [] })
    (processItem Reference.settingsPlatform "kubetemplater-system" ⟨"team-a", "web"⟩)
    (Reference.kubeTemplate [Reference.settingsTemplate]), by decide, by decide, ?_⟩
  rfl

end KubeTemplater.Worker
