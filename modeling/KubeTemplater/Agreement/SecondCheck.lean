/-
The worker's checks against those of the webhook.

The worker looks for the rule, the target namespace and the CEL rule.  It knows
neither the field validations of the rule nor the limits the webhook sets on the
size of a template and on an evaluation, so what it lets through is accepted by
the webhook exactly when those hold as well.
-/

import KubeTemplater.Worker.Executions
import KubeTemplater.Webhook.Acceptance
import KubeTemplater.Reference

namespace KubeTemplater.Agreement

open Library Library.Program Worker Webhook

section

variable (platform : Platform)

def ReachesPatch (policy : KubeTemplatePolicy) (kubeTemplate : KubeTemplate)
    (template : Template) : Prop :=
  ∃ trace result exchange, Executes (processTemplate platform policy kubeTemplate template)
    trace result ∧ exchange ∈ trace ∧ (issuedPatch exchange).isSome = true

def Accepts (operatorNamespace : String) (policy : KubeTemplatePolicy)
    (kubeTemplate : KubeTemplate) (cache : RegexCache platform) : Prop :=
  ∃ response after,
    Executes (validateKubeTemplate platform operatorNamespace kubeTemplate cache)
      [⟨.policyCacheGet kubeTemplate.metadata.ns operatorNamespace, .ok policy⟩]
      (response, after) ∧ response.err = none

private theorem reachesPatch_iff (policy : KubeTemplatePolicy) (kubeTemplate : KubeTemplate)
    (template : Template) :
    ReachesPatch platform policy kubeTemplate template ↔
      ∃ decoded rule, Checked platform policy kubeTemplate.metadata.ns template decoded rule := by
  constructor
  · rintro ⟨trace, result, exchange, execution, member, patched⟩
    -- a turn that does not reach the apply only touches the KubeTemplate
    have untouched (makes : Makes Call.onTemplate
        (processTemplate platform policy kubeTemplate template)) : False := by
      rw [issuedPatch_onTemplate exchange (makes.executes execution exchange member)] at patched
      cases patched
    cases read : platform.unmarshal template.object.raw with
    | error text =>
        refine (untouched ?_).elim
        simp only [processTemplate, read]
        exact makes_done _ _
    | ok decoded =>
        cases checked : checkPolicy platform policy
            (defaultNamespace platform kubeTemplate.metadata.ns decoded) with
        | ok rule => exact ⟨decoded, rule, read, checked⟩
        | error text =>
            refine (untouched ?_).elim
            simp only [processTemplate, read, checked, timeNow, call_bind, done_bind]
            refine makes_call trivial (fun now => makes_bind ?_ (fun _ => makes_done _ _))
            exact updateStatusTurns_makes _ 3 _
  · rintro ⟨decoded, rule, read, checked⟩
    let object := appliedObject platform kubeTemplate.metadata template
      (defaultNamespace platform kubeTemplate.metadata.ns decoded)
    refine ⟨[⟨.patch object false false, .ok object⟩], (kubeTemplate, none), _, ?_,
      List.mem_singleton.mpr rfl, rfl⟩
    simp only [processTemplate, read, checked]
    exact .call _ _ _ _ _ (.done _)

theorem accepts_iff (operatorNamespace : String) (policy : KubeTemplatePolicy)
    (kubeTemplate : KubeTemplate) (cache : RegexCache platform) :
    Accepts platform operatorNamespace policy kubeTemplate cache ↔
      (validateWithPolicy platform policy kubeTemplate cache).1.err = none := by
  constructor
  · rintro ⟨response, after, execution, accepted⟩
    obtain ⟨answer, later, same, validated⟩ := (executes_call_iff _ _ _ _).mp execution
    cases same
    obtain ⟨_, result⟩ := (executes_done_iff _ _ _).mp validated
    rw [← result]
    exact accepted
  · intro accepted
    exact ⟨_, _, .call _ _ _ _ _ (.done _), accepted⟩

theorem celWithLimits_ok_iff (variableName : CelVariable) (rule : String) (value out : Value) :
    celWithLimits platform variableName rule value = .ok out ↔
      platform.cel variableName rule value = .ok out ∧
        platform.celLimit variableName rule value = none := by
  unfold celWithLimits
  split
  · rename_i text evaluated
    simp [evaluated]
  · rename_i failure _notEvaluation evaluated
    simp [evaluated]
  · rename_i value evaluated
    rw [evaluated]
    cases platform.celLimit variableName rule _ with
    | some text => simp
    | none => simp

/-- What the webhook asks of an object beyond the worker's checks. -/
structure WithinWebhook (template : Template) (rule : ValidationRule) (object : Unstructured) :
    Prop where
  size : template.object.raw.utf8ByteSize ≤ maxTemplateSizeBytes
  limits : rule.rule ≠ "" → platform.celLimit .object rule.rule (.map object.object) = none
  fields : ∀ validation, validation ∈ rule.fieldValidations →
    FieldPasses platform (celWithLimits platform) object validation

private theorem policyAllows_iff_of_checked (policy : KubeTemplatePolicy) (ns : String)
    (template : Template) (decoded : Unstructured) (rule : ValidationRule)
    (checked : Checked platform policy ns template decoded rule)
    (size : template.object.raw.utf8ByteSize ≤ maxTemplateSizeBytes) :
    PolicyAllows platform (celWithLimits platform) policy
        (defaultNamespace platform ns decoded) ↔
      WithinWebhook platform template rule (defaultNamespace platform ns decoded) := by
  obtain ⟨found, admits⟩ := (checkPolicy_ok_iff platform policy _ rule).mp checked.passes
  constructor
  · rintro ⟨first, matched, limited, fields⟩
    have same : first = rule := by
      rw [found] at matched
      cases matched
      rfl
    subst first
    refine ⟨size, ?_, fields⟩
    intro ruled
    rcases limited.celRule with unruled | holds
    · exact absurd unruled ruled
    · exact ((celWithLimits_ok_iff platform _ _ _ _).mp holds).2
  · intro within
    refine ⟨rule, found, ⟨admits.target, ?_⟩, within.fields⟩
    by_cases ruled : rule.rule = ""
    · exact .inl ruled
    · rcases admits.celRule with unruled | holds
      · exact .inl unruled
      · exact .inr ((celWithLimits_ok_iff platform _ _ _ _).mpr ⟨holds, within.limits ruled⟩)

/-- The webhook accepts what the worker lets through exactly when every template
the worker's checks accept is also within the webhook's. -/
theorem accepts_of_reachesPatch_iff (operatorNamespace : String) (policy : KubeTemplatePolicy)
    (kubeTemplate : KubeTemplate) (template : Template) (cache : RegexCache platform) :
    (ReachesPatch platform policy kubeTemplate template →
        Accepts platform operatorNamespace policy
          { kubeTemplate with spec := { templates := [template] } } cache) ↔
      ∀ decoded rule, Checked platform policy kubeTemplate.metadata.ns template decoded rule →
        WithinWebhook platform template rule
          (defaultNamespace platform kubeTemplate.metadata.ns decoded) := by
  rw [reachesPatch_iff, accepts_iff, validateWithPolicy_single_iff platform policy _ template rfl]
  constructor
  · intro accepted decoded rule checked
    obtain ⟨size, other, read, allows⟩ := accepted ⟨decoded, rule, checked⟩
    have same : other = decoded := by
      rw [checked.decodes] at read
      cases read
      rfl
    subst other
    exact (policyAllows_iff_of_checked platform policy _ template decoded rule checked size).mp
      allows
  · rintro within ⟨decoded, rule, checked⟩
    have inside := within decoded rule checked
    exact ⟨inside.size, decoded, checked.decodes,
      (policyAllows_iff_of_checked platform policy _ template decoded rule checked
        inside.size).mpr inside⟩

end

def ownerRequired : FieldValidation :=
  { name := "owner", fieldPath := "data.owner", type := .required, cel := "", regex := ""
    min := none, max := none, message := "" }

/-- A ConfigMap without the required field reaches the worker's Patch and is
rejected by the webhook. -/
theorem missing_owner_reaches_patch :
    ReachesPatch Reference.settingsPlatform (Reference.configMapPolicy [ownerRequired])
        (Reference.kubeTemplate [Reference.settingsTemplate]) Reference.settingsTemplate ∧
      ¬ Accepts Reference.settingsPlatform "kubetemplater-system"
        (Reference.configMapPolicy [ownerRequired])
        (Reference.kubeTemplate [Reference.settingsTemplate]) (RegexCache.empty _) := by
  constructor
  · rw [reachesPatch_iff]
    exact ⟨_, Reference.configMapRule [ownerRequired], Reference.settings_decodes, rfl⟩
  · rw [accepts_iff]
    decide

end KubeTemplater.Agreement
