/-
The field validations of a list are independent of each other and of everything
the validator has seen before.

The only state a validator keeps from one request to the next is its cache of
compiled patterns.  It changes no answer, so a list of validations is accepted
exactly when each of them is accepted alone by a validator that is new.
-/

import KubeTemplater.Webhook.Acceptance

namespace KubeTemplater.Webhook

open Library Library.Program

section

variable (platform : Platform)

def serve (cache : RegexCache platform)
    (request : KubeTemplate × Except GoError KubeTemplatePolicy) : RegexCache platform :=
  match request.2 with
  | .error _ => cache
  | .ok policy => (validateWithPolicy platform policy request.1 cache).2

def cacheAfter (requests : List (KubeTemplate × Except GoError KubeTemplatePolicy)) :
    RegexCache platform :=
  requests.foldl (serve platform) (.empty platform)

/-- Every execution of a request asks for the policy and leaves that cache. -/
theorem validateKubeTemplate_serves (operatorNamespace : String) (kubeTemplate : KubeTemplate)
    (cache after : RegexCache platform) (response : AdmissionResponse)
    (trace : List (Exchange client))
    (execution : Executes (validateKubeTemplate platform operatorNamespace kubeTemplate cache)
      trace (response, after)) :
    ∃ answer,
      trace = [⟨.policyCacheGet kubeTemplate.metadata.ns operatorNamespace, answer⟩] ∧
        after = serve platform cache (kubeTemplate, answer) := by
  simp only [validateKubeTemplate, policyCacheGet, call_bind, done_bind] at execution
  obtain ⟨answer, rest, rfl, ended⟩ := (executes_call_iff _ _ _ _).mp execution
  refine ⟨answer, ?_⟩
  cases answer with
  | _ =>
      obtain ⟨rfl, same⟩ := (executes_done_iff _ _ _).mp ended
      exact ⟨rfl, congrArg Prod.snd same⟩

def Accepts (cache : RegexCache platform) (object : Unstructured) (templateIdx : Nat)
    (validations : List FieldValidation) : Prop :=
  (validateFieldValidations platform object templateIdx 0 validations cache).1 = .ok ()

def AcceptsAlone (object : Unstructured) (templateIdx : Nat) (validation : FieldValidation) :
    Prop :=
  Accepts platform (.empty platform) object templateIdx [validation]

theorem acceptsAlone_iff (object : Unstructured) (templateIdx : Nat)
    (validation : FieldValidation) :
    AcceptsAlone platform object templateIdx validation ↔
      FieldPasses platform (celWithLimits platform) object validation := by
  unfold AcceptsAlone Accepts
  rw [validateFieldValidations_ok_iff, List.forall_mem_singleton]

private theorem accepts_iff_alone (cache : RegexCache platform) (object : Unstructured)
    (templateIdx : Nat) (validations : List FieldValidation) :
    Accepts platform cache object templateIdx validations ↔
      ∀ validation, validation ∈ validations →
        AcceptsAlone platform object templateIdx validation := by
  unfold Accepts
  rw [validateFieldValidations_ok_iff]
  constructor
  · intro passes validation member
    exact (acceptsAlone_iff platform object templateIdx validation).mpr
      (passes validation member)
  · intro alone validation member
    exact (acceptsAlone_iff platform object templateIdx validation).mp (alone validation member)

private theorem required_forbidden_exclusive (object : Unstructured)
    {required forbidden : FieldValidation} (isRequired : required.type = .required)
    (isForbidden : forbidden.type = .forbidden)
    (samePath : required.fieldPath = forbidden.fieldPath)
    (passesRequired : FieldPasses platform (celWithLimits platform) object required)
    (passesForbidden : FieldPasses platform (celWithLimits platform) object forbidden) :
    False := by
  unfold FieldPasses at passesRequired passesForbidden
  rw [isRequired] at passesRequired
  rw [isForbidden] at passesForbidden
  obtain ⟨_named, found, read, present⟩ := passesRequired
  rw [samePath, passesForbidden.2] at read
  cases read
  cases present

structure Independent (cache : RegexCache platform) (object : Unstructured)
    (templateIdx : Nat) : Prop where
  conjunction : ∀ validations, Accepts platform cache object templateIdx validations ↔
    ∀ validation, validation ∈ validations →
      AcceptsAlone platform object templateIdx validation
  /-- Neither the order nor the number of times a validation is listed matters. -/
  sameMembers : ∀ first second : List FieldValidation,
    (∀ validation, validation ∈ first ↔ validation ∈ second) →
      (Accepts platform cache object templateIdx first ↔
        Accepts platform cache object templateIdx second)
  /-- What a list rejects a longer one rejects. -/
  grows : ∀ first second : List FieldValidation, first ⊆ second →
    ¬ Accepts platform cache object templateIdx first →
      ¬ Accepts platform cache object templateIdx second
  exclusive : ∀ (validations : List FieldValidation) (required forbidden : FieldValidation),
    required ∈ validations → forbidden ∈ validations → required.type = .required →
      forbidden.type = .forbidden → required.fieldPath = forbidden.fieldPath →
        ¬ Accepts platform cache object templateIdx validations

private theorem independent (cache : RegexCache platform) (object : Unstructured)
    (templateIdx : Nat) :
    Independent platform cache object templateIdx := by
  have alone := accepts_iff_alone platform cache object templateIdx
  constructor
  · exact alone
  · intro first second same
    rw [alone, alone]
    constructor
    · intro holds validation member
      exact holds validation ((same validation).mpr member)
    · intro holds validation member
      exact holds validation ((same validation).mp member)
  · intro first second within rejected accepted
    apply rejected
    rw [alone] at accepted ⊢
    intro validation member
    exact accepted validation (within member)
  · intro validations required forbidden isMember alsoMember isRequired isForbidden samePath
    rw [alone]
    intro holds
    exact required_forbidden_exclusive platform object isRequired isForbidden samePath
      ((acceptsAlone_iff platform object templateIdx required).mp (holds required isMember))
      ((acceptsAlone_iff platform object templateIdx forbidden).mp (holds forbidden alsoMember))

/-- After every sequence of requests the validations of a list are independent. -/
theorem validations_independent
    (requests : List (KubeTemplate × Except GoError KubeTemplatePolicy))
    (object : Unstructured) (templateIdx : Nat) :
    Independent platform (cacheAfter platform requests) object templateIdx :=
  independent platform (cacheAfter platform requests) object templateIdx

end

end KubeTemplater.Webhook
