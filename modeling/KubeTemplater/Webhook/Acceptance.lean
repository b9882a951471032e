/-
What the webhook accepts: a reading of its checks that speaks of the object and
the policy only, not of positions, messages or the cache of patterns.
-/

import KubeTemplater.Webhook.Validator

namespace KubeTemplater.Webhook

section

variable (platform : Platform) (evaluate : Evaluator)

def FieldPasses (object : Unstructured) (validation : FieldValidation) : Prop :=
  match validation.type with
  | .cel =>
      validation.cel ≠ "" ∧
        if validation.fieldPath = "" ∨ validation.fieldPath = "object" then
          evaluate .object validation.cel (.map object.object) = .ok (.bool true)
        else
          ∃ found,
            platform.nestedFieldCopy object (fieldPathToKeys validation.fieldPath) = .ok found ∧
              evaluate .value validation.cel (found.getD .null) = .ok (.bool true)
  | .regex =>
      validation.regex ≠ "" ∧ validation.fieldPath ≠ "" ∧
        ∃ text matcher,
          platform.nestedString object (fieldPathToKeys validation.fieldPath) =
            .ok (some text) ∧
          platform.regexpCompile validation.regex = .ok matcher ∧ matcher text = true
  | .range =>
      validation.fieldPath ≠ "" ∧ ¬ (validation.min = none ∧ validation.max = none) ∧
        ∃ number,
          platform.nestedInt64 object (fieldPathToKeys validation.fieldPath) =
            .ok (some number) ∧
          (∀ low, validation.min = some low → low ≤ number) ∧
          (∀ high, validation.max = some high → number ≤ high)
  | .required =>
      validation.fieldPath ≠ "" ∧
        ∃ found,
          platform.nestedFieldCopy object (fieldPathToKeys validation.fieldPath) = .ok found ∧
            missingOrEmpty found = false
  | .forbidden =>
      validation.fieldPath ≠ "" ∧
        platform.nestedFieldCopy object (fieldPathToKeys validation.fieldPath) = .ok none
  | .unknown _ => False

def PolicyAllows (policy : KubeTemplatePolicy) (object : Unstructured) : Prop :=
  ∃ rule, firstMatchingRule policy (platform.groupVersionKind object) = some rule ∧
    RuleAdmits platform evaluate rule object ∧
    ∀ validation, validation ∈ rule.fieldValidations →
      FieldPasses platform evaluate object validation

end

theorem RegexCache.matcher_fst {platform : Platform} (cache : RegexCache platform)
    (pattern : String) : (cache.matcher pattern).1 = platform.regexpCompile pattern := by
  unfold RegexCache.matcher
  split
  · rename_i matcher present
    exact (cache.compiled pattern matcher present).symm
  · split
    · rename_i text fails
      exact fails.symm
    · rename_i matcher compiles
      exact compiles.symm

section

variable (platform : Platform)

theorem validateCELRule_ok_iff (rule : String) (object : Unstructured) (templateIdx : Nat)
    (validationName : String) (variableName : CelVariable) (value : Value) :
    validateCELRule platform rule object templateIdx validationName variableName value =
        .ok () ↔
      celWithLimits platform variableName rule value = .ok (.bool true) := by
  unfold validateCELRule
  dsimp only
  split
  · rename_i failure evaluated
    rw [evaluated]
    simp
  · rename_i evaluated
    rw [evaluated]
    simp
  · rename_i out different evaluated
    rw [evaluated]
    constructor
    · intro impossible
      cases impossible
    · intro same
      cases same
      exact absurd rfl different

/-- The policy's message replaces the text of an error and never an acceptance. -/
theorem overrideError_ok_iff (templateIdx : Nat) (validation : FieldValidation)
    (result : Except String Unit) :
    overrideError templateIdx validation result = .ok () ↔ result = .ok () := by
  unfold overrideError
  split
  · exact Iff.rfl
  · split <;> simp

private theorem validateFieldCEL_ok_iff (validation : FieldValidation) (object : Unstructured)
    (templateIdx : Nat) (isCel : validation.type = .cel) :
    validateFieldCEL platform validation object templateIdx = .ok () ↔
      FieldPasses platform (celWithLimits platform) object validation := by
  unfold validateFieldCEL FieldPasses
  rw [isCel]
  dsimp only
  by_cases absent : validation.cel = ""
  · rw [if_pos absent]
    simp [absent]
  · rw [if_neg absent]
    by_cases whole : validation.fieldPath = "" ∨ validation.fieldPath = "object"
    · rw [if_pos whole, if_pos whole, overrideError_ok_iff, validateCELRule_ok_iff]
      simp [absent]
    · rw [if_neg whole, if_neg whole]
      cases read : platform.nestedFieldCopy object (fieldPathToKeys validation.fieldPath) with
      | error text => simp
      | ok found =>
          dsimp only
          rw [overrideError_ok_iff, validateCELRule_ok_iff]
          simp [absent]

private theorem validateFieldRegex_ok_iff (cache : RegexCache platform)
    (validation : FieldValidation)
    (object : Unstructured) (templateIdx : Nat) (isRegex : validation.type = .regex) :
    (validateFieldRegex platform cache validation object templateIdx).1 = .ok () ↔
      FieldPasses platform (celWithLimits platform) object validation := by
  unfold validateFieldRegex FieldPasses
  rw [isRegex]
  dsimp only
  by_cases absent : validation.regex = ""
  · simp [absent]
  · by_cases pathless : validation.fieldPath = ""
    · simp [absent, pathless]
    · rw [if_neg absent, if_neg pathless]
      cases read : platform.nestedString object (fieldPathToKeys validation.fieldPath) with
      | error text => simp
      | ok found =>
          cases found with
          | none => simp
          | some text =>
              have compiled := cache.matcher_fst validation.regex
              revert compiled
              generalize cache.matcher validation.regex = answer
              obtain ⟨result, after⟩ := answer
              intro compiled
              dsimp only at compiled
              rw [← compiled]
              cases result with
              | error failure => simp
              | ok matcher =>
                  cases matched : matcher text with
                  | false => simp [matched]
                  | true => simp [matched, absent, pathless]

private theorem validateFieldRange_ok_iff (validation : FieldValidation) (object : Unstructured)
    (templateIdx : Nat) (isRange : validation.type = .range) :
    validateFieldRange platform validation object templateIdx = .ok () ↔
      FieldPasses platform (celWithLimits platform) object validation := by
  unfold validateFieldRange FieldPasses
  rw [isRange]
  dsimp only
  by_cases pathless : validation.fieldPath = ""
  · simp [pathless]
  · rw [if_neg pathless]
    by_cases unbounded : validation.min = none ∧ validation.max = none
    · simp [unbounded]
    · rw [if_neg unbounded]
      cases read : platform.nestedInt64 object (fieldPathToKeys validation.fieldPath) with
      | error text => simp
      | ok found =>
          cases found with
          | none => simp
          | some number =>
              have below : validation.min.any (fun low => decide (number < low)) = false ↔
                  ∀ low, validation.min = some low → low ≤ number := by
                cases validation.min with
                | none => simp
                | some low => simp
              have above : validation.max.any (fun high => decide (high < number)) = false ↔
                  ∀ high, validation.max = some high → number ≤ high := by
                cases validation.max with
                | none => simp
                | some high => simp
              have inside : (∃ value, (Except.ok (some number) : Except String (Option Int)) =
                    .ok (some value) ∧
                  (∀ low, validation.min = some low → low ≤ value) ∧
                  (∀ high, validation.max = some high → value ≤ high)) ↔
                  (∀ low, validation.min = some low → low ≤ number) ∧
                  (∀ high, validation.max = some high → number ≤ high) := by
                constructor
                · rintro ⟨value, same, bounds⟩
                  cases same
                  exact bounds
                · intro bounds
                  exact ⟨number, rfl, bounds⟩
              rw [inside, ← below, ← above]
              dsimp only
              cases validation.min.any (fun low => decide (number < low)) with
              | true => simp
              | false =>
                  cases validation.max.any (fun high => decide (high < number)) with
                  | true => simp
                  | false => simp [pathless, unbounded]

private theorem validateFieldRequired_ok_iff (validation : FieldValidation) (object : Unstructured)
    (templateIdx : Nat) (isRequired : validation.type = .required) :
    validateFieldRequired platform validation object templateIdx = .ok () ↔
      FieldPasses platform (celWithLimits platform) object validation := by
  unfold validateFieldRequired FieldPasses
  rw [isRequired]
  dsimp only
  by_cases pathless : validation.fieldPath = ""
  · simp [pathless]
  · rw [if_neg pathless]
    cases read : platform.nestedFieldCopy object (fieldPathToKeys validation.fieldPath) with
    | error text => simp
    | ok found =>
        cases missing : missingOrEmpty found with
        | true => simp [missing]
        | false => simp [missing, pathless]

private theorem validateFieldForbidden_ok_iff (validation : FieldValidation) (object : Unstructured)
    (templateIdx : Nat) (isForbidden : validation.type = .forbidden) :
    validateFieldForbidden platform validation object templateIdx = .ok () ↔
      FieldPasses platform (celWithLimits platform) object validation := by
  unfold validateFieldForbidden FieldPasses
  rw [isForbidden]
  dsimp only
  by_cases pathless : validation.fieldPath = ""
  · simp [pathless]
  · rw [if_neg pathless]
    cases read : platform.nestedFieldCopy object (fieldPathToKeys validation.fieldPath) with
    | error text => simp
    | ok found =>
        cases found with
        | none => simp [pathless]
        | some value => simp

private theorem validateField_ok_iff (cache : RegexCache platform) (validationIdx : Nat)
    (validation : FieldValidation) (object : Unstructured) (templateIdx : Nat) :
    (validateField platform cache validationIdx validation object templateIdx).1 = .ok () ↔
      FieldPasses platform (celWithLimits platform) object validation := by
  unfold validateField
  cases kind : validation.type with
  | cel => exact validateFieldCEL_ok_iff platform validation object templateIdx kind
  | regex => exact validateFieldRegex_ok_iff platform cache validation object templateIdx kind
  | range => exact validateFieldRange_ok_iff platform validation object templateIdx kind
  | required => exact validateFieldRequired_ok_iff platform validation object templateIdx kind
  | forbidden => exact validateFieldForbidden_ok_iff platform validation object templateIdx kind
  | unknown text => simp [FieldPasses, kind]

/-- The loop accepts exactly when every validation in it passes, whatever the
cache held before. -/
theorem validateFieldValidations_ok_iff (object : Unstructured) (templateIdx : Nat)
    (validations : List FieldValidation) (validationIdx : Nat) (cache : RegexCache platform) :
    (validateFieldValidations platform object templateIdx validationIdx validations cache).1 =
        .ok () ↔
      ∀ validation, validation ∈ validations →
        FieldPasses platform (celWithLimits platform) object validation := by
  induction validations generalizing validationIdx cache with
  | nil => simp [validateFieldValidations]
  | cons validation rest ih =>
      have first := validateField_ok_iff platform cache validationIdx validation object
        templateIdx
      simp only [validateFieldValidations, List.forall_mem_cons]
      rw [← first]
      generalize validateField platform cache validationIdx validation object templateIdx =
        answer
      obtain ⟨result, after⟩ := answer
      cases result with
      | error text => simp
      | ok accepted =>
          cases accepted
          simp [ih]

private theorem validateObject_ok_iff (policy : KubeTemplatePolicy) (idx : Nat)
    (object : Unstructured) (cache : RegexCache platform) :
    (validateObject platform policy idx object cache).1 = .ok () ↔
      PolicyAllows platform (celWithLimits platform) policy object := by
  unfold validateObject PolicyAllows
  dsimp only
  cases found : firstMatchingRule policy (platform.groupVersionKind object) with
  | none => simp
  | some rule =>
      have only : (∃ other, some rule = some other ∧
            RuleAdmits platform (celWithLimits platform) other object ∧
            ∀ validation, validation ∈ other.fieldValidations →
              FieldPasses platform (celWithLimits platform) object validation) ↔
          RuleAdmits platform (celWithLimits platform) rule object ∧
            ∀ validation, validation ∈ rule.fieldValidations →
              FieldPasses platform (celWithLimits platform) object validation := by
        simp only [Option.some.injEq, exists_eq_left']
      rw [only]
      dsimp only
      by_cases listed : platform.getNamespace object ∈ rule.targetNamespaces
      · have some : rule.targetNamespaces.isEmpty = false :=
          List.isEmpty_eq_false_iff_exists_mem.mpr ⟨_, listed⟩
        have inside := (contains_iff rule.targetNamespaces (platform.getNamespace object)).mpr
          listed
        rw [some, inside]
        simp only [Bool.false_eq_true, if_false, Bool.not_true]
        by_cases unruled : rule.rule = ""
        · rw [if_pos unruled]
          dsimp only
          rw [validateFieldValidations_ok_iff]
          exact ⟨fun fields => ⟨⟨listed, .inl unruled⟩, fields⟩, fun both => both.2⟩
        · rw [if_neg unruled]
          have rules := validateCELRule_ok_iff platform rule.rule object idx "" .object
            (.map object.object)
          cases accepted : validateCELRule platform rule.rule object idx "" .object
              (.map object.object) with
          | error text =>
              rw [accepted] at rules
              constructor
              · intro impossible
                cases impossible
              · rintro ⟨admits, _fields⟩
                rcases admits.celRule with none | holds
                · exact absurd none unruled
                · cases rules.mpr holds
          | ok holds =>
              cases holds
              dsimp only
              rw [validateFieldValidations_ok_iff]
              exact ⟨fun fields => ⟨⟨listed, .inr (rules.mp accepted)⟩, fields⟩,
                fun both => both.2⟩
      · have outside : contains rule.targetNamespaces (platform.getNamespace object) = false :=
          Bool.eq_false_iff.mpr (fun inside => listed ((contains_iff _ _).mp inside))
        rw [outside]
        constructor
        · intro impossible
          split at impossible <;> cases impossible
        · rintro ⟨admits, _fields⟩
          exact absurd admits.target listed

def TemplateAccepted (policy : KubeTemplatePolicy) (ns : String) (template : Template) : Prop :=
  template.object.raw.utf8ByteSize ≤ maxTemplateSizeBytes ∧
    ∃ decoded, platform.unmarshal template.object.raw = .ok decoded ∧
      PolicyAllows platform (celWithLimits platform) policy (defaultNamespace platform ns decoded)

theorem validateTemplate_ok_iff (policy : KubeTemplatePolicy) (ns : String) (idx : Nat)
    (template : Template) (cache : RegexCache platform) :
    (∃ added, (validateTemplate platform policy ns idx template cache).1 = .ok added) ↔
      TemplateAccepted platform policy ns template := by
  unfold validateTemplate TemplateAccepted
  by_cases large : maxTemplateSizeBytes < template.object.raw.utf8ByteSize
  · rw [if_pos large]
    simp [Nat.not_le.mpr large]
  · rw [if_neg large]
    have fits := Nat.le_of_not_lt large
    cases read : platform.unmarshal template.object.raw with
    | error text => simp
    | ok decoded =>
        have allowed := validateObject_ok_iff platform policy idx
          (defaultNamespace platform ns decoded) cache
        have only : (∃ other, (Except.ok decoded : Except String Unstructured) = .ok other ∧
              PolicyAllows platform (celWithLimits platform) policy
                (defaultNamespace platform ns other)) ↔
            PolicyAllows platform (celWithLimits platform) policy
              (defaultNamespace platform ns decoded) := by
          constructor
          · rintro ⟨other, same, holds⟩
            cases same
            exact holds
          · intro holds
            exact ⟨decoded, rfl, holds⟩
        rw [only, ← allowed]
        dsimp only
        generalize validateObject platform policy idx
          (defaultNamespace platform ns decoded) cache = answer
        obtain ⟨result, after⟩ := answer
        cases result with
        | error text => simp
        | ok accepted =>
            cases accepted
            cases template.replace with
            | true => simp [fits]
            | false => simp [fits]

private theorem validateTemplates_ok_iff (policy : KubeTemplatePolicy) (ns : String) (idx : Nat)
    (templates : List Template) (warnings : List String) (cache : RegexCache platform) :
    (validateTemplates platform policy ns idx templates warnings cache).1.err = none ↔
      ∀ template, template ∈ templates → TemplateAccepted platform policy ns template := by
  induction templates generalizing idx warnings cache with
  | nil => simp [validateTemplates]
  | cons template rest ih =>
      have first := validateTemplate_ok_iff platform policy ns idx template cache
      rw [List.forall_mem_cons, ← first]
      unfold validateTemplates
      generalize validateTemplate platform policy ns idx template cache = answer
      obtain ⟨result, after⟩ := answer
      cases result with
      | error text => simp
      | ok added => simp [ih]

theorem validateWithPolicy_ok_iff (policy : KubeTemplatePolicy) (kubeTemplate : KubeTemplate)
    (cache : RegexCache platform) :
    (validateWithPolicy platform policy kubeTemplate cache).1.err = none ↔
      kubeTemplate.spec.templates.length ≤ maxTemplatesPerKubeTemplate ∧
        ∀ template, template ∈ kubeTemplate.spec.templates →
          TemplateAccepted platform policy kubeTemplate.metadata.ns template := by
  unfold validateWithPolicy
  by_cases many : maxTemplatesPerKubeTemplate < kubeTemplate.spec.templates.length
  · rw [if_pos many]
    simp [Nat.not_le.mpr many]
  · rw [if_neg many, validateTemplates_ok_iff]
    exact ⟨fun accepted => ⟨Nat.le_of_not_lt many, accepted⟩, fun both => both.2⟩

theorem validateWithPolicy_single_iff (policy : KubeTemplatePolicy)
    (kubeTemplate : KubeTemplate) (template : Template)
    (single : kubeTemplate.spec.templates = [template]) (cache : RegexCache platform) :
    (validateWithPolicy platform policy kubeTemplate cache).1.err = none ↔
      TemplateAccepted platform policy kubeTemplate.metadata.ns template := by
  rw [validateWithPolicy_ok_iff, single, List.forall_mem_singleton]
  have few : [template].length ≤ maxTemplatesPerKubeTemplate := by
    simp [maxTemplatesPerKubeTemplate]
  exact ⟨fun both => both.2, fun accepted => ⟨few, accepted⟩⟩

end

end KubeTemplater.Webhook
