/-
The whole answer of an admission request: whether the KubeTemplate is accepted,
which template an error is about, and the warnings that come with either.
-/

import Mathlib.Data.List.Forall2
import KubeTemplater.Webhook.Acceptance
import KubeTemplater.Reference

namespace KubeTemplater.Webhook

open Library Library.Program

def NamesTemplate (idx : Nat) (text : String) : Prop :=
  ∃ rest, text = templatePrefix idx ++ rest

theorem namesTemplate_append (idx : Nat) (rest : String) :
    NamesTemplate idx (templatePrefix idx ++ rest) :=
  ⟨rest, rfl⟩

theorem NamesTemplate.append {idx : Nat} {text : String} (names : NamesTemplate idx text)
    (more : String) : NamesTemplate idx (text ++ more) := by
  obtain ⟨rest, rfl⟩ := names
  exact ⟨rest ++ more, String.append_assoc⟩

def ErrorsName {α : Type} (idx : Nat) (result : Except String α) : Prop :=
  ∀ text, result = .error text → NamesTemplate idx text

theorem errorsName_ok {α : Type} (idx : Nat) (value : α) :
    ErrorsName idx (.ok value : Except String α) := by
  intro text impossible
  cases impossible

theorem errorsName_error {α : Type} {idx : Nat} {text : String}
    (names : NamesTemplate idx text) : ErrorsName idx (.error text : Except String α) := by
  intro other same
  cases same
  exact names

private theorem fieldError_names (templateIdx : Nat) (validation : FieldValidation)
    (text : String) :
    NamesTemplate templateIdx (fieldError templateIdx validation text) := by
  unfold fieldError
  exact (((namesTemplate_append templateIdx _).append _).append _).append _

theorem errorsName_fieldError (templateIdx : Nat) (validation : FieldValidation)
    (text : String) :
    ErrorsName templateIdx
      (.error (fieldError templateIdx validation text) : Except String Unit) :=
  errorsName_error (fieldError_names templateIdx validation text)

private theorem overrideError_names {templateIdx : Nat} {result : Except String Unit}
    (names : ErrorsName templateIdx result) (validation : FieldValidation) :
    ErrorsName templateIdx (overrideError templateIdx validation result) := by
  cases result with
  | ok accepted => exact errorsName_ok templateIdx accepted
  | error text =>
      unfold overrideError
      dsimp only
      split
      · exact errorsName_fieldError templateIdx validation validation.message
      · exact names

section

variable (platform : Platform)

private theorem validateCELRule_names (rule : String) (object : Unstructured) (templateIdx : Nat)
    (validationName : String) (variableName : CelVariable) (value : Value) :
    ErrorsName templateIdx
      (validateCELRule platform rule object templateIdx validationName variableName value) := by
  have start : NamesTemplate templateIdx
      (if validationName ≠ "" then
        templatePrefix templateIdx ++ ": fieldValidation (" ++ validationName ++ ")"
      else templatePrefix templateIdx) := by
    split
    · exact ((namesTemplate_append templateIdx _).append _).append _
    · exact ⟨"", String.append_empty.symm⟩
  unfold validateCELRule
  dsimp only
  split
  · exact errorsName_error ((start.append _).append _)
  · exact errorsName_ok templateIdx ()
  · exact errorsName_error ((((((start.append _).append _).append _).append _).append _).append _)

private theorem validateFieldCEL_names (validation : FieldValidation) (object : Unstructured)
    (templateIdx : Nat) :
    ErrorsName templateIdx (validateFieldCEL platform validation object templateIdx) := by
  have checked (variableName : CelVariable) (value : Value) :
      ErrorsName templateIdx
        (overrideError templateIdx validation
          (validateCELRule platform validation.cel object templateIdx validation.name
            variableName value)) :=
    overrideError_names (validateCELRule_names platform _ _ _ _ _ _) validation
  unfold validateFieldCEL
  dsimp only
  split
  · exact errorsName_fieldError _ _ _
  · split
    · exact checked .object (.map object.object)
    · split
      · exact errorsName_fieldError _ _ _
      · exact checked .value _

private theorem validateFieldRegex_names (cache : RegexCache platform)
    (validation : FieldValidation)
    (object : Unstructured) (templateIdx : Nat) :
    ErrorsName templateIdx
      (validateFieldRegex platform cache validation object templateIdx).1 := by
  unfold validateFieldRegex
  split
  · exact errorsName_fieldError _ _ _
  · split
    · exact errorsName_fieldError _ _ _
    · split
      · exact errorsName_fieldError _ _ _
      · exact errorsName_fieldError _ _ _
      · split
        · exact errorsName_fieldError _ _ _
        · split
          · exact errorsName_ok _ _
          · exact errorsName_fieldError _ _ _

private theorem validateFieldRange_names (validation : FieldValidation) (object : Unstructured)
    (templateIdx : Nat) :
    ErrorsName templateIdx (validateFieldRange platform validation object templateIdx) := by
  unfold validateFieldRange
  split
  · exact errorsName_fieldError _ _ _
  · split
    · exact errorsName_fieldError _ _ _
    · split
      · exact errorsName_fieldError _ _ _
      · exact errorsName_fieldError _ _ _
      · split
        · exact errorsName_fieldError _ _ _
        · split
          · exact errorsName_fieldError _ _ _
          · exact errorsName_ok _ _

private theorem validateFieldRequired_names (validation : FieldValidation) (object : Unstructured)
    (templateIdx : Nat) :
    ErrorsName templateIdx (validateFieldRequired platform validation object templateIdx) := by
  unfold validateFieldRequired
  split
  · exact errorsName_fieldError _ _ _
  · split
    · exact errorsName_fieldError _ _ _
    · split
      · exact errorsName_fieldError _ _ _
      · exact errorsName_ok _ _

private theorem validateFieldForbidden_names (validation : FieldValidation) (object : Unstructured)
    (templateIdx : Nat) :
    ErrorsName templateIdx (validateFieldForbidden platform validation object templateIdx) := by
  unfold validateFieldForbidden
  split
  · exact errorsName_fieldError _ _ _
  · split
    · exact errorsName_fieldError _ _ _
    · split
      · exact errorsName_fieldError _ _ _
      · exact errorsName_ok _ _

private theorem validateField_names (cache : RegexCache platform) (validationIdx : Nat)
    (validation : FieldValidation) (object : Unstructured) (templateIdx : Nat) :
    ErrorsName templateIdx
      (validateField platform cache validationIdx validation object templateIdx).1 := by
  unfold validateField
  split
  · exact validateFieldCEL_names platform validation object templateIdx
  · exact validateFieldRegex_names platform cache validation object templateIdx
  · exact validateFieldRange_names platform validation object templateIdx
  · exact validateFieldRequired_names platform validation object templateIdx
  · exact validateFieldForbidden_names platform validation object templateIdx
  · exact errorsName_error ((((((namesTemplate_append _ _).append _).append _).append _).append
      _).append _)

private theorem validateFieldValidations_names (object : Unstructured) (templateIdx : Nat)
    (validations : List FieldValidation) (validationIdx : Nat) (cache : RegexCache platform) :
    ErrorsName templateIdx
      (validateFieldValidations platform object templateIdx validationIdx validations
        cache).1 := by
  induction validations generalizing validationIdx cache with
  | nil => exact errorsName_ok templateIdx ()
  | cons validation rest ih =>
      have first := validateField_names platform cache validationIdx validation object
        templateIdx
      unfold validateFieldValidations
      generalize validateField platform cache validationIdx validation object templateIdx =
        answer at first
      obtain ⟨result, after⟩ := answer
      cases result with
      | error text => exact first
      | ok accepted => exact ih (validationIdx + 1) after

private theorem validateObject_names (policy : KubeTemplatePolicy) (idx : Nat)
    (object : Unstructured)
    (cache : RegexCache platform) :
    ErrorsName idx (validateObject platform policy idx object cache).1 := by
  unfold validateObject
  dsimp only
  split
  · exact errorsName_error ((((namesTemplate_append _ _).append _).append _).append _)
  · rename_i rule _found
    split
    · exact errorsName_error (((((namesTemplate_append _ _).append _).append _).append _).append _)
    · split
      · exact errorsName_error (((((((namesTemplate_append _ _).append _).append _).append
          _).append _).append _))
      · split
        · rename_i text failed
          refine errorsName_error ?_
          split at failed
          · cases failed
          · exact validateCELRule_names platform _ _ _ _ _ _ text failed
        · exact validateFieldValidations_names platform object idx _ 0 cache

def replaceWarning (idx : Nat) (object : Unstructured) : String :=
  templatePrefix idx ++ ": replace is enabled for " ++
    platform.gvkString (platform.groupVersionKind object) ++ "/" ++ platform.getName object ++
    ". The resource will be deleted and recreated if immutable fields are changed"

def WarnsOf (ns : String) (warning : String) (entry : Template × Nat) : Prop :=
  ∃ decoded, platform.unmarshal entry.1.object.raw = .ok decoded ∧
    warning = replaceWarning platform entry.2 (defaultNamespace platform ns decoded)

/-- The warnings are those of the templates with `replace`, one for each and in order;
the first template has the given index. -/
def ReplaceWarnings (ns : String) (idx : Nat) (templates : List Template)
    (warnings : List String) : Prop :=
  List.Forall₂ (WarnsOf platform ns) warnings
    ((templates.zipIdx idx).filter (fun entry => entry.1.replace))

private theorem validateTemplate_cases (policy : KubeTemplatePolicy) (ns : String) (idx : Nat)
    (template : Template) (cache : RegexCache platform) :
    (∃ text after, validateTemplate platform policy ns idx template cache =
        (.error text, after) ∧ NamesTemplate idx text ∧
        ¬ TemplateAccepted platform policy ns template) ∨
      ∃ added after, validateTemplate platform policy ns idx template cache =
          (.ok added, after) ∧ ReplaceWarnings platform ns idx [template] added ∧
        TemplateAccepted platform policy ns template := by
  have accepted := validateTemplate_ok_iff platform policy ns idx template cache
  rw [← accepted]
  unfold validateTemplate
  split
  · refine .inl ⟨_, _, rfl, ?_, ?_⟩
    · exact (((namesTemplate_append _ _).append _).append _).append _ |>.append _
    · rintro ⟨added, impossible⟩
      cases impossible
  · split
    · refine .inl ⟨_, _, rfl, (namesTemplate_append _ _).append _, ?_⟩
      rintro ⟨added, impossible⟩
      cases impossible
    · rename_i decoded decodes
      have names := validateObject_names platform policy idx
        (defaultNamespace platform ns decoded) cache
      dsimp only
      generalize validateObject platform policy idx
        (defaultNamespace platform ns decoded) cache = answer at names
      obtain ⟨result, after⟩ := answer
      cases result with
      | error text =>
          refine .inl ⟨text, after, rfl, names text rfl, ?_⟩
          rintro ⟨added, impossible⟩
          cases impossible
      | ok allowed =>
          cases replaced : template.replace with
          | true =>
              refine .inr ⟨_, after, rfl, ?_, _, rfl⟩
              simp only [ReplaceWarnings, List.zipIdx_cons, List.zipIdx_nil, List.filter_cons,
                replaced, if_true, List.filter_nil]
              exact .cons ⟨decoded, decodes, rfl⟩ .nil
          | false =>
              refine .inr ⟨_, after, rfl, ?_, _, rfl⟩
              simp only [ReplaceWarnings, List.zipIdx_cons, List.zipIdx_nil, List.filter_cons,
                replaced, Bool.false_eq_true, if_false, List.filter_nil]
              exact .nil

theorem ReplaceWarnings.append {platform : Platform} {ns : String} {idx : Nat}
    {front back : List Template} {first second : List String}
    (here : ReplaceWarnings platform ns idx front first)
    (later : ReplaceWarnings platform ns (idx + front.length) back second) :
    ReplaceWarnings platform ns idx (front ++ back) (first ++ second) := by
  unfold ReplaceWarnings at here later ⊢
  rw [List.zipIdx_append, List.filter_append]
  exact List.rel_append here later

inductive LoopEnd (policy : KubeTemplatePolicy) (ns : String) (idx : Nat)
    (templates : List Template) : List String → Option String → Prop where
  | accepted (warnings : List String)
      (all : ∀ template, template ∈ templates → TemplateAccepted platform policy ns template)
      (warned : ReplaceWarnings platform ns idx templates warnings) :
      LoopEnd policy ns idx templates warnings none
  | rejected (front back : List Template) (template : Template) (warnings : List String)
      (text : String) (shape : templates = front ++ template :: back)
      (before : ∀ other, other ∈ front → TemplateAccepted platform policy ns other)
      (refused : ¬ TemplateAccepted platform policy ns template)
      (warned : ReplaceWarnings platform ns idx front warnings)
      (names : NamesTemplate (idx + front.length) text) :
      LoopEnd policy ns idx templates warnings (some text)

theorem LoopEnd.cons {platform : Platform} {policy : KubeTemplatePolicy} {ns : String}
    {idx : Nat} {template : Template} {rest : List Template} {added warnings : List String}
    {err : Option String} (accepted : TemplateAccepted platform policy ns template)
    (warned : ReplaceWarnings platform ns idx [template] added)
    (ended : LoopEnd platform policy ns (idx + 1) rest warnings err) :
    LoopEnd platform policy ns idx (template :: rest) (added ++ warnings) err := by
  cases ended with
  | accepted _ all later =>
      exact .accepted _ (List.forall_mem_cons.mpr ⟨accepted, all⟩) (warned.append later)
  | rejected front back other _ text shape before refused later names =>
      refine .rejected (template :: front) back other _ text (congrArg (template :: ·) shape)
        (List.forall_mem_cons.mpr ⟨accepted, before⟩) refused (warned.append later) ?_
      rw [List.length_cons, ← Nat.add_assoc, Nat.add_right_comm]
      exact names

private theorem validateTemplates_loopEnd (policy : KubeTemplatePolicy) (ns : String) (idx : Nat)
    (templates : List Template) (warnings : List String) (cache : RegexCache platform) :
    ∃ added, LoopEnd platform policy ns idx templates added
        (validateTemplates platform policy ns idx templates warnings cache).1.err ∧
      (validateTemplates platform policy ns idx templates warnings cache).1.warnings =
        warnings ++ added := by
  induction templates generalizing idx warnings cache with
  | nil =>
      refine ⟨[], .accepted [] ?_ .nil, (List.append_nil warnings).symm⟩
      intro template member
      cases member
  | cons template rest ih =>
      unfold validateTemplates
      rcases validateTemplate_cases platform policy ns idx template cache with
        ⟨text, after, answer, names, refused⟩ | ⟨added, after, answer, warned, accepted⟩
      · rw [answer]
        refine ⟨[], ?_, (List.append_nil warnings).symm⟩
        refine .rejected [] rest template [] text rfl ?_ refused .nil names
        intro other member
        cases member
      · rw [answer]
        obtain ⟨later, ended, sum⟩ := ih (idx + 1) (warnings ++ added) after
        refine ⟨added ++ later, ended.cons accepted warned, ?_⟩
        rw [← List.append_assoc]
        exact sum

structure Decides (policy : KubeTemplatePolicy) (kubeTemplate : KubeTemplate)
    (response : AdmissionResponse) : Prop where
  /-- Acceptance is the conjunction of the documented checks. -/
  accepts : response.err = none ↔
    kubeTemplate.spec.templates.length ≤ maxTemplatesPerKubeTemplate ∧
      ∀ template, template ∈ kubeTemplate.spec.templates →
        TemplateAccepted platform policy kubeTemplate.metadata.ns template
  acceptedWarnings : response.err = none →
    ReplaceWarnings platform kubeTemplate.metadata.ns 0 kubeTemplate.spec.templates
      response.warnings
  /-- An error at a template names it and comes with the warnings of those before it. -/
  rejected : kubeTemplate.spec.templates.length ≤ maxTemplatesPerKubeTemplate →
    ∀ front template back, kubeTemplate.spec.templates = front ++ template :: back →
      (∀ other, other ∈ front →
        TemplateAccepted platform policy kubeTemplate.metadata.ns other) →
      ¬ TemplateAccepted platform policy kubeTemplate.metadata.ns template →
        (∃ text, response.err = some text ∧ NamesTemplate front.length text) ∧
          ReplaceWarnings platform kubeTemplate.metadata.ns 0 front response.warnings
  tooMany : maxTemplatesPerKubeTemplate < kubeTemplate.spec.templates.length →
    response.err ≠ none ∧ response.warnings = []

private theorem first_refused_unique {accepted : Template → Prop}
    {front other back rest : List Template}
    {template first : Template}
    (same : front ++ template :: back = other ++ first :: rest)
    (before : ∀ earlier, earlier ∈ front → accepted earlier) (refused : ¬ accepted template)
    (beforeOther : ∀ earlier, earlier ∈ other → accepted earlier)
    (refusedOther : ¬ accepted first) : front = other := by
  induction front generalizing other with
  | nil =>
      cases other with
      | nil => rfl
      | cons head tail =>
          cases same
          exact absurd (beforeOther template List.mem_cons_self) refused
  | cons head tail ih =>
      cases other with
      | nil =>
          cases same
          exact absurd (before first List.mem_cons_self) refusedOther
      | cons next later =>
          obtain ⟨rfl, tails⟩ := List.cons.inj same
          rw [ih tails (fun earlier member => before earlier (List.mem_cons_of_mem _ member))
            (fun earlier member => beforeOther earlier (List.mem_cons_of_mem _ member))]

private theorem validateWithPolicy_decides (policy : KubeTemplatePolicy)
    (kubeTemplate : KubeTemplate)
    (cache : RegexCache platform) :
    Decides platform policy kubeTemplate
      (validateWithPolicy platform policy kubeTemplate cache).1 := by
  have accepts := validateWithPolicy_ok_iff platform policy kubeTemplate cache
  by_cases many : maxTemplatesPerKubeTemplate < kubeTemplate.spec.templates.length
  · refine ⟨accepts, ?_, fun few => absurd few (Nat.not_le.mpr many), fun _ => ?_⟩
    · intro isNone
      exact absurd (accepts.mp isNone).1 (Nat.not_le.mpr many)
    · unfold validateWithPolicy
      rw [if_pos many]
      exact ⟨Option.some_ne_none _, rfl⟩
  · obtain ⟨added, ended, sum⟩ := validateTemplates_loopEnd platform policy
      kubeTemplate.metadata.ns 0 kubeTemplate.spec.templates [] cache
    have loop : validateWithPolicy platform policy kubeTemplate cache =
        validateTemplates platform policy kubeTemplate.metadata.ns 0
          kubeTemplate.spec.templates [] cache := if_neg many
    rw [List.nil_append] at sum
    rw [loop] at accepts ⊢
    rw [← sum] at ended
    refine ⟨accepts, ?_, ?_, fun more => absurd more many⟩
    · intro isNone
      rw [isNone] at ended
      cases ended with
      | accepted _ _ warned => exact warned
    · intro _few front template back shape before refused
      generalize (validateTemplates platform policy kubeTemplate.metadata.ns 0
        kubeTemplate.spec.templates [] cache).1 = response at ended
      obtain ⟨warnings, err⟩ := response
      cases ended with
      | accepted _ all _ =>
          refine absurd (all template ?_) refused
          rw [shape]
          exact List.mem_append_right front List.mem_cons_self
      | rejected other rest first _ text sameShape beforeOther refusedOther warned names =>
          obtain rfl := first_refused_unique (shape.symm.trans sameShape) before refused
            beforeOther refusedOther
          rw [Nat.zero_add] at names
          exact ⟨⟨text, rfl, names⟩, warned⟩

/-- With the policy the cache returns, the answer decides the request: no error exactly
when every check holds, and the warnings of the templates the loop has passed. -/
theorem admission_decides (operatorNamespace : String) (kubeTemplate : KubeTemplate)
    (policy : KubeTemplatePolicy) (cache after : RegexCache platform)
    (response : AdmissionResponse)
    (execution : Executes (validateKubeTemplate platform operatorNamespace kubeTemplate cache)
      [⟨.policyCacheGet kubeTemplate.metadata.ns operatorNamespace, .ok policy⟩]
      (response, after)) :
    Decides platform policy kubeTemplate response := by
  simp only [validateKubeTemplate, policyCacheGet, call_bind, done_bind] at execution
  obtain ⟨answer, rest, same, ended⟩ := (executes_call_iff _ _ _ _).mp execution
  cases same
  obtain ⟨_, result⟩ := (executes_done_iff _ _ _).mp ended
  have decides := validateWithPolicy_decides platform policy kubeTemplate cache
  rw [← result] at decides
  exact decides

end

def mixedRequest : KubeTemplate :=
  Reference.kubeTemplate
    [{ Reference.settingsTemplate with replace := true },
      { object := { raw := "settings" }, replace := true, referenced := false }]

def mixedAnswer : AdmissionResponse × RegexCache Reference.settingsPlatform :=
  validateWithPolicy Reference.settingsPlatform (Reference.configMapPolicy []) mixedRequest
    (.empty _)

/-- The request is refused at its second template, with the warning of the first. -/
theorem admission_decides_mixed :
    mixedAnswer.1 =
        { warnings :=
            ["template[0]: replace is enabled for /v1, Kind=ConfigMap/settings. The resource " ++
              "will be deleted and recreated if immutable fields are changed"]
          err := some
            "template[1]: failed to unmarshal object: not a document of the table" } ∧
      Decides Reference.settingsPlatform (Reference.configMapPolicy []) mixedRequest
        mixedAnswer.1 :=
  ⟨by decide +kernel,
    admission_decides _ "kubetemplater-system" mixedRequest (Reference.configMapPolicy [])
      (.empty _) mixedAnswer.2 mixedAnswer.1 (.call _ _ _ _ _ (.done _))⟩

end KubeTemplater.Webhook
