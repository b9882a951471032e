/-
The admission webhook: `KubeTemplateValidator.validateKubeTemplate` with the
field validations and the cache of compiled patterns.
-/

import KubeTemplater.Client
import KubeTemplater.PolicyRules

namespace KubeTemplater.Webhook

open Library

def maxTemplatesPerKubeTemplate : Nat := 50

def maxTemplateSizeBytes : Nat := 1 * 1024 * 1024

structure RegexCache (platform : Platform) where
  entries : List (String × (String → Bool))
  compiled : ∀ pattern matcher, mapGet entries pattern = some matcher →
    platform.regexpCompile pattern = .ok matcher

def RegexCache.empty (platform : Platform) : RegexCache platform :=
  { entries := []
    compiled := by
      intro pattern matcher found
      cases found }

def RegexCache.insert {platform : Platform} (cache : RegexCache platform) (pattern : String)
    (matcher : String → Bool) (compiles : platform.regexpCompile pattern = .ok matcher) :
    RegexCache platform :=
  { entries := mapSet cache.entries pattern matcher
    compiled := by
      intro other found present
      by_cases same : other = pattern
      · rw [same, mapGet_mapSet_self] at present
        cases present
        rw [same]
        exact compiles
      · rw [mapGet_mapSet_other _ _ _ _ same] at present
        exact cache.compiled other found present }

def RegexCache.matcher {platform : Platform} (cache : RegexCache platform) (pattern : String) :
    Except String (String → Bool) × RegexCache platform :=
  match mapGet cache.entries pattern with
  | some matcher => (.ok matcher, cache)
  | none =>
      match compiles : platform.regexpCompile pattern with
      | .error text => (.error text, cache)
      | .ok matcher => (.ok matcher, cache.insert pattern matcher compiles)

def fieldPathToKeys (fieldPath : String) : List String :=
  (fieldPath.toList.splitOn '.').map String.ofList

def templatePrefix (templateIdx : Nat) : String :=
  "template[" ++ toString templateIdx ++ "]"

def fieldError (templateIdx : Nat) (validation : FieldValidation) (text : String) : String :=
  templatePrefix templateIdx ++ ": fieldValidation (" ++ validation.name ++ "): " ++ text

/-- A failed check reports the policy's own message when there is one. -/
def fieldFailure (templateIdx : Nat) (validation : FieldValidation) (text : String) : String :=
  fieldError templateIdx validation
    (if validation.message ≠ "" then validation.message else text)

def overrideError (templateIdx : Nat) (validation : FieldValidation) :
    Except String Unit → Except String Unit
  | .ok () => .ok ()
  | .error text =>
      if validation.message ≠ "" then
        .error (fieldError templateIdx validation validation.message)
      else .error text

section

variable (platform : Platform)

def celWithLimits (variableName : CelVariable) (rule : String) (value : Value) :
    Except CelFailure Value :=
  match platform.cel variableName rule value with
  | .error (.evaluation text) =>
      .error (.evaluation ((platform.celLimit variableName rule value).getD text))
  | .error failure => .error failure
  | .ok out =>
      match platform.celLimit variableName rule value with
      | some text => .error (.evaluation text)
      | none => .ok out

def validateCELRule (rule : String) (object : Unstructured) (templateIdx : Nat)
    (validationName : String) (variableName : CelVariable) (value : Value) :
    Except String Unit :=
  let errPrefix :=
    if validationName ≠ "" then
      templatePrefix templateIdx ++ ": fieldValidation (" ++ validationName ++ ")"
    else templatePrefix templateIdx
  match celWithLimits platform variableName rule value with
  | .error failure => .error (errPrefix ++ ": " ++ failure.text)
  | .ok (.bool true) => .ok ()
  | .ok _ =>
      .error (errPrefix ++ ": resource " ++
        platform.gvkString (platform.groupVersionKind object) ++ "/" ++
        platform.getName object ++ " failed CEL validation rule: " ++ rule)

def validateFieldCEL (validation : FieldValidation) (object : Unstructured)
    (templateIdx : Nat) : Except String Unit :=
  if validation.cel = "" then
    .error (fieldError templateIdx validation "CEL expression is required for type 'cel'")
  else
    let checked (variableName : CelVariable) (value : Value) : Except String Unit :=
      overrideError templateIdx validation
        (validateCELRule platform validation.cel object templateIdx validation.name
          variableName value)
    if validation.fieldPath = "" ∨ validation.fieldPath = "object" then
      checked .object (.map object.object)
    else
      match platform.nestedFieldCopy object (fieldPathToKeys validation.fieldPath) with
      | .error text =>
          .error (fieldError templateIdx validation
            ("failed to get field " ++ validation.fieldPath ++ ": " ++ text))
      -- a field that does not exist is null
      | .ok found => checked .value (found.getD .null)

def validateFieldRegex (cache : RegexCache platform) (validation : FieldValidation)
    (object : Unstructured) (templateIdx : Nat) :
    Except String Unit × RegexCache platform :=
  if validation.regex = "" then
    (.error (fieldError templateIdx validation "regex pattern is required for type 'regex'"),
      cache)
  else if validation.fieldPath = "" then
    (.error (fieldError templateIdx validation "fieldPath is required for type 'regex'"), cache)
  else
    match platform.nestedString object (fieldPathToKeys validation.fieldPath) with
    | .error text =>
        (.error (fieldError templateIdx validation
          ("failed to get field " ++ validation.fieldPath ++ ": " ++ text)), cache)
    | .ok none =>
        (.error (fieldError templateIdx validation
          ("field " ++ validation.fieldPath ++ " not found")), cache)
    | .ok (some fieldValue) =>
        match cache.matcher validation.regex with
        | (.error text, cache) =>
            (.error (fieldError templateIdx validation
              ("invalid regex pattern " ++ validation.regex ++ ": " ++ text)), cache)
        | (.ok matcher, cache) =>
            if matcher fieldValue then (.ok (), cache)
            else
              (.error (fieldFailure templateIdx validation
                ("field " ++ validation.fieldPath ++ " value '" ++ fieldValue ++
                  "' does not match regex pattern '" ++ validation.regex ++ "'")), cache)

def validateFieldRange (validation : FieldValidation) (object : Unstructured)
    (templateIdx : Nat) : Except String Unit :=
  if validation.fieldPath = "" then
    .error (fieldError templateIdx validation "fieldPath is required for type 'range'")
  else if validation.min = none ∧ validation.max = none then
    .error (fieldError templateIdx validation
      "at least one of min or max must be specified for type 'range'")
  else
    match platform.nestedInt64 object (fieldPathToKeys validation.fieldPath) with
    | .error text =>
        .error (fieldError templateIdx validation
          ("failed to get field " ++ validation.fieldPath ++ " as int64: " ++ text))
    | .ok none =>
        .error (fieldError templateIdx validation
          ("field " ++ validation.fieldPath ++ " not found"))
    | .ok (some fieldValue) =>
        if validation.min.any (fun low => decide (fieldValue < low)) then
          .error (fieldFailure templateIdx validation
            ("field " ++ validation.fieldPath ++ " value " ++ toString fieldValue ++
              " is less than minimum " ++ toString (validation.min.getD 0)))
        else if validation.max.any (fun high => decide (high < fieldValue)) then
          .error (fieldFailure templateIdx validation
            ("field " ++ validation.fieldPath ++ " value " ++ toString fieldValue ++
              " is greater than maximum " ++ toString (validation.max.getD 0)))
        else .ok ()

def missingOrEmpty : Option Value → Bool
  | none => true
  | some .null => true
  | some (.str text) => decide (text = "")
  | some _ => false

def validateFieldRequired (validation : FieldValidation) (object : Unstructured)
    (templateIdx : Nat) : Except String Unit :=
  if validation.fieldPath = "" then
    .error (fieldError templateIdx validation "fieldPath is required for type 'required'")
  else
    match platform.nestedFieldCopy object (fieldPathToKeys validation.fieldPath) with
    | .error text =>
        .error (fieldError templateIdx validation
          ("failed to get field " ++ validation.fieldPath ++ ": " ++ text))
    | .ok found =>
        if missingOrEmpty found then
          .error (fieldFailure templateIdx validation
            ("required field " ++ validation.fieldPath ++ " is missing or empty"))
        else .ok ()

def validateFieldForbidden (validation : FieldValidation) (object : Unstructured)
    (templateIdx : Nat) : Except String Unit :=
  if validation.fieldPath = "" then
    .error (fieldError templateIdx validation "fieldPath is required for type 'forbidden'")
  else
    match platform.nestedFieldCopy object (fieldPathToKeys validation.fieldPath) with
    | .error text =>
        .error (fieldError templateIdx validation
          ("failed to get field " ++ validation.fieldPath ++ ": " ++ text))
    | .ok found =>
        if found.isSome then
          .error (fieldFailure templateIdx validation
            ("forbidden field " ++ validation.fieldPath ++ " is present"))
        else .ok ()

def validateField (cache : RegexCache platform) (validationIdx : Nat)
    (validation : FieldValidation) (object : Unstructured) (templateIdx : Nat) :
    Except String Unit × RegexCache platform :=
  match validation.type with
  | .cel => (validateFieldCEL platform validation object templateIdx, cache)
  | .regex => validateFieldRegex platform cache validation object templateIdx
  | .range => (validateFieldRange platform validation object templateIdx, cache)
  | .required => (validateFieldRequired platform validation object templateIdx, cache)
  | .forbidden => (validateFieldForbidden platform validation object templateIdx, cache)
  | .unknown text =>
      (.error (templatePrefix templateIdx ++ ": fieldValidation[" ++ toString validationIdx ++
        "] (" ++ validation.name ++ "): unknown validation type: " ++ text), cache)

def validateFieldValidations (object : Unstructured) (templateIdx : Nat) :
    Nat → List FieldValidation → RegexCache platform →
      Except String Unit × RegexCache platform
  | _, [], cache => (.ok (), cache)
  | validationIdx, validation :: rest, cache =>
      match validateField platform cache validationIdx validation object templateIdx with
      | (.error text, cache) => (.error text, cache)
      | (.ok (), cache) =>
          validateFieldValidations object templateIdx (validationIdx + 1) rest cache

def validateObject (policy : KubeTemplatePolicy) (idx : Nat) (object : Unstructured)
    (cache : RegexCache platform) : Except String Unit × RegexCache platform :=
  let gvk := platform.groupVersionKind object
  match firstMatchingRule policy gvk with
  | none =>
      (.error (templatePrefix idx ++ ": resource type " ++ platform.gvkString gvk ++
        " is not allowed by policy " ++ policy.name), cache)
  | some rule =>
      if rule.targetNamespaces.isEmpty then
        (.error (templatePrefix idx ++ ": resource type " ++ platform.gvkString gvk ++
          " has no target namespaces defined in policy " ++ policy.name ++
          ". At least one target namespace must be specified"), cache)
      else if !contains rule.targetNamespaces (platform.getNamespace object) then
        (.error (templatePrefix idx ++ ": resource namespace " ++
          platform.getNamespace object ++ " is not in the allowed target namespaces [" ++
          " ".intercalate rule.targetNamespaces ++ "] for resource type " ++
          platform.gvkString gvk), cache)
      else
        match
          if rule.rule = "" then .ok ()
          else validateCELRule platform rule.rule object idx "" .object (.map object.object)
        with
        | .error text => (.error text, cache)
        | .ok () => validateFieldValidations platform object idx 0 rule.fieldValidations cache

/-- One turn of the loop over `spec.templates`, with the warnings it adds. -/
def validateTemplate (policy : KubeTemplatePolicy) (ns : String) (idx : Nat)
    (template : Template) (cache : RegexCache platform) :
    Except String (List String) × RegexCache platform :=
  if maxTemplateSizeBytes < template.object.raw.utf8ByteSize then
    (.error (templatePrefix idx ++ ": size " ++ toString template.object.raw.utf8ByteSize ++
      " bytes exceeds maximum allowed size of " ++ toString maxTemplateSizeBytes ++ " bytes"),
      cache)
  else
    match platform.unmarshal template.object.raw with
    | .error text =>
        (.error (templatePrefix idx ++ ": failed to unmarshal object: " ++ text), cache)
    | .ok decoded =>
        let object := defaultNamespace platform ns decoded
        match validateObject platform policy idx object cache with
        | (.error text, cache) => (.error text, cache)
        | (.ok (), cache) =>
            if template.replace then
              (.ok [templatePrefix idx ++ ": replace is enabled for " ++
                platform.gvkString (platform.groupVersionKind object) ++ "/" ++
                platform.getName object ++
                ". The resource will be deleted and recreated if immutable fields are changed"],
                cache)
            else (.ok [], cache)

structure AdmissionResponse where
  warnings : List String
  err : Option String
  deriving DecidableEq, Repr

def validateTemplates (policy : KubeTemplatePolicy) (ns : String) :
    Nat → List Template → List String → RegexCache platform →
      AdmissionResponse × RegexCache platform
  | _, [], warnings, cache => ({ warnings := warnings, err := none }, cache)
  | idx, template :: rest, warnings, cache =>
      match validateTemplate platform policy ns idx template cache with
      | (.error text, cache) => ({ warnings := warnings, err := some text }, cache)
      | (.ok added, cache) =>
          validateTemplates policy ns (idx + 1) rest (warnings ++ added) cache

def validateWithPolicy (policy : KubeTemplatePolicy) (kubeTemplate : KubeTemplate)
    (cache : RegexCache platform) : AdmissionResponse × RegexCache platform :=
  if maxTemplatesPerKubeTemplate < kubeTemplate.spec.templates.length then
    ({ warnings := []
       err := some ("too many templates: " ++ toString kubeTemplate.spec.templates.length ++
        " (max allowed: " ++ toString maxTemplatesPerKubeTemplate ++ ")") }, cache)
  else
    validateTemplates platform policy kubeTemplate.metadata.ns 0 kubeTemplate.spec.templates []
      cache

/-- `ValidateCreate` and `ValidateUpdate` both are this function. -/
def validateKubeTemplate (operatorNamespace : String) (kubeTemplate : KubeTemplate)
    (cache : RegexCache platform) :
    Program client (AdmissionResponse × RegexCache platform) := do
  match ← policyCacheGet kubeTemplate.metadata.ns operatorNamespace with
  | .error err =>
      pure ({ warnings := [], err := some ("failed to get policy: " ++ err.message) }, cache)
  | .ok policy => pure (validateWithPolicy platform policy kubeTemplate cache)

end

end KubeTemplater.Webhook
