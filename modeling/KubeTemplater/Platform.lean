/-
The third-party functions the operator calls, taken as parameters: YAML
decoding, the accessors of unstructured objects, CEL, regular expressions, and
the digest of a spec.  Every one of them is a fixed function of its input.
-/

import KubeTemplater.Api

namespace KubeTemplater

/-- The variable a CEL expression is declared over: the whole object as a map
with string keys, or one field of dynamic type. -/
inductive CelVariable where
  | object
  | value
  deriving DecidableEq, Repr

inductive CelFailure where
  | environment (text : String)
  | parse (text : String)
  | check (text : String)
  | program (text : String)
  | evaluation (text : String)
  deriving DecidableEq, Repr

/-- The words both validators put before the library's own error. -/
def CelFailure.text : CelFailure → String
  | .environment text => "failed to create CEL environment: " ++ text
  | .parse text => "failed to parse CEL rule: " ++ text
  | .check text => "failed to check CEL rule: " ++ text
  | .program text => "failed to create CEL program: " ++ text
  | .evaluation text => "failed to evaluate CEL rule: " ++ text

structure Platform where
  /-- `yaml.Unmarshal` into an unstructured object. -/
  unmarshal : String → Except String Unstructured
  groupVersionKind : Unstructured → GroupVersionKind
  gvkString : GroupVersionKind → String
  getName : Unstructured → String
  getNamespace : Unstructured → String
  setNamespace : Unstructured → String → Unstructured
  /-- `none` is the nil map. -/
  getLabels : Unstructured → Option (List (String × String))
  setLabels : Unstructured → List (String × String) → Unstructured
  getOwnerReferences : Unstructured → List OwnerReference
  setOwnerReferences : Unstructured → List OwnerReference → Unstructured
  nestedFieldCopy : Unstructured → List String → Except String (Option Value)
  nestedString : Unstructured → List String → Except String (Option String)
  nestedInt64 : Unstructured → List String → Except String (Option Int)
  /-- `apiequality.Semantic.DeepEqual`. -/
  deepEqual : Value → Value → Bool
  /-- The value of a CEL expression when no limit is set. -/
  cel : CelVariable → String → Value → Except CelFailure Value
  /-- The error of an evaluation that runs into the webhook's cost or time limit. -/
  celLimit : CelVariable → String → Value → Option String
  /-- `regexp.Compile`; a compiled pattern is its `MatchString`. -/
  regexpCompile : String → Except String (String → Bool)
  marshalSpec : KubeTemplateSpec → Option String
  sha256Hex : String → String
  /-- How often `retry.RetryOnConflict` tries again after a first conflict. -/
  conflictRetries : Nat

variable (platform : Platform)

def calculateSpecHash (spec : KubeTemplateSpec) : String :=
  match platform.marshalSpec spec with
  | none => ""
  | some json => platform.sha256Hex json

/-- `contains`, likewise present in the worker and in the webhook. -/
def contains (slice : List String) (str : String) : Bool :=
  slice.any (fun v => v == str)

theorem contains_iff (slice : List String) (str : String) :
    contains slice str = true ↔ str ∈ slice := by
  unfold contains
  rw [List.any_eq_true]
  constructor
  · rintro ⟨v, member, same⟩
    rw [← eq_of_beq same]
    exact member
  · intro member
    exact ⟨str, member, beq_self_eq_true str⟩

end KubeTemplater
