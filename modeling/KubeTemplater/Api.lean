/-
The custom resources of the operator and the Kubernetes data they are made of.

Strings that the source compares with a fixed set of words are inductive types.
Go maps with string values are association lists whose first entry for a key is
the one read.
-/

import Mathlib.Logic.Basic

namespace KubeTemplater

structure NamespacedName where
  ns : String
  name : String
  deriving DecidableEq, Repr

structure GroupVersionKind where
  group : String
  version : String
  kind : String
  deriving DecidableEq, Repr

instance decidableEqExcept {ε α : Type} [DecidableEq ε] [DecidableEq α] :
    DecidableEq (Except ε α)
  | .ok left, .ok right => decidable_of_iff (left = right) ⟨congrArg _, Except.ok.inj⟩
  | .error left, .error right => decidable_of_iff (left = right) ⟨congrArg _, Except.error.inj⟩
  | .ok _, .error _ => isFalse (fun equal => by cases equal)
  | .error _, .ok _ => isFalse (fun equal => by cases equal)

/-- The classes of API errors the operator tells apart. -/
inductive ErrorReason where
  | notFound
  | conflict
  | invalid
  | other
  deriving DecidableEq, Repr

structure GoError where
  reason : ErrorReason
  message : String
  deriving DecidableEq, Repr

def GoError.isNotFound (error : GoError) : Bool := error.reason == .notFound

def GoError.isConflict (error : GoError) : Bool := error.reason == .conflict

def GoError.isInvalid (error : GoError) : Bool := error.reason == .invalid

/-- The answers of the API server for an object that is missing or has changed. -/
def notFound (name : String) : GoError :=
  { reason := .notFound, message := name ++ " not found" }

def conflict (name : String) : GoError :=
  { reason := .conflict
    message := name ++ ": the object has been modified; please apply your changes to the latest " ++
      "version and try again" }

def errorf (message : String) : GoError :=
  { reason := .other, message := message }

/-- `fmt.Errorf` with `%w`: the wrapped error keeps its class. -/
def GoError.wrap (before : String) (error : GoError) : GoError :=
  { reason := error.reason, message := before ++ error.message }

inductive Value where
  | null
  | bool (value : Bool)
  | int (value : Int)
  | float (text : String)
  | str (text : String)
  | list (items : List Value)
  | map (entries : List (String × Value))
  deriving Repr

structure Unstructured where
  object : List (String × Value)

structure OwnerReference where
  apiVersion : String
  kind : String
  name : String
  uid : String
  controller : Option Bool
  blockOwnerDeletion : Option Bool
  deriving DecidableEq, Repr

structure ObjectMeta where
  ns : String
  name : String
  uid : String
  resourceVersion : Nat
  labels : List (String × String)
  annotations : List (String × String)
  deriving DecidableEq, Repr

structure RawExtension where
  raw : String
  deriving DecidableEq, Repr

structure Template where
  object : RawExtension
  replace : Bool
  referenced : Bool
  deriving DecidableEq, Repr

structure KubeTemplateSpec where
  templates : List Template
  deriving DecidableEq, Repr

/-- `Status.ProcessingPhase`; `empty` is the empty string of a new template. -/
inductive Phase where
  | empty
  | queued
  | processing
  | completed
  | failed
  | paused
  deriving DecidableEq, Repr

abbrev Time := Int

structure KubeTemplateStatus where
  status : String
  processingPhase : Phase
  queuedAt : Option Time
  processedAt : Option Time
  retryCount : Int
  retryCycle : Int
  lastReconcileTime : Option Time
  resourcesTotal : Int
  resourcesSynced : Int
  lastDriftDetected : Option Time
  driftDetectionCount : Int
  dryRunChecks : Int
  appliedSpecHash : String
  pausedReason : String
  pausedAt : Option Time
  deriving DecidableEq, Repr

def KubeTemplateStatus.initial : KubeTemplateStatus :=
  { status := ""
    processingPhase := .empty
    queuedAt := none
    processedAt := none
    retryCount := 0
    retryCycle := 0
    lastReconcileTime := none
    resourcesTotal := 0
    resourcesSynced := 0
    lastDriftDetected := none
    driftDetectionCount := 0
    dryRunChecks := 0
    appliedSpecHash := ""
    pausedReason := ""
    pausedAt := none }

structure KubeTemplate where
  metadata : ObjectMeta
  spec : KubeTemplateSpec
  status : KubeTemplateStatus
  deriving DecidableEq, Repr

def KubeTemplate.key (template : KubeTemplate) : NamespacedName :=
  { ns := template.metadata.ns, name := template.metadata.name }

inductive FieldValidationType where
  | cel
  | regex
  | range
  | required
  | forbidden
  | unknown (text : String)
  deriving DecidableEq, Repr

structure FieldValidation where
  name : String
  fieldPath : String
  type : FieldValidationType
  cel : String
  regex : String
  min : Option Int
  max : Option Int
  message : String
  deriving DecidableEq, Repr

structure ValidationRule where
  kind : String
  group : String
  version : String
  rule : String
  fieldValidations : List FieldValidation
  targetNamespaces : List String
  deriving DecidableEq, Repr

structure KubeTemplatePolicy where
  ns : String
  name : String
  resourceVersion : Nat
  sourceNamespace : String
  validationRules : List ValidationRule
  deriving DecidableEq, Repr

def KubeTemplatePolicy.key (policy : KubeTemplatePolicy) : NamespacedName :=
  { ns := policy.ns, name := policy.name }

section

variable {α : Type}

/-- `m[key]` with the flag that tells an absent key from an empty value. -/
def mapGet (entries : List (String × α)) (key : String) : Option α :=
  entries.lookup key

def mapSet : List (String × α) → String → α → List (String × α)
  | [], key, value => [(key, value)]
  | (first, old) :: rest, key, value =>
      if first = key then (first, value) :: rest else (first, old) :: mapSet rest key value

theorem mapGet_mapSet_self (entries : List (String × α)) (key : String) (value : α) :
    mapGet (mapSet entries key value) key = some value := by
  induction entries with
  | nil => simp [mapSet, mapGet]
  | cons head rest ih =>
      obtain ⟨first, old⟩ := head
      by_cases same : first = key
      · simp [mapSet, mapGet, same]
      · have different : (key == first) = false :=
          beq_eq_false_iff_ne.mpr (fun equal => same equal.symm)
        simp only [mapSet, if_neg same, mapGet, List.lookup_cons, different]
        exact ih

theorem mapGet_mapSet_other (entries : List (String × α)) (key other : String) (value : α)
    (different : other ≠ key) :
    mapGet (mapSet entries key value) other = mapGet entries other := by
  have missed : (other == key) = false := beq_eq_false_iff_ne.mpr different
  induction entries with
  | nil => simp only [mapSet, mapGet, List.lookup_cons, missed]
  | cons head rest ih =>
      obtain ⟨first, old⟩ := head
      by_cases same : first = key
      · subst first
        simp only [mapSet, mapGet, List.lookup_cons, missed, if_true]
      · simp only [mapSet, if_neg same, mapGet, List.lookup_cons]
        split
        · rfl
        · exact ih

theorem mapGet_filter_self (entries : List (String × α)) (key : String) :
    mapGet (entries.filter (fun entry => entry.1 != key)) key = none := by
  induction entries with
  | nil => rfl
  | cons entry rest ih =>
      obtain ⟨first, value⟩ := entry
      by_cases same : first = key
      · rw [List.filter_cons_of_neg (by simp [same])]
        exact ih
      · have missed : (key == first) = false :=
          beq_eq_false_iff_ne.mpr (fun equal => same equal.symm)
        rw [List.filter_cons_of_pos (by simp [same])]
        simp only [mapGet, List.lookup_cons, missed]
        exact ih

theorem mapGet_filter_other (entries : List (String × α)) (key other : String)
    (different : other ≠ key) :
    mapGet (entries.filter (fun entry => entry.1 != key)) other = mapGet entries other := by
  induction entries with
  | nil => rfl
  | cons entry rest ih =>
      obtain ⟨first, value⟩ := entry
      by_cases same : first = key
      · have missed : (other == first) = false :=
          beq_eq_false_iff_ne.mpr (fun equal => different (equal.trans same))
        rw [List.filter_cons_of_neg (by simp [same])]
        simp only [mapGet, List.lookup_cons, missed]
        exact ih
      · rw [List.filter_cons_of_pos (by simp [same])]
        simp only [mapGet, List.lookup_cons]
        split
        · rfl
        · exact ih

/-- Writing the value a key already has changes nothing. -/
theorem mapSet_of_mapGet (entries : List (String × α)) (key : String) (value : α)
    (present : mapGet entries key = some value) : mapSet entries key value = entries := by
  induction entries with
  | nil => simp [mapGet] at present
  | cons head rest ih =>
      obtain ⟨first, old⟩ := head
      by_cases same : first = key
      · subst first
        have equal : old = value := by simpa [mapGet, List.lookup_cons] using present
        simp [mapSet, equal]
      · have different : (key == first) = false :=
          beq_eq_false_iff_ne.mpr (fun equal => same equal.symm)
        simp only [mapGet, List.lookup_cons, different] at present
        simp only [mapSet, if_neg same]
        rw [ih present]

end

end KubeTemplater
