/-
What executions of the worker's functions look like: one statement for each
function about the calls it makes and the result it ends with.
-/

import KubeTemplater.Worker.TemplateProcessor
import KubeTemplater.Metadata

namespace KubeTemplater

open Library Library.Program

def readTemplate : Exchange client → Option KubeTemplate
  | ⟨.getTemplate _, answer⟩ =>
      match (answer : Except GoError KubeTemplate) with
      | .ok template => some template
      | .error _ => none
  | _ => none

def lastRead (trace : List (Exchange client)) : Option KubeTemplate :=
  (trace.filterMap readTemplate).getLast?

def issuedPatch : Exchange client → Option Unstructured
  | ⟨.patch object _ false, _⟩ => some object
  | _ => none

def successfulPatch : Exchange client → Option Unstructured
  | ⟨.patch object _ false, answer⟩ =>
      match (answer : Except GoError Unstructured) with
      | .ok _ => some object
      | .error _ => none
  | _ => none

def writtenPhase : Exchange client → Option Phase
  | ⟨.updateStatus template, answer⟩ =>
      match (answer : Except GoError Nat) with
      | .ok _ => some template.status.processingPhase
      | .error _ => none
  | _ => none

def lastPhase (trace : List (Exchange client)) : Option Phase :=
  (trace.filterMap writtenPhase).getLast?

theorem lastRead_append (front back : List (Exchange client)) :
    lastRead (front ++ back) = (lastRead back).or (lastRead front) := by
  unfold lastRead
  rw [List.filterMap_append, List.getLast?_append]

theorem lastPhase_append (front back : List (Exchange client)) :
    lastPhase (front ++ back) = (lastPhase back).or (lastPhase front) := by
  unfold lastPhase
  rw [List.filterMap_append, List.getLast?_append]

def Call.onTemplate : Call → Prop
  | .getTemplate _ => True
  | .updateStatus _ => True
  | .now => True
  | _ => False

theorem issuedPatch_onTemplate (exchange : Exchange client)
    (template : exchange.request.onTemplate) : issuedPatch exchange = none := by
  obtain ⟨request, answer⟩ := exchange
  cases request <;> first | rfl | cases template

theorem successfulPatch_onTemplate (exchange : Exchange client)
    (template : exchange.request.onTemplate) : successfulPatch exchange = none := by
  obtain ⟨request, answer⟩ := exchange
  cases request <;> first | rfl | cases template

/-- A template without its status and its version: all that an execution takes
from it besides them. -/
def KubeTemplate.unversioned (template : KubeTemplate) : KubeTemplate :=
  { metadata := { template.metadata with resourceVersion := 0 }
    spec := template.spec
    status := .initial }

namespace Worker

theorem updateStatusTurns_makes (update : KubeTemplateStatus → KubeTemplateStatus)
    (turns : Nat) (kubeTemplate : KubeTemplate) :
    Makes Call.onTemplate (updateStatusTurns update turns kubeTemplate) := by
  induction turns generalizing kubeTemplate with
  | zero => exact makes_done _ _
  | succ turns ih =>
      simp only [updateStatusTurns, getTemplate, updateStatus, call_bind, done_bind]
      refine makes_call trivial ?_
      intro answer
      cases answer with
      | error err => exact makes_done _ _
      | ok latest =>
          refine makes_call trivial ?_
          intro stored
          cases stored with
          | ok revision => exact makes_done _ _
          | error err =>
              dsimp only
              split
              · exact ih _
              · exact makes_done _ _

/-- A call that concerns the KubeTemplate, followed by a status update. -/
theorem onTemplate_cons_update {kubeTemplate : KubeTemplate}
    {update : KubeTemplateStatus → KubeTemplateStatus} {trace : List (Exchange client)}
    {result : KubeTemplate × Option GoError} (head : Exchange client)
    (own : head.request.onTemplate)
    (updates : Executes (updateStatusWithRetry kubeTemplate update) trace result) :
    ∀ exchange, exchange ∈ head :: trace → exchange.request.onTemplate :=
  List.forall_mem_cons.mpr ⟨own, (updateStatusTurns_makes update 3 kubeTemplate).executes updates⟩

theorem updateStatusTurns_template (update : KubeTemplateStatus → KubeTemplateStatus)
    (turns : Nat) (kubeTemplate : KubeTemplate) (trace : List (Exchange client))
    (result : KubeTemplate × Option GoError)
    (execution : Executes (updateStatusTurns update turns kubeTemplate) trace result) :
    result.1.unversioned = ((lastRead trace).getD kubeTemplate).unversioned := by
  induction turns generalizing kubeTemplate trace with
  | zero =>
      obtain ⟨rfl, rfl⟩ := (executes_done_iff _ _ _).mp execution
      rfl
  | succ turns ih =>
      simp only [updateStatusTurns, getTemplate, updateStatus, call_bind, done_bind]
        at execution
      obtain ⟨answer, later, rfl, written⟩ := (executes_call_iff _ _ _ _).mp execution
      cases answer with
      | error err =>
          obtain ⟨rfl, rfl⟩ := (executes_done_iff _ _ _).mp written
          rfl
      | ok latest =>
          obtain ⟨stored, later, rfl, retried⟩ := (executes_call_iff _ _ _ _).mp written
          cases stored with
          | ok revision =>
              obtain ⟨rfl, rfl⟩ := (executes_done_iff _ _ _).mp retried
              rfl
          | error err =>
              dsimp only at retried
              split at retried
              · have front : lastRead (⟨.getTemplate kubeTemplate.key, .ok latest⟩ ::
                    ⟨.updateStatus { latest with status := update latest.status },
                      .error err⟩ :: later) = (lastRead later).or (some latest) :=
                  lastRead_append [⟨.getTemplate kubeTemplate.key, .ok latest⟩,
                    ⟨.updateStatus { latest with status := update latest.status },
                      .error err⟩] later
                rw [ih _ _ retried, front]
                cases lastRead later with
                | none => rfl
                | some newer => rfl
              · obtain ⟨rfl, rfl⟩ := (executes_done_iff _ _ _).mp retried
                rfl

section

variable (platform : Platform)

private theorem validateWithCEL_ok_true_iff (rule : String) (object : Unstructured) :
    validateWithCEL platform rule object = .ok true ↔
      platform.cel .object rule (.map object.object) = .ok (.bool true) := by
  unfold validateWithCEL
  split
  · rename_i failure evaluated
    rw [evaluated]
    simp
  · rename_i evaluated
    rw [evaluated]
    simp
  · rename_i out different evaluated
    rw [evaluated]
    constructor
    · intro impossible
      cases impossible
    · intro same
      cases same
      exact absurd rfl different

theorem checkPolicy_ok_iff (policy : KubeTemplatePolicy) (object : Unstructured)
    (rule : ValidationRule) :
    checkPolicy platform policy object = .ok rule ↔
      firstMatchingRule policy (platform.groupVersionKind object) = some rule ∧
        RuleAdmits platform platform.cel rule object := by
  unfold checkPolicy
  dsimp only
  cases found : firstMatchingRule policy (platform.groupVersionKind object) with
  | none => simp
  | some first =>
      dsimp only
      by_cases listed : platform.getNamespace object ∈ first.targetNamespaces
      · have inside := (contains_iff _ _).mpr listed
        have nonempty : first.targetNamespaces.isEmpty = false := by
          rw [List.isEmpty_eq_false_iff_exists_mem]
          exact ⟨_, listed⟩
        rw [nonempty, inside]
        simp only [Bool.false_eq_true, if_false, Bool.not_true]
        by_cases unruled : first.rule = ""
        · rw [if_pos unruled]
          constructor
          · intro accepted
            cases accepted
            exact ⟨rfl, ⟨listed, .inl unruled⟩⟩
          · rintro ⟨same, _admits⟩
            cases same
            rfl
        · rw [if_neg unruled]
          have rules := validateWithCEL_ok_true_iff platform first.rule object
          constructor
          · intro accepted
            split at accepted
            · cases accepted
            · cases accepted
            · rename_i holds
              cases accepted
              exact ⟨rfl, ⟨listed, .inr (rules.mp holds)⟩⟩
          · rintro ⟨same, admits⟩
            cases same
            rcases admits.celRule with none | holds
            · exact absurd none unruled
            · rw [rules.mpr holds]
      · have outside : contains first.targetNamespaces (platform.getNamespace object) = false :=
          Bool.eq_false_iff.mpr (fun inside => listed ((contains_iff _ _).mp inside))
        rw [outside]
        constructor
        · intro impossible
          split at impossible <;> cases impossible
        · rintro ⟨same, admits⟩
          cases same
          exact absurd admits.target listed

structure Checked (policy : KubeTemplatePolicy) (ns : String) (template : Template)
    (decoded : Unstructured) (rule : ValidationRule) : Prop where
  decodes : platform.unmarshal template.object.raw = .ok decoded
  passes : checkPolicy platform policy (defaultNamespace platform ns decoded) = .ok rule

inductive ApplyTrace (object : Unstructured) (replace : Bool) :
    List (Exchange client) → Prop where
  | applied (stored : Unstructured) :
      ApplyTrace object replace [⟨.patch object false false, .ok stored⟩]
  | undeleted (err refused : GoError) (wanted : replace = true) :
      ApplyTrace object replace
        [⟨.patch object false false, .error err⟩, ⟨.delete object, .error refused⟩]
  | replaced (err : GoError) (stored : Unstructured) (wanted : replace = true) :
      ApplyTrace object replace
        [⟨.patch object false false, .error err⟩, ⟨.delete object, .ok ()⟩,
          ⟨.patch object false false, .ok stored⟩]
  | unreplaced (err again : GoError) (wanted : replace = true) :
      ApplyTrace object replace
        [⟨.patch object false false, .error err⟩, ⟨.delete object, .ok ()⟩,
          ⟨.patch object false false, .error again⟩]

theorem applyObject_executes (kubeTemplate after : KubeTemplate) (template : Template)
    (gvk : GroupVersionKind) (object : Unstructured) (trace : List (Exchange client))
    (execution : Executes (applyObject platform kubeTemplate template gvk object) trace
      (after, none)) :
    after = kubeTemplate ∧ ApplyTrace object template.replace trace := by
  simp only [applyObject, patch, deleteResource, timeNow, call_bind, done_bind] at execution
  obtain ⟨answer, later, rfl, applied⟩ := (executes_call_iff _ _ _ _).mp execution
  cases answer with
  | ok stored =>
      obtain ⟨rfl, same⟩ := (executes_done_iff _ _ _).mp applied
      cases same
      exact ⟨rfl, .applied stored⟩
  | error err =>
      dsimp only at applied
      split at applied
      · rename_i invalid
        have wanted : template.replace = true := (Bool.and_eq_true_iff.mp invalid).2
        obtain ⟨deleted, later, rfl, recreated⟩ := (executes_call_iff _ _ _ _).mp applied
        cases deleted with
        | error refused =>
            obtain ⟨rfl, same⟩ := (executes_done_iff _ _ _).mp recreated
            cases same
            exact ⟨rfl, .undeleted err refused wanted⟩
        | ok nothing =>
            obtain ⟨again, later, rfl, ended⟩ := (executes_call_iff _ _ _ _).mp recreated
            obtain ⟨rfl, same⟩ := (executes_done_iff _ _ _).mp ended
            cases same
            cases again with
            | ok stored => exact ⟨rfl, .replaced err stored wanted⟩
            | error failure => exact ⟨rfl, .unreplaced err failure wanted⟩
      · obtain ⟨now, later, rfl, written⟩ := (executes_call_iff _ _ _ _).mp applied
        obtain ⟨front, back, value, rfl, _first, last⟩ := (executes_bind_iff _ _ _ _).mp written
        obtain ⟨_, same⟩ := (executes_done_iff _ _ _).mp last
        cases same

def Call.about (object : Unstructured) (request : Call) : Prop :=
  request.onTemplate ∨ request = .patch object false false ∨ request = .delete object

theorem applyObject_makes (kubeTemplate : KubeTemplate) (template : Template)
    (gvk : GroupVersionKind) (object : Unstructured) :
    Makes (Call.about object) (applyObject platform kubeTemplate template gvk object) := by
  simp only [applyObject, patch, deleteResource, timeNow, call_bind, done_bind]
  refine makes_call (.inr (.inl rfl)) ?_
  intro answer
  cases answer with
  | ok stored => exact makes_done _ _
  | error err =>
      dsimp only
      split
      · refine makes_call (.inr (.inr rfl)) ?_
        intro deleted
        cases deleted with
        | error refused => exact makes_done _ _
        | ok nothing => exact makes_call (.inr (.inl rfl)) (fun again => makes_done _ _)
      · refine makes_call (.inl trivial) ?_
        intro now
        refine makes_bind ?_ (fun _ => makes_done _ _)
        exact (updateStatusTurns_makes _ 3 _).mono (fun _ status => .inl status)

end

variable {platform : Platform}

theorem appliedObject_unwritable (laws : MetadataLaws platform) (metadata : ObjectMeta)
    (template : Template) (decoded : Unstructured) (unwritable : decoded.metadataWritable = false) :
    appliedObject platform metadata template (defaultNamespace platform metadata.ns decoded) =
      decoded := by
  have placed : defaultNamespace platform metadata.ns decoded = decoded := by
    unfold defaultNamespace
    split
    · exact laws.setNamespace_unwritable decoded metadata.ns unwritable
    · rfl
  unfold appliedObject addOwnerReference addTrackingLabels
  rw [placed]
  dsimp only
  rw [laws.setLabels_unwritable decoded _ unwritable,
    laws.setOwnerReferences_unwritable decoded _ unwritable, ite_self]

theorem appliedObject_namespace (laws : MetadataLaws platform) (metadata : ObjectMeta)
    (template : Template) (object : Unstructured) :
    platform.getNamespace (appliedObject platform metadata template object) =
      platform.getNamespace object := by
  unfold appliedObject addOwnerReference addTrackingLabels
  dsimp only
  split
  · rw [laws.getNamespace_setOwnerReferences, laws.getNamespace_setLabels]
  · rw [laws.getNamespace_setLabels]

theorem defaultNamespace_kind (kinds : KindLaws platform) (ns : String) (object : Unstructured) :
    platform.groupVersionKind (defaultNamespace platform ns object) =
      platform.groupVersionKind object := by
  unfold defaultNamespace
  split
  · exact kinds.setNamespace object ns
  · rfl

theorem appliedObject_kind (kinds : KindLaws platform) (metadata : ObjectMeta) (template : Template)
    (object : Unstructured) :
    platform.groupVersionKind (appliedObject platform metadata template object) =
      platform.groupVersionKind object := by
  unfold appliedObject addOwnerReference addTrackingLabels
  dsimp only
  split
  · rw [kinds.setOwnerReferences, kinds.setLabels]
  · rw [kinds.setLabels]

/-- Where the object goes is settled before the labels and the owner are added. -/
theorem appliedObject_place (laws : MetadataLaws platform) (kinds : KindLaws platform)
    (metadata : ObjectMeta) (template : Template) (decoded : Unstructured) :
    platform.getNamespace (defaultNamespace platform metadata.ns
        (appliedObject platform metadata template
          (defaultNamespace platform metadata.ns decoded))) =
      platform.getNamespace (defaultNamespace platform metadata.ns decoded) := by
  cases writable : decoded.metadataWritable with
  | false => rw [appliedObject_unwritable laws metadata template decoded writable]
  | true =>
      have kept := appliedObject_namespace laws metadata template
        (defaultNamespace platform metadata.ns decoded)
      by_cases unnamed : platform.getNamespace (appliedObject platform metadata template
        (defaultNamespace platform metadata.ns decoded)) = ""
      · -- only the empty namespace leaves the object without one
        have noNamespace : metadata.ns = "" := by
          by_cases named : metadata.ns = ""
          · exact named
          · have placed := unnamed
            rw [kept, defaultNamespace] at placed
            split at placed
            · rw [laws.getNamespace_setNamespace decoded metadata.ns writable named] at placed
              exact placed
            · rename_i already
              exact absurd placed already
        rw [← kept, unnamed, defaultNamespace, if_pos unnamed, noNamespace]
        exact kinds.getNamespace_cleared _
      · rw [defaultNamespace, if_neg unnamed, kept]

end Worker

end KubeTemplater
