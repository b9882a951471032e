/-
The object the worker applies against the one the drift correction applies.

The worker sets the namespace, the tracking labels and the owner reference on a
decoded object; the drift correction applies the object as it was decoded.
-/

import KubeTemplater.Worker.Executions
import KubeTemplater.Controller.KubeTemplateReconciler
import KubeTemplater.Reference

namespace KubeTemplater.Agreement

open Library Library.Program Worker Controller

section

variable (platform : Platform)

def WorkerPatches (policy : KubeTemplatePolicy) (kubeTemplate : KubeTemplate)
    (template : Template) (object : Unstructured) : Prop :=
  ∃ trace result exchange, Executes (processTemplate platform policy kubeTemplate template)
    trace result ∧ exchange ∈ trace ∧ issuedPatch exchange = some object

/-- Some execution of the loop body of `applyTemplateResources` patches the object
for real. -/
def DriftPatches (template : Template) (object : Unstructured) : Prop :=
  ∃ tally trace result exchange, Executes (applyTemplateResource platform template tally)
    trace result ∧ exchange ∈ trace ∧ issuedPatch exchange = some object

theorem workerPatches_iff (policy : KubeTemplatePolicy) (kubeTemplate : KubeTemplate)
    (template : Template) (decoded object : Unstructured) (rule : ValidationRule)
    (checked : Checked platform policy kubeTemplate.metadata.ns template decoded rule) :
    WorkerPatches platform policy kubeTemplate template object ↔
      object = appliedObject platform kubeTemplate.metadata template
        (defaultNamespace platform kubeTemplate.metadata.ns decoded) := by
  unfold WorkerPatches
  simp only [processTemplate, checked.decodes, checked.passes]
  constructor
  · rintro ⟨trace, result, exchange, execution, member, patched⟩
    have about := (applyObject_makes platform _ _ _ _).executes execution exchange member
    rcases about with status | same | same
    · rw [issuedPatch_onTemplate exchange status] at patched
      cases patched
    · obtain ⟨request, answer⟩ := exchange
      dsimp only at same
      subst same
      cases patched
      rfl
    · obtain ⟨request, answer⟩ := exchange
      dsimp only at same
      subst same
      cases patched
  · rintro rfl
    exact ⟨[⟨.patch _ false false, .ok decoded⟩], _, _, .call _ _ _ _ _ (.done _),
      List.mem_singleton.mpr rfl, rfl⟩

def Call.driftOf (object : Unstructured) : Call → Prop
  | .getResource _ _ _ => True
  | .patch patched _ _ => patched = object
  | _ => False

theorem applyTemplateResource_makes (template : Template) (decoded : Unstructured)
    (decodes : platform.unmarshal template.object.raw = .ok decoded) (tally : DriftTally) :
    Makes (Call.driftOf decoded) (applyTemplateResource platform template tally) := by
  have drifted (tally : DriftTally) :
      Makes (Call.driftOf decoded) (applyDrifted decoded tally) := by
    refine makes_call rfl ?_
    intro answer
    cases answer with
    | error err => exact makes_done _ _
    | ok stored => exact makes_done _ _
  simp only [applyTemplateResource, decodes, getResource, patch, call_bind, done_bind]
  refine makes_call trivial (fun found => makes_call rfl ?_)
  intro dryRun
  cases dryRun with
  | error err => exact makes_done _ _
  | ok dry =>
      cases found with
      | _ =>
          dsimp only
          split
          · exact drifted _
          · exact makes_done _ _

theorem driftPatches_iff (template : Template) (decoded object : Unstructured)
    (decodes : platform.unmarshal template.object.raw = .ok decoded) :
    DriftPatches platform template object ↔ object = decoded := by
  constructor
  · rintro ⟨tally, trace, result, exchange, execution, member, patched⟩
    have allowed := (applyTemplateResource_makes platform template decoded decodes
      tally).executes execution exchange member
    obtain ⟨request, answer⟩ := exchange
    cases request with
    | patch sent forceOwnership dryRun =>
        cases dryRun with
        | true => cases patched
        | false =>
            cases patched
            exact allowed
    | _ => cases patched
  · rintro rfl
    -- the resource does not exist yet
    let missing : GoError := { reason := .notFound, message := "not found" }
    refine ⟨⟨0, false⟩,
      [⟨.getResource (platform.groupVersionKind object) (platform.getNamespace object)
          (platform.getName object), .error missing⟩,
        ⟨.patch object true true, .ok object⟩, ⟨.patch object true false, .ok object⟩],
      ⟨0 + 1, false⟩, ⟨.patch object true false, .ok object⟩, ?_, by simp, rfl⟩
    simp only [applyTemplateResource, decodes]
    exact .call _ _ _ _ _ (.call _ _ _ _ _ (.call _ _ _ _ _ (.done _)))

/-- The decoded object already carries everything the worker would set on it. -/
structure AlreadyDecorated (metadata : ObjectMeta) (template : Template)
    (decoded : Unstructured) : Prop where
  namespaced : platform.getNamespace decoded ≠ ""
  named : mapGet ((platform.getLabels decoded).getD []) templateNameLabel = some metadata.name
  placed : mapGet ((platform.getLabels decoded).getD []) templateNamespaceLabel =
    some metadata.ns
  unowned : template.referenced = false

variable {platform}

private theorem appliedObject_decorated (laws : MetadataLaws platform) (metadata : ObjectMeta)
    (template : Template) (decoded : Unstructured)
    (decorated : AlreadyDecorated platform metadata template decoded) :
    appliedObject platform metadata template (defaultNamespace platform metadata.ns decoded) =
      decoded := by
  have found : platform.getLabels decoded = some ((platform.getLabels decoded).getD []) := by
    cases labels : platform.getLabels decoded with
    | some entries => rfl
    | none =>
        have named := decorated.named
        rw [labels] at named
        cases named
  unfold appliedObject addTrackingLabels defaultNamespace
  rw [if_neg decorated.namespaced, decorated.unowned]
  dsimp only
  rw [mapSet_of_mapGet _ _ _ decorated.named, mapSet_of_mapGet _ _ _ decorated.placed]
  exact laws.setLabels_getLabels decoded _ found

/-- The labels the worker writes include the two tracking labels. -/
theorem tracked_labels (labels : List (String × String)) (metadata : ObjectMeta) :
    mapGet (mapSet (mapSet labels templateNameLabel metadata.name) templateNamespaceLabel
        metadata.ns) templateNameLabel = some metadata.name ∧
      mapGet (mapSet (mapSet labels templateNameLabel metadata.name) templateNamespaceLabel
        metadata.ns) templateNamespaceLabel = some metadata.ns := by
  constructor
  · rw [mapGet_mapSet_other _ _ _ _ (by decide), mapGet_mapSet_self]
  · rw [mapGet_mapSet_self]

private theorem decorated_of_appliedObject (laws : MetadataLaws platform) (metadata : ObjectMeta)
    (template : Template) (decoded : Unstructured) (inNamespace : metadata.ns ≠ "")
    (writable : decoded.metadataWritable = true)
    (same : appliedObject platform metadata template
      (defaultNamespace platform metadata.ns decoded) = decoded) :
    AlreadyDecorated platform metadata template decoded := by
  have namespaced : platform.getNamespace decoded ≠ "" := by
    intro empty
    have placed := appliedObject_namespace laws metadata template
      (defaultNamespace platform metadata.ns decoded)
    rw [same, defaultNamespace, if_pos empty,
      laws.getNamespace_setNamespace decoded metadata.ns writable inNamespace, empty] at placed
    exact inNamespace placed.symm
  rw [defaultNamespace, if_neg namespaced] at same
  have unowned : template.referenced = false := by
    cases referenced : template.referenced with
    | false => rfl
    | true =>
        unfold appliedObject addOwnerReference addTrackingLabels at same
        rw [referenced] at same
        dsimp only at same
        have owners := congrArg platform.getOwnerReferences same
        rw [if_pos rfl, laws.getOwnerReferences_setOwnerReferences _ _
            (laws.setLabels_writable decoded _ writable),
          laws.getOwnerReferences_setLabels] at owners
        have longer := congrArg List.length owners
        rw [List.length_append] at longer
        exact absurd longer (Nat.succ_ne_self _)
  have labels := congrArg platform.getLabels same
  unfold appliedObject addTrackingLabels at labels
  rw [unowned] at labels
  dsimp only at labels
  rw [if_neg Bool.false_ne_true, laws.getLabels_setLabels decoded _ writable] at labels
  have tracked := tracked_labels ((platform.getLabels decoded).getD []) metadata
  refine ⟨namespaced, ?_, ?_, unowned⟩
  · rw [← labels]
    exact tracked.1
  · rw [← labels]
    exact tracked.2

/-- The two paths patch the same object for an allowed template exactly when the
decoded object already has the namespace, both tracking labels and no owner to
add, or its metadata cannot be written at all. -/
theorem paths_agree_iff (laws : MetadataLaws platform) (policy : KubeTemplatePolicy)
    (kubeTemplate : KubeTemplate) (template : Template) (decoded : Unstructured)
    (rule : ValidationRule) (inNamespace : kubeTemplate.metadata.ns ≠ "")
    (checked : Checked platform policy kubeTemplate.metadata.ns template decoded rule) :
    (∀ byWorker byDrift, WorkerPatches platform policy kubeTemplate template byWorker →
        DriftPatches platform template byDrift → byWorker = byDrift) ↔
      decoded.metadataWritable = false ∨
        AlreadyDecorated platform kubeTemplate.metadata template decoded := by
  constructor
  · intro agree
    have same := agree _ decoded
      ((workerPatches_iff platform policy kubeTemplate template decoded _ rule checked).mpr rfl)
      ((driftPatches_iff platform template decoded _ checked.decodes).mpr rfl)
    cases writable : decoded.metadataWritable with
    | false => exact .inl rfl
    | true =>
        exact .inr (decorated_of_appliedObject laws _ template decoded inNamespace writable same)
  · intro condition byWorker byDrift worker drift
    rw [(workerPatches_iff platform policy kubeTemplate template decoded _ rule checked).mp
      worker, (driftPatches_iff platform template decoded _ checked.decodes).mp drift]
    rcases condition with unwritable | decorated
    · exact appliedObject_unwritable laws _ template decoded unwritable
    · exact appliedObject_decorated laws _ template decoded decorated

end

def trackedConfigMap : Unstructured :=
  { object :=
      [("apiVersion", .str "v1"), ("kind", .str "ConfigMap"),
        ("metadata", .map
          [("name", .str "settings"), ("namespace", .str "team-a"),
            ("labels", .map
              [("kubetemplater.io/template-name", .str "web"),
                ("kubetemplater.io/template-namespace", .str "team-a")])])] }

def trackedJson : String :=
  "\x7b\"apiVersion\":\"v1\",\"kind\":\"ConfigMap\",\"metadata\":\x7b\"name\":\"settings\"," ++
    "\"namespace\":\"team-a\",\"labels\":\x7b\"kubetemplater.io/template-name\":\"web\"," ++
    "\"kubetemplater.io/template-namespace\":\"team-a\"\x7d\x7d\x7d"

def trackedTemplate : Template :=
  { object := { raw := trackedJson }, replace := false, referenced := false }

theorem paths_agree_tracked :
    AlreadyDecorated (Reference.platform [(trackedJson, trackedConfigMap)] [])
        (Reference.kubeTemplate [trackedTemplate]).metadata trackedTemplate trackedConfigMap ∧
      ∀ byWorker byDrift,
        WorkerPatches (Reference.platform [(trackedJson, trackedConfigMap)] [])
          (Reference.configMapPolicy []) (Reference.kubeTemplate [trackedTemplate])
          trackedTemplate byWorker →
        DriftPatches (Reference.platform [(trackedJson, trackedConfigMap)] []) trackedTemplate
          byDrift → byWorker = byDrift := by
  have decorated : AlreadyDecorated (Reference.platform [(trackedJson, trackedConfigMap)] [])
      (Reference.kubeTemplate [trackedTemplate]).metadata trackedTemplate trackedConfigMap :=
    { namespaced := by decide, named := by decide, placed := by decide, unowned := rfl }
  refine ⟨decorated, ?_⟩
  exact (paths_agree_iff (Reference.platform_metadataLaws _ _) (Reference.configMapPolicy [])
    (Reference.kubeTemplate [trackedTemplate]) trackedTemplate trackedConfigMap
    (Reference.configMapRule []) (by decide)
    ⟨Reference.platform_unmarshal _ _ _ _, rfl⟩).mpr (.inr decorated)

/-- A ConfigMap without a namespace: the drift correction leaves out the namespace
the worker has set. -/
theorem drift_patch_drops_namespace :
    ∃ byWorker byDrift,
      WorkerPatches Reference.settingsPlatform (Reference.configMapPolicy [])
        (Reference.kubeTemplate [Reference.settingsTemplate]) Reference.settingsTemplate
        byWorker ∧
      DriftPatches Reference.settingsPlatform Reference.settingsTemplate byDrift ∧
      Reference.settingsPlatform.getNamespace byWorker = "team-a" ∧
      Reference.settingsPlatform.getNamespace byDrift = "" ∧ byWorker ≠ byDrift := by
  have worker := (workerPatches_iff Reference.settingsPlatform (Reference.configMapPolicy [])
    (Reference.kubeTemplate [Reference.settingsTemplate]) Reference.settingsTemplate _ _
    (Reference.configMapRule []) ⟨Reference.settings_decodes, rfl⟩).mpr rfl
  have drift := (driftPatches_iff Reference.settingsPlatform Reference.settingsTemplate _ _
    Reference.settings_decodes).mpr rfl
  refine ⟨_, _, worker, drift, by decide, by decide, ?_⟩
  intro same
  have namespaces := congrArg Reference.settingsPlatform.getNamespace same
  revert namespaces
  decide

end KubeTemplater.Agreement
