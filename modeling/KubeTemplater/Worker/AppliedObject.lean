/-
The object of a Patch against the template it was decoded from.

The worker makes three edits of the metadata.  The owner reference is appended for
every template with `referenced`, also to an object of a foreign namespace, where it
names an owner that does not exist there.
-/

import Mathlib.Data.List.Forall2
import KubeTemplater.Worker.WriteTrace

namespace KubeTemplater.Worker

open Library Library.Program Reference

/-- The accessors of unstructured objects, as they read and write nested fields. -/
def nestedAccessors : Platform := Reference.platform [] []

structure FieldAccessors (platform : Platform) : Prop where
  getNamespace : platform.getNamespace = nestedAccessors.getNamespace
  setNamespace : platform.setNamespace = nestedAccessors.setNamespace
  getLabels : platform.getLabels = nestedAccessors.getLabels
  setLabels : platform.setLabels = nestedAccessors.setLabels
  getOwnerReferences : platform.getOwnerReferences = nestedAccessors.getOwnerReferences
  setOwnerReferences : platform.setOwnerReferences = nestedAccessors.setOwnerReferences

private theorem reference_fieldAccessors (documents : List (String × Unstructured))
    (digests : List (String × String)) :
    FieldAccessors (Reference.platform documents digests) :=
  ⟨rfl, rfl, rfl, rfl, rfl, rfl⟩

theorem FieldAccessors.metadataLaws {platform : Platform} (accessors : FieldAccessors platform) :
    MetadataLaws platform := by
  have laws := Reference.platform_metadataLaws [] []
  obtain ⟨getNamespace, setNamespace, getLabels, setLabels, getOwnerReferences,
    setOwnerReferences⟩ := accessors
  constructor <;> simp only [getNamespace, setNamespace, getLabels, setLabels, getOwnerReferences,
    setOwnerReferences]
  · exact laws.getNamespace_setNamespace
  · exact laws.getNamespace_setLabels
  · exact laws.getNamespace_setOwnerReferences
  · exact laws.getLabels_setLabels
  · exact laws.setLabels_getLabels
  · exact laws.getOwnerReferences_setOwnerReferences
  · exact laws.getOwnerReferences_setLabels
  · exact laws.setLabels_writable
  · exact laws.setNamespace_unwritable
  · exact laws.setLabels_unwritable
  · exact laws.setOwnerReferences_unwritable

def labelValue (object : Unstructured) (label : String) : Option Value :=
  match metadataField object "labels" with
  | some (.map entries) => mapGet entries label
  | _ => none

def ownerItems (object : Unstructured) : List Value :=
  match metadataField object "ownerReferences" with
  | some (.list items) => items
  | _ => []

def SameMap (left right : Value) : Prop :=
  ∃ entries others, left = .map entries ∧ right = .map others ∧
    ∀ field, mapGet entries field = mapGet others field

structure ExactChanges (platform : Platform) (metadata : ObjectMeta) (template : Template)
    (decoded patched : Unstructured) : Prop where
  ns : platform.getNamespace patched =
    if platform.getNamespace decoded = "" then metadata.ns else platform.getNamespace decoded
  nsKept : platform.getNamespace decoded ≠ "" →
    metadataField patched "namespace" = metadataField decoded "namespace"
  labels : ∀ label, labelValue patched label =
    if label = templateNamespaceLabel then some (.str metadata.ns)
    else if label = templateNameLabel then some (.str metadata.name)
    else labelValue decoded label
  owned : template.referenced = true → platform.getNamespace patched = metadata.ns →
    ∃ kept, ownerItems patched = kept ++ [ownerValue (ownerReference metadata)] ∧
      List.Forall₂ SameMap (ownerItems decoded) kept
  unowned : ¬ (template.referenced = true ∧ platform.getNamespace patched = metadata.ns) →
    metadataField patched "ownerReferences" = metadataField decoded "ownerReferences"
  others : ∀ field, field ≠ "namespace" → field ≠ "labels" → field ≠ "ownerReferences" →
    metadataField patched field = metadataField decoded field
  outside : ∀ field, field ≠ "metadata" →
    mapGet patched.object field = mapGet decoded.object field

/-- `GetLabels` reads the labels, or it loses none but the two that are set anyway. -/
def LabelsReadable (object : Unstructured) : Prop :=
  ∀ entries, metadataField object "labels" = some (.map entries) →
    (∃ labels, stringEntries entries = some labels) ∨
      ∀ label, label ≠ templateNamespaceLabel → label ≠ templateNameLabel →
        mapGet entries label = none

/-- The accessors read all of the metadata: it is a map or absent, no label is lost, and
every owner reference that is written back has the fields of one. -/
structure Readable (template : Template) (decoded : Unstructured) : Prop where
  writable : decoded.metadataWritable = true
  labels : LabelsReadable decoded
  owners : template.referenced = true → ∃ references,
    List.Forall₂ (fun item reference => SameMap item (ownerValue reference))
      (ownerItems decoded) references

def InOwnNamespace (platform : Platform) (metadata : ObjectMeta) (decoded : Unstructured) : Prop :=
  platform.getNamespace decoded = "" ∨ platform.getNamespace decoded = metadata.ns

private theorem extractOwnerReference_sameMap {item : Value} {reference : OwnerReference}
    (same : SameMap item (ownerValue reference)) :
    extractOwnerReference item = some reference := by
  obtain ⟨entries, others, rfl, isOwner, equal⟩ := same
  rw [← extractOwnerReference_ownerValue reference, isOwner]
  simp only [extractOwnerReference, stringField, boolField, equal]

private theorem ownerReferences_sameMap {items : List Value} {references : List OwnerReference}
    (same : List.Forall₂ (fun item reference => SameMap item (ownerValue reference)) items
      references) :
    ownerReferences items = some references := by
  induction same with
  | nil => rfl
  | cons first _ ih =>
      simp only [ownerReferences, extractOwnerReference_sameMap first, ih]

structure Edits (field : String) (before after : Unstructured) : Prop where
  writable : before.metadataWritable = true → after.metadataWritable = true
  others : ∀ other, other ≠ field → metadataField after other = metadataField before other
  outside : ∀ name, name ≠ "metadata" → mapGet after.object name = mapGet before.object name

theorem setMetadataField_edits (object : Unstructured) (field : String) (value : Value) :
    Edits field object (setMetadataField object field value) where
  writable := setMetadataField_writable object field value
  others := fun other different => metadataField_set_other object field other value different
  outside := fun name different => mapGet_setMetadataField object field name value different

private theorem edits_refl (field : String) (object : Unstructured) :
    Edits field object object where
  writable := fun writable => writable
  others := fun _ _ => rfl
  outside := fun _ _ => rfl

section

variable {platform : Platform} (accessors : FieldAccessors platform)
include accessors

private theorem setNamespace_edits (object : Unstructured) (ns : String) :
    Edits "namespace" object (platform.setNamespace object ns) := by
  rw [accessors.setNamespace]
  simp only [nestedAccessors, Reference.platform]
  split
  · exact
      { writable := removeMetadataField_writable object "namespace"
        others := fun other different =>
          metadataField_remove_other object "namespace" other different
        outside := fun name different =>
          mapGet_removeMetadataField object "namespace" name different }
  · exact setMetadataField_edits object "namespace" (.str ns)

theorem defaultNamespace_edits (ns : String) (decoded : Unstructured) :
    Edits "namespace" decoded (defaultNamespace platform ns decoded) := by
  unfold defaultNamespace
  split
  · exact setNamespace_edits accessors decoded ns
  · exact edits_refl "namespace" decoded

theorem getNamespace_edited {field : String} {before after : Unstructured}
    (edits : Edits field before after) (different : "namespace" ≠ field) :
    platform.getNamespace after = platform.getNamespace before := by
  rw [accessors.getNamespace]
  simp only [nestedAccessors, Reference.platform, metadataString]
  rw [edits.others "namespace" different]

theorem getNamespace_setNamespace (object : Unstructured) (ns : String)
    (writable : object.metadataWritable = true) :
    platform.getNamespace (platform.setNamespace object ns) = ns := by
  rw [accessors.getNamespace, accessors.setNamespace]
  simp only [nestedAccessors, Reference.platform, metadataString]
  by_cases unnamed : ns = ""
  · rw [if_pos unnamed, metadataField_remove_self, unnamed]
  · rw [if_neg unnamed, metadataField_set_self object "namespace" (.str ns) writable]

private theorem getNamespace_defaultNamespace (ns : String) (decoded : Unstructured)
    (writable : decoded.metadataWritable = true) :
    platform.getNamespace (defaultNamespace platform ns decoded) =
      if platform.getNamespace decoded = "" then ns else platform.getNamespace decoded := by
  unfold defaultNamespace
  split
  · exact getNamespace_setNamespace accessors decoded ns writable
  · rfl

private theorem labelsReadable_iff (object : Unstructured) :
    LabelsReadable object ↔
      ∀ label, label ≠ templateNamespaceLabel → label ≠ templateNameLabel →
        (mapGet ((platform.getLabels object).getD []) label).map Value.str =
          labelValue object label := by
  rw [accessors.getLabels]
  simp only [nestedAccessors, Reference.platform, LabelsReadable, labelValue]
  cases found : metadataField object "labels" with
  | none => simp [mapGet]
  | some value =>
      cases value with
      | map entries =>
          cases read : stringEntries entries with
          | none =>
              simp only [Option.some.injEq, Value.map.injEq, forall_eq', read, Option.getD_none,
                reduceCtorEq, exists_const, false_or]
              exact ⟨fun lost label notNs notName => (lost label notNs notName).symm,
                fun lost label notNs notName => (lost label notNs notName).symm⟩
          | some labels =>
              simp only [Option.some.injEq, Value.map.injEq, forall_eq', read, Option.getD_some]
              refine ⟨fun _ label _ _ => ?_, fun _ => Or.inl ⟨labels, rfl⟩⟩
              rw [← mapGet_labelEntries, labelEntries_of_stringEntries entries labels read]
      | _ => simp [mapGet]

private theorem addTrackingLabels_labels (metadata : ObjectMeta) (object : Unstructured)
    (writable : object.metadataWritable = true) (label : String) :
    labelValue (addTrackingLabels platform metadata object) label =
      if label = templateNamespaceLabel then some (.str metadata.ns)
      else if label = templateNameLabel then some (.str metadata.name)
      else (mapGet ((platform.getLabels object).getD []) label).map Value.str := by
  unfold addTrackingLabels
  rw [accessors.setLabels]
  simp only [nestedAccessors, Reference.platform]
  unfold labelValue
  rw [metadataField_set_self object "labels" _ writable]
  dsimp only
  rw [mapGet_labelEntries]
  by_cases isNamespace : label = templateNamespaceLabel
  · rw [if_pos isNamespace, isNamespace, mapGet_mapSet_self]
    rfl
  · rw [if_neg isNamespace, mapGet_mapSet_other _ _ _ _ isNamespace]
    by_cases isName : label = templateNameLabel
    · rw [if_pos isName, isName, mapGet_mapSet_self]
      rfl
    · rw [if_neg isName, mapGet_mapSet_other _ _ _ _ isName]

theorem addTrackingLabels_edits (metadata : ObjectMeta) (object : Unstructured) :
    Edits "labels" object (addTrackingLabels platform metadata object) := by
  unfold addTrackingLabels
  rw [accessors.setLabels]
  exact setMetadataField_edits object "labels" _

theorem addOwnerReference_edits (metadata : ObjectMeta) (object : Unstructured) :
    Edits "ownerReferences" object (addOwnerReference platform metadata object) := by
  unfold addOwnerReference
  rw [accessors.setOwnerReferences]
  exact setMetadataField_edits object "ownerReferences" _

private theorem getOwnerReferences_readable (object : Unstructured)
    {references : List OwnerReference}
    (readable : List.Forall₂ (fun item reference => SameMap item (ownerValue reference))
      (ownerItems object) references) :
    platform.getOwnerReferences object = references := by
  have all := ownerReferences_sameMap readable
  rw [accessors.getOwnerReferences]
  simp only [nestedAccessors, Reference.platform]
  unfold ownerItems at all readable
  split
  · rename_i items found
    rw [found] at all
    rw [all]
    rfl
  · rename_i notList
    split at readable
    · rename_i items found
      exact absurd found (notList items)
    · cases readable
      rfl

section Owner

variable (metadata : ObjectMeta) (object : Unstructured) (writable : object.metadataWritable = true)

include metadata object writable

private theorem addOwnerReference_field :
    metadataField (addOwnerReference platform metadata object) "ownerReferences" =
      some (.list ((platform.getOwnerReferences object ++ [ownerReference metadata]).map
        ownerValue)) := by
  unfold addOwnerReference
  rw [accessors.setOwnerReferences]
  exact metadataField_set_self object "ownerReferences" _ writable

private theorem addOwnerReference_items :
    ownerItems (addOwnerReference platform metadata object) =
      (platform.getOwnerReferences object).map ownerValue ++
        [ownerValue (ownerReference metadata)] := by
  unfold ownerItems
  rw [addOwnerReference_field accessors metadata object writable]
  exact List.map_append

/-- What is written is always one reference more than what was read. -/
theorem addOwnerReference_changes :
    metadataField (addOwnerReference platform metadata object) "ownerReferences" ≠
      metadataField object "ownerReferences" := by
  rw [addOwnerReference_field accessors metadata object writable]
  intro same
  have read : platform.getOwnerReferences object =
      platform.getOwnerReferences object ++ [ownerReference metadata] := by
    conv_lhs => rw [accessors.getOwnerReferences]
    simp only [nestedAccessors, Reference.platform]
    rw [← same]
    dsimp only
    rw [ownerReferences_map, Option.getD_some]
  have longer := congrArg List.length read
  rw [List.length_append, List.length_singleton] at longer
  omega

end Owner

end

section

variable {platform : Platform} (accessors : FieldAccessors platform) (metadata : ObjectMeta)
  (template : Template) (decoded : Unstructured)

def labelledObject (platform : Platform) (metadata : ObjectMeta) (decoded : Unstructured) :
    Unstructured :=
  addTrackingLabels platform metadata (defaultNamespace platform metadata.ns decoded)

theorem appliedObject_eq (platform : Platform) :
    appliedObject platform metadata template (defaultNamespace platform metadata.ns decoded) =
      if template.referenced then
        addOwnerReference platform metadata (labelledObject platform metadata decoded)
      else labelledObject platform metadata decoded :=
  rfl

include accessors

private theorem labelled_writable (writable : decoded.metadataWritable = true) :
    (labelledObject platform metadata decoded).metadataWritable = true :=
  (addTrackingLabels_edits accessors metadata _).writable
    ((defaultNamespace_edits accessors metadata.ns decoded).writable writable)

theorem labelled_others (field : String) (notNamespace : field ≠ "namespace")
    (notLabels : field ≠ "labels") :
    metadataField (labelledObject platform metadata decoded) field =
      metadataField decoded field :=
  ((addTrackingLabels_edits accessors metadata _).others field notLabels).trans
    ((defaultNamespace_edits accessors metadata.ns decoded).others field notNamespace)

private theorem labelled_namespace (writable : decoded.metadataWritable = true) :
    platform.getNamespace (labelledObject platform metadata decoded) =
      if platform.getNamespace decoded = "" then metadata.ns
      else platform.getNamespace decoded :=
  (getNamespace_edited accessors (addTrackingLabels_edits accessors metadata _)
    (by decide)).trans (getNamespace_defaultNamespace accessors metadata.ns decoded writable)

private theorem labelled_labels (writable : decoded.metadataWritable = true) (label : String) :
    labelValue (labelledObject platform metadata decoded) label =
      if label = templateNamespaceLabel then some (.str metadata.ns)
      else if label = templateNameLabel then some (.str metadata.name)
      else (mapGet ((platform.getLabels decoded).getD []) label).map Value.str := by
  have edits := defaultNamespace_edits accessors metadata.ns decoded
  have same : platform.getLabels (defaultNamespace platform metadata.ns decoded) =
      platform.getLabels decoded := by
    rw [accessors.getLabels]
    simp only [nestedAccessors, Reference.platform]
    rw [edits.others "labels" (by decide)]
  unfold labelledObject
  rw [addTrackingLabels_labels accessors metadata _ (edits.writable writable), same]

theorem labelled_inOwnNamespace (writable : decoded.metadataWritable = true) :
    platform.getNamespace (labelledObject platform metadata decoded) = metadata.ns ↔
      InOwnNamespace platform metadata decoded := by
  rw [labelled_namespace accessors metadata decoded writable]
  unfold InOwnNamespace
  split
  · rename_i unnamed
    exact ⟨fun _ => .inl unnamed, fun _ => rfl⟩
  · rename_i named
    exact ⟨.inr, fun own => own.resolve_left named⟩

/-- Without the last edit. -/
theorem labelled_exact (readable : Readable template decoded)
    (plain : template.referenced = false) :
    ExactChanges platform metadata template decoded
      (labelledObject platform metadata decoded) where
  ns := labelled_namespace accessors metadata decoded readable.writable
  nsKept := by
    intro named
    refine ((addTrackingLabels_edits accessors metadata _).others "namespace" (by decide)).trans ?_
    unfold defaultNamespace
    rw [if_neg named]
  labels := by
    intro label
    rw [labelled_labels accessors metadata decoded readable.writable]
    split
    · rfl
    · rename_i notNamespace
      split
      · rfl
      · rename_i notName
        exact (labelsReadable_iff accessors decoded).mp readable.labels label notNamespace notName
  owned := by
    intro referenced
    rw [plain] at referenced
    cases referenced
  unowned := fun _ => labelled_others accessors metadata decoded _ (by decide) (by decide)
  others := fun field notNamespace notLabels _ =>
    labelled_others accessors metadata decoded field notNamespace notLabels
  outside := fun field different =>
    ((addTrackingLabels_edits accessors metadata _).outside field different).trans
      ((defaultNamespace_edits accessors metadata.ns decoded).outside field different)

private theorem labelled_getOwnerReferences :
    platform.getOwnerReferences (labelledObject platform metadata decoded) =
      platform.getOwnerReferences decoded := by
  rw [accessors.getOwnerReferences]
  simp only [nestedAccessors, Reference.platform]
  rw [labelled_others accessors metadata decoded "ownerReferences" (by decide) (by decide)]

/-- The last edit appends to the references that are read. -/
theorem owned_items (writable : decoded.metadataWritable = true) :
    ownerItems (addOwnerReference platform metadata (labelledObject platform metadata decoded)) =
      (platform.getOwnerReferences decoded).map ownerValue ++
        [ownerValue (ownerReference metadata)] := by
  rw [addOwnerReference_items accessors metadata _
    (labelled_writable accessors metadata decoded writable),
    labelled_getOwnerReferences accessors metadata decoded]

private theorem owned_labels (label : String) :
    labelValue (addOwnerReference platform metadata
        (labelledObject platform metadata decoded)) label =
      labelValue (labelledObject platform metadata decoded) label := by
  unfold labelValue
  rw [(addOwnerReference_edits accessors metadata _).others "labels" (by decide)]

/-- With the last edit, in the namespace of the KubeTemplate. -/
theorem owned_exact (readable : Readable template decoded)
    (referenced : template.referenced = true) (own : InOwnNamespace platform metadata decoded) :
    ExactChanges platform metadata template decoded
      (addOwnerReference platform metadata (labelledObject platform metadata decoded)) := by
  have edits := addOwnerReference_edits accessors metadata
    (labelledObject platform metadata decoded)
  have sameNamespace := getNamespace_edited accessors edits (by decide)
  have isOwn := (labelled_inOwnNamespace accessors metadata decoded readable.writable).mpr own
  -- the first two edits, as for the template without an owner
  have before := labelled_exact accessors metadata { template with referenced := false } decoded
    ⟨readable.writable, readable.labels, fun impossible => Bool.noConfusion impossible⟩ rfl
  constructor
  case ns => exact sameNamespace.trans before.ns
  case nsKept =>
    intro named
    exact (edits.others "namespace" (by decide)).trans (before.nsKept named)
  case labels =>
    intro label
    exact (owned_labels accessors metadata decoded label).trans (before.labels label)
  case owned =>
    intro _referenced _own
    obtain ⟨references, isReadable⟩ := readable.owners referenced
    have read := getOwnerReferences_readable accessors decoded isReadable
    refine ⟨references.map ownerValue, ?_, List.forall₂_map_right_iff.mpr isReadable⟩
    rw [owned_items accessors metadata decoded readable.writable, read]
  case unowned =>
    intro foreign
    exact absurd ⟨referenced, sameNamespace.trans isOwn⟩ foreign
  case others =>
    intro field notNamespace notLabels notOwners
    exact (edits.others field notOwners).trans
      (before.others field notNamespace notLabels notOwners)
  case outside =>
    intro field different
    exact (edits.outside field different).trans (before.outside field different)

private theorem applied_labels (label : String) :
    labelValue (appliedObject platform metadata template
        (defaultNamespace platform metadata.ns decoded)) label =
      labelValue (labelledObject platform metadata decoded) label := by
  rw [appliedObject_eq]
  split
  · exact owned_labels accessors metadata decoded label
  · rfl

section Necessary

-- Each part of the condition is needed: what exact changes say of the object that is applied.
variable (exactly : ExactChanges platform metadata template decoded
  (appliedObject platform metadata template (defaultNamespace platform metadata.ns decoded)))
include exactly

theorem exact_writable : decoded.metadataWritable = true := by
  by_contra unwritable
  rw [Bool.not_eq_true] at unwritable
  have tracked := exactly.labels templateNamespaceLabel
  rw [if_pos rfl,
    appliedObject_unwritable accessors.metadataLaws metadata template decoded unwritable] at tracked
  unfold labelValue metadataField at tracked
  unfold Unstructured.metadataWritable at unwritable
  split at unwritable
  · cases unwritable
  · cases unwritable
  · rename_i other notMap found
    rw [found] at tracked
    cases other with
    | map entries => exact notMap entries rfl
    | _ => cases tracked

theorem exact_labelsReadable : LabelsReadable decoded := by
  have writable := exact_writable accessors metadata template decoded exactly
  rw [labelsReadable_iff accessors]
  intro label notNamespace notName
  have kept := exactly.labels label
  rw [applied_labels accessors, labelled_labels accessors metadata decoded writable,
    if_neg notNamespace, if_neg notName, if_neg notNamespace, if_neg notName] at kept
  exact kept

theorem exact_inOwnNamespace (referenced : template.referenced = true) :
    InOwnNamespace platform metadata decoded := by
  have writable := exact_writable accessors metadata template decoded exactly
  by_contra foreign
  have applied : appliedObject platform metadata template
      (defaultNamespace platform metadata.ns decoded) =
        addOwnerReference platform metadata (labelledObject platform metadata decoded) := by
    rw [appliedObject_eq, if_pos referenced]
  rw [applied] at exactly
  have edits := addOwnerReference_edits accessors metadata
    (labelledObject platform metadata decoded)
  have unchanged := exactly.unowned (by
    rintro ⟨_referenced, own⟩
    rw [getNamespace_edited accessors edits (by decide)] at own
    exact foreign ((labelled_inOwnNamespace accessors metadata decoded writable).mp own))
  rw [← labelled_others accessors metadata decoded "ownerReferences" (by decide) (by decide)]
    at unchanged
  exact addOwnerReference_changes accessors metadata _
    (labelled_writable accessors metadata decoded writable) unchanged

theorem exact_owners (referenced : template.referenced = true) :
    ∃ references, List.Forall₂ (fun item reference => SameMap item (ownerValue reference))
      (ownerItems decoded) references := by
  have writable := exact_writable accessors metadata template decoded exactly
  have own := (labelled_inOwnNamespace accessors metadata decoded writable).mpr
    (exact_inOwnNamespace accessors metadata template decoded exactly referenced)
  have applied : appliedObject platform metadata template
      (defaultNamespace platform metadata.ns decoded) =
        addOwnerReference platform metadata (labelledObject platform metadata decoded) := by
    rw [appliedObject_eq, if_pos referenced]
  rw [applied] at exactly
  have edits := addOwnerReference_edits accessors metadata
    (labelledObject platform metadata decoded)
  obtain ⟨kept, items, same⟩ := exactly.owned referenced
    ((getNamespace_edited accessors edits (by decide)).trans own)
  rw [owned_items accessors metadata decoded writable] at items
  refine ⟨platform.getOwnerReferences decoded, List.forall₂_map_right_iff.mp ?_⟩
  rw [List.append_cancel_right items]
  exact same

end Necessary

/-- The applied object has exactly the documented changes when its metadata can be read and an
owner is only asked for in the namespace of the KubeTemplate, and in no other case. -/
theorem appliedObject_exact_iff :
    ExactChanges platform metadata template decoded
        (appliedObject platform metadata template
          (defaultNamespace platform metadata.ns decoded)) ↔
      Readable template decoded ∧
        (template.referenced = true → InOwnNamespace platform metadata decoded) := by
  constructor
  · intro exactly
    exact ⟨⟨exact_writable accessors metadata template decoded exactly,
      exact_labelsReadable accessors metadata template decoded exactly,
      exact_owners accessors metadata template decoded exactly⟩,
      exact_inOwnNamespace accessors metadata template decoded exactly⟩
  · rintro ⟨readable, own⟩
    rw [appliedObject_eq]
    cases referenced : template.referenced with
    | false =>
        rw [if_neg Bool.false_ne_true]
        exact labelled_exact accessors metadata template decoded readable referenced
    | true =>
        rw [if_pos rfl]
        exact owned_exact accessors metadata template decoded readable referenced (own referenced)

end

theorem ObjectCalls.patches_eq {object other : Unstructured} {replace : Bool}
    {calls : List (Exchange client)} (own : ObjectCalls object replace calls)
    {exchange : Exchange client} (member : exchange ∈ calls)
    (patches : issuedPatch exchange = some other) : other = object := by
  cases own with
  | applied stored =>
      rw [List.mem_singleton.mp member] at patches
      cases patches
      rfl
  | undeleted err refused invalid wanted =>
      simp only [List.mem_cons, List.not_mem_nil, or_false] at member
      rcases member with rfl | rfl
      · cases patches
        rfl
      · cases patches
  | replaced err again invalid wanted =>
      simp only [List.mem_cons, List.not_mem_nil, or_false] at member
      rcases member with rfl | rfl | rfl
      · cases patches
        rfl
      · cases patches
      · cases patches
        rfl

theorem LoopCalls.admits {platform : Platform} {policy : KubeTemplatePolicy}
    {turns : List (KubeTemplate × Template)} {calls : List (Exchange client)}
    {err : Option GoError} (loop : LoopCalls platform policy turns calls err)
    {exchange : Exchange client} (member : exchange ∈ calls) {object : Unstructured}
    (patches : issuedPatch exchange = some object) :
    ∃ turn, turn ∈ turns ∧ Admitted platform policy turn.1 turn.2 object := by
  induction loop with
  | finished => cases member
  | skipped kubeTemplate template rest calls err fails later ih =>
      obtain ⟨turn, isTurn, admitted⟩ := ih member
      exact ⟨turn, List.mem_cons_of_mem _ isTurn, admitted⟩
  | applied kubeTemplate template rest own front calls err admitted ownCalls later ih =>
      rcases List.mem_append.mp member with inFront | inRest
      · have same := ownCalls.patches_eq inFront patches
        rw [same]
        exact ⟨(kubeTemplate, template), List.mem_cons_self, admitted⟩
      · obtain ⟨turn, isTurn, isAdmitted⟩ := ih inRest
        exact ⟨turn, List.mem_cons_of_mem _ isTurn, isAdmitted⟩
  | stopped kubeTemplate template rest own failure admitted fatal =>
      rw [List.mem_singleton.mp member] at patches
      cases patches
      exact ⟨(kubeTemplate, template), List.mem_cons_self, admitted⟩

/-- The object is made from a template of the loop and a KubeTemplate that was read, and it has
exactly the documented changes of what the template decodes to if and only if the metadata can
be read and no owner in another namespace is asked for. -/
def PatchesTemplate (platform : Platform) (trace : List (Exchange client))
    (object : Unstructured) : Prop :=
  ∃ (listed kubeTemplate : KubeTemplate) (template : Template) (decoded : Unstructured),
    loopTemplate trace = some listed ∧ template ∈ listed.spec.templates ∧
    (∃ read, read ∈ trace.filterMap readTemplate ∧
      kubeTemplate.unversioned = read.unversioned) ∧
    platform.unmarshal template.object.raw = .ok decoded ∧
    object = appliedObject platform kubeTemplate.metadata template
      (defaultNamespace platform kubeTemplate.metadata.ns decoded) ∧
    (ExactChanges platform kubeTemplate.metadata template decoded object ↔
      Readable template decoded ∧
        (template.referenced = true → InOwnNamespace platform kubeTemplate.metadata decoded))

private theorem issuedPatch_resourceCall {exchange : Exchange client} {object : Unstructured}
    (patches : issuedPatch exchange = some object) : isResourceCall exchange = true := by
  obtain ⟨request, answer⟩ := exchange
  cases request <;> first | rfl | cases patches

/-- Every object that an execution of `processItem` patches. -/
theorem processItem_patches_exact {platform : Platform} (accessors : FieldAccessors platform)
    (operatorNamespace : String) (key : NamespacedName) (trace : List (Exchange client))
    (result : Option GoError)
    (execution : Executes (processItem platform operatorNamespace key) trace result)
    (object : Unstructured) (patched : object ∈ trace.filterMap issuedPatch) :
    PatchesTemplate platform trace object := by
  obtain ⟨exchange, member, patches⟩ := List.mem_filterMap.mp patched
  have called : exchange ∈ resourceCalls trace :=
    List.mem_filter.mpr ⟨member, issuedPatch_resourceCall patches⟩
  cases processItem_run platform operatorNamespace key trace result execution with
  | unpolicied none quiet =>
      rw [resourceCalls_quiet trace quiet] at called
      cases called
  | looped policy listed ranges governs run =>
      obtain ⟨turns, err, isTemplates, read, calls, _ends⟩ := run.writesInOrder
      obtain ⟨⟨kubeTemplate, template⟩, isTurn, decoded, rule, decodes, _first, _admits, rfl⟩ :=
        calls.admits called patches
      have isTemplate : template ∈ listed.spec.templates := by
        rw [← isTemplates]
        exact List.mem_map_of_mem isTurn
      exact ⟨listed, kubeTemplate, template, decoded, ranges, isTemplate, read _ isTurn, decodes,
        rfl, appliedObject_exact_iff accessors kubeTemplate.metadata template decoded⟩

def placedConfigMap (ns : String) : Unstructured :=
  { object :=
      [("apiVersion", .str "v1"), ("kind", .str "ConfigMap"),
        ("metadata", .map [("name", .str "settings"), ("namespace", .str ns)]),
        ("data", .map [("mode", .str "fast")])] }

def placedPlatform (ns : String) : Platform :=
  Reference.platform [(ns, placedConfigMap ns)] []

def ownedTemplate (ns : String) : Template :=
  { object := { raw := ns }, replace := false, referenced := true }

def sharingPolicy : KubeTemplatePolicy :=
  { configMapPolicy [] with
    validationRules := [{ configMapRule [] with targetNamespaces := ["team-a", "team-b"] }] }

def placedRun (ns : String) : List (Exchange client) :=
  traceWith (answering sharingPolicy)
    (processItem (placedPlatform ns) "kubetemplater-system" ⟨"team-a", "web"⟩)
    (kubeTemplate [ownedTemplate ns])

def placedPatched (ns : String) : Unstructured :=
  appliedObject (placedPlatform ns) (kubeTemplate []).metadata (ownedTemplate ns)
    (placedConfigMap ns)

private theorem placed_readable (ns : String) : Readable (ownedTemplate ns)
    (placedConfigMap ns) where
  writable := rfl
  labels := by
    intro entries found
    cases found
  owners := fun _ => ⟨[], .nil⟩

theorem processItem_patches_exact_own :
    Readable (ownedTemplate "team-a") (placedConfigMap "team-a") ∧
      PatchesTemplate (placedPlatform "team-a") (placedRun "team-a") (placedPatched "team-a") :=
  ⟨placed_readable "team-a",
    processItem_patches_exact (reference_fieldAccessors _ _) "kubetemplater-system"
      ⟨"team-a", "web"⟩ (placedRun "team-a") _ (executes_runWith _ _ _) (placedPatched "team-a")
      (by
        have patched : (placedRun "team-a").filterMap issuedPatch = [placedPatched "team-a"] := rfl
        rw [patched]
        exact List.mem_singleton_self _)⟩

theorem foreign_owner_appended :
    (placedRun "team-b").filterMap issuedPatch = [placedPatched "team-b"] ∧
      (placedPlatform "team-b").getNamespace (placedPatched "team-b") = "team-b" ∧
      ownerItems (placedPatched "team-b") =
        [ownerValue (ownerReference (kubeTemplate []).metadata)] ∧
      ¬ ExactChanges (placedPlatform "team-b") (kubeTemplate []).metadata (ownedTemplate "team-b")
        (placedConfigMap "team-b") (placedPatched "team-b") := by
  refine ⟨rfl, rfl, rfl, ?_⟩
  intro exactly
  have unchanged := exactly.unowned (fun both => absurd both.2 (by decide))
  cases unchanged

end KubeTemplater.Worker
