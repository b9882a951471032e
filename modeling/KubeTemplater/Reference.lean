/-
An executable instance of the third-party functions for a table of documents.

The accessors follow the nested-field helpers of unstructured objects on every
input.  Decoding and digests are given by tables, CEL and patterns are left
failing: a run that needs them brings its own.
-/

import KubeTemplater.Client
import KubeTemplater.Metadata

namespace KubeTemplater.Reference

def metadataField (object : Unstructured) (field : String) : Option Value :=
  match mapGet object.object "metadata" with
  | some (.map entries) => mapGet entries field
  | _ => none

def setMetadataField (object : Unstructured) (field : String) (value : Value) : Unstructured :=
  match mapGet object.object "metadata" with
  | none => { object := mapSet object.object "metadata" (.map [(field, value)]) }
  | some (.map entries) =>
      { object := mapSet object.object "metadata" (.map (mapSet entries field value)) }
  | some _ => object

def removeMetadataField (object : Unstructured) (field : String) : Unstructured :=
  match mapGet object.object "metadata" with
  | some (.map entries) =>
      { object := mapSet object.object "metadata"
          (.map (entries.filter (fun entry => entry.1 != field))) }
  | _ => object

theorem metadataField_set_self (object : Unstructured) (field : String) (value : Value)
    (writable : object.metadataWritable = true) :
    metadataField (setMetadataField object field value) field = some value := by
  unfold setMetadataField
  unfold Unstructured.metadataWritable at writable
  split
  · unfold metadataField
    rw [mapGet_mapSet_self]
    exact mapGet_mapSet_self [] field value
  · unfold metadataField
    rw [mapGet_mapSet_self]
    exact mapGet_mapSet_self _ field value
  · rename_i other notMap found
    rw [found] at writable
    cases other with
    | map entries => exact absurd rfl (notMap entries)
    | _ => cases writable

theorem metadataField_set_other (object : Unstructured) (field other : String) (value : Value)
    (different : other ≠ field) :
    metadataField (setMetadataField object field value) other = metadataField object other := by
  unfold setMetadataField
  split
  · rename_i missing
    unfold metadataField
    rw [mapGet_mapSet_self, missing]
    exact mapGet_mapSet_other [] field other value different
  · rename_i entries found
    unfold metadataField
    rw [mapGet_mapSet_self, found]
    exact mapGet_mapSet_other entries field other value different
  · rfl

theorem mapGet_setMetadataField (object : Unstructured) (field name : String) (value : Value)
    (different : name ≠ "metadata") :
    mapGet (setMetadataField object field value).object name = mapGet object.object name := by
  unfold setMetadataField
  split
  · exact mapGet_mapSet_other _ _ _ _ different
  · exact mapGet_mapSet_other _ _ _ _ different
  · rfl

theorem mapGet_removeMetadataField (object : Unstructured) (field name : String)
    (different : name ≠ "metadata") :
    mapGet (removeMetadataField object field).object name = mapGet object.object name := by
  unfold removeMetadataField
  split
  · exact mapGet_mapSet_other _ _ _ _ different
  · rfl

theorem metadataField_remove_self (object : Unstructured) (field : String) :
    metadataField (removeMetadataField object field) field = none := by
  unfold removeMetadataField
  split
  · rename_i entries found
    unfold metadataField
    rw [mapGet_mapSet_self]
    exact mapGet_filter_self entries field
  · rename_i notMap
    unfold metadataField
    split
    · rename_i entries found
      exact absurd found (notMap entries)
    · rfl

theorem metadataField_remove_other (object : Unstructured) (field other : String)
    (different : other ≠ field) :
    metadataField (removeMetadataField object field) other = metadataField object other := by
  unfold removeMetadataField
  split
  · rename_i entries found
    unfold metadataField
    rw [mapGet_mapSet_self, found]
    exact mapGet_filter_other entries field other different
  · rfl

theorem removeMetadataField_writable (object : Unstructured) (field : String)
    (writable : object.metadataWritable = true) :
    (removeMetadataField object field).metadataWritable = true := by
  unfold removeMetadataField
  split
  · unfold Unstructured.metadataWritable
    rw [mapGet_mapSet_self]
  · exact writable

/-- Writing what is there changes nothing. -/
theorem setMetadataField_same (object : Unstructured) (field : String) (value : Value)
    (present : metadataField object field = some value) :
    setMetadataField object field value = object := by
  unfold metadataField at present
  unfold setMetadataField
  split at present
  · rename_i entries found
    rw [found]
    dsimp only
    rw [mapSet_of_mapGet entries field value present,
      mapSet_of_mapGet object.object "metadata" _ found]
  · cases present

theorem setMetadataField_unwritable (object : Unstructured) (field : String) (value : Value)
    (unwritable : object.metadataWritable = false) :
    setMetadataField object field value = object := by
  unfold Unstructured.metadataWritable at unwritable
  unfold setMetadataField
  split
  · rename_i missing
    rw [missing] at unwritable
    cases unwritable
  · rename_i entries found
    rw [found] at unwritable
    cases unwritable
  · rfl

theorem setMetadataField_writable (object : Unstructured) (field : String) (value : Value)
    (writable : object.metadataWritable = true) :
    (setMetadataField object field value).metadataWritable = true := by
  unfold setMetadataField
  split
  · unfold Unstructured.metadataWritable
    rw [mapGet_mapSet_self]
  · unfold Unstructured.metadataWritable
    rw [mapGet_mapSet_self]
  · exact writable

def stringValue : Value → Option String
  | .str text => some text
  | _ => none

def stringEntries : List (String × Value) → Option (List (String × String))
  | [] => some []
  | (key, value) :: rest =>
      match stringValue value, stringEntries rest with
      | some text, some entries => some ((key, text) :: entries)
      | _, _ => none

def labelEntries (labels : List (String × String)) : List (String × Value) :=
  labels.map (fun label => (label.1, .str label.2))

theorem mapGet_labelEntries (labels : List (String × String)) (label : String) :
    mapGet (labelEntries labels) label = (mapGet labels label).map .str := by
  induction labels with
  | nil => rfl
  | cons entry rest ih =>
      unfold labelEntries at ih ⊢
      simp only [mapGet, List.map_cons] at ih ⊢
      rw [List.lookup_cons, List.lookup_cons]
      cases label == entry.1 with
      | true => rfl
      | false => exact ih

private theorem stringEntries_labelEntries (labels : List (String × String)) :
    stringEntries (labelEntries labels) = some labels := by
  induction labels with
  | nil => rfl
  | cons label rest ih =>
      unfold labelEntries at ih ⊢
      simp only [List.map_cons, stringEntries, stringValue, ih]

theorem labelEntries_of_stringEntries (entries : List (String × Value))
    (labels : List (String × String)) (strings : stringEntries entries = some labels) :
    labelEntries labels = entries := by
  induction entries generalizing labels with
  | nil =>
      cases strings
      rfl
  | cons entry rest ih =>
      obtain ⟨key, value⟩ := entry
      simp only [stringEntries] at strings
      split at strings
      · rename_i text later isString others
        cases strings
        have tail := ih later others
        cases value with
        | str content =>
            cases isString
            unfold labelEntries at tail ⊢
            rw [List.map_cons, tail]
        | _ => cases isString
      · cases strings

def boolEntry (field : String) : Option Bool → List (String × Value)
  | none => []
  | some value => [(field, .bool value)]

def ownerValue (reference : OwnerReference) : Value :=
  .map
    ([("apiVersion", .str reference.apiVersion), ("kind", .str reference.kind),
        ("name", .str reference.name), ("uid", .str reference.uid)] ++
      boolEntry "controller" reference.controller ++
      boolEntry "blockOwnerDeletion" reference.blockOwnerDeletion)

def stringField (entries : List (String × Value)) (field : String) : String :=
  match mapGet entries field with
  | some (.str text) => text
  | _ => ""

def boolField (entries : List (String × Value)) (field : String) : Option Bool :=
  match mapGet entries field with
  | some (.bool value) => some value
  | _ => none

def extractOwnerReference : Value → Option OwnerReference
  | .map entries => some
      { apiVersion := stringField entries "apiVersion"
        kind := stringField entries "kind"
        name := stringField entries "name"
        uid := stringField entries "uid"
        controller := boolField entries "controller"
        blockOwnerDeletion := boolField entries "blockOwnerDeletion" }
  | _ => none

theorem extractOwnerReference_ownerValue (reference : OwnerReference) :
    extractOwnerReference (ownerValue reference) = some reference := by
  obtain ⟨apiVersion, kind, name, uid, controller, blockOwnerDeletion⟩ := reference
  cases controller <;> cases blockOwnerDeletion <;> rfl

def ownerReferences : List Value → Option (List OwnerReference)
  | [] => some []
  | value :: rest =>
      match extractOwnerReference value, ownerReferences rest with
      | some reference, some references => some (reference :: references)
      | _, _ => none

theorem ownerReferences_map (references : List OwnerReference) :
    ownerReferences (references.map ownerValue) = some references := by
  induction references with
  | nil => rfl
  | cons reference rest ih =>
      simp only [List.map_cons, ownerReferences, extractOwnerReference_ownerValue, ih]

def nestedValue : Value → List String → Except String (Option Value)
  | value, [] => .ok (some value)
  | .null, _ :: _ => .ok none
  | .map entries, field :: rest =>
      match mapGet entries field with
      | none => .ok none
      | some value => nestedValue value rest
  | _, field :: _ => .error ("accessor error at " ++ field)

def nestedFieldCopy (object : Unstructured) (fields : List String) :
    Except String (Option Value) :=
  nestedValue (.map object.object) fields

def nestedString (object : Unstructured) (fields : List String) :
    Except String (Option String) :=
  match nestedFieldCopy object fields with
  | .error text => .error text
  | .ok none => .ok none
  | .ok (some (.str text)) => .ok (some text)
  | .ok (some _) => .error "accessor error: not a string"

def nestedInt64 (object : Unstructured) (fields : List String) :
    Except String (Option Int) :=
  match nestedFieldCopy object fields with
  | .error text => .error text
  | .ok none => .ok none
  | .ok (some (.int value)) => .ok (some value)
  | .ok (some _) => .error "accessor error: not an int64"

def groupVersionKind (object : Unstructured) : GroupVersionKind :=
  let kind := stringField object.object "kind"
  match (stringField object.object "apiVersion").toList.splitOn '/' with
  | [version] => { group := "", version := String.ofList version, kind := kind }
  | [group, version] =>
      { group := String.ofList group, version := String.ofList version, kind := kind }
  | _ => { group := "", version := "", kind := "" }

def gvkString (gvk : GroupVersionKind) : String :=
  gvk.group ++ "/" ++ gvk.version ++ ", Kind=" ++ gvk.kind

def templateJson (template : Template) : String :=
  "\x7b\"object\":" ++ template.object.raw ++
    (if template.replace then ",\"replace\":true" else "") ++
    (if template.referenced then ",\"referenced\":true" else "") ++ "\x7d"

def specJson (spec : KubeTemplateSpec) : String :=
  "\x7b\"templates\":[" ++ ",".intercalate (spec.templates.map templateJson) ++ "]\x7d"

def metadataString (object : Unstructured) (field : String) : String :=
  match metadataField object field with
  | some (.str text) => text
  | _ => ""

def platform (documents : List (String × Unstructured)) (digests : List (String × String)) :
    Platform :=
  { unmarshal := fun raw =>
      match mapGet documents raw with
      | some object => .ok object
      | none => .error "not a document of the table"
    groupVersionKind := groupVersionKind
    gvkString := gvkString
    getName := fun object => metadataString object "name"
    getNamespace := fun object => metadataString object "namespace"
    setNamespace := fun object ns =>
      if ns = "" then removeMetadataField object "namespace"
      else setMetadataField object "namespace" (.str ns)
    getLabels := fun object =>
      match metadataField object "labels" with
      | some (.map entries) => stringEntries entries
      | _ => none
    setLabels := fun object labels =>
      setMetadataField object "labels" (.map (labelEntries labels))
    getOwnerReferences := fun object =>
      match metadataField object "ownerReferences" with
      | some (.list items) => (ownerReferences items).getD []
      | _ => []
    setOwnerReferences := fun object references =>
      setMetadataField object "ownerReferences" (.list (references.map ownerValue))
    nestedFieldCopy := nestedFieldCopy
    nestedString := nestedString
    nestedInt64 := nestedInt64
    deepEqual := fun _ _ => true
    cel := fun _ _ _ => .error (.parse "no expressions here")
    celLimit := fun _ _ _ => none
    regexpCompile := fun _ => .error "no patterns here"
    marshalSpec := fun spec => some (specJson spec)
    sha256Hex := fun text => (mapGet digests text).getD ""
    conflictRetries := 3 }

theorem platform_metadataLaws (documents : List (String × Unstructured))
    (digests : List (String × String)) : MetadataLaws (platform documents digests) where
  getNamespace_setNamespace := by
    intro object ns writable named
    simp only [platform, if_neg named, metadataString]
    rw [metadataField_set_self object "namespace" (.str ns) writable]
  getNamespace_setLabels := by
    intro object labels
    simp only [platform, metadataString]
    rw [metadataField_set_other object "labels" "namespace" _ (by decide)]
  getNamespace_setOwnerReferences := by
    intro object references
    simp only [platform, metadataString]
    rw [metadataField_set_other object "ownerReferences" "namespace" _ (by decide)]
  getLabels_setLabels := by
    intro object labels writable
    simp only [platform]
    rw [metadataField_set_self object "labels" _ writable]
    exact stringEntries_labelEntries labels
  setLabels_getLabels := by
    intro object labels found
    simp only [platform] at found ⊢
    split at found
    · rename_i entries present
      rw [labelEntries_of_stringEntries entries labels found]
      exact setMetadataField_same object "labels" _ present
    · cases found
  getOwnerReferences_setOwnerReferences := by
    intro object references writable
    simp only [platform]
    rw [metadataField_set_self object "ownerReferences" _ writable]
    dsimp only
    rw [ownerReferences_map]
    rfl
  getOwnerReferences_setLabels := by
    intro object labels
    simp only [platform]
    rw [metadataField_set_other object "labels" "ownerReferences" _ (by decide)]
  setLabels_writable := by
    intro object labels writable
    exact setMetadataField_writable object "labels" _ writable
  setNamespace_unwritable := by
    intro object ns unwritable
    simp only [platform]
    split
    · unfold removeMetadataField
      unfold Unstructured.metadataWritable at unwritable
      split
      · rename_i entries found
        rw [found] at unwritable
        cases unwritable
      · rfl
    · exact setMetadataField_unwritable object "namespace" _ unwritable
  setLabels_unwritable := by
    intro object labels unwritable
    exact setMetadataField_unwritable object "labels" _ unwritable
  setOwnerReferences_unwritable := by
    intro object references unwritable
    exact setMetadataField_unwritable object "ownerReferences" _ unwritable

theorem groupVersionKind_eq {left right : Unstructured}
    (same : ∀ field, field ≠ "metadata" → mapGet left.object field = mapGet right.object field) :
    groupVersionKind left = groupVersionKind right := by
  unfold groupVersionKind stringField
  rw [same "kind" (by decide), same "apiVersion" (by decide)]

theorem platform_kindLaws (documents : List (String × Unstructured))
    (digests : List (String × String)) : KindLaws (platform documents digests) where
  setNamespace := by
    intro object ns
    simp only [platform]
    split
    · exact groupVersionKind_eq (mapGet_removeMetadataField object "namespace")
    · exact groupVersionKind_eq (fun field => mapGet_setMetadataField object "namespace" field _)
  setLabels := fun object _ =>
    groupVersionKind_eq (fun field => mapGet_setMetadataField object "labels" field _)
  setOwnerReferences := fun object _ =>
    groupVersionKind_eq (fun field => mapGet_setMetadataField object "ownerReferences" field _)
  getNamespace_cleared := by
    intro object
    simp only [platform, if_pos, metadataString]
    rw [metadataField_remove_self]

theorem platform_unmarshal (raw : String) (object : Unstructured)
    (documents : List (String × Unstructured)) (digests : List (String × String)) :
    (platform ((raw, object) :: documents) digests).unmarshal raw = .ok object := by
  simp [platform, mapGet]

def configMapJson (name mode : String) : String :=
  "\x7b\"apiVersion\":\"v1\",\"kind\":\"ConfigMap\",\"metadata\":\x7b\"name\":\"" ++ name ++
    "\"\x7d,\"data\":\x7b\"mode\":\"" ++ mode ++ "\"\x7d\x7d"

def configMap (name mode : String) : Unstructured :=
  { object :=
      [("apiVersion", .str "v1"), ("kind", .str "ConfigMap"),
        ("metadata", .map [("name", .str name)]), ("data", .map [("mode", .str mode)])] }

def configMapTemplate (name mode : String) : Template :=
  { object := { raw := configMapJson name mode }, replace := false, referenced := false }

def configMapRule (fieldValidations : List FieldValidation) : ValidationRule :=
  { kind := "ConfigMap"
    group := ""
    version := "v1"
    rule := ""
    fieldValidations := fieldValidations
    targetNamespaces := ["team-a"] }

def configMapPolicy (fieldValidations : List FieldValidation) : KubeTemplatePolicy :=
  { ns := "kubetemplater-system"
    name := "team-a-policy"
    resourceVersion := 1
    sourceNamespace := "team-a"
    validationRules := [configMapRule fieldValidations] }

def kubeTemplate (templates : List Template) : KubeTemplate :=
  { metadata :=
      { ns := "team-a", name := "web", uid := "5f0c", resourceVersion := 1
        labels := [], annotations := [] }
    spec := { templates := templates }
    status := .initial }

def settingsPlatform : Platform :=
  platform [(configMapJson "settings" "fast", configMap "settings" "fast")] []

def settingsTemplate : Template := configMapTemplate "settings" "fast"

theorem settings_decodes :
    settingsPlatform.unmarshal settingsTemplate.object.raw =
      .ok (configMap "settings" "fast") :=
  platform_unmarshal _ _ _ _

def settingsSpec (mode : String) : KubeTemplateSpec :=
  { templates := [configMapTemplate "settings" mode] }

def versionsPlatform : Platform :=
  platform
    [(configMapJson "settings" "fast", configMap "settings" "fast"),
      (configMapJson "settings" "slow", configMap "settings" "slow")]
    [(specJson (settingsSpec "fast"),
        "dd716494610e952427cea68eeb8bd835201a981abe7bddb11984a37905e4aa94"),
      (specJson (settingsSpec "slow"),
        "c90b9c445286cf9af54d39529914ef23943fa66a13cc42f29daddcd332fbd5d4")]

theorem versions_unmarshal (raw : String) (decoded : Unstructured)
    (decodes : versionsPlatform.unmarshal raw = .ok decoded) :
    ∃ mode, (mode = "fast" ∨ mode = "slow") ∧ raw = configMapJson "settings" mode ∧
      decoded = configMap "settings" mode := by
  simp only [versionsPlatform, platform, mapGet, List.lookup_cons, List.lookup_nil] at decodes
  split at decodes
  · rename_i object found
    cases decodes
    split at found
    · rename_i isRaw
      cases found
      exact ⟨"fast", .inl rfl, beq_iff_eq.mp isRaw, rfl⟩
    · split at found
      · rename_i isRaw
        cases found
        exact ⟨"slow", .inr rfl, beq_iff_eq.mp isRaw, rfl⟩
      · cases found
  · cases decodes

/-- The answers of a server that holds nothing and takes what it is sent. -/
def bareAnswer : (request : Call) → request.Answer
  | .getTemplate _ => .error ⟨.notFound, "not found"⟩
  | .updateStatus _ => .ok 2
  | .policyCacheGet _ _ => .error ⟨.notFound, "not found"⟩
  | .getResource _ _ _ => .error ⟨.notFound, "not found"⟩
  | .patch object _ _ => .ok object
  | .delete _ => .ok ()
  | .enqueue _ _ => ()
  | .queueContains _ => false
  | .recordEvent _ _ _ => ()
  | .now => 0

/-- A server that holds one KubeTemplate and no resources, with a policy cache
that always has the policy: no call fails. -/
def answering (policy : KubeTemplatePolicy) :
    (request : Call) → KubeTemplate → request.Answer × KubeTemplate
  | .getTemplate _, stored => (.ok stored, stored)
  | .updateStatus template, stored =>
      let revision := stored.metadata.resourceVersion + 1
      (.ok revision,
        { stored with
          metadata := { stored.metadata with resourceVersion := revision }
          status := template.status })
  | .policyCacheGet _ _, stored => (.ok policy, stored)
  | request, stored => (bareAnswer request, stored)

end KubeTemplater.Reference
