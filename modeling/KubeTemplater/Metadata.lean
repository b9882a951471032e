/-
The documented behaviour of the metadata accessors of unstructured objects, as
far as the two apply paths depend on it.
-/

import KubeTemplater.Platform

namespace KubeTemplater

/-- `metadata` is absent or a map.  The setters drop the error they get on any
other value and leave the object as it is. -/
def Unstructured.metadataWritable (object : Unstructured) : Bool :=
  match mapGet object.object "metadata" with
  | none => true
  | some (.map _) => true
  | some _ => false

structure MetadataLaws (platform : Platform) : Prop where
  getNamespace_setNamespace : ∀ object ns, object.metadataWritable = true → ns ≠ "" →
    platform.getNamespace (platform.setNamespace object ns) = ns
  getNamespace_setLabels : ∀ object labels,
    platform.getNamespace (platform.setLabels object labels) = platform.getNamespace object
  getNamespace_setOwnerReferences : ∀ object references,
    platform.getNamespace (platform.setOwnerReferences object references) =
      platform.getNamespace object
  getLabels_setLabels : ∀ object labels, object.metadataWritable = true →
    platform.getLabels (platform.setLabels object labels) = some labels
  setLabels_getLabels : ∀ object labels, platform.getLabels object = some labels →
    platform.setLabels object labels = object
  getOwnerReferences_setOwnerReferences : ∀ object references,
    object.metadataWritable = true →
      platform.getOwnerReferences (platform.setOwnerReferences object references) = references
  getOwnerReferences_setLabels : ∀ object labels,
    platform.getOwnerReferences (platform.setLabels object labels) =
      platform.getOwnerReferences object
  setLabels_writable : ∀ object labels, object.metadataWritable = true →
    (platform.setLabels object labels).metadataWritable = true
  setNamespace_unwritable : ∀ object ns, object.metadataWritable = false →
    platform.setNamespace object ns = object
  setLabels_unwritable : ∀ object labels, object.metadataWritable = false →
    platform.setLabels object labels = object
  setOwnerReferences_unwritable : ∀ object references, object.metadataWritable = false →
    platform.setOwnerReferences object references = object

/-- The setters leave the kind alone, and the empty namespace is no namespace. -/
structure KindLaws (platform : Platform) : Prop where
  setNamespace : ∀ object ns,
    platform.groupVersionKind (platform.setNamespace object ns) = platform.groupVersionKind object
  setLabels : ∀ object labels,
    platform.groupVersionKind (platform.setLabels object labels) = platform.groupVersionKind object
  setOwnerReferences : ∀ object references,
    platform.groupVersionKind (platform.setOwnerReferences object references) =
      platform.groupVersionKind object
  getNamespace_cleared : ∀ object, platform.getNamespace (platform.setNamespace object "") = ""

end KubeTemplater
