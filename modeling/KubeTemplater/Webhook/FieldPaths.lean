/-
The dotted field paths of a policy against the keys of an object.

A path is split at every dot.  The split undoes the join exactly as long as no key
has a dot of its own.  Under a key that has one the split path leads elsewhere, and a
forbidden field is refused only where something else stands in its way.
-/

import KubeTemplater.Webhook.Acceptance
import KubeTemplater.Reference

namespace KubeTemplater.Webhook

/-- Following the keys through nested maps reaches the value. -/
inductive Reaches : Value → List String → Value → Prop where
  | here (value : Value) : Reaches value [] value
  | inside (entries : List (String × Value)) (key : String) (inner : Value)
      (rest : List String) (value : Value) (found : mapGet entries key = some inner)
      (later : Reaches inner rest value) : Reaches (.map entries) (key :: rest) value

structure FollowsKeys (platform : Platform) : Prop where
  reached : ∀ object keys value, Reaches (.map object.object) keys value →
    platform.nestedFieldCopy object keys = .ok (some value)
  missing : ∀ object front entries key rest, Reaches (.map object.object) front (.map entries) →
    mapGet entries key = none →
      platform.nestedFieldCopy object (front ++ key :: rest) = .ok none
  absent : ∀ object front key rest, Reaches (.map object.object) front .null →
    platform.nestedFieldCopy object (front ++ key :: rest) = .ok none
  /-- A value below which there is nothing to follow. -/
  blocked : ∀ object front value key rest, Reaches (.map object.object) front value →
    (∀ entries, value ≠ .map entries) → value ≠ .null →
      ∃ text, platform.nestedFieldCopy object (front ++ key :: rest) = .error text

variable {keys : List String}

theorem nestedValue_reached {value final : Value} (reaches : Reaches value keys final)
    (rest : List String) :
    Reference.nestedValue value (keys ++ rest) = Reference.nestedValue final rest := by
  induction reaches with
  | here value => rfl
  | inside entries key inner later value found _ ih =>
      simp only [List.cons_append, Reference.nestedValue, found]
      exact ih

theorem reference_followsKeys (documents : List (String × Unstructured))
    (digests : List (String × String)) :
    FollowsKeys (Reference.platform documents digests) where
  reached := by
    intro object keys value reaches
    have read := nestedValue_reached reaches []
    rw [List.append_nil] at read
    exact read.trans (by cases value <;> rfl)
  missing := by
    intro object front entries key rest reaches absent
    refine (nestedValue_reached reaches (key :: rest)).trans ?_
    simp only [Reference.nestedValue, absent]
  absent := fun _ _ key rest reaches => nestedValue_reached reaches (key :: rest)
  blocked := by
    intro object front value key rest reaches notMap notNull
    refine ⟨"accessor error at " ++ key, (nestedValue_reached reaches (key :: rest)).trans ?_⟩
    cases value with
    | null => exact absurd rfl notNull
    | map entries => exact absurd rfl (notMap entries)
    | _ => rfl

/-- The keys joined by dots are read back when none of them has a dot. -/
theorem fieldPathToKeys_join (keys : List String) (some : keys ≠ [])
    (dotless : ∀ key, key ∈ keys → '.' ∉ key.toList) :
    fieldPathToKeys (".".intercalate keys) = keys := by
  have apart : ∀ part, part ∈ keys.map String.toList → '.' ∉ part := by
    intro part member
    obtain ⟨key, isKey, rfl⟩ := List.mem_map.mp member
    exact dotless key isKey
  have joined : (".".intercalate keys).toList = ['.'].intercalate (keys.map String.toList) :=
    String.toList_intercalate
  unfold fieldPathToKeys
  rw [joined, List.splitOn_intercalate '.' apart (by simpa using some), List.map_map]
  have back : String.ofList ∘ String.toList = id := by
    funext key
    exact String.ofList_toList
  rw [back, List.map_id]

/-- Following the keys ends at a value, or comes before to one that is no map and not null. -/
def Stops (root : Value) (keys : List String) : Prop :=
  ∃ front value rest, keys = front ++ rest ∧ Reaches root front value ∧
    (rest = [] ∨ (∀ entries, value ≠ .map entries) ∧ value ≠ .null)

/-- Following the keys comes to a map without the next key, or to null. -/
def Vanishes (root : Value) (keys : List String) : Prop :=
  ∃ front value key rest, keys = front ++ key :: rest ∧ Reaches root front value ∧
    (value = .null ∨ ∃ entries, value = .map entries ∧ mapGet entries key = none)

theorem Stops.inside {entries : List (String × Value)} {key : String} {inner : Value}
    {rest : List String} (found : mapGet entries key = some inner) (stops : Stops inner rest) :
    Stops (.map entries) (key :: rest) := by
  obtain ⟨front, value, back, split, reaches, ends⟩ := stops
  exact ⟨key :: front, value, back, congrArg (key :: ·) split,
    .inside entries key inner front value found reaches, ends⟩

theorem Vanishes.inside {entries : List (String × Value)} {key : String} {inner : Value}
    {rest : List String} (found : mapGet entries key = some inner)
    (vanishes : Vanishes inner rest) : Vanishes (.map entries) (key :: rest) := by
  obtain ⟨front, value, next, back, split, reaches, ends⟩ := vanishes
  exact ⟨key :: front, value, next, back, congrArg (key :: ·) split,
    .inside entries key inner front value found reaches, ends⟩

private theorem stops_or_vanishes (root : Value) (keys : List String) :
    Stops root keys ∨ Vanishes root keys := by
  induction keys generalizing root with
  | nil => exact Or.inl ⟨[], root, [], rfl, .here root, Or.inl rfl⟩
  | cons key rest ih =>
      by_cases null : root = .null
      · exact Or.inr ⟨[], root, key, rest, rfl, .here root, Or.inl null⟩
      by_cases isMap : ∃ entries, root = .map entries
      · obtain ⟨entries, rfl⟩ := isMap
        cases found : mapGet entries key with
        | none => exact Or.inr ⟨[], _, key, rest, rfl, .here _, Or.inr ⟨entries, rfl, found⟩⟩
        | some inner =>
            rcases ih inner with stops | vanishes
            · exact Or.inl (stops.inside found)
            · exact Or.inr (vanishes.inside found)
      · refine Or.inl ⟨[], root, key :: rest, rfl, .here root, Or.inr ⟨?_, null⟩⟩
        intro entries same
        exact isMap ⟨entries, same⟩

theorem FollowsKeys.vanished {platform : Platform} (follows : FollowsKeys platform)
    {object : Unstructured} (vanishes : Vanishes (.map object.object) keys) :
    platform.nestedFieldCopy object keys = .ok none := by
  obtain ⟨front, value, key, rest, rfl, reaches, null | ⟨entries, isMap, none⟩⟩ := vanishes
  · exact follows.absent object front key rest (null ▸ reaches)
  · exact follows.missing object front entries key rest (isMap ▸ reaches) none

theorem FollowsKeys.stopped {platform : Platform} (follows : FollowsKeys platform)
    {object : Unstructured} (stops : Stops (.map object.object) keys) :
    platform.nestedFieldCopy object keys ≠ .ok none := by
  obtain ⟨front, value, rest, rfl, reaches, ends⟩ := stops
  cases rest with
  | nil =>
      rw [List.append_nil, follows.reached object front value reaches]
      intro same
      cases same
  | cons key rest =>
      obtain ⟨notMap, notNull⟩ := ends.resolve_left (List.cons_ne_nil key rest)
      obtain ⟨text, refused⟩ := follows.blocked object front value key rest reaches notMap notNull
      rw [refused]
      intro same
      cases same

/-- The field is refused unless its path leads to nothing. -/
theorem validateFieldForbidden_refuses (platform : Platform) (validation : FieldValidation)
    (object : Unstructured) (templateIdx : Nat) (pathed : validation.fieldPath ≠ "") :
    (∃ text, validateFieldForbidden platform validation object templateIdx = .error text) ↔
      platform.nestedFieldCopy object (fieldPathToKeys validation.fieldPath) ≠ .ok none := by
  unfold validateFieldForbidden
  rw [if_neg pathed]
  cases platform.nestedFieldCopy object (fieldPathToKeys validation.fieldPath) with
  | error text => simp
  | ok found => cases found <;> simp

private theorem join_ne_empty (some : keys ≠ []) (named : ∀ key, key ∈ keys → key ≠ "") :
    ".".intercalate keys ≠ "" := by
  cases keys with
  | nil => exact absurd rfl some
  | cons key rest =>
      intro empty
      have letters : (".".intercalate (key :: rest)).toList = [] := by rw [empty]; rfl
      rw [String.toList_intercalate, List.map_cons] at letters
      have first : key.toList = [] := by
        cases rest with
        | nil => simpa using letters
        | cons next later =>
            rw [List.map_cons, List.intercalate_cons_cons] at letters
            exact (List.append_eq_nil_iff.mp (List.append_eq_nil_iff.mp letters).1).1
      exact named key List.mem_cons_self (String.toList_eq_nil_iff.mp first)

/-- Keys without dots are followed to what they reach. -/
theorem stops_of_dotless {root value : Value} (some : keys ≠ []) (reaches : Reaches root keys value)
    (dotless : ∀ key, key ∈ keys → '.' ∉ key.toList) :
    Stops root (fieldPathToKeys (".".intercalate keys)) := by
  rw [fieldPathToKeys_join keys some dotless]
  exact ⟨keys, value, [], (List.append_nil keys).symm, reaches, Or.inl rfl⟩

/-- A path made of keys is refused exactly when, split at its dots, it leads to a value or is
stopped on the way by one that is neither a map nor null. -/
theorem forbidden_refused_iff (platform : Platform) (follows : FollowsKeys platform)
    (object : Unstructured) (keys : List String) (validation : FieldValidation)
    (templateIdx : Nat) (some : keys ≠ []) (named : ∀ key, key ∈ keys → key ≠ "")
    (path : validation.fieldPath = ".".intercalate keys) :
    (∃ text, validateFieldForbidden platform validation object templateIdx = .error text) ↔
      Stops (.map object.object) (fieldPathToKeys validation.fieldPath) := by
  have pathed : validation.fieldPath ≠ "" := path ▸ join_ne_empty some named
  rw [validateFieldForbidden_refuses platform validation object templateIdx pathed]
  constructor
  · intro found
    rcases stops_or_vanishes (.map object.object) (fieldPathToKeys validation.fieldPath) with
      stops | vanishes
    · exact stops
    · exact absurd (follows.vanished vanishes) found
  · exact follows.stopped

def labelledSettings : Unstructured :=
  { object :=
      [("apiVersion", .str "v1"), ("kind", .str "ConfigMap"),
        ("metadata", .map [("name", .str "settings"),
          ("labels", .map [("app.kubernetes.io/name", .str "web")])])] }

def forbids (fieldPath : String) : FieldValidation :=
  { name := "no-field", fieldPath := fieldPath, type := .forbidden, cel := "", regex := ""
    min := none, max := none, message := "" }

/-- A ConfigMap with a key before the first dot of another one. -/
def overlappingSettings : Unstructured :=
  { object := [("data", .map [("app", .str "web"), ("app.yaml", .str "mode: fast")])] }

/-- A field under plain keys, and one under a dotted key in whose way another one stands. -/
theorem forbidden_refused_iff_settings :
    (Reaches (.map labelledSettings.object) ["metadata", "labels"]
        (.map [("app.kubernetes.io/name", .str "web")]) ∧
      ∃ text, validateFieldForbidden Reference.settingsPlatform (forbids "metadata.labels")
        labelledSettings 0 = .error text) ∧
      Reaches (.map overlappingSettings.object) ["data", "app.yaml"] (.str "mode: fast") ∧
        ∃ text, validateFieldForbidden Reference.settingsPlatform (forbids "data.app.yaml")
          overlappingSettings 0 = .error text := by
  have plain : Reaches (.map labelledSettings.object) ["metadata", "labels"]
      (.map [("app.kubernetes.io/name", .str "web")]) :=
    .inside _ _ _ _ _ rfl (.inside _ _ _ _ _ rfl (.here _))
  have dotted : Reaches (.map overlappingSettings.object) ["data", "app.yaml"]
      (.str "mode: fast") :=
    .inside _ _ _ _ _ rfl (.inside _ _ _ _ _ rfl (.here _))
  have inWay : Stops (.map overlappingSettings.object) ["data", "app", "yaml"] := by
    refine ⟨["data", "app"], .str "web", ["yaml"], rfl, ?_, Or.inr ⟨?_, ?_⟩⟩
    · exact .inside _ _ _ _ _ rfl (.inside _ _ _ _ _ rfl (.here _))
    · intro entries same
      cases same
    · intro same
      cases same
  have split : fieldPathToKeys "data.app.yaml" = ["data", "app", "yaml"] := by decide +kernel
  refine ⟨⟨plain, ?_⟩, dotted, ?_⟩
  · exact (forbidden_refused_iff _ (reference_followsKeys _ _) labelledSettings
      ["metadata", "labels"] _ 0 (by decide) (by decide) (by decide +kernel)).mpr
        (stops_of_dotless (by decide) plain (by decide +kernel))
  · exact (forbidden_refused_iff _ (reference_followsKeys _ _) overlappingSettings
      ["data", "app.yaml"] _ 0 (by decide) (by decide) (by decide +kernel)).mpr
        (split ▸ inWay)

theorem dotted_label_accepted :
    FollowsKeys Reference.settingsPlatform ∧
      ∃ (object : Unstructured) (keys : List String) (value : Value)
        (validation : FieldValidation),
        keys ≠ [] ∧ (∀ key, key ∈ keys → key ≠ "") ∧
          Reaches (.map object.object) keys value ∧
          validation.fieldPath = ".".intercalate keys ∧
          validateFieldForbidden Reference.settingsPlatform validation object 0 = .ok () := by
  refine ⟨reference_followsKeys _ _, labelledSettings,
    ["metadata", "labels", "app.kubernetes.io/name"], .str "web",
    forbids "metadata.labels.app.kubernetes.io/name", List.cons_ne_nil _ _, by decide +kernel,
    ?_, by decide +kernel, by decide +kernel⟩
  exact .inside _ _ _ _ _ rfl (.inside _ _ _ _ _ rfl (.inside _ _ _ _ _ rfl (.here _)))

end KubeTemplater.Webhook
