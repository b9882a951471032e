/-
What `hasDrift` compares.

It looks at the field `spec`, and at the field `data` when neither object has a
`spec`.  The other fields of an object, such as the `rules` of a Role, are not looked
at, and a compared field is told apart from one that is empty, so the comparison is
complete exactly when the other fields say nothing new and nothing but empty values
makes the difference.
-/

import KubeTemplater.Controller.KubeTemplateReconciler
import KubeTemplater.Reference

namespace KubeTemplater

mutual

/-- `apiequality.Semantic.DeepEqual` of decoded values: the order of the entries of a map
does not matter. -/
def Value.semanticEqual : Value → Value → Bool
  | .null, .null => true
  | .bool left, .bool right => left == right
  | .int left, .int right => left == right
  | .float left, .float right => left == right
  | .str left, .str right => left == right
  | .list left, .list right => semanticEqualItems left right
  | .map left, .map right =>
      semanticEqualEntries left right && right.all (fun entry => (mapGet left entry.1).isSome)
  | _, _ => false
termination_by structural left => left

def Value.semanticEqualItems : List Value → List Value → Bool
  | [], [] => true
  | left :: lefts, right :: rights => semanticEqual left right && semanticEqualItems lefts rights
  | _, _ => false
termination_by structural lefts => lefts

def Value.semanticEqualEntries : List (String × Value) → List (String × Value) → Bool
  | [], _ => true
  | entry :: rest, entries => semanticEqualEntry entry entries && semanticEqualEntries rest entries
termination_by structural entries => entries

def Value.semanticEqualEntry : String × Value → List (String × Value) → Bool
  | (key, value), entries =>
      match mapGet entries key with
      | none => false
      | some other => semanticEqual value other
termination_by structural entry => entry

end

mutual

def Value.keysOnce : Value → Bool
  | .list items => keysOnceItems items
  | .map entries => keysOnceEntries entries
  | _ => true
termination_by structural value => value

def Value.keysOnceItems : List Value → Bool
  | [] => true
  | item :: rest => keysOnce item && keysOnceItems rest
termination_by structural items => items

def Value.keysOnceEntries : List (String × Value) → Bool
  | [] => true
  | entry :: rest =>
      keysOnceEntry entry && (mapGet rest entry.1).isNone && keysOnceEntries rest
termination_by structural entries => entries

def Value.keysOnceEntry : String × Value → Bool
  | (_, value) => keysOnce value
termination_by structural entry => entry

end

theorem Value.keysOnceEntries_cons {key : String} {value : Value} {rest : List (String × Value)}
    (once : keysOnceEntries ((key, value) :: rest) = true) :
    value.keysOnce = true ∧ mapGet rest key = none ∧ keysOnceEntries rest = true := by
  simp only [keysOnceEntries, keysOnceEntry, Bool.and_eq_true, Option.isNone_iff_eq_none] at once
  exact ⟨once.1.1, once.1.2, once.2⟩

theorem Value.mapGet_of_keysOnce {entries : List (String × Value)}
    (once : keysOnceEntries entries = true) {key : String} {value : Value}
    (member : (key, value) ∈ entries) : mapGet entries key = some value := by
  induction entries with
  | nil => cases member
  | cons entry rest ih =>
      obtain ⟨first, firstValue⟩ := entry
      obtain ⟨_, absent, later⟩ := keysOnceEntries_cons once
      unfold mapGet
      rw [List.lookup_cons]
      rcases List.mem_cons.mp member with same | inRest
      · cases same
        rw [beq_self_eq_true]
      · have found := ih later inRest
        have different : (key == first) = false := by
          refine beq_eq_false_iff_ne.mpr ?_
          rintro rfl
          rw [absent] at found
          cases found
        rw [different]
        exact found

theorem Value.keysOnce_of_mapGet {entries : List (String × Value)}
    (once : keysOnceEntries entries = true) {key : String} {value : Value}
    (found : mapGet entries key = some value) : value.keysOnce = true := by
  induction entries with
  | nil => cases found
  | cons entry rest ih =>
      obtain ⟨first, firstValue⟩ := entry
      obtain ⟨isOnce, _, later⟩ := keysOnceEntries_cons once
      unfold mapGet at found
      rw [List.lookup_cons] at found
      split at found
      · cases found
        exact isOnce
      · exact ih later found

mutual

theorem Value.semanticEqual_refl (value : Value) (once : value.keysOnce = true) :
    value.semanticEqual value = true := by
  cases value with
  | null => rfl
  | list items =>
      simp only [keysOnce] at once
      simp only [semanticEqual]
      exact semanticEqualItems_refl items once
  | map entries =>
      simp only [keysOnce] at once
      simp only [semanticEqual, Bool.and_eq_true]
      constructor
      · exact semanticEqualEntries_refl entries entries once
          (fun entry member => mapGet_of_keysOnce once member)
      · refine List.all_eq_true.mpr ?_
        intro entry member
        rw [mapGet_of_keysOnce once member]
        rfl
  | _ => simp only [semanticEqual, beq_self_eq_true]
termination_by structural value

theorem Value.semanticEqualItems_refl (items : List Value) (once : keysOnceItems items = true) :
    semanticEqualItems items items = true := by
  cases items with
  | nil => rfl
  | cons item rest =>
      simp only [keysOnceItems, Bool.and_eq_true] at once
      simp only [semanticEqualItems, Bool.and_eq_true]
      exact ⟨semanticEqual_refl item once.1, semanticEqualItems_refl rest once.2⟩
termination_by structural items

theorem Value.semanticEqualEntries_refl (entries whole : List (String × Value))
    (once : keysOnceEntries entries = true)
    (read : ∀ entry, entry ∈ entries → mapGet whole entry.1 = some entry.2) :
    semanticEqualEntries entries whole = true := by
  cases entries with
  | nil => rfl
  | cons entry rest =>
      simp only [keysOnceEntries, Bool.and_eq_true] at once
      simp only [semanticEqualEntries, Bool.and_eq_true]
      exact ⟨semanticEqualEntry_refl entry whole once.1.1 (read entry List.mem_cons_self),
        semanticEqualEntries_refl rest whole once.2
          (fun later member => read later (List.mem_cons_of_mem entry member))⟩
termination_by structural entries

theorem Value.semanticEqualEntry_refl (entry : String × Value) (whole : List (String × Value))
    (once : keysOnceEntry entry = true) (read : mapGet whole entry.1 = some entry.2) :
    semanticEqualEntry entry whole = true := by
  obtain ⟨key, value⟩ := entry
  simp only [keysOnceEntry] at once
  dsimp only at read
  simp only [semanticEqualEntry, read]
  exact semanticEqual_refl value once
termination_by structural entry

end

mutual

/-- Null, an empty list, or a map with nothing but such entries. -/
def Value.isBlank : Value → Bool
  | .null => true
  | .list items => items.isEmpty
  | .map entries => isBlankEntries entries
  | _ => false
termination_by structural value => value

def Value.isBlankEntries : List (String × Value) → Bool
  | [] => true
  | entry :: rest => isBlankEntry entry && isBlankEntries rest
termination_by structural entries => entries

def Value.isBlankEntry : String × Value → Bool
  | (_, value) => isBlank value
termination_by structural entry => entry

end

mutual

/-- Equality up to nil and empty: at every depth an absent entry, null, an empty list and an
empty map are equal. -/
def Value.agrees : Value → Value → Bool
  | .bool left, .bool right => left == right
  | .int left, .int right => left == right
  | .float left, .float right => left == right
  | .str left, .str right => left == right
  | .list left, .list right => agreesItems left right
  | .map left, .map right =>
      agreesEntries left right &&
        right.all (fun entry => (mapGet left entry.1).isSome || entry.2.isBlank)
  | left, right => left.isBlank && right.isBlank
termination_by structural left => left

def Value.agreesItems : List Value → List Value → Bool
  | [], [] => true
  | left :: lefts, right :: rights => agrees left right && agreesItems lefts rights
  | _, _ => false
termination_by structural lefts => lefts

def Value.agreesEntries : List (String × Value) → List (String × Value) → Bool
  | [], _ => true
  | entry :: rest, entries => agreesEntry entry entries && agreesEntries rest entries
termination_by structural entries => entries

def Value.agreesEntry : String × Value → List (String × Value) → Bool
  | (key, value), entries =>
      match mapGet entries key with
      | none => value.isBlank
      | some other => agrees value other
termination_by structural entry => entry

end

mutual

theorem Value.agrees_of_semanticEqual (left right : Value)
    (equal : left.semanticEqual right = true) : left.agrees right = true := by
  cases left with
  | null =>
      cases right with
      | null => rfl
      | _ => cases equal
  | bool value =>
      cases right with
      | bool other => exact equal
      | _ => cases equal
  | int value =>
      cases right with
      | int other => exact equal
      | _ => cases equal
  | float text =>
      cases right with
      | float other => exact equal
      | _ => cases equal
  | str text =>
      cases right with
      | str other => exact equal
      | _ => cases equal
  | list items =>
      cases right with
      | list others =>
          simp only [semanticEqual] at equal
          simp only [agrees]
          exact agreesItems_of_semanticEqual items others equal
      | _ => cases equal
  | map entries =>
      cases right with
      | map others =>
          simp only [semanticEqual, Bool.and_eq_true] at equal
          simp only [agrees, Bool.and_eq_true]
          refine ⟨agreesEntries_of_semanticEqual entries others equal.1, ?_⟩
          rw [List.all_eq_true] at equal ⊢
          intro entry member
          rw [equal.2 entry member, Bool.true_or]
      | _ => cases equal
termination_by structural left

theorem Value.agreesItems_of_semanticEqual (lefts rights : List Value)
    (equal : semanticEqualItems lefts rights = true) : agreesItems lefts rights = true := by
  cases lefts with
  | nil =>
      cases rights with
      | nil => rfl
      | cons right rest => cases equal
  | cons left rest =>
      cases rights with
      | nil => cases equal
      | cons right others =>
          simp only [semanticEqualItems, Bool.and_eq_true] at equal
          simp only [agreesItems, Bool.and_eq_true]
          exact ⟨agrees_of_semanticEqual left right equal.1,
            agreesItems_of_semanticEqual rest others equal.2⟩
termination_by structural lefts

theorem Value.agreesEntries_of_semanticEqual (entries whole : List (String × Value))
    (equal : semanticEqualEntries entries whole = true) : agreesEntries entries whole = true := by
  cases entries with
  | nil => rfl
  | cons entry rest =>
      simp only [semanticEqualEntries, Bool.and_eq_true] at equal
      simp only [agreesEntries, Bool.and_eq_true]
      exact ⟨agreesEntry_of_semanticEqual entry whole equal.1,
        agreesEntries_of_semanticEqual rest whole equal.2⟩
termination_by structural entries

theorem Value.agreesEntry_of_semanticEqual (entry : String × Value)
    (whole : List (String × Value)) (equal : semanticEqualEntry entry whole = true) :
    agreesEntry entry whole = true := by
  obtain ⟨key, value⟩ := entry
  simp only [semanticEqualEntry] at equal
  simp only [agreesEntry]
  cases found : mapGet whole key with
  | none =>
      rw [found] at equal
      cases equal
  | some other =>
      rw [found] at equal
      exact agrees_of_semanticEqual value other equal
termination_by structural entry

end

structure ComparisonLaws (platform : Platform) : Prop where
  nestedFieldCopy_field : ∀ (object : Unstructured) (field : String),
    platform.nestedFieldCopy object [field] = .ok (mapGet object.object field)
  deepEqual_eq : ∀ left right, platform.deepEqual left right = left.semanticEqual right

namespace Controller

/-- A top-level field that says what the resource is to be. -/
def isContent (field : String) : Bool :=
  !(["apiVersion", "kind", "metadata", "status"].contains field)

def sameField : Option Value → Option Value → Bool
  | none, none => true
  | some left, some right => left.semanticEqual right
  | _, _ => false

/-- Semantic equality of a field, nil and empty collections being equal; an absent field is
nil. -/
def fieldAgrees (current desired : Unstructured) (field : String) : Bool :=
  ((mapGet current.object field).getD .null).agrees ((mapGet desired.object field).getD .null)

/-- The objects differ in what the resource is to be. -/
def Differ (current desired : Unstructured) : Prop :=
  ∃ field, isContent field = true ∧ fieldAgrees current desired field = false

def isCompared (current desired : Unstructured) (field : String) : Bool :=
  field == "spec" || field == "data" && (mapGet current.object "spec").isNone &&
    (mapGet desired.object "spec").isNone

/-- The compared fields are the same, nil told apart from empty. -/
def ComparedSame (current desired : Unstructured) : Prop :=
  ∀ field, isCompared current desired field = true →
    sameField (mapGet current.object field) (mapGet desired.object field) = true

structure ComparedSuffice (current desired : Unstructured) : Prop where
  /-- When the compared fields are the same, the others say nothing new. -/
  others : ComparedSame current desired → ∀ field, isContent field = true →
    isCompared current desired field = false → fieldAgrees current desired field = true
  /-- Objects that agree everywhere are not told apart by a nil or empty value. -/
  blanks : (∀ field, isContent field = true → fieldAgrees current desired field = true) →
    ComparedSame current desired

private theorem isCompared_cases {current desired : Unstructured} {field : String}
    (compared : isCompared current desired field = true) : field = "spec" ∨ field = "data" := by
  unfold isCompared at compared
  rw [Bool.or_eq_true_iff, Bool.and_eq_true_iff, Bool.and_eq_true_iff] at compared
  rcases compared with isSpec | ⟨⟨isData, _⟩, _⟩
  · exact .inl (beq_iff_eq.mp isSpec)
  · exact .inr (beq_iff_eq.mp isData)

private theorem fieldAgrees_of_sameField {current desired : Unstructured} {field : String}
    (same : sameField (mapGet current.object field) (mapGet desired.object field) = true) :
    fieldAgrees current desired field = true := by
  unfold fieldAgrees
  cases inCurrent : mapGet current.object field with
  | none =>
      cases inDesired : mapGet desired.object field with
      | none => rfl
      | some value =>
          rw [inCurrent, inDesired] at same
          cases same
  | some value =>
      cases inDesired : mapGet desired.object field with
      | none =>
          rw [inCurrent, inDesired] at same
          cases same
      | some other =>
          rw [inCurrent, inDesired] at same
          exact Value.agrees_of_semanticEqual value other same

private theorem not_differ_iff (current desired : Unstructured) :
    ¬ Differ current desired ↔
      ∀ field, isContent field = true → fieldAgrees current desired field = true := by
  unfold Differ
  simp only [not_exists, not_and, Bool.not_eq_false]

section

variable {platform : Platform} (laws : ComparisonLaws platform)
include laws

private theorem fieldOf_eq (object : Unstructured) (field : String) :
    fieldOf platform object field = mapGet object.object field := by
  unfold fieldOf
  rw [laws.nestedFieldCopy_field]

private theorem hasDrift_eq (current desired : Unstructured) :
    hasDrift platform current desired =
      !(sameField (mapGet current.object "spec") (mapGet desired.object "spec") &&
        (!isCompared current desired "data" ||
          sameField (mapGet current.object "data") (mapGet desired.object "data"))) := by
  unfold hasDrift isCompared
  simp only [fieldOf_eq laws, laws.deepEqual_eq]
  cases mapGet current.object "spec" with
  | some currentSpec =>
      cases mapGet desired.object "spec" with
      | some desiredSpec => simp [sameField]
      | none => simp [sameField]
  | none =>
      cases mapGet desired.object "spec" with
      | some desiredSpec => simp [sameField]
      | none =>
          cases mapGet current.object "data" with
          | _ =>
              cases mapGet desired.object "data" with
              | some desiredData => simp [sameField]
              | none => simp [sameField]

theorem hasDrift_self (object : Unstructured)
    (once : Value.keysOnceEntries object.object = true) :
    hasDrift platform object object = false := by
  have same (field : String) :
      sameField (mapGet object.object field) (mapGet object.object field) = true := by
    cases found : mapGet object.object field with
    | none => rfl
    | some value => exact Value.semanticEqual_refl value (Value.keysOnce_of_mapGet once found)
  rw [hasDrift_eq laws, same, same, Bool.or_true]
  rfl

private theorem hasDrift_false_iff (current desired : Unstructured) :
    hasDrift platform current desired = false ↔ ComparedSame current desired := by
  rw [hasDrift_eq laws, Bool.not_eq_false', Bool.and_eq_true_iff, Bool.or_eq_true_iff,
    Bool.not_eq_true']
  constructor
  · rintro ⟨spec, data⟩ field compared
    rcases isCompared_cases compared with rfl | rfl
    · exact spec
    · rcases data with uncompared | same
      · rw [compared] at uncompared
        cases uncompared
      · exact same
  · intro same
    refine ⟨same "spec" rfl, ?_⟩
    cases data : isCompared current desired "data" with
    | false => exact .inl rfl
    | true => exact .inr (same "data" data)

end

def comparingPlatform : Platform :=
  { Reference.settingsPlatform with deepEqual := Value.semanticEqual }

theorem comparingPlatform_laws : ComparisonLaws comparingPlatform where
  nestedFieldCopy_field := by
    intro object field
    change Reference.nestedFieldCopy object [field] = _
    unfold Reference.nestedFieldCopy
    simp only [Reference.nestedValue]
    cases mapGet object.object field with
    | none => rfl
    | some value => cases value <;> rfl
  deepEqual_eq := fun _ _ => rfl

/-- A difference between null and empty inside a field is none, but it is reported. -/
example :
    hasDrift comparingPlatform { object := [("spec", .map [("selector", .null)])] }
        { object := [("spec", .map [("selector", .map [])])] } = true ∧
      fieldAgrees { object := [("spec", .map [("selector", .null)])] }
        { object := [("spec", .map [("selector", .map [])])] } "spec" = true := by
  decide

def role (verb : String) : Unstructured :=
  { object :=
      [("apiVersion", .str "rbac.authorization.k8s.io/v1"), ("kind", .str "Role"),
        ("metadata", .map [("name", .str "reader"), ("namespace", .str "team-a")]),
        ("rules", .list
          [.map
            [("apiGroups", .list [.str ""]), ("resources", .list [.str "secrets"]),
              ("verbs", .list [.str verb])]])] }

end Controller

end KubeTemplater
