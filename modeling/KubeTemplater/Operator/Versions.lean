/-
The versions of KubeTemplates.

Every write makes a version with a new number, so the number tells the version: a status
update that the server accepts was computed from what is stored.
-/

import KubeTemplater.Operator.Calls

namespace KubeTemplater.Operator

open Library Library.Program

def Execution.calling {α : Type} (execution : Execution α) : Option (Option KubeTemplate × Call) :=
  match execution.program with
  | .done _ => none
  | .call request _ => some (execution.read, request)

namespace System

def calling (system : System) : Label → Option (Option KubeTemplate × Call)
  | .controller key _ => (system.reconciles key).bind Execution.calling
  | .worker worker _ => (system.workers worker).bind Execution.calling
  | _ => none

structure SameStore (left right : System) : Prop where
  templates : left.templates = right.templates
  history : left.history = right.history
  revision : left.revision = right.revision

inductive Stores (system next : System) (label : Label) : Prop where
  | kept (same : SameStore next system)
  | created (template : KubeTemplate) (isLabel : label = .create template)
      (free : system.templates template.key = none)
      (same : SameStore next (system.put { template with status := .initial }))
  | edited (key : NamespacedName) (spec : KubeTemplateSpec)
      (labels annotations : List (String × String)) (old : KubeTemplate)
      (isLabel : label = .update key spec labels annotations)
      (isStored : system.templates key = some old)
      (same : SameStore next (system.put (System.edited old spec labels annotations)))
  | removed (key : NamespacedName) (isLabel : label = .remove key)
      (same : SameStore next
        { system with templates := Function.update system.templates key none })
  | updated (read : Option KubeTemplate) (template stored : KubeTemplate)
      (calls : system.calling label = some (read, .updateStatus template))
      (isStored : system.templates template.key = some stored)
      (version : stored.metadata.resourceVersion = template.metadata.resourceVersion)
      (same : SameStore next (system.put { stored with status := template.status }))

variable {system : System}

theorem Effect.stores {after next : System} {label : Label} {request : Call}
    {read : Option KubeTemplate} (effect : Effect system request after)
    (calls : system.calling label = some (read, request)) (same : SameStore next after) :
    Stores system next label := by
  cases effect with
  | none => exact .kept same
  | status template stored isUpdate isStored version =>
      subst isUpdate
      exact .updated read template stored calls isStored version same
  | enqueued key priority isEnqueue =>
      exact .kept ⟨same.templates, same.history, same.revision⟩

variable (config : Config)

theorem step_stores {next : System} {label : Label} (taken : system.step config label = some next) :
    Stores system next label := by
  cases label with
  | create template =>
      obtain ⟨free, rfl⟩ := step_create config taken
      exact .created template rfl free ⟨rfl, rfl, rfl⟩
  | update key spec labels annotations =>
      obtain ⟨old, isStored, ⟨_, rfl⟩ | ⟨_, rfl⟩⟩ := step_update config taken
      · exact .edited key spec labels annotations old rfl isStored ⟨rfl, rfl, rfl⟩
      · exact .edited key spec labels annotations old rfl isStored ⟨rfl, rfl, rfl⟩
  | remove key =>
      rw [step_remove config taken]
      exact .removed key rfl ⟨rfl, rfl, rfl⟩
  | deliver key =>
      obtain ⟨_free, rfl⟩ := step_deliver config taken
      exact .kept ⟨rfl, rfl, rfl⟩
  | controller key outcome =>
      obtain ⟨execution, inside, effect⟩ := step_controller config taken
      rcases effect with ⟨result, _isDone, rfl⟩ | ⟨request, rest, answered, calls, isAnswer, rfl⟩
      · exact .kept ⟨rfl, rfl, rfl⟩
      · have next : system.calling (.controller key outcome) = some (execution.read, request) := by
          simp only [calling, inside, Option.bind_some, Execution.calling, calls]
        exact (respond_effect isAnswer).stores next ⟨rfl, rfl, rfl⟩
  | dequeue worker =>
      obtain ⟨session, ref, _free, _dequeued, _holds, rfl⟩ := step_dequeue config taken
      exact .kept ⟨rfl, rfl, rfl⟩
  | worker worker outcome =>
      obtain ⟨execution, inside, effect⟩ := step_worker config taken
      rcases effect with ⟨disposition, session, _isDone, _ends, rfl⟩ |
        ⟨request, rest, answered, calls, isAnswer, rfl⟩
      · exact .kept ⟨rfl, rfl, rfl⟩
      · have next : system.calling (.worker worker outcome) = some (execution.read, request) := by
          simp only [calling, inside, Option.bind_some, Execution.calling, calls]
        exact (respond_effect isAnswer).stores next ⟨rfl, rfl, rfl⟩
  | _ =>
      cases taken
      exact .kept ⟨rfl, rfl, rfl⟩

theorem put_cases {template found : KubeTemplate} {key : NamespacedName}
    (isStored : (system.put template).templates key = some found) :
    key = template.key ∧ found = system.stamp template ∨
      key ≠ template.key ∧ system.templates key = some found := by
  by_cases same : key = template.key
  · rw [same, put_templates_self] at isStored
    cases isStored
    exact .inl ⟨same, rfl⟩
  · rw [put_templates_other _ _ _ same] at isStored
    exact .inr ⟨same, isStored⟩

structure Versioned (system : System) : Prop where
  keyed : system.Keyed
  stored : ∀ key template, system.templates key = some template → template ∈ system.history
  bounded : ∀ template ∈ system.history, template.metadata.resourceVersion ≤ system.revision
  unique : ∀ left ∈ system.history, ∀ right ∈ system.history,
    left.metadata.resourceVersion = right.metadata.resourceVersion → left = right

theorem Versioned.same {next : System} (versioned : system.Versioned)
    (same : SameStore next system) :
    next.Versioned where
  keyed := by
    intro key template isStored
    rw [same.templates] at isStored
    exact versioned.keyed key template isStored
  stored := by
    intro key template isStored
    rw [same.templates] at isStored
    rw [same.history]
    exact versioned.stored key template isStored
  bounded := by
    rw [same.history, same.revision]
    exact versioned.bounded
  unique := by
    rw [same.history]
    exact versioned.unique

theorem Versioned.put (versioned : system.Versioned) (template : KubeTemplate) :
    (system.put template).Versioned where
  keyed := put_keyed versioned.keyed template
  stored := by
    intro key found isStored
    rcases put_cases isStored with ⟨_, rfl⟩ | ⟨_, old⟩
    · exact List.mem_cons_self
    · exact List.mem_cons_of_mem _ (versioned.stored key found old)
  bounded := by
    intro found member
    rcases List.mem_cons.mp member with rfl | old
    · exact Nat.le_refl _
    · exact Nat.le_succ_of_le (versioned.bounded found old)
  unique := by
    have fresh {other : KubeTemplate} (old : other ∈ system.history) :
        other.metadata.resourceVersion ≠ (system.stamp template).metadata.resourceVersion :=
      Nat.ne_of_lt (Nat.lt_succ_of_le (versioned.bounded other old))
    intro left isLeft right isRight equal
    rcases List.mem_cons.mp isLeft with rfl | oldLeft
    · rcases List.mem_cons.mp isRight with rfl | oldRight
      · rfl
      · exact absurd equal.symm (fresh oldRight)
    · rcases List.mem_cons.mp isRight with rfl | oldRight
      · exact absurd equal (fresh oldLeft)
      · exact versioned.unique left oldLeft right oldRight equal

theorem Versioned.removed (versioned : system.Versioned) (key : NamespacedName) :
    Versioned { system with templates := Function.update system.templates key none } where
  keyed := fun other template isStored =>
    versioned.keyed other template (update_none_eq_some isStored).2
  stored := fun other template isStored =>
    versioned.stored other template (update_none_eq_some isStored).2
  bounded := versioned.bounded
  unique := versioned.unique

theorem Stores.versioned {next : System} {label : Label} (stores : Stores system next label)
    (versioned : system.Versioned) : next.Versioned := by
  cases stores with
  | kept same => exact versioned.same same
  | created template isLabel free same => exact (versioned.put _).same same
  | edited key spec labels annotations old isLabel isStored same =>
      exact (versioned.put _).same same
  | removed key isLabel same => exact (versioned.removed key).same same
  | updated read template stored calls isStored version same =>
      exact (versioned.put _).same same

theorem Stores.history {next : System} {label : Label} (stores : Stores system next label)
    {template : KubeTemplate} (member : template ∈ system.history) : template ∈ next.history := by
  cases stores with
  | kept same =>
      rw [same.history]
      exact member
  | created other isLabel free same =>
      rw [same.history]
      exact List.mem_cons_of_mem _ member
  | edited key spec labels annotations old isLabel isStored same =>
      rw [same.history]
      exact List.mem_cons_of_mem _ member
  | removed key isLabel same =>
      rw [same.history]
      exact member
  | updated read other stored calls isStored version same =>
      rw [same.history]
      exact List.mem_cons_of_mem _ member

theorem start_versioned (session : Queue.Session)
    (policies : String → Except GoError KubeTemplatePolicy) :
    (start session policies).Versioned where
  keyed := by intro key template isStored; cases isStored
  stored := by intro key template isStored; cases isStored
  bounded := by intro template member; cases member
  unique := by intro left member; cases member

theorem Versioned.current (versioned : system.Versioned) {seen stored : KubeTemplate}
    {key : NamespacedName} (isVersion : seen ∈ system.history)
    (isStored : system.templates key = some stored)
    (version : stored.metadata.resourceVersion = seen.metadata.resourceVersion) : seen = stored :=
  versioned.unique seen isVersion stored (versioned.stored key stored isStored) version.symm

theorem Versioned.read (versioned : system.Versioned) {wanted : NamespacedName} {outcome : Outcome}
    {answered : Except GoError KubeTemplate × System} {template : KubeTemplate}
    (isAnswer : system.respond (.getTemplate wanted) outcome = some answered)
    (isOk : answered.1 = .ok template) : template ∈ system.history := by
  rcases respond_version isAnswer isOk with isStored | isVersion
  · exact versioned.stored wanted template isStored
  · exact isVersion

end System

end KubeTemplater.Operator
