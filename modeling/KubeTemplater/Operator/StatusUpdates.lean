/-
Status updates of several workers and `Reconcile` at the same time.

The server refuses an update whose version is not the stored one, and a version is
known by its number.  So whoever gets through has read what is stored: no update is
lost, and the counters add up.
-/

import KubeTemplater.Operator.Faithful
import KubeTemplater.Operator.StatusWrites
import KubeTemplater.Operator.Versions

namespace KubeTemplater.Operator

open Library Library.Program

structure Execution.Rewrites {α : Type} (execution : Execution α) (history : List KubeTemplate) :
    Prop where
  version : ∀ seen, execution.read = some seen → seen ∈ history
  rewrites : Guarantees rewriting (fun _ _ => True) execution.read execution.program

theorem Execution.Rewrites.grow {α : Type} {execution : Execution α}
    {history more : List KubeTemplate} (rewrites : execution.Rewrites history)
    (grows : ∀ template, template ∈ history → template ∈ more) : execution.Rewrites more :=
  ⟨fun seen isRead => grows seen (rewrites.version seen isRead), rewrites.rewrites⟩

theorem Execution.Rewrites.advance {α : Type} {execution : Execution α} {system : System}
    (rewrites : execution.Rewrites system.history) (versioned : system.Versioned)
    {request : Call} {rest : request.Answer → Program client α}
    (calls : execution.program = .call request rest) {outcome : Outcome}
    {answered : request.Answer × System}
    (isAnswer : system.respond request outcome = some answered) :
    (execution.advance request rest answered.1).Rewrites system.history := by
  have guarantees := rewrites.rewrites
  rw [calls] at guarantees
  refine ⟨?_, guarantees.2 answered.1 trivial⟩
  intro seen isRead
  cases request with
  | getTemplate wanted =>
      obtain ⟨answer, after⟩ := answered
      cases answer with
      | error err => exact rewrites.version seen isRead
      | ok template =>
          cases isRead
          exact versioned.read isAnswer rfl
  | _ => exact rewrites.version seen isRead

theorem Execution.Rewrites.calling {α : Type} {execution : Execution α}
    {history : List KubeTemplate} (rewrites : execution.Rewrites history)
    {read : Option KubeTemplate} {template : KubeTemplate}
    (calls : execution.calling = some (read, .updateStatus template)) :
    ∃ seen change, read = some seen ∧ seen ∈ history ∧ StatusChange change ∧
      template = { seen with status := change seen.status } := by
  unfold Execution.calling at calls
  split at calls
  · cases calls
  · rename_i request rest isProgram
    cases calls
    have guarantees := rewrites.rewrites
    rw [isProgram] at guarantees
    obtain ⟨seen, change, isRead, isChange, same⟩ := guarantees.1
    exact ⟨seen, change, isRead, rewrites.version seen isRead, isChange, same⟩

namespace System

structure Rewriting (system : System) : Prop where
  versioned : system.Versioned
  workers : ∀ worker execution, system.workers worker = some execution →
    execution.Rewrites system.history
  reconciles : ∀ key execution, system.reconciles key = some execution →
    execution.Rewrites system.history

theorem start_rewriting (session : Queue.Session)
    (policies : String → Except GoError KubeTemplatePolicy) :
    (start session policies).Rewriting where
  versioned := start_versioned session policies
  workers := by intro worker execution inside; cases inside
  reconciles := by intro key execution inside; cases inside

variable {config : Config} {system next : System} {label : Label}

theorem Rewriting.worker {worker : Nat} {outcome : Outcome} (rewriting : system.Rewriting)
    (taken : system.step config (.worker worker outcome) = some next) : next.Rewriting := by
  have stores := step_stores config taken
  have grows := @Stores.history _ _ _ stores
  obtain ⟨execution, inside, effect⟩ := step_worker config taken
  rcases effect with ⟨disposition, session, _isDone, _ends, rfl⟩ |
    ⟨request, rest, answered, calls, isAnswer, rfl⟩
  · refine ⟨stores.versioned rewriting.versioned, ?_, rewriting.reconciles⟩
    intro other found stays
    obtain ⟨_, stays⟩ := update_none_eq_some stays
    exact rewriting.workers other found stays
  · have frame := (respond_effect isAnswer).frame
    refine ⟨stores.versioned rewriting.versioned, ?_, ?_⟩
    · intro other found stays
      rcases update_eq_some stays with ⟨_, ⟨⟩⟩ | ⟨_, stays⟩
      · exact ((rewriting.workers worker execution inside).advance rewriting.versioned calls
          isAnswer).grow (fun _ => grows)
      · exact (rewriting.workers other found stays).grow (fun _ => grows)
    · intro key found stays
      dsimp only at stays
      rw [frame.reconciles] at stays
      exact (rewriting.reconciles key found stays).grow (fun _ => grows)

theorem Rewriting.controller {key : NamespacedName} {outcome : Outcome}
    (rewriting : system.Rewriting)
    (taken : system.step config (.controller key outcome) = some next) : next.Rewriting := by
  have stores := step_stores config taken
  have grows := @Stores.history _ _ _ stores
  obtain ⟨execution, inside, effect⟩ := step_controller config taken
  rcases effect with ⟨result, _isDone, rfl⟩ | ⟨request, rest, answered, calls, isAnswer, rfl⟩
  · refine ⟨stores.versioned rewriting.versioned, rewriting.workers, ?_⟩
    intro other found stays
    obtain ⟨_, stays⟩ := update_none_eq_some stays
    exact rewriting.reconciles other found stays
  · have frame := (respond_effect isAnswer).frame
    refine ⟨stores.versioned rewriting.versioned, ?_, ?_⟩
    · intro worker found stays
      dsimp only at stays
      rw [frame.workers] at stays
      exact (rewriting.workers worker found stays).grow (fun _ => grows)
    · intro other found stays
      rcases update_eq_some stays with ⟨_, ⟨⟩⟩ | ⟨_, stays⟩
      · exact ((rewriting.reconciles key execution inside).advance rewriting.versioned calls
          isAnswer).grow (fun _ => grows)
      · exact (rewriting.reconciles other found stays).grow (fun _ => grows)

/-- A step that leaves the executions alone. -/
theorem Rewriting.aside (rewriting : system.Rewriting) (stores : Stores system next label)
    (workers : next.workers = system.workers) (reconciles : next.reconciles = system.reconciles) :
    next.Rewriting where
  versioned := stores.versioned rewriting.versioned
  workers := by
    intro worker found stays
    rw [workers] at stays
    exact (rewriting.workers worker found stays).grow (fun _ => stores.history)
  reconciles := by
    intro key found stays
    rw [reconciles] at stays
    exact (rewriting.reconciles key found stays).grow (fun _ => stores.history)

theorem step_rewriting (rewriting : system.Rewriting)
    (taken : system.step config label = some next) : next.Rewriting := by
  have stores := step_stores config taken
  cases label with
  | create template =>
      obtain ⟨_free, rfl⟩ := step_create config taken
      exact rewriting.aside stores rfl rfl
  | update key spec labels annotations =>
      obtain ⟨old, _isStored, ⟨_, rfl⟩ | ⟨_, rfl⟩⟩ := step_update config taken
      · exact rewriting.aside stores rfl rfl
      · exact rewriting.aside stores rfl rfl
  | remove key =>
      cases step_remove config taken
      exact rewriting.aside stores rfl rfl
  | deliver key =>
      obtain ⟨_free, rfl⟩ := step_deliver config taken
      refine ⟨stores.versioned rewriting.versioned, rewriting.workers, ?_⟩
      intro other found stays
      rcases update_eq_some stays with ⟨_, ⟨⟩⟩ | ⟨_, stays⟩
      · exact ⟨(fun seen isRead => by cases isRead), reconcile_rewriting _ _ _ _⟩
      · exact rewriting.reconciles other found stays
  | controller key outcome => exact rewriting.controller taken
  | dequeue worker =>
      obtain ⟨session, ref, _free, _dequeued, _holds, rfl⟩ := step_dequeue config taken
      refine ⟨stores.versioned rewriting.versioned, ?_, rewriting.reconciles⟩
      intro other found stays
      rcases update_eq_some stays with ⟨_, ⟨⟩⟩ | ⟨_, stays⟩
      · exact ⟨(fun seen isRead => by cases isRead), handleItem_rewriting _ _ _ _ _⟩
      · exact rewriting.workers other found stays
  | worker worker outcome => exact rewriting.worker taken
  | _ =>
      cases taken
      exact rewriting.aside stores rfl rfl

theorem Rewriting.calling (rewriting : system.Rewriting) {read : Option KubeTemplate}
    {template : KubeTemplate}
    (calls : system.calling label = some (read, .updateStatus template)) :
    ∃ seen change, read = some seen ∧ seen ∈ system.history ∧ StatusChange change ∧
      template = { seen with status := change seen.status } := by
  cases label with
  | controller key outcome =>
      obtain ⟨execution, inside, next⟩ := Option.bind_eq_some_iff.mp calls
      exact (rewriting.reconciles key execution inside).calling next
  | worker worker outcome =>
      obtain ⟨execution, inside, next⟩ := Option.bind_eq_some_iff.mp calls
      exact (rewriting.workers worker execution inside).calling next
  | _ => cases calls

/-- An update that gets through was computed from what is stored. -/
theorem Rewriting.current (rewriting : system.Rewriting) {read : Option KubeTemplate}
    {template stored : KubeTemplate}
    (calls : system.calling label = some (read, .updateStatus template))
    (isStored : system.templates template.key = some stored)
    (version : stored.metadata.resourceVersion = template.metadata.resourceVersion) :
    ∃ change, read = some stored ∧ StatusChange change ∧
      template = { stored with status := change stored.status } := by
  obtain ⟨seen, change, isRead, isVersion, isChange, rfl⟩ := rewriting.calling calls
  have same := rewriting.versioned.current isVersion isStored version
  subst same
  exact ⟨change, isRead, isChange, rfl⟩

/-- A step takes nothing away from a counter of a KubeTemplate that stays. -/
def CountersKept (config : Config) (system : System) (label : Label) : Prop :=
  ∀ next, system.step config label = some next → ∀ counter : Counter, ∀ key old new,
    system.templates key = some old → next.templates key = some new →
    counter.value old.status ≤ counter.value new.status

theorem Rewriting.countersKept (rewriting : system.Rewriting) (label : Label) :
    CountersKept config system label := by
  intro next taken counter key old new isOld isNew
  cases step_stores config taken with
  | kept same =>
      rw [same.templates, isOld] at isNew
      cases isNew
      exact Int.le_refl _
  | created template isLabel free same =>
      rw [same.templates] at isNew
      rcases put_cases isNew with ⟨rfl, _⟩ | ⟨_, kept⟩
      · cases free.symm.trans isOld
      · cases isOld.symm.trans kept
        exact Int.le_refl _
  | edited wanted spec labels annotations current isLabel isStored same =>
      have own := rewriting.versioned.keyed wanted current isStored
      subst own
      rw [same.templates] at isNew
      rcases put_cases isNew with ⟨rfl, rfl⟩ | ⟨_, kept⟩
      · cases isStored.symm.trans isOld
        exact Int.le_refl _
      · cases isOld.symm.trans kept
        exact Int.le_refl _
  | removed wanted isLabel same =>
      rw [same.templates] at isNew
      cases isOld.symm.trans (update_none_eq_some isNew).2
      exact Int.le_refl _
  | updated read template stored calls isStored version same =>
      obtain ⟨change, isRead, isChange, rfl⟩ := rewriting.current calls isStored version
      rw [same.templates] at isNew
      rcases put_cases isNew with ⟨rfl, rfl⟩ | ⟨_, kept⟩
      · cases isStored.symm.trans isOld
        exact isChange.counts counter old.status
      · cases isOld.symm.trans kept
        exact Int.le_refl _

/-- The KubeTemplate whose status a step has updated, and what the update adds to the
counter that its writer has read. -/
def increment (system next : System) (counter : Counter) (label : Label) :
    Option (NamespacedName × Int) :=
  match system.calling label with
  | some (some seen, .updateStatus template) =>
      if next.revision = system.revision then none
      else some (template.key, counter.value template.status - counter.value seen.status)
  | _ => none

/-- Where nothing is stored, nothing is added. -/
theorem increment_kept {next : System} {counter : Counter} {label : Label}
    (same : next.revision = system.revision) : increment system next counter label = none := by
  unfold increment
  split
  · exact if_pos same
  · rfl

private theorem increment_stored {next : System} {counter : Counter} {label : Label}
    {seen template : KubeTemplate}
    (calls : system.calling label = some (some seen, .updateStatus template))
    (stored : next.revision = system.revision + 1) :
    increment system next counter label =
      some (template.key, counter.value template.status - counter.value seen.status) := by
  have fresh : ¬ next.revision = system.revision := by omega
  unfold increment
  rw [calls]
  exact if_neg fresh

end System

/-- The operator, and for every KubeTemplate the sum of what the status updates since its
creation have added to a counter. -/
structure Ledger where
  system : System
  sum : NamespacedName → Int

namespace Ledger

def start (session : Queue.Session) (policies : String → Except GoError KubeTemplatePolicy) :
    Ledger :=
  { system := System.start session policies
    sum := fun _ => 0 }

def sumOf (ledger : Ledger) (key : NamespacedName) : Int :=
  match ledger.system.templates key with
  | none => 0
  | some _ => ledger.sum key

def record (ledger : Ledger) (key : NamespacedName) : Option (NamespacedName × Int) → Int
  | some (updated, added) => if key = updated then ledger.sumOf key + added else ledger.sumOf key
  | none => ledger.sumOf key

def step (config : Config) (counter : Counter) (ledger : Ledger) (label : Label) :
    Option Ledger :=
  (ledger.system.step config label).map (fun next =>
    { system := next
      sum := fun key =>
        ledger.record key (System.increment ledger.system next counter label) })

def Adds (counter : Counter) (ledger : Ledger) : Prop :=
  ∀ key template, ledger.system.templates key = some template →
    counter.value template.status = ledger.sum key

variable {config : Config} {counter : Counter} {ledger next : Ledger} {label : Label}

theorem sumOf_stored {key : NamespacedName} {template : KubeTemplate} (adds : ledger.Adds counter)
    (isStored : ledger.system.templates key = some template) :
    ledger.sumOf key = counter.value template.status := by
  unfold sumOf
  rw [isStored]
  exact (adds key template isStored).symm

private theorem step_adds (rewriting : ledger.system.Rewriting) (adds : ledger.Adds counter)
    (taken : ledger.step config counter label = some next) : next.Adds counter := by
  obtain ⟨after, moved, rfl⟩ := Option.map_eq_some_iff.mp taken
  intro key new isNew
  dsimp only at isNew ⊢
  cases System.step_stores config moved with
  | kept same =>
      rw [same.templates] at isNew
      rw [System.increment_kept same.revision]
      exact (sumOf_stored adds isNew).symm
  | created template isLabel free same =>
      subst isLabel
      rw [same.templates] at isNew
      rcases System.put_cases isNew with ⟨rfl, rfl⟩ | ⟨_, kept⟩
      · have absent : ledger.sumOf template.key = 0 := by
          unfold sumOf
          rw [free]
        exact Eq.trans (by cases counter <;> rfl) absent.symm
      · exact (sumOf_stored adds kept).symm
  | edited wanted spec labels annotations old isLabel isStored same =>
      subst isLabel
      have own := rewriting.versioned.keyed wanted old isStored
      subst own
      rw [same.templates] at isNew
      rcases System.put_cases isNew with ⟨rfl, rfl⟩ | ⟨_, kept⟩
      · exact (sumOf_stored adds isStored).symm
      · exact (sumOf_stored adds kept).symm
  | removed wanted isLabel same =>
      subst isLabel
      rw [same.templates] at isNew
      exact (sumOf_stored adds (update_none_eq_some isNew).2).symm
  | updated read template stored calls isStored version same =>
      obtain ⟨change, isRead, _isChange, isTemplate⟩ := rewriting.current calls isStored version
      subst isRead
      have own : ({ stored with status := template.status } : KubeTemplate).key = template.key :=
        rewriting.versioned.keyed template.key stored isStored
      rw [same.templates] at isNew
      rw [System.increment_stored calls same.revision]
      dsimp only [record]
      rcases System.put_cases isNew with ⟨isKey, rfl⟩ | ⟨other, kept⟩
      · rw [own] at isKey
        rw [if_pos isKey, isKey, sumOf_stored adds isStored]
        change counter.value template.status = _
        omega
      · rw [own] at other
        rw [if_neg other]
        exact (sumOf_stored adds kept).symm

theorem adds_throughout (config : Config) (counter : Counter) (session : Queue.Session)
    (policies : String → Except GoError KubeTemplatePolicy) (labels : List Label) :
    Throughout (step config counter) (Adds counter) (start session policies) labels := by
  have sound : Throughout (step config counter)
      (fun ledger => ledger.system.Rewriting ∧ ledger.Adds counter) (start session policies)
      labels := by
    apply throughout_of_preserved
    · rintro ledger label next ⟨rewriting, adds⟩ taken
      refine ⟨?_, step_adds rewriting adds taken⟩
      obtain ⟨after, moved, rfl⟩ := Option.map_eq_some_iff.mp taken
      exact System.step_rewriting rewriting moved
    · refine ⟨System.start_rewriting session policies, ?_⟩
      intro key template isStored
      cases isStored
  exact sound.mono (fun _ both => both.2)

end Ledger

end KubeTemplater.Operator
