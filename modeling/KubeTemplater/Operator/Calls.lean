/-
What the calls of an execution answer and change: the KubeTemplates and the queue.
-/

import KubeTemplater.Operator.System
import KubeTemplater.Queue.Freshness

namespace KubeTemplater.Operator

open Library Library.Program

def Outcome.isSuccess : Outcome → Bool
  | .succeeds => true
  | .returns _ => true
  | _ => false

variable {outcome : Outcome} {answered : Except GoError KubeTemplate × System} {system : System}
  {key : NamespacedName}

theorem respond_read (success : outcome.isSuccess = true)
    (isAnswer : system.respond (.getTemplate key) outcome = some answered) :
    answered = (system.found key, system) := by
  cases outcome with
  | succeeds =>
      cases isAnswer
      rfl
  | returns object => cases isAnswer
  | _ => cases success

theorem found_stored {current : KubeTemplate} (isStored : system.templates key = some current) :
    system.found key = .ok current := by
  unfold System.found
  rw [isStored]

theorem respond_found {current : KubeTemplate} (isStored : system.templates key = some current) :
    system.respond (.getTemplate key) .succeeds = some (.ok current, system) :=
  congrArg (fun answer => some (answer, system)) (found_stored isStored)

variable {template : KubeTemplate}

theorem respond_updateStatus {answered : Except GoError Nat × System}
    (success : outcome.isSuccess = true)
    (isAnswer : system.respond (.updateStatus template) outcome = some answered) :
    ∃ stored, system.templates template.key = some stored ∧
      stored.metadata.resourceVersion = template.metadata.resourceVersion ∧
      answered = (.ok (system.revision + 1),
        system.put { stored with status := template.status }) := by
  cases outcome with
  | succeeds =>
      obtain ⟨next, written, same⟩ := Option.map_eq_some_iff.mp isAnswer
      unfold System.putStatus at written
      split at written
      · cases written
      · rename_i stored isStored
        split at written
        · rename_i version
          cases written
          cases same
          exact ⟨stored, isStored, version, rfl⟩
        · cases written
  | returns object => cases isAnswer
  | _ => cases success

theorem respond_current {current : KubeTemplate}
    (isStored : system.templates current.key = some current) (status : KubeTemplateStatus) :
    system.respond (.updateStatus { current with status := status }) .succeeds =
      some (.ok (system.revision + 1), system.put { current with status := status }) := by
  have written : system.putStatus { current with status := status } =
      some (system.put { current with status := status }) := by
    unfold System.putStatus
    rw [show ({ current with status := status } : KubeTemplate).key = current.key from rfl,
      isStored]
    exact if_pos rfl
  exact congrArg (Option.map _) written

theorem respond_updateStatus_ok {answered : Except GoError Nat × System} {revision : Nat}
    (isAnswer : system.respond (.updateStatus template) outcome = some answered)
    (isOk : answered.1 = .ok revision) :
    ∃ stored, system.templates template.key = some stored ∧
      stored.metadata.resourceVersion = template.metadata.resourceVersion ∧
      answered = (.ok (system.revision + 1),
        system.put { stored with status := template.status }) := by
  cases outcome with
  | succeeds => exact respond_updateStatus rfl isAnswer
  | lost err =>
      obtain ⟨next, _written, rfl⟩ := Option.map_eq_some_iff.mp isAnswer
      cases isOk
  | fails err =>
      cases isAnswer
      cases isOk
  | returns object => cases isAnswer
  | stale old => cases isAnswer

theorem respond_updateStatus_effective {answered : Except GoError Nat × System}
    (effective : outcome.effective = true)
    (isAnswer : system.respond (.updateStatus template) outcome = some answered) :
    ∃ stored, system.templates template.key = some stored ∧
      answered.2 = system.put { stored with status := template.status } := by
  cases outcome with
  | succeeds =>
      obtain ⟨stored, isStored, _version, rfl⟩ := respond_updateStatus rfl isAnswer
      exact ⟨stored, isStored, rfl⟩
  | lost err =>
      obtain ⟨next, written, rfl⟩ := Option.map_eq_some_iff.mp isAnswer
      have confirmed : system.respond (.updateStatus template) .succeeds =
          some (.ok next.revision, next) :=
        Option.map_eq_some_iff.mpr ⟨next, written, rfl⟩
      obtain ⟨stored, isStored, _version, same⟩ := respond_updateStatus rfl confirmed
      exact ⟨stored, isStored, congrArg Prod.snd same⟩
  | fails err => cases effective
  | returns object => cases isAnswer
  | stale old => cases isAnswer

theorem respond_policyCacheGet {source operator : String}
    {answered : Except GoError KubeTemplatePolicy × System} (success : outcome.isSuccess = true)
    (isAnswer : system.respond (.policyCacheGet source operator) outcome = some answered) :
    answered = (system.policies source, system) := by
  cases outcome with
  | succeeds =>
      cases isAnswer
      rfl
  | returns object => cases isAnswer
  | _ => cases success

theorem respond_patch {object : Unstructured} {forceOwnership dryRun : Bool}
    {answered : Except GoError Unstructured × System} (success : outcome.isSuccess = true)
    (isAnswer : system.respond (.patch object forceOwnership dryRun) outcome = some answered) :
    ∃ stored, outcome = .returns stored ∧ answered = (.ok stored, system) := by
  cases outcome with
  | returns stored =>
      cases isAnswer
      exact ⟨stored, rfl, rfl⟩
  | succeeds => cases isAnswer
  | _ => cases success

theorem respond_getResource {gvk : GroupVersionKind} {ns name : String}
    {answered : Except GoError Unstructured × System}
    (isAnswer : system.respond (.getResource gvk ns name) outcome = some answered) :
    answered = (answered.1, system) := by
  cases outcome with
  | returns object =>
      cases isAnswer
      rfl
  | fails err =>
      cases isAnswer
      rfl
  | _ => cases isAnswer

theorem respond_queueContains {answered : Bool × System}
    (isAnswer : system.respond (.queueContains key) outcome = some answered) :
    answered = (system.session.queue.contains key, system) := by
  cases outcome with
  | succeeds =>
      cases isAnswer
      rfl
  | _ => cases isAnswer

theorem respond_enqueue {priority : Int} {answered : Unit × System}
    (isAnswer : system.respond (.enqueue key priority) outcome = some answered) :
    answered = ((), { system with
      session := { system.session with
        queue := system.session.queue.enqueue key priority system.clock } }) := by
  cases outcome with
  | succeeds =>
      cases isAnswer
      rfl
  | _ => cases isAnswer

theorem respond_now {answered : Time × System}
    (isAnswer : system.respond .now outcome = some answered) :
    answered = (system.clock, system) := by
  cases outcome with
  | succeeds =>
      cases isAnswer
      rfl
  | _ => cases isAnswer

theorem put_templates_self (system : System) (template : KubeTemplate) :
    (system.put template).templates template.key = some (system.stamp template) :=
  Function.update_self template.key _ system.templates

theorem put_templates_other (system : System) (template : KubeTemplate) (key : NamespacedName)
    (different : key ≠ template.key) :
    (system.put template).templates key = system.templates key :=
  Function.update_of_ne different _ system.templates

def TrueMissing {α : Type} (system : System) (program : Program client α) (outcome : Outcome) :
    Prop :=
  ∀ wanted rest err, program = .call (.getTemplate wanted) rest → outcome = .fails err →
    err.isNotFound = true → system.templates wanted = none

variable {wanted : NamespacedName}

theorem absent_of_missing {α : Type} {program : Program client α}
    (truthful : TrueMissing system program outcome)
    {rest : Except GoError KubeTemplate → Program client α}
    (calls : program = .call (.getTemplate wanted) rest)
    (isAnswer : system.respond (.getTemplate wanted) outcome = some answered) {err : GoError}
    (isError : answered.1 = .error err) (missing : err.isNotFound = true) :
    system.templates wanted = none := by
  cases outcome with
  | succeeds =>
      cases isAnswer
      unfold System.found at isError
      split at isError
      · cases isError
      · assumption
  | stale template =>
      simp only [System.respond] at isAnswer
      split at isAnswer
      · cases isAnswer
        cases isError
      · cases isAnswer
  | fails failure =>
      cases isAnswer
      cases isError
      exact truthful wanted rest err calls rfl missing
  | returns object => cases isAnswer
  | lost failure => cases isAnswer

theorem stored_of_read (fresh : ∀ template, outcome ≠ .stale template)
    (isAnswer : system.respond (.getTemplate wanted) outcome = some answered)
    (isOk : answered.1 = .ok template) :
    system.templates wanted = some template := by
  cases outcome with
  | succeeds =>
      cases isAnswer
      unfold System.found at isOk
      split at isOk
      · cases isOk
        assumption
      · cases isOk
  | stale old => exact absurd rfl (fresh old)
  | fails failure =>
      cases isAnswer
      cases isOk
  | returns object => cases isAnswer
  | lost failure => cases isAnswer

theorem respond_version (isAnswer : system.respond (.getTemplate wanted) outcome = some answered)
    (isOk : answered.1 = .ok template) :
    system.templates wanted = some template ∨ template ∈ system.history := by
  cases outcome with
  | stale old =>
      simp only [System.respond] at isAnswer
      split at isAnswer
      · rename_i known
        cases isAnswer
        cases isOk
        exact .inr known.1
      · cases isAnswer
  | _ => exact .inl (stored_of_read (fun _ impossible => by cases impossible) isAnswer isOk)

theorem respond_unchanged {request : Call} {answered : request.Answer × System}
    (isAnswer : system.respond request outcome = some answered)
    (status : ∀ template, request ≠ .updateStatus template)
    (enqueues : ∀ key priority, request ≠ .enqueue key priority) : answered.2 = system := by
  generalize same : answered.2 = after
  have effect := System.respond_effect isAnswer
  rw [same] at effect
  cases effect with
  | none => rfl
  | status template stored isUpdate isStored version => exact absurd isUpdate (status template)
  | enqueued key priority isEnqueue => exact absurd isEnqueue (enqueues key priority)

theorem read_templates (isAnswer : system.respond (.getTemplate wanted) outcome = some answered) :
    answered.2 = system := by
  refine respond_unchanged isAnswer ?_ ?_
  · intro template impossible
    cases impossible
  · intro key priority impossible
    cases impossible

def Queued (session : Queue.Session) (key : NamespacedName) : Prop :=
  ∃ ref, ref ∈ session.queue.items.toList ∧ session.queue.key ref = key

theorem queued_enqueue {session : Queue.Session} (valid : session.Valid)
    (key other : NamespacedName) (priority : Int) (now : Time) :
    Queued { session with queue := session.queue.enqueue key priority now } other ↔
      other = key ∨ Queued session other := by
  cases known : session.queue.itemsMap key with
  | some existing =>
      have spec := Queue.WorkQueue.enqueue_existing _ key priority now existing known
      obtain ⟨queued, isKey⟩ := valid.mapped key existing known
      constructor
      · intro found
        obtain ⟨ref, member, isOther⟩ := found
        exact .inr ⟨ref, spec.items.mem_iff.mp member, (spec.keys ref).symm.trans isOther⟩
      · intro either
        rcases either with rfl | ⟨ref, member, isOther⟩
        · exact ⟨existing, spec.items.mem_iff.mpr queued, (spec.keys existing).trans isKey⟩
        · exact ⟨ref, spec.items.mem_iff.mpr member, (spec.keys ref).trans isOther⟩
  | none =>
      have spec := Queue.WorkQueue.enqueue_new _ key priority now known
      constructor
      · intro found
        obtain ⟨ref, member, isOther⟩ := found
        rcases List.mem_cons.mp (spec.items.mem_iff.mp member) with rfl | old
        · exact .inl (isOther.symm.trans spec.freshKey)
        · have earlier := Nat.ne_of_lt (valid.queuedBelow ref old)
          exact .inr ⟨ref, old, (spec.keys ref earlier).symm.trans isOther⟩
      · intro either
        rcases either with rfl | ⟨ref, member, isOther⟩
        · exact ⟨_, spec.items.mem_iff.mpr List.mem_cons_self, spec.freshKey⟩
        · have earlier := Nat.ne_of_lt (valid.queuedBelow ref member)
          exact ⟨ref, spec.items.mem_iff.mpr (List.mem_cons_of_mem _ member),
            (spec.keys ref earlier).trans isOther⟩

namespace System

theorem queued_dequeue_other {before after : Queue.Session} {ref : Queue.ItemRef} {now : Time}
    {other : NamespacedName} (taken : Queue.WorkQueue.Taken before.queue after.queue ref now)
    (different : before.queue.key ref ≠ other) : Queued after other ↔ Queued before other := by
  constructor
  · intro queued
    obtain ⟨found, member, isKey⟩ := queued
    refine ⟨found, taken.items.mem_iff.mp (List.mem_cons_of_mem ref member), ?_⟩
    rw [← taken.keys found]
    exact isKey
  · intro queued
    obtain ⟨found, member, isKey⟩ := queued
    rcases List.mem_cons.mp (taken.items.mem_iff.mpr member) with same | remains
    · rw [same] at isKey
      exact absurd isKey different
    · exact ⟨found, remains, (taken.keys found).trans isKey⟩

/-- The item that a worker hands back is queued, unless its retry cycles are used up. -/
theorem queued_requeue {session : Queue.Session} {ref : Queue.ItemRef} {now : Time}
    (again : session.queue.retries ref now = true) (held : Nat → Option Queue.ItemRef)
    (other : NamespacedName) :
    Queued { queue := session.queue.requeue ref now, held := held } other ↔
      other = session.queue.key ref ∨ Queued session other := by
  have spec := Queue.WorkQueue.requeue_putBack _ ref now again
  constructor
  · rintro ⟨found, member, isKey⟩
    have same : session.queue.key found = other := (spec.keys found).symm.trans isKey
    rcases List.mem_cons.mp (spec.items.mem_iff.mp member) with rfl | old
    · exact .inl same.symm
    · exact .inr ⟨found, old, same⟩
  · rintro (rfl | ⟨found, member, isKey⟩)
    · exact ⟨ref, spec.items.mem_iff.mpr List.mem_cons_self, spec.keys ref⟩
    · exact ⟨found, spec.items.mem_iff.mpr (List.mem_cons_of_mem _ member),
        (spec.keys found).trans isKey⟩

theorem retries_of_cycles {queue : Queue.WorkQueue} {ref : Queue.ItemRef} (now : Time)
    (left : ¬ (0 < queue.maxRetryCycles ∧
      queue.maxRetryCycles ≤ (queue.memory ref).retryCycle)) :
    queue.retries ref now = true := by
  unfold Queue.WorkQueue.retries Queue.WorkQueue.retryItem
  rw [if_neg left]
  dsimp only
  split
  · rfl
  · rfl

/-- What a call leaves alone when it concerns another KubeTemplate. -/
structure Apart (system next : System) (other : NamespacedName) : Prop where
  templates : next.templates other = system.templates other
  revision : system.revision ≤ next.revision
  session : system.session.SameAt other next.session

theorem Apart.queued {system next : System} {other : NamespacedName}
    (apart : Apart system next other) :
    Queued next.session other ↔ Queued system.session other :=
  exists_congr apart.session.items

theorem Effect.apart {system next : System} {request : Call} {other : NamespacedName}
    (effect : Effect system request next) (keyed : system.Keyed) (valid : system.session.Valid)
    (status : ∀ template, request = .updateStatus template → template.key ≠ other)
    (enqueues : ∀ key priority, request = .enqueue key priority → key ≠ other) :
    Apart system next other := by
  cases effect with
  | none => exact ⟨rfl, Nat.le_refl _, Queue.Session.sameAt_refl _ _⟩
  | status template stored isUpdate isStored version =>
      have own : ({ stored with status := template.status } : KubeTemplate).key =
          template.key := keyed template.key stored isStored
      refine ⟨put_templates_other system _ other ?_, Nat.le_succ _,
        Queue.Session.sameAt_refl _ _⟩
      rw [own]
      exact (status template isUpdate).symm
  | enqueued key priority isEnqueue =>
      refine ⟨rfl, Nat.le_refl _,
        Queue.Session.step_sameAt (.enqueue key priority system.clock) valid ?_ rfl⟩
      intro same
      exact enqueues key priority isEnqueue (Option.some.inj same)

theorem respond_getTemplate {system : System} (keyed : system.Keyed) {wanted : NamespacedName}
    {outcome : Outcome} {answered : Except GoError KubeTemplate × System}
    (isAnswer : system.respond (.getTemplate wanted) outcome = some answered)
    {template : KubeTemplate} (isOk : answered.1 = .ok template) : template.key = wanted := by
  cases outcome with
  | succeeds =>
      cases isAnswer
      unfold found at isOk
      split at isOk
      · rename_i stored isStored
        cases isOk
        exact keyed wanted template isStored
      · cases isOk
  | stale old =>
      simp only [respond] at isAnswer
      split at isAnswer
      · rename_i known
        cases isAnswer
        cases isOk
        exact known.2
      · cases isAnswer
  | fails err =>
      cases isAnswer
      cases isOk
  | returns object => cases isAnswer
  | lost err => cases isAnswer

theorem Effect.valid {system next : System} {request : Call}
    (effect : Effect system request next) (valid : system.session.Valid) :
    next.session.Valid := by
  cases effect with
  | none => exact valid
  | status template stored isUpdate isStored version => exact valid
  | enqueued key priority isEnqueue =>
      exact Queue.Session.step_valid _ (.enqueue key priority system.clock) _ valid rfl

theorem endTurn_valid {session next : Queue.Session} (valid : session.Valid) {worker : Nat}
    {now : Time} {disposition : Worker.Disposition}
    (ends : endTurn session worker now disposition = some next) : next.Valid := by
  cases disposition with
  | done => exact Queue.Session.step_valid _ (.done worker) _ valid ends
  | requeue err => exact Queue.Session.step_valid _ (.requeue worker now) _ valid ends

variable (config : Config)

theorem step_session_valid (system : System) (label : Label) (next : System)
    (valid : system.session.Valid) (taken : system.step config label = some next) :
    next.session.Valid := by
  cases label with
  | create template =>
      obtain ⟨_free, rfl⟩ := step_create config taken
      exact valid
  | update key spec labels annotations =>
      obtain ⟨old, _stored, ⟨_, rfl⟩ | ⟨_, rfl⟩⟩ := step_update config taken
      · exact valid
      · exact valid
  | remove key =>
      rw [step_remove config taken]
      exact valid
  | setPolicy source answer =>
      cases taken
      exact valid
  | pass elapsed =>
      cases taken
      exact valid
  | deliver key =>
      obtain ⟨_free, rfl⟩ := step_deliver config taken
      exact valid
  | controller key outcome =>
      obtain ⟨execution, _inside, effect⟩ := step_controller config taken
      rcases effect with ⟨result, _isDone, rfl⟩ | ⟨request, rest, answered, _calls, isAnswer, rfl⟩
      · exact valid
      · exact (respond_effect isAnswer).valid valid
  | dequeue worker =>
      obtain ⟨session, ref, _free, dequeued, _holds, rfl⟩ := step_dequeue config taken
      exact Queue.Session.step_valid _ _ _ valid dequeued
  | worker worker outcome =>
      obtain ⟨execution, _inside, effect⟩ := step_worker config taken
      rcases effect with ⟨disposition, session, _isDone, ends, rfl⟩ |
        ⟨request, rest, answered, _calls, isAnswer, rfl⟩
      · exact endTurn_valid valid ends
      · exact (respond_effect isAnswer).valid valid

end System

end KubeTemplater.Operator
