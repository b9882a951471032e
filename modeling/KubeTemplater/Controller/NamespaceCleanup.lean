/-
When the finalizer of a namespace is removed.

An execution that has read a namespace acts on a copy.  The copy of a namespace that is
being deleted stays current only as long as nobody stores another version; for that time
the server creates no template in the namespace, so what the list has missed cannot
come.
-/

import KubeTemplater.Controller.NamespaceReconciler
import KubeTemplater.Library.Threads

namespace KubeTemplater.Namespaces

open Library Library.Program

/-- How far an execution has come. -/
inductive Stage where
  | begun
  | read (copy : Namespace)
  /-- The templates listed are being deleted; these are left. -/
  | cleaning (copy : Namespace) (pending : List NamespacedName)
  | failed (err : GoError)
  | finished

def rules : Protocol namespaceApi Stage :=
  { expected := fun _ _ _ => True
    permitted := fun stage request =>
      match stage, request with
      | .begun, .getNamespace _ => True
      | .read _, .updateNamespace ns => namespaceFinalizer ∈ ns.finalizers
      | .read copy, .listTemplates name => name = copy.name ∧ copy.deletionTimestamp ≠ none
      | .cleaning _ pending, .deleteTemplate key => pending.head? = some key
      | .cleaning copy pending, .updateNamespace ns =>
          pending = [] ∧ ns.name = copy.name ∧ ns.resourceVersion = copy.resourceVersion
      | _, _ => False
    after := fun stage request answer =>
      match failure request answer with
      | some err => .failed err
      | none =>
          match stage, request, answer with
          | .begun, .getNamespace _, .ok ns => .read ns
          | .read copy, .listTemplates _, .ok items => .cleaning copy items
          | .cleaning copy pending, .deleteTemplate _, _ => .cleaning copy pending.tail
          | _, _, _ => .finished }

def Result : Stage → Option GoError → Prop
  | .failed err, result => result = some err
  | _, _ => True

private theorem updateNamespace_guarantees {stage : Stage} {ns : Namespace}
    (permitted : rules.permitted stage (.updateNamespace ns)) :
    Guarantees rules Result stage (updateNamespace ns) := by
  refine ⟨permitted, fun updated _ => ?_⟩
  cases updated with
  | error err => exact rfl
  | ok value =>
      cases stage <;> exact trivial

def LoopResult (copy : Namespace) : Stage → Option GoError → Prop
  | stage, none => stage = .cleaning copy []
  | stage, some err => stage = .failed err

private theorem deleteTemplates_guarantees (copy : Namespace) (items : List NamespacedName) :
    Guarantees rules (LoopResult copy) (.cleaning copy items) (deleteTemplates items) := by
  induction items with
  | nil => exact rfl
  | cons template rest ih =>
      refine ⟨rfl, fun deleted _ => ?_⟩
      cases deleted with
      | ok value => exact ih
      | error err =>
          dsimp only [rules, failure]
          cases err.isNotFound with
          | true => exact ih
          | false => exact rfl

private theorem cleanUp_guarantees {ns : Namespace} (terminating : ns.deletionTimestamp ≠ none) :
    Guarantees rules Result (.read ns) (cleanUp ns) := by
  refine ⟨⟨rfl, terminating⟩, fun listed _ => ?_⟩
  cases listed with
  | error err => exact rfl
  | ok items =>
      refine guarantees_bind (LoopResult ns) (deleteTemplates_guarantees ns items) ?_
      intro stage result ended
      cases result with
      | some err =>
          rw [show stage = .failed err from ended]
          exact rfl
      | none =>
          rw [show stage = .cleaning ns [] from ended]
          exact updateNamespace_guarantees ⟨rfl, rfl, rfl⟩

private theorem mem_addFinalizer (ns : Namespace) : namespaceFinalizer ∈
    (addFinalizer ns).finalizers := by
  unfold addFinalizer
  split
  case isTrue has => exact List.contains_iff_mem.mp has
  case isFalse _ => exact List.mem_append_right _ List.mem_cons_self

private theorem reconcile_guarantees (name : String) :
    Guarantees rules Result .begun (reconcile name) := by
  refine ⟨trivial, fun got _ => ?_⟩
  cases got with
  | error err =>
      dsimp only [rules, failure]
      cases err.isNotFound with
      | true => exact trivial
      | false => exact rfl
  | ok ns =>
      change Guarantees rules Result (.read ns) (reconcileFetched ns)
      unfold reconcileFetched
      split
      case isTrue _ =>
          split
          · exact trivial
          · exact updateNamespace_guarantees (mem_addFinalizer ns)
      case isFalse terminating =>
          split
          · exact cleanUp_guarantees fun missing => terminating (by rw [missing]; rfl)
          · exact trivial

private theorem done_of_failed {err : GoError} {rest : Program namespaceApi (Option GoError)}
    (guarantees : Guarantees rules Result (.failed err) rest) : rest = .done (some err) := by
  cases rest with
  | done result =>
      rw [show result = some err from guarantees]
  | call request later => exact guarantees.1.elim

structure Versioned (cluster : Cluster) : Prop where
  bounded : ∀ ns, ns ∈ cluster.history → ns.resourceVersion ≤ cluster.revision
  distinct : ∀ ns other, ns ∈ cluster.history → other ∈ cluster.history →
    ns.resourceVersion = other.resourceVersion → ns = other
  stored : ∀ name ns, cluster.namespaces name = some ns → ns.name = name ∧ ns ∈ cluster.history

/-- What any step leaves of the cluster: a version that is not current does not become
so again, and nothing comes to a namespace that is being deleted. -/
structure Evolves (before after : Cluster) : Prop where
  kept : ∀ ns, ns ∈ before.history → ns ∈ after.history
  current : ∀ ns, ns ∈ before.history → after.namespaces ns.name = some ns →
    before.namespaces ns.name = some ns
  created : ∀ ns, ns.deletionTimestamp ≠ none → before.namespaces ns.name = some ns →
    ∀ template, template ∈ after.templates → template.key.ns = ns.name →
      template.fate = .present → template ∈ before.templates

theorem Evolves.refl (cluster : Cluster) : Evolves cluster cluster :=
  ⟨fun _ member => member, fun _ _ same => same, fun _ _ _ _ member _ _ => member⟩

theorem Versioned.store {cluster : Cluster} (versioned : Versioned cluster) (ns : Namespace) :
    Versioned (cluster.store ns) ∧ Evolves cluster (cluster.store ns) := by
  have older : ∀ other, other ∈ cluster.history → other.resourceVersion ≠ cluster.revision + 1 :=
    fun other member same => by
      have bounded := versioned.bounded other member
      omega
  refine ⟨⟨?_, ?_, ?_⟩, ⟨fun other member => List.mem_cons_of_mem _ member, ?_,
    fun _ _ _ _ member _ _ => member⟩⟩
  · intro other member
    rcases List.mem_cons.mp member with rfl | earlier
    · exact Nat.le_refl _
    · exact Nat.le_succ_of_le (versioned.bounded other earlier)
  · intro left right isLeft isRight same
    rcases List.mem_cons.mp isLeft with rfl | leftEarlier
    · rcases List.mem_cons.mp isRight with rfl | rightEarlier
      · rfl
      · exact absurd same.symm (older right rightEarlier)
    · rcases List.mem_cons.mp isRight with rfl | rightEarlier
      · exact absurd same (older left leftEarlier)
      · exact versioned.distinct left right leftEarlier rightEarlier same
  · intro name other isStored
    rcases update_eq_some isStored with ⟨same, ⟨⟩⟩ | ⟨_, before⟩
    · exact ⟨same.symm, List.mem_cons_self⟩
    · obtain ⟨isName, member⟩ := versioned.stored name other before
      exact ⟨isName, List.mem_cons_of_mem _ member⟩
  · intro other member isStored
    rcases update_eq_some isStored with ⟨_, isNew⟩ | ⟨_, before⟩
    · exact absurd (congrArg Namespace.resourceVersion (Option.some.inj isNew)).symm
        (older other member)
    · exact before

private theorem mem_mark {cluster : Cluster} {key : NamespacedName} {fate : Fate}
    {template : Template}
    (removes : fate ≠ .present) (member : template ∈ (cluster.mark key fate).templates)
    (present : template.fate = .present) :
    template ∈ cluster.templates ∧ template.key ≠ key := by
  obtain ⟨before, isBefore, rfl⟩ := List.mem_map.mp member
  split at present
  case isTrue marked => exact absurd present removes
  case isFalse unmarked =>
      rw [if_neg unmarked]
      refine ⟨isBefore, fun same => unmarked ⟨same, ?_⟩⟩
      rw [present]
      exact Fate.noConfusion

theorem Versioned.mark {cluster : Cluster} (versioned : Versioned cluster) (key : NamespacedName)
    {fate : Fate} (removes : fate ≠ .present) :
    Versioned (cluster.mark key fate) ∧ Evolves cluster (cluster.mark key fate) :=
  ⟨⟨versioned.bounded, versioned.distinct, versioned.stored⟩,
    ⟨fun _ member => member, fun _ _ same => same,
      fun _ _ _ _ member _ present => (mem_mark removes member present).1⟩⟩

private theorem ite_ne_present (lingers : Bool) :
    (if lingers then Fate.requested else Fate.gone) ≠ .present := by
  cases lingers <;> decide

theorem Versioned.remove {cluster : Cluster} (versioned : Versioned cluster) (name : String) :
    Versioned { cluster with namespaces := Function.update cluster.namespaces name none } ∧
      Evolves cluster
        { cluster with namespaces := Function.update cluster.namespaces name none } := by
  refine ⟨⟨versioned.bounded, versioned.distinct, ?_⟩,
    ⟨fun _ member => member, ?_, fun _ _ _ _ member _ _ => member⟩⟩
  · intro other ns isStored
    exact versioned.stored other ns (update_none_eq_some isStored).2
  · intro ns _member isStored
    exact (update_none_eq_some isStored).2

theorem Versioned.create {cluster : Cluster} {stored : Namespace} {key : NamespacedName}
    (versioned : Versioned cluster) (isStored : cluster.namespaces key.ns = some stored)
    (lives : stored.deletionTimestamp = none) :
    Versioned { cluster with templates := ⟨key, .present⟩ :: cluster.templates } ∧
      Evolves cluster { cluster with templates := ⟨key, .present⟩ :: cluster.templates } := by
  refine ⟨⟨versioned.bounded, versioned.distinct, versioned.stored⟩,
    ⟨fun _ member => member, fun _ _ same => same, ?_⟩⟩
  intro ns terminating isNs template member inNs _present
  rcases List.mem_cons.mp member with rfl | earlier
  · rw [show key.ns = ns.name from inNs, isNs] at isStored
    cases isStored
    exact absurd lives terminating
  · exact earlier

variable {cluster : Cluster} {request : NamespaceCall} {reply : Reply}
  {answered : request.Answer × Cluster}

inductive Effect (cluster : Cluster) :
    (request : NamespaceCall) → request.Answer × Cluster → Prop where
  | read (ns : Namespace) (member : ns ∈ cluster.history) :
      Effect cluster (.getNamespace ns.name) (.ok ns, cluster)
  | unread (name : String) (err : GoError) (isNotFound : err.isNotFound = true) :
      Effect cluster (.getNamespace name) (.error err, cluster)
  | listed (name : String) :
      Effect cluster (.listTemplates name) (.ok (cluster.listed name), cluster)
  | deleted (key : NamespacedName) (fate : Fate) (removes : fate ≠ .present) :
      Effect cluster (.deleteTemplate key) (.ok (), cluster.mark key fate)
  | missing (key : NamespacedName) (absent : ¬ cluster.hasTemplate key = true) :
      Effect cluster (.deleteTemplate key) (.error (notFound key.name), cluster)
  | updated (ns stored : Namespace) (isStored : cluster.namespaces ns.name = some stored)
      (current : stored.resourceVersion = ns.resourceVersion) :
      Effect cluster (.updateNamespace ns)
        (.ok (), cluster.store { stored with finalizers := ns.finalizers })
  | failed (request : NamespaceCall) (answer : request.Answer) (err : GoError)
      (fails : failure request answer = some err) : Effect cluster request (answer, cluster)

theorem respond_effect (served : respond cluster request reply = some answered) :
    Effect cluster request answered := by
  cases request with
  | getNamespace name =>
      cases reply with
      | reads ns =>
          obtain ⟨⟨rfl, member⟩, ⟨⟩⟩ := Option.ite_none_right_eq_some.mp served
          exact .read ns member
      | works lingers => cases served
      | fails err =>
          cases served
          by_cases isNotFound : err.isNotFound = true
          · exact .unread name err isNotFound
          · exact .failed _ _ err (if_neg isNotFound)
  | listTemplates name =>
      cases reply with
      | reads ns => cases served
      | works lingers =>
          cases served
          exact .listed name
      | fails err =>
          cases served
          exact .failed _ _ err rfl
  | deleteTemplate key =>
      cases reply with
      | reads ns => cases served
      | works lingers =>
          simp only [respond] at served
          split at served
          case isTrue _ =>
              cases served
              exact .deleted key _ (ite_ne_present lingers)
          case isFalse absent =>
              cases served
              exact .missing key absent
      | fails err =>
          obtain ⟨failing, ⟨⟩⟩ := Option.ite_none_left_eq_some.mp served
          exact .failed _ _ err (if_neg failing)
  | updateNamespace ns =>
      cases reply with
      | reads ns => cases served
      | works lingers =>
          simp only [respond] at served
          cases isStored : cluster.namespaces ns.name with
          | none =>
              rw [isStored] at served
              cases served
              exact .failed _ _ _ rfl
          | some stored =>
              rw [isStored] at served
              dsimp only at served
              split at served
              case isTrue current =>
                  cases served
                  exact .updated ns stored isStored current
              case isFalse _ =>
                  cases served
                  exact .failed _ _ _ rfl
      | fails err =>
          cases served
          exact .failed _ _ err rfl

theorem Effect.evolves (effect : Effect cluster request answered) (versioned : Versioned cluster) :
    Versioned answered.2 ∧ Evolves cluster answered.2 := by
  cases effect with
  | deleted key fate removes => exact versioned.mark key removes
  | updated ns stored isStored current => exact versioned.store _
  | _ => exact ⟨versioned, .refl cluster⟩

theorem Effect.cluster_eq {err : GoError} (effect : Effect cluster request answered)
    (fails : failure request answered.1 = some err) : answered.2 = cluster := by
  cases effect with
  | deleted key fate removes => cases fails
  | updated ns stored isStored current => cases fails
  | _ => rfl

def Related : Stage → Cluster → Prop
  | .read copy, cluster => copy ∈ cluster.history
  | .cleaning copy pending, cluster =>
      copy ∈ cluster.history ∧ copy.deletionTimestamp ≠ none ∧
        (cluster.namespaces copy.name = some copy →
          ∀ template, template ∈ cluster.templates → template.key.ns = copy.name →
            template.fate = .present → template.key ∈ pending)
  | _, _ => True

theorem Related.evolves {stage : Stage} {after : Cluster} (related : Related stage cluster)
    (evolves : Evolves cluster after) : Related stage after := by
  cases stage with
  | begun => trivial
  | read copy => exact evolves.kept copy related
  | cleaning copy pending =>
      obtain ⟨member, terminating, complete⟩ := related
      refine ⟨evolves.kept copy member, terminating, ?_⟩
      intro isCurrent template isTemplate inNs present
      have wasCurrent := evolves.current copy member isCurrent
      have before := evolves.created copy terminating wasCurrent template isTemplate inNs present
      exact complete wasCurrent template before inNs present
  | failed err => trivial
  | finished => trivial

private theorem mem_listed {template : Template} {name : String}
    (member : template ∈ cluster.templates)
    (inNs : template.key.ns = name) (present : template.fate = .present) :
    template.key ∈ cluster.listed name := by
  refine List.mem_map.mpr ⟨template, List.mem_filter.mpr ⟨member, ?_⟩, rfl⟩
  rw [inNs, present]
  simp

private theorem hasTemplate_of_mem {template : Template} (member : template ∈ cluster.templates)
    (present : template.fate = .present) : cluster.hasTemplate template.key = true := by
  refine List.any_eq_true.mpr ⟨template, member, ?_⟩
  rw [present]
  simp

private theorem mem_tail_of_ne {key other : NamespacedName} {pending : List NamespacedName}
    (isHead : pending.head? = some key) (member : other ∈ pending) (differ : other ≠ key) :
    other ∈ pending.tail := by
  obtain ⟨rest, rfl⟩ := List.head?_eq_some_iff.mp isHead
  exact (List.mem_cons.mp member).resolve_left differ

private theorem after_failed {answer : request.Answer} {err : GoError}
    (fails : failure request answer = some err) (stage : Stage) :
    rules.after stage request answer = .failed err := by
  simp only [rules, fails]

/-- The own call moves the place. -/
theorem Related.moves {stage : Stage} (related : Related stage cluster)
    (permitted : rules.permitted stage request) (effect : Effect cluster request answered) :
    Related (rules.after stage request answered.1) answered.2 := by
  cases effect with
  | read ns member =>
      cases stage with
      | begun => exact member
      | _ => exact permitted.elim
  | unread name err isNotFound =>
      have finished : rules.after stage (.getNamespace name) (.error err) = .finished := by
        simp only [rules, failure, isNotFound, if_true]
      rw [finished]
      trivial
  | listed name =>
      cases stage with
      | read copy =>
          obtain ⟨rfl, terminating⟩ := permitted
          exact ⟨related, terminating, fun _ template => mem_listed⟩
      | _ => exact permitted.elim
  | deleted key fate removes =>
      cases stage with
      | cleaning copy pending =>
          obtain ⟨member, terminating, complete⟩ := related
          refine ⟨member, terminating, fun isCurrent template isTemplate inNs present => ?_⟩
          obtain ⟨before, differ⟩ := mem_mark removes isTemplate present
          exact mem_tail_of_ne permitted (complete isCurrent template before inNs present) differ
      | _ => exact permitted.elim
  | missing key absent =>
      cases stage with
      | cleaning copy pending =>
          obtain ⟨member, terminating, complete⟩ := related
          refine ⟨member, terminating, fun isCurrent template isTemplate inNs present => ?_⟩
          have differ : template.key ≠ key := fun same =>
            absent (same ▸ hasTemplate_of_mem isTemplate present)
          have isPending := complete isCurrent template isTemplate inNs present
          exact mem_tail_of_ne permitted isPending differ
      | _ => exact permitted.elim
  | updated ns stored isStored current =>
      cases stage with
      | read copy => trivial
      | cleaning copy pending => trivial
      | _ => exact permitted.elim
  | failed request answer err fails =>
      rw [after_failed fails]
      trivial

structure Safe (system : System) : Prop where
  versioned : Versioned system.cluster
  placed : AllPlaced rules Result Related system.cluster system.executions

private theorem empty_safe : Safe .empty := by
  refine ⟨⟨?_, ?_, ?_⟩, ?_⟩
  · intro ns member
    cases member
  · intro ns other member
    cases member
  · intro name ns impossible
    cases impossible
  · intro id program impossible
    cases impossible

namespace System

variable {system next : System}

private theorem step_call {id : Nat} {reply : Reply}
    (taken : system.step (.call id reply) = some next) :
    ∃ request later answered, system.executions id = some (.call request later) ∧
      respond system.cluster request reply = some answered ∧
      next = { system with
        cluster := answered.2
        executions := Function.update system.executions id (some (later answered.1)) } := by
  simp only [step] at taken
  split at taken
  case h_1 request later isCall =>
      obtain ⟨answered, served, equal⟩ := Option.map_eq_some_iff.mp taken
      exact ⟨request, later, answered, isCall, served, equal.symm⟩
  case h_2 _ => cases taken

private theorem disturb_evolves {cluster after : Cluster} {disturbance : Disturbance}
    (versioned : Versioned cluster) (disturbs : cluster.disturb disturbance = some after) :
    Versioned after ∧ Evolves cluster after := by
  cases disturbance with
  | createNamespace name finalizers =>
      simp only [Cluster.disturb] at disturbs
      split at disturbs
      · cases disturbs
      · cases disturbs
        exact versioned.store _
  | editNamespace name finalizers =>
      obtain ⟨stored, _, rfl⟩ := Option.map_eq_some_iff.mp disturbs
      exact versioned.store _
  | terminateNamespace name time =>
      obtain ⟨stored, _, rfl⟩ := Option.map_eq_some_iff.mp disturbs
      split
      · exact versioned.store _
      · exact ⟨versioned, .refl cluster⟩
  | removeNamespace name =>
      simp only [Cluster.disturb] at disturbs
      split at disturbs
      · cases disturbs
      · obtain ⟨_, ⟨⟩⟩ := Option.ite_none_left_eq_some.mp disturbs
        exact versioned.remove name
  | createTemplate key =>
      simp only [Cluster.disturb] at disturbs
      split at disturbs
      case h_1 _ => cases disturbs
      case h_2 stored isStored =>
          obtain ⟨admitted, ⟨⟩⟩ := Option.ite_none_left_eq_some.mp disturbs
          obtain ⟨lives, _⟩ := not_or.mp admitted
          exact versioned.create isStored (Decidable.not_not.mp lives)
  | deleteTemplate key lingers =>
      cases disturbs
      exact versioned.mark key (ite_ne_present lingers)

private theorem step_safe {event : Event} (safe : Safe system)
    (taken : system.step event = some next) : Safe next := by
  cases event with
  | reconcile id name =>
      simp only [step] at taken
      split at taken
      · cases taken
      · cases taken
        refine ⟨safe.versioned, safe.placed.update id _ ?_⟩
        rintro _ ⟨⟩
        exact ⟨.begun, reconcile_guarantees name, trivial⟩
  | call id reply =>
      obtain ⟨request, later, answered, isCall, served, rfl⟩ := step_call taken
      have effect := respond_effect served
      obtain ⟨versioned, evolves⟩ := effect.evolves safe.versioned
      refine ⟨versioned, safe.placed.answered isCall answered.1 ?_ ?_⟩
      · intro stage related
        exact related.evolves evolves
      · intro stage related permitted
        exact ⟨trivial, related.moves permitted effect⟩
  | returns id =>
      simp only [step] at taken
      split at taken
      · cases taken
        refine ⟨safe.versioned, safe.placed.update id none ?_⟩
        intro program impossible
        cases impossible
      · cases taken
  | others disturbance =>
      obtain ⟨cluster, disturbs, rfl⟩ := Option.map_eq_some_iff.mp taken
      obtain ⟨versioned, evolves⟩ := disturb_evolves safe.versioned disturbs
      exact ⟨versioned, safe.placed.stable fun _ related => related.evolves evolves⟩

end System

/-- What a call of an execution may do.  One that takes the finalizer away is made when
the namespace is being deleted and each of its templates is gone or has had a Delete
request.  One that fails leaves the cluster as it is and ends the execution. -/
structure CleansUp (system : System) (id : Nat) (reply : Reply) (next : System) : Prop where
  removal : ∀ name stored, system.cluster.namespaces name = some stored →
    namespaceFinalizer ∈ stored.finalizers →
    (∀ after, next.cluster.namespaces name = some after →
      namespaceFinalizer ∉ after.finalizers) →
    stored.deletionTimestamp ≠ none ∧
      ∀ template, template ∈ system.cluster.templates → template.key.ns = name →
        template.fate = .requested ∨ template.fate = .gone
  failing : ∀ request later answered err,
    system.executions id = some (.call request later) →
    respond system.cluster request reply = some answered →
    failure request answered.1 = some err →
    next = { system with
      executions := Function.update system.executions id (some (.done (some err))) }

def CallCleansUp (system : System) : Event → Prop
  | .call id reply =>
      ∀ next, system.step (.call id reply) = some next → CleansUp system id reply next
  | _ => True

/-- An update that takes effect was made from the version that is stored. -/
theorem Versioned.eq_copy {stored copy : Namespace} {name : String} (versioned : Versioned cluster)
    (isStored : cluster.namespaces name = some stored) (member : copy ∈ cluster.history)
    (same : stored.resourceVersion = copy.resourceVersion) : stored = copy :=
  versioned.distinct stored copy (versioned.stored name stored isStored).2 member same

theorem Fate.removed {fate : Fate} (removed : fate ≠ .present) :
    fate = .requested ∨ fate = .gone := by
  cases fate with
  | present => exact absurd rfl removed
  | requested => exact .inl rfl
  | gone => exact .inr rfl

theorem Effect.removal {stage : Stage} {name : String} {stored : Namespace}
    (effect : Effect cluster request answered) (versioned : Versioned cluster)
    (related : Related stage cluster) (permitted : rules.permitted stage request)
    (isStored : cluster.namespaces name = some stored)
    (has : namespaceFinalizer ∈ stored.finalizers)
    (removed : ∀ after, answered.2.namespaces name = some after →
      namespaceFinalizer ∉ after.finalizers) :
    stored.deletionTimestamp ≠ none ∧
      ∀ template, template ∈ cluster.templates → template.key.ns = name →
        template.fate = .requested ∨ template.fate = .gone := by
  cases effect with
  | updated ns other isOther current =>
      dsimp only [Cluster.store] at removed
      have isName := (versioned.stored ns.name other isOther).1
      by_cases same : name = ns.name
      · subst same
        rw [isStored] at isOther
        cases isOther
        rw [isName, Function.update_self] at removed
        have gone := removed _ rfl
        cases stage with
        | read copy => exact absurd permitted gone
        | cleaning copy pending =>
            -- the version is still the one that was read, so none has come since the list
            obtain ⟨rfl, isCopy, version⟩ := permitted
            obtain ⟨member, terminating, complete⟩ := related
            obtain rfl := versioned.eq_copy isStored member (current.trans version)
            refine ⟨terminating, fun template isTemplate inNs => Fate.removed fun present => ?_⟩
            rw [isName] at complete
            cases complete isStored template isTemplate inNs present
        | _ => exact permitted.elim
      · rw [isName, Function.update_of_ne same] at removed
        exact absurd has (removed stored isStored)
  | _ => exact absurd has (removed stored isStored)

theorem Safe.cleansUp {system next : System} {id : Nat} {reply : Reply} (safe : Safe system)
    (taken : system.step (.call id reply) = some next) : CleansUp system id reply next := by
  obtain ⟨request, later, answered, isCall, served, rfl⟩ := System.step_call taken
  obtain ⟨stage, guarantees, related⟩ := safe.placed id _ isCall
  have effect := respond_effect served
  refine ⟨?_, ?_⟩
  · intro name stored isStored has removed
    exact effect.removal safe.versioned related guarantees.1 isStored has removed
  · intro request' later' answered' err isCall' served' fails
    rw [isCall] at isCall'
    cases isCall'
    rw [served] at served'
    cases served'
    have ends := guarantees.2 answered.1 trivial
    rw [after_failed fails] at ends
    rw [effect.cluster_eq fails, done_of_failed ends]

/-- The finalizer is removed from a namespace only after its deletion timestamp was set
and when each of its templates is gone or has had a Delete request, whatever becomes of
the calls and whatever others do; a call that fails leaves the finalizer where it is. -/
theorem namespace_cleanup (events : List Event) :
    Along System.step CallCleansUp .empty events := by
  have safe := throughout_of_preserved System.step Safe
    (fun _ _ _ safe taken => System.step_safe safe taken) .empty events empty_safe
  refine safe.along fun system event here => ?_
  cases event with
  | call id reply => exact fun next taken => here.cleansUp taken
  | reconcile id name => trivial
  | returns id => trivial
  | others disturbance => trivial

def teamVersion (version : Nat) (deletionTimestamp : Option Time) (finalizers : List String) :
    Namespace :=
  { name := "team"
    resourceVersion := version
    deletionTimestamp := deletionTimestamp
    finalizers := finalizers }

def interruptedCleanup : List Event :=
  [.others (.createNamespace "team" []),
    .reconcile 0 "team", .call 0 (.reads (teamVersion 1 none [])), .call 0 (.works false),
    .returns 0,
    .others (.createTemplate ⟨"team", "first"⟩), .others (.createTemplate ⟨"team", "second"⟩),
    .others (.terminateNamespace "team" 5),
    .reconcile 1 "team", .call 1 (.reads (teamVersion 3 (some 5) [namespaceFinalizer])),
    .call 1 (.works false), .call 1 (.works true), .call 1 (.fails (errorf "timeout")),
    .returns 1]

def repeatedCleanup : List Event :=
  [.reconcile 2 "team", .call 2 (.reads (teamVersion 3 (some 5) [namespaceFinalizer])),
    .call 2 (.works false), .call 2 (.works true),
    .others (.deleteTemplate ⟨"team", "first"⟩ false), .call 2 (.works false),
    .call 2 (.works false), .returns 2]

def System.observe (system : System) : Option (List String) × List Fate :=
  ((system.cluster.namespaces "team").map Namespace.finalizers,
    system.cluster.templates.map Template.fate)

/-- The finalizer stays after the first execution and goes with the second. -/
theorem namespace_cleanup_repeated :
    (run System.step .empty interruptedCleanup).map System.observe =
        some (some [namespaceFinalizer], [.requested, .present]) ∧
      (run System.step .empty (interruptedCleanup ++ repeatedCleanup)).map System.observe =
        some (some [], [.requested, .gone]) ∧
      Along System.step CallCleansUp .empty (interruptedCleanup ++ repeatedCleanup) :=
  ⟨by decide +kernel, by decide +kernel, namespace_cleanup _⟩

end KubeTemplater.Namespaces
