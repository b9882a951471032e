/-
Whether a change of a policy takes effect.

Every writer of the cache reads the API server and stores in two separate steps,
and nothing compares versions.  A store of an old version after both reconcilers
have published the latest change stays in the cache.  Where no such late store
happens, a `Get` that starts after both have published returns no older version.
-/

import KubeTemplater.Cache.Interleaving

namespace KubeTemplater.Cache

open Library Library.Program

namespace System

def Current (key : NamespacedName) (system : System) : Prop :=
  ∀ returned, returned ∈ system.returned → ∀ policy, returned.result = .ok policy →
    policy.key = key → returned.floor key ≤ policy.resourceVersion

def Present (system : System) (key : NamespacedName) : Prop :=
  ∃ policy, policy ∈ system.cluster.policies ∧ policy.key = key

/-- The writes that bring the latest change into the cache have happened: both
stores of a policy that exists, the clearing for one that has been deleted. -/
structure Protected (system : System) (key : NamespacedName) : Prop where
  byPolicy : system.published .kubeTemplatePolicy key = true
  byCache : system.Present key → system.published .policyCache key = true

def requestOf {α : Type} : Program cacheApi α → Option CacheCall
  | .done _ => none
  | .call request _ => some request

def nextRequest (system : System) : Event → Option CacheCall
  | .get caller _ => (system.gets caller).bind (fun thread => requestOf thread.program)
  | .reconcile reconciler key _ =>
      (system.reconciles reconciler key).bind (fun thread => requestOf thread.program)
  | _ => none

/-- The policy is the only one for its source namespace, which never changes, and
no old version of it is stored once the latest change is protected. -/
structure Orderly (key : NamespacedName) (source : String) (system : System) (event : Event) :
    Prop where
  sole : ∀ policy, event = .write policy → (policy.key = key ↔ policy.sourceNamespace = source)
  timely : ∀ target policy, system.nextRequest event = some (.store target (some policy)) →
    policy.key = key → policy.resourceVersion < system.changed key → ¬ system.Protected key

def freshness (key : NamespacedName) (source : String) (floor : Nat) : Protocol cacheApi Unit :=
  Protocol.stateless
    (fun
      | .listPolicies _ target => fun listed => ∀ policies, listed = .ok policies →
          ∀ policy, policy ∈ policies → policy.key = key →
            target = source ∧ floor ≤ policy.resourceVersion
      | _ => fun _ => True)
    (fun
      | .store target stored => ∀ policy, stored = some policy → policy.key = key →
          target = source
      | .listPolicies _ _ => True
      | .now => True
      | _ => False)

def ReturnsCurrent (key : NamespacedName) (floor : Nat)
    (result : Except GoError KubeTemplatePolicy) : Prop :=
  ∀ policy, result = .ok policy → policy.key = key → floor ≤ policy.resourceVersion

private theorem refresh_freshness (key : NamespacedName) (source : String) (floor : Nat)
    (target operator : String) :
    Guarantees (freshness key source floor) (fun _ => ReturnsCurrent key floor) ()
      (refresh target operator) := by
  refine ⟨trivial, ?_⟩
  intro listed expected
  cases listed with
  | error err =>
      intro policy returned
      cases returned
  | ok policies =>
      cases policies with
      | nil =>
          refine ⟨?_, ?_⟩
          · intro policy stored
            cases stored
          · intro _ _ policy returned
            cases returned
      | cons policy rest =>
          cases rest with
          | nil =>
              have own := expected [policy] rfl policy List.mem_cons_self
              refine ⟨?_, ?_⟩
              · intro stored same isKey
                cases same
                exact (own isKey).1
              · intro _ _ returned same isKey
                cases same
                exact (own isKey).2
          | cons other rest =>
              intro returned same
              cases same

private theorem getFound_freshness (key : NamespacedName) (source : String) (floor : Nat)
    (target operator : String) (found : Option CacheEntry)
    (known : ∀ entry policy, found = some entry → entry.policy = some policy →
      policy.key = key → floor ≤ policy.resourceVersion) :
    Guarantees (freshness key source floor) (fun _ => ReturnsCurrent key floor) ()
      (getFound target operator found) := by
  cases found with
  | none => exact refresh_freshness key source floor target operator
  | some entry =>
      refine ⟨trivial, ?_⟩
      intro now _expected
      dsimp only
      split
      · intro policy returned
        apply known entry policy rfl
        unfold CacheEntry.answer at returned
        split at returned
        · cases returned
        · rename_i stored isStored
          cases returned
          exact isStored
      · exact refresh_freshness key source floor target operator

def ownPolicy (key : NamespacedName) : Protocol cacheApi Unit :=
  Protocol.stateless
    (fun
      | .getPolicy read => fun found => ∀ policy, found = .ok policy → policy.key = read
      | _ => fun _ => True)
    (fun
      | .store _ stored => ∀ policy, stored = some policy → policy.key = key
      | .getPolicy read => read = key
      | _ => True)

private theorem reconcileRead_ownPolicy (reconciler : Reconciler) (key : NamespacedName)
    (read : Except GoError KubeTemplatePolicy)
    (own : ∀ policy, read = .ok policy → policy.key = key) :
    Guarantees (ownPolicy key) (fun _ _ => True) () (reconcileRead reconciler read) := by
  cases read with
  | ok policy =>
      have stores : ∀ stored, some policy = some stored → stored.key = key := by
        intro stored same
        cases same
        exact own policy rfl
      cases reconciler with
      | policyCache => exact ⟨stores, fun _ _ => trivial⟩
      | kubeTemplatePolicy => exact ⟨stores, fun _ _ => trivial⟩
  | error err =>
      cases reconciler with
      | _ =>
          change Guarantees _ _ _ (if err.isNotFound = true then _ else _)
          split
          · exact ⟨trivial, fun _ _ => trivial⟩
          · trivial

variable {failure : Option GoError} {key : NamespacedName}

private theorem answer_ownPolicy {cluster : Cluster} {request : CacheCall}
    {answered : request.Answer × Cluster}
    (isAnswer : answer cluster request failure = some answered) :
    (ownPolicy key).expected () request answered.1 := by
  cases request with
  | getPolicy read =>
      intro policy found
      cases failure with
      | none =>
          cases isAnswer
          exact (found_ok cluster read policy found).2
      | some err =>
          obtain ⟨refused, isRefused, same⟩ := Option.map_eq_some_iff.mp isAnswer
          cases same
          obtain ⟨isError, _⟩ := refuse_getPolicy read err refused isRefused
          cases isError.symm.trans found
  | _ => trivial

/-- Where an execution of a reconciler stands: before its read, between its read
and its write, or at its end.  What it read after the latest change of its policy
is still so. -/
inductive Stage (system : System) (source : String) (reconciler : Reconciler)
    (key : NamespacedName) (thread : ReconcileThread) : Prop where
  | start (program : thread.program = Cache.reconcile reconciler key)
  | read (revision : Nat) (found : Except GoError KubeTemplatePolicy)
      (observed : thread.observed = some revision) (seen : revision ≤ system.revision)
      (program : thread.program = reconcileRead reconciler found)
      (own : ∀ policy, found = .ok policy → policy.sourceNamespace = source)
      (latest : revision = system.changed key →
        (∀ policy, found = .ok policy → policy.resourceVersion = system.changed key) ∧
        (∀ err, found = .error err → err.isNotFound = true → ¬ system.Present key))
  | ended (result : Option GoError) (program : thread.program = .done result)

variable {source : String} {reconciler : Reconciler} {system next : System}

theorem Stage.later {thread : ReconcileThread} (stage : Stage system source reconciler key thread)
    (revision : system.revision ≤ next.revision) (changed : next.changed key = system.changed key)
    (present : next.Present key → system.Present key) :
    Stage next source reconciler key thread := by
  cases stage with
  | start program => exact .start program
  | ended result program => exact .ended result program
  | read at' found observed seen program own latest =>
      refine .read at' found observed (Nat.le_trans seen revision) program own ?_
      intro isLatest
      rw [changed] at isLatest ⊢
      obtain ⟨versions, absent⟩ := latest isLatest
      refine ⟨versions, ?_⟩
      intro err isError notFound exists'
      exact absent err isError notFound (present exists')

structure Fresh (key : NamespacedName) (source : String) (system : System) : Prop where
  bounded : system.changed key ≤ system.revision
  stored : ∀ policy, policy ∈ system.cluster.policies →
    (policy.key = key ↔ policy.sourceNamespace = source) ∧
    (policy.key = key → policy.resourceVersion = system.changed key)
  placed : ∀ target entry policy, system.cluster.entries target = some entry →
    entry.policy = some policy → policy.key = key → target = source
  current : system.Protected key → ∀ target entry policy,
    system.cluster.entries target = some entry → entry.policy = some policy →
    policy.key = key → system.changed key ≤ policy.resourceVersion
  gets : ∀ caller thread, system.gets caller = some thread →
    thread.floor key ≤ system.changed key ∧
    Guarantees (freshness key source (thread.floor key))
      (fun _ => ReturnsCurrent key (thread.floor key)) () thread.program
  stages : ∀ reconciler thread, system.reconciles reconciler key = some thread →
    Stage system source reconciler key thread
  owners : ∀ reconciler other thread, system.reconciles reconciler other = some thread →
    Guarantees (ownPolicy other) (fun _ _ => True) () thread.program
  returned : system.Current key

private theorem start_fresh (key : NamespacedName) (source : String) (ttl clock : Time)
    (operatorNamespace : String) : Fresh key source (start ttl clock operatorNamespace) where
  bounded := Nat.le_refl 0
  stored := by intro policy member; cases member
  placed := by intro target entry policy found; cases found
  current := by intro _ target entry policy found; cases found
  gets := by intro caller thread inside; cases inside
  stages := by intro reconciler thread inside; cases inside
  owners := by intro reconciler other thread inside; cases inside
  returned := by intro returned member; cases member

/-- Steps that only move threads, report a result or let time pass leave what the
invariant says about policies and entries. -/
theorem Fresh.framed (fresh : Fresh key source system) (clock : Time)
    (threads : Nat → Option GetThread)
    (executions : Reconciler → NamespacedName → Option ReconcileThread) (results : List Returned)
    (gets : ∀ caller thread, threads caller = some thread →
      thread.floor key ≤ system.changed key ∧
      Guarantees (freshness key source (thread.floor key))
        (fun _ => ReturnsCurrent key (thread.floor key)) () thread.program)
    (stages : ∀ reconciler thread, executions reconciler key = some thread →
      Stage system source reconciler key thread)
    (owners : ∀ reconciler other thread, executions reconciler other = some thread →
      Guarantees (ownPolicy other) (fun _ _ => True) () thread.program)
    (returned : ∀ result, result ∈ results → ReturnsCurrent key (result.floor key) result.result) :
    Fresh key source { system with
      cluster := { system.cluster with clock := clock }
      gets := threads
      reconciles := executions
      returned := results } where
  bounded := fresh.bounded
  stored := fresh.stored
  placed := fresh.placed
  current := fun isProtected => fresh.current ⟨isProtected.byPolicy, isProtected.byCache⟩
  gets := gets
  stages := fun reconciler thread inside =>
    (stages reconciler thread inside).later (Nat.le_refl _) rfl id
  owners := owners
  returned := returned

section Change

variable {key concerned : NamespacedName} {system : System} {policies : List KubeTemplatePolicy}

private theorem change_changed_le (bounded : system.changed key ≤ system.revision) :
    system.changed key ≤ (system.change policies concerned).changed key := by
  simp only [change]
  split
  · exact Nat.le_succ_of_le bounded
  · exact Nat.le_refl _

theorem change_changed_other (different : key ≠ concerned) :
    (system.change policies concerned).changed key = system.changed key :=
  if_neg different

private theorem change_present_other (different : key ≠ concerned)
    (kept : ∀ policy, policy ∈ policies → policy.key ≠ concerned →
      policy ∈ system.cluster.policies)
    (still : ∀ policy, policy ∈ system.cluster.policies → policy.key ≠ concerned →
      policy ∈ policies) :
    (system.change policies concerned).Present key ↔ system.Present key := by
  constructor
  · intro exists'
    obtain ⟨policy, member, isKey⟩ := exists'
    exact ⟨policy, kept policy member (by rw [isKey]; exact different), isKey⟩
  · intro exists'
    obtain ⟨policy, member, isKey⟩ := exists'
    exact ⟨policy, still policy member (by rw [isKey]; exact different), isKey⟩

end Change

/-- A change of another policy, or of this one, when the new policies are in order. -/
theorem Fresh.changed (fresh : Fresh key source system) (policies : List KubeTemplatePolicy)
    (concerned : NamespacedName) (kept : ∀ policy, policy ∈ policies → policy.key ≠ concerned →
      policy ∈ system.cluster.policies)
    (still : ∀ policy, policy ∈ system.cluster.policies → policy.key ≠ concerned →
      policy ∈ policies) (sole : ∀ policy, policy ∈ policies → policy.key = concerned →
      (policy.key = key ↔ policy.sourceNamespace = source) ∧
        policy.resourceVersion = system.revision + 1) :
    Fresh key source (system.change policies concerned) := by
  have present (different : key ≠ concerned) :=
    change_present_other different kept still
  constructor
  · simp only [change]
    split
    · exact Nat.le_refl _
    · exact Nat.le_succ_of_le fresh.bounded
  · intro policy member
    by_cases own : policy.key = concerned
    · obtain ⟨only, version⟩ := sole policy member own
      refine ⟨only, ?_⟩
      intro isKey
      rw [version]
      exact (if_pos (isKey.symm.trans own)).symm
    · obtain ⟨only, version⟩ := fresh.stored policy (kept policy member own)
      refine ⟨only, ?_⟩
      intro isKey
      rw [isKey] at own
      rw [change_changed_other own]
      exact version isKey
  · exact fresh.placed
  · intro isProtected target entry policy found cached isKey
    have different : key ≠ concerned := by
      intro same
      have published := isProtected.byPolicy
      simp only [change, if_pos same] at published
      cases published
    rw [change_changed_other different]
    apply fresh.current _ target entry policy found cached isKey
    constructor
    · have published := isProtected.byPolicy
      simp only [change, if_neg different] at published
      exact published
    · intro exists'
      have published := isProtected.byCache ((present different).mpr exists')
      simp only [change, if_neg different] at published
      exact published
  · intro caller thread inside
    obtain ⟨floor, guarantees⟩ := fresh.gets caller thread inside
    exact ⟨Nat.le_trans floor (change_changed_le fresh.bounded), guarantees⟩
  · intro reconciler thread inside
    have stage := fresh.stages reconciler thread inside
    by_cases same : key = concerned
    · cases stage with
      | start program => exact .start program
      | ended result program => exact .ended result program
      | read revision found observed seen program own _latest =>
          refine .read revision found observed (Nat.le_succ_of_le seen) program own ?_
          -- nobody has seen the change that is just made
          intro isLatest
          simp only [change, if_pos same] at isLatest
          rw [isLatest] at seen
          exact absurd seen (Nat.not_succ_le_self _)
    · exact stage.later (Nat.le_succ _) (change_changed_other same) (present same).mp
  · exact fresh.owners
  · exact fresh.returned

theorem Fresh.written (fresh : Fresh key source system) (policy : KubeTemplatePolicy)
    (sole : policy.key = key ↔ policy.sourceNamespace = source) :
    Fresh key source (system.change
      (others system.cluster.policies policy.key ++
        [{ policy with resourceVersion := system.revision + 1 }]) policy.key) := by
  apply fresh.changed
  · intro other member different
    rcases List.mem_append.mp member with old | new
    · exact ((mem_others_iff _ _ _).mp old).1
    · rw [List.mem_singleton.mp new] at different
      exact absurd rfl different
  · intro other member different
    exact List.mem_append_left _ ((mem_others_iff _ _ _).mpr ⟨member, different⟩)
  · intro other member own
    rcases List.mem_append.mp member with old | new
    · exact absurd own ((mem_others_iff _ _ _).mp old).2
    · rw [List.mem_singleton.mp new]
      exact ⟨sole, rfl⟩

theorem Fresh.deleted (fresh : Fresh key source system) (concerned : NamespacedName) :
    Fresh key source
      (system.change (others system.cluster.policies concerned) concerned) := by
  apply fresh.changed
  · intro policy member _different
    exact ((mem_others_iff _ _ _).mp member).1
  · intro policy member different
    exact (mem_others_iff _ _ _).mpr ⟨member, different⟩
  · intro policy member own
    exact absurd own ((mem_others_iff _ _ _).mp member).2

/-- A call that stores the policy nowhere but in its place, and not late, leaves
the entries in order. -/
theorem Fresh.entries_answered (fresh : Fresh key source system) {request : CacheCall}
    {answered : request.Answer × Cluster}
    (isAnswer : answer system.cluster request failure = some answered)
    (stores : ∀ target policy, request = .store target (some policy) → policy.key = key →
      target = source ∧ (system.Protected key → system.changed key ≤ policy.resourceVersion)) :
    ∀ target entry policy, answered.2.entries target = some entry →
      entry.policy = some policy → policy.key = key →
      target = source ∧ (system.Protected key → system.changed key ≤ policy.resourceVersion) := by
  intro target entry policy found cached isKey
  rcases answer_entry isAnswer found with ⟨before, _⟩ | isStore
  · exact ⟨fresh.placed target entry policy before cached isKey,
      fun isProtected => fresh.current isProtected target entry policy before cached isKey⟩
  · rw [cached] at isStore
    exact stores target policy isStore isKey

theorem Fresh.listed (fresh : Fresh key source system) {floor : Nat}
    (behind : floor ≤ system.changed key) {request : CacheCall}
    {answered : request.Answer × Cluster}
    (isAnswer : answer system.cluster request failure = some answered) :
    (freshness key source floor).expected () request answered.1 := by
  cases request with
  | listPolicies operator target =>
      intro policies isListed policy member isKey
      cases failure with
      | some err =>
          cases isAnswer
          cases isListed
      | none =>
          cases isAnswer
          cases isListed
          obtain ⟨stored, _placed, sourced⟩ := (mem_listed_iff _ _ _ _).mp member
          obtain ⟨sole, version⟩ := fresh.stored policy stored
          refine ⟨sourced.symm.trans (sole.mp isKey), ?_⟩
          rw [version isKey]
          exact behind
  | _ => trivial

private theorem fresh_get {caller : Nat} (fresh : Fresh key source system)
    (orderly : Orderly key source system (.get caller failure))
    (taken : system.step (.get caller failure) = some next) : Fresh key source next := by
  obtain ⟨thread, inside, effect⟩ := step_get taken
  obtain ⟨behind, guarantees⟩ := fresh.gets caller thread inside
  rcases effect with ⟨result, isDone, rfl⟩ | ⟨request, rest, answered, calls, isAnswer, rfl⟩
  · rw [isDone] at guarantees
    refine fresh.framed _ _ _ _ ?_ fresh.stages fresh.owners ?_
    · intro other found stays
      rcases setGet_cases stays with ⟨_, gone⟩ | before
      · cases gone
      · exact fresh.gets other found before
    · intro returned member
      rcases List.mem_cons.mp member with new | old
      · rw [new]
        exact guarantees
      · exact fresh.returned returned old
  · rw [calls] at guarantees
    have asks : system.nextRequest (.get caller failure) = some request := by
      simp only [nextRequest, inside, Option.bind_some, requestOf, calls]
    have entries := fresh.entries_answered isAnswer (by
      intro target policy isStore isKey
      subst isStore
      refine ⟨guarantees.1 policy rfl isKey, ?_⟩
      intro isProtected
      apply Nat.le_of_not_lt
      intro late
      exact orderly.timely target policy asks isKey late isProtected)
    have policies := answer_policies isAnswer
    have present : (system.advanceGet caller thread (rest answered.1) answered.2).Present key →
        system.Present key := by
      intro exists'
      obtain ⟨policy, member, isKey⟩ := exists'
      exact ⟨policy, policies ▸ member, isKey⟩
    constructor
    · exact fresh.bounded
    · intro policy member
      exact fresh.stored policy (policies ▸ member)
    · intro target entry policy found cached isKey
      exact (entries target entry policy found cached isKey).1
    · intro isProtected target entry policy found cached isKey
      apply (entries target entry policy found cached isKey).2
      refine ⟨isProtected.byPolicy, ?_⟩
      intro exists'
      obtain ⟨policy, member, isKey⟩ := exists'
      exact isProtected.byCache ⟨policy, policies ▸ member, isKey⟩
    · intro other found stays
      rcases setGet_cases stays with ⟨_, advanced⟩ | before
      · cases advanced
        exact ⟨behind, guarantees.2 answered.1 (fresh.listed behind isAnswer)⟩
      · exact fresh.gets other found before
    · intro reconciler found stays
      exact (fresh.stages reconciler found stays).later (Nat.le_refl _) rfl present
    · exact fresh.owners
    · exact fresh.returned

theorem Stage.of_read (fresh : Fresh key source system)
    {answered : Except GoError KubeTemplatePolicy × Cluster}
    (isAnswer : answer system.cluster (.getPolicy key) failure = some answered)
    (revision : next.revision = system.revision) (changed : next.changed key = system.changed key)
    (present : next.Present key → system.Present key) :
    Stage next source reconciler key
      { observed := some (system.changed key)
        program := reconcileRead reconciler answered.1 } := by
  have read : (∀ policy, answered.1 = .ok policy →
        policy ∈ system.cluster.policies ∧ policy.key = key) ∧
      ∀ err, answered.1 = .error err → err.isNotFound = true → ¬ system.Present key := by
    cases failure with
    | some err =>
        obtain ⟨refused, isRefused, same⟩ := Option.map_eq_some_iff.mp isAnswer
        cases same
        obtain ⟨isError, otherError⟩ := refuse_getPolicy key err refused isRefused
        refine ⟨?_, ?_⟩
        · intro policy isOk
          cases isError.symm.trans isOk
        · intro same isSame notFound
          cases isError.symm.trans isSame
          rw [otherError] at notFound
          cases notFound
    | none =>
        cases isAnswer
        refine ⟨found_ok system.cluster key, ?_⟩
        intro err isError _notFound exists'
        obtain ⟨policy, member, isKey⟩ := exists'
        exact (found_error system.cluster key err isError).2 policy member isKey
  apply Stage.read (system.changed key) answered.1 rfl (revision ▸ fresh.bounded) rfl
  · intro policy isOk
    obtain ⟨member, isKey⟩ := read.1 policy isOk
    exact (fresh.stored policy member).1.mp isKey
  · intro _isLatest
    rw [changed]
    refine ⟨?_, ?_⟩
    · intro policy isOk
      obtain ⟨member, isKey⟩ := read.1 policy isOk
      exact (fresh.stored policy member).2 isKey
    · intro err isError notFound exists'
      exact read.2 err isError notFound (present exists')

/-- The write of a reconciler: it ends the execution, and it stores the policy in
its place, or empties the cache, or leaves the entries of the policy alone. -/
theorem reconcileRead_write (reconciler : Reconciler)
    (found : Except GoError KubeTemplatePolicy) (request : CacheCall)
    (rest : request.Answer → Program cacheApi (Option GoError))
    (calls : reconcileRead reconciler found = .call request rest) :
    isRead request = false ∧ (∀ answer, rest answer = .done none) ∧
      ((∃ policy, found = .ok policy ∧
          request = .store policy.sourceNamespace (some policy)) ∨
        (∃ err, found = .error err ∧ err.isNotFound = true ∧
          ((reconciler = .policyCache ∧ request = .remove "") ∨
            (reconciler = .kubeTemplatePolicy ∧ request = .clear)))) := by
  cases found with
  | ok policy =>
      cases reconciler with
      | _ =>
          cases calls
          exact ⟨rfl, fun _ => rfl, .inl ⟨policy, rfl, rfl⟩⟩
  | error err =>
      cases reconciler with
      | policyCache =>
          change (if err.isNotFound = true then _ else _) = _ at calls
          split at calls
          · rename_i notFound
            cases calls
            exact ⟨rfl, fun _ => rfl, .inr ⟨err, rfl, notFound, .inl ⟨rfl, rfl⟩⟩⟩
          · cases calls
      | kubeTemplatePolicy =>
          change (if err.isNotFound = true then _ else _) = _ at calls
          split at calls
          · rename_i notFound
            cases calls
            exact ⟨rfl, fun _ => rfl, .inr ⟨err, rfl, notFound, .inr ⟨rfl, rfl⟩⟩⟩
          · cases calls

private theorem advanceReconcile_published {other : Reconciler} {concerned : NamespacedName}
    {thread : ReconcileThread} {request : CacheCall} {program : Program cacheApi (Option GoError)}
    {cluster : Cluster}
    (published : (system.advanceReconcile reconciler concerned thread request program
      cluster).published other key = true) :
    system.published other key = true ∨
      (other = reconciler ∧ key = concerned ∧ isRead request = false ∧
        thread.observed = some (system.changed concerned)) := by
  simp only [advanceReconcile] at published
  split at published
  · rename_i now
    exact .inr now
  · exact .inl published

section Reconciling

variable {key concerned : NamespacedName} {source : String} {system : System}
  {reconciler : Reconciler} {thread : ReconcileThread} {request : CacheCall}
  {failure : Option GoError} {answered : request.Answer × Cluster}
  {rest : request.Answer → Program cacheApi (Option GoError)}

/-- The entries are in order after a step of a reconciler when they are with respect
to what is protected then, and the thread is where it should be. -/
theorem Fresh.reconciled (fresh : Fresh key source system)
    (inside : system.reconciles reconciler concerned = some thread)
    (calls : thread.program = .call request rest)
    (isAnswer : answer system.cluster request failure = some answered)
    (entries : ∀ target entry policy, answered.2.entries target = some entry →
      entry.policy = some policy → policy.key = key →
      target = source ∧ ((system.advanceReconcile reconciler concerned thread request
          (rest answered.1) answered.2).Protected key →
        system.changed key ≤ policy.resourceVersion))
    (stage : concerned = key → Stage (system.advanceReconcile reconciler concerned thread
        request (rest answered.1) answered.2) source reconciler key
      { observed := if isRead request then some (system.changed key) else thread.observed
        program := rest answered.1 }) :
    Fresh key source (system.advanceReconcile reconciler concerned thread request
      (rest answered.1) answered.2) := by
  have policies := answer_policies isAnswer
  constructor
  · exact fresh.bounded
  · intro policy member
    exact fresh.stored policy (policies ▸ member)
  · intro target entry policy found cached isKey
    exact (entries target entry policy found cached isKey).1
  · intro isProtected target entry policy found cached isKey
    exact (entries target entry policy found cached isKey).2 isProtected
  · exact fresh.gets
  · intro other found stays
    rcases setReconcile_cases stays with ⟨same, sameKey, advanced⟩ | ⟨_, before⟩
    · cases advanced
      subst same
      subst sameKey
      exact stage rfl
    · refine (fresh.stages other found before).later (Nat.le_refl _) rfl ?_
      intro exists'
      obtain ⟨policy, member, isKey⟩ := exists'
      exact ⟨policy, policies ▸ member, isKey⟩
  · intro other otherKey found stays
    rcases setReconcile_cases stays with ⟨_, sameKey, advanced⟩ | ⟨_, before⟩
    · cases advanced
      have guarantees := fresh.owners reconciler concerned thread inside
      rw [calls] at guarantees
      rw [sameKey]
      exact guarantees.2 answered.1 (answer_ownPolicy isAnswer)
    · exact fresh.owners other otherKey found before
  · exact fresh.returned

theorem protected_of_unpublished
    (isAnswer : answer system.cluster request failure = some answered)
    (unpublished : ¬ (key = concerned ∧ isRead request = false ∧
      thread.observed = some (system.changed concerned)))
    (isProtected : (system.advanceReconcile reconciler concerned thread request
      (rest answered.1) answered.2).Protected key) : system.Protected key := by
  have before (other : Reconciler)
      (published : (system.advanceReconcile reconciler concerned thread request
        (rest answered.1) answered.2).published other key = true) :
      system.published other key = true := by
    rcases advanceReconcile_published published with already | ⟨_, now⟩
    · exact already
    · exact absurd now unpublished
  refine ⟨before _ isProtected.byPolicy, ?_⟩
  intro exists'
  obtain ⟨policy, member, isKey⟩ := exists'
  exact before _ (isProtected.byCache ⟨policy, (answer_policies isAnswer).symm ▸ member, isKey⟩)

theorem Fresh.reconciled_other (fresh : Fresh key source system)
    (inside : system.reconciles reconciler concerned = some thread)
    (calls : thread.program = .call request rest)
    (isAnswer : answer system.cluster request failure = some answered)
    (different : concerned ≠ key) :
    Fresh key source (system.advanceReconcile reconciler concerned thread request
      (rest answered.1) answered.2) := by
  have guarantees := fresh.owners reconciler concerned thread inside
  rw [calls] at guarantees
  have entries := fresh.entries_answered isAnswer (by
    intro target policy isStore isKey
    subst isStore
    exact absurd ((guarantees.1 policy rfl).symm.trans isKey) different)
  refine fresh.reconciled inside calls isAnswer ?_ (fun same => absurd same different)
  intro target entry policy found cached isKey
  obtain ⟨placed, current⟩ := entries target entry policy found cached isKey
  refine ⟨placed, ?_⟩
  intro isProtected
  apply current
  exact protected_of_unpublished isAnswer (fun now => different now.1.symm) isProtected

theorem Fresh.reconciled_read (fresh : Fresh key source system)
    {rest : Except GoError KubeTemplatePolicy → Program cacheApi (Option GoError)}
    {answered : Except GoError KubeTemplatePolicy × Cluster}
    (inside : system.reconciles reconciler key = some thread)
    (program : thread.program = Cache.reconcile reconciler key)
    (calls : thread.program = .call (.getPolicy key) rest)
    (isAnswer : answer system.cluster (.getPolicy key) failure = some answered) :
    Fresh key source (system.advanceReconcile reconciler key thread (.getPolicy key)
      (rest answered.1) answered.2) := by
  have isRest : rest = reconcileRead reconciler := by
    rw [program] at calls
    cases calls
    rfl
  have entries := fresh.entries_answered isAnswer (by
    intro target policy isStore
    cases isStore)
  refine fresh.reconciled inside calls isAnswer ?_ ?_
  · intro target entry policy found cached isKey
    obtain ⟨placed, current⟩ := entries target entry policy found cached isKey
    refine ⟨placed, ?_⟩
    intro isProtected
    apply current
    refine protected_of_unpublished isAnswer ?_ isProtected
    intro now
    cases now.2.1
  · intro _same
    rw [isRest]
    refine Stage.of_read fresh isAnswer rfl rfl ?_
    intro exists'
    obtain ⟨policy, member, isKey⟩ := exists'
    exact ⟨policy, answer_policies isAnswer ▸ member, isKey⟩

theorem Fresh.reconciled_write (fresh : Fresh key source system)
    (orderly : Orderly key source system (.reconcile reconciler key failure))
    (inside : system.reconciles reconciler key = some thread)
    (calls : thread.program = .call request rest)
    (isAnswer : answer system.cluster request failure = some answered)
    {revision : Nat} {found : Except GoError KubeTemplatePolicy}
    (observed : thread.observed = some revision)
    (program : thread.program = reconcileRead reconciler found)
    (own : ∀ policy, found = .ok policy → policy.sourceNamespace = source)
    (latest : revision = system.changed key →
      (∀ policy, found = .ok policy → policy.resourceVersion = system.changed key) ∧
      (∀ err, found = .error err → err.isNotFound = true → ¬ system.Present key)) :
    Fresh key source (system.advanceReconcile reconciler key thread request
      (rest answered.1) answered.2) := by
  obtain ⟨_isWrite, ends, effect⟩ :=
    reconcileRead_write reconciler found request rest (program.symm.trans calls)
  refine fresh.reconciled inside calls isAnswer ?_ ?_
  · have unpublished (old : revision ≠ system.changed key) :
        ¬ (key = key ∧ isRead request = false ∧
          thread.observed = some (system.changed key)) := by
      intro now
      exact old (Option.some.inj (observed.symm.trans now.2.2))
    intro target entry policy isEntry cached isKey
    rcases answer_entry isAnswer isEntry with ⟨before, notClear, notStore⟩ | isStore
    · -- an entry of the policy that is still there: the write was not at its place
      have placed := fresh.placed target entry policy before cached isKey
      refine ⟨placed, ?_⟩
      intro isProtected
      refine fresh.current ?_ target entry policy before cached isKey
      rcases effect with ⟨stored, isOk, isStore⟩ |
        ⟨err, isError, notFound, ⟨isCache, _⟩ | ⟨_, isClear⟩⟩
      · rw [own stored isOk, ← placed] at isStore
        exact absurd isStore (notStore (some stored))
      · by_cases isLatest : revision = system.changed key
        · have absent := (latest isLatest).2 err isError notFound
          refine ⟨?_, fun exists' => absurd exists' absent⟩
          rcases advanceReconcile_published isProtected.byPolicy with already | ⟨other, _⟩
          · exact already
          · rw [isCache] at other
            cases other
        · exact protected_of_unpublished isAnswer (unpublished isLatest) isProtected
      · exact absurd isClear notClear
    · rw [cached] at isStore
      rcases effect with ⟨stored, isOk, isOwnStore⟩ |
        ⟨err, _, _, ⟨_, isRemove⟩ | ⟨_, isClear⟩⟩
      · cases isStore.symm.trans isOwnStore
        refine ⟨own policy isOk, ?_⟩
        intro isProtected
        by_cases isLatest : revision = system.changed key
        · exact Nat.le_of_eq ((latest isLatest).1 policy isOk).symm
        · apply Nat.le_of_not_lt
          intro late
          have asks : system.nextRequest (.reconcile reconciler key failure) =
              some (.store policy.sourceNamespace (some policy)) := by
            simp only [nextRequest, inside, Option.bind_some, requestOf, calls, isStore]
          exact orderly.timely _ policy asks isKey late
            (protected_of_unpublished isAnswer (unpublished isLatest) isProtected)
      · cases isStore.symm.trans isRemove
      · cases isStore.symm.trans isClear
  · intro _same
    exact .ended none (ends answered.1)

end Reconciling

private theorem fresh_reconcile {concerned : NamespacedName} (fresh : Fresh key source system)
    (orderly : Orderly key source system (.reconcile reconciler concerned failure))
    (taken : system.step (.reconcile reconciler concerned failure) = some next) :
    Fresh key source next := by
  obtain ⟨thread, inside, effect⟩ := step_reconcile taken
  rcases effect with ⟨result, _isDone, rfl⟩ | ⟨request, rest, answered, calls, isAnswer, rfl⟩
  · refine fresh.framed _ _ _ _ fresh.gets ?_ ?_ fresh.returned
    · intro other found stays
      rcases setReconcile_cases stays with ⟨_, _, gone⟩ | ⟨_, before⟩
      · cases gone
      · exact fresh.stages other found before
    · intro other otherKey found stays
      rcases setReconcile_cases stays with ⟨_, _, gone⟩ | ⟨_, before⟩
      · cases gone
      · exact fresh.owners other otherKey found before
  · by_cases same : concerned = key
    · subst same
      cases fresh.stages reconciler thread inside with
      | start program =>
          have isCall := program.symm.trans calls
          unfold Cache.reconcile at isCall
          injection isCall with isRead _
          subst isRead
          exact fresh.reconciled_read inside program calls isAnswer
      | read revision found observed _seen program own latest =>
          exact fresh.reconciled_write orderly inside calls isAnswer observed program own latest
      | ended result program => cases program.symm.trans calls
    · exact fresh.reconciled_other inside calls isAnswer same

private theorem fresh_startGet {caller : Nat} {asked : String} (fresh : Fresh key source system)
    (taken : system.step (.startGet caller asked) = some next) : Fresh key source next := by
  rw [step_startGet taken]
  refine fresh.framed _ _ _ _ ?_ fresh.stages fresh.owners fresh.returned
  intro other thread stays
  rcases setGet_cases stays with ⟨_, started⟩ | before
  · cases started
    have behind : system.floor key ≤ system.changed key := by
      unfold floor
      split
      · exact Nat.le_refl _
      · exact Nat.zero_le _
    refine ⟨behind, ?_⟩
    apply getFound_freshness
    intro entry policy known cached isKey
    -- the call starts with a floor only when the latest change is protected
    dsimp only
    unfold floor
    split
    · rename_i both
      rw [Bool.and_eq_true_iff] at both
      exact fresh.current ⟨both.2, fun _ => both.1⟩ asked entry policy known cached isKey
    · exact Nat.zero_le _
  · exact fresh.gets other thread before

private theorem fresh_startReconcile {concerned : NamespacedName} (fresh : Fresh key source system)
    (taken : system.step (.startReconcile reconciler concerned) = some next) :
    Fresh key source next := by
  rw [step_startReconcile taken]
  refine fresh.framed _ _ _ _ fresh.gets ?_ ?_ fresh.returned
  · intro other thread stays
    rcases setReconcile_cases stays with ⟨same, sameKey, started⟩ | ⟨_, before⟩
    · cases started
      subst same
      subst sameKey
      exact .start rfl
    · exact fresh.stages other thread before
  · intro other otherKey thread stays
    rcases setReconcile_cases stays with ⟨same, sameKey, started⟩ | ⟨_, before⟩
    · cases started
      subst same
      subst sameKey
      refine ⟨rfl, ?_⟩
      intro read expected
      exact reconcileRead_ownPolicy other otherKey read expected
    · exact fresh.owners other otherKey thread before

private theorem step_fresh (key : NamespacedName) (source : String) (system : System)
    (event : Event)
    (next : System) (fresh : Fresh key source system) (orderly : Orderly key source system event)
    (taken : system.step event = some next) : Fresh key source next := by
  cases event with
  | write policy =>
      cases taken
      exact fresh.written policy (orderly.sole policy rfl)
  | delete concerned =>
      cases taken
      exact fresh.deleted concerned
  | pass elapsed =>
      cases taken
      exact fresh.framed _ _ _ _ fresh.gets fresh.stages fresh.owners fresh.returned
  | startGet caller asked => exact fresh_startGet fresh taken
  | get caller failure => exact fresh_get fresh orderly taken
  | startReconcile reconciler concerned => exact fresh_startReconcile fresh taken
  | reconcile reconciler concerned failure => exact fresh_reconcile fresh orderly taken

/-- In a run without late stores of a policy, which stays the only one for its
source namespace, no `Get` that starts after both reconcilers have published the
latest change returns an older version, nor any version after a deletion. -/
theorem current_of_orderly (key : NamespacedName) (source : String) (ttl clock : Time)
    (operatorNamespace : String) (events : List Event)
    (orderly : Along step (Orderly key source) (start ttl clock operatorNamespace) events) :
    Throughout step (Current key) (start ttl clock operatorNamespace) events := by
  have invariant := throughout_of_along step (Orderly key source) (Fresh key source)
    (step_fresh key source) (start ttl clock operatorNamespace) events
    (start_fresh key source ttl clock operatorNamespace) orderly
  exact invariant.mono (fun _ fresh => fresh.returned)

/-- An evaluable condition: policies and source namespaces match, and every stored
version of the policy is the latest. -/
def storesLatest (key : NamespacedName) (source : String) (system : System) (event : Event) :
    Bool :=
  (match event with
    | .write policy => decide (policy.key = key ↔ policy.sourceNamespace = source)
    | _ => true) &&
  match system.nextRequest event with
  | some (.store _ (some policy)) => decide (system.changed key ≤ policy.resourceVersion)
  | _ => true

private theorem orderly_of_storesLatest (key : NamespacedName) (source : String) (system : System)
    (event : Event) (checked : storesLatest key source system event = true) :
    Orderly key source system event := by
  obtain ⟨sole, latest⟩ := Bool.and_eq_true_iff.mp checked
  constructor
  · intro policy isWrite
    subst isWrite
    exact of_decide_eq_true sole
  · intro target policy asks _isKey late
    rw [asks] at latest
    exact absurd late (Nat.not_lt_of_le (of_decide_eq_true latest))

def teamPolicy (validationRules : List ValidationRule) : KubeTemplatePolicy :=
  { ns := "kubetemplater-system", name := "team-a-policy", resourceVersion := 0
    sourceNamespace := "team-a", validationRules := validationRules }

def secretRule : ValidationRule :=
  { kind := "Secret", group := "", version := "v1", rule := "", fieldValidations := []
    targetNamespaces := ["team-a"] }

/-- A whole execution of a reconciler for the policy: its read, its write, its end. -/
def reconciling (reconciler : Reconciler) : List Event :=
  [.startReconcile reconciler (teamPolicy []).key, .reconcile reconciler (teamPolicy []).key none,
    .reconcile reconciler (teamPolicy []).key none, .reconcile reconciler (teamPolicy []).key none]

/-- The policy is created and changed, with both reconcilers after each change and a
`Get` at the end. -/
theorem current_of_orderly_published :
    Throughout step (Current (teamPolicy []).key) (start 0 0 "kubetemplater-system")
      (.write (teamPolicy [secretRule]) ::
        reconciling .policyCache ++ reconciling .kubeTemplatePolicy ++
        .write (teamPolicy []) ::
        reconciling .kubeTemplatePolicy ++ reconciling .policyCache ++
        [.startGet 0 "team-a", .get 0 none, .get 0 none]) :=
  current_of_orderly (teamPolicy []).key "team-a" 0 0 "kubetemplater-system" _
    (along_of_checkAlong (orderly_of_storesLatest _ "team-a") (by decide))

/-- A `Get` lists the policy, the policy is changed and both reconcilers run, the
`Get` stores what it has listed, and another `Get` starts. -/
def lateRefresh (change : Event) : List Event :=
  [.write (teamPolicy [secretRule]), .startGet 0 "team-a", .get 0 none, change] ++
    reconciling .policyCache ++ reconciling .kubeTemplatePolicy ++
    [.get 0 none, .get 0 none, .startGet 1 "team-a", .get 1 none, .get 1 none]

/-- The second `Get` returns the version from before the change, and likewise the
policy that has been deleted. -/
theorem late_refresh_outdates :
    (∃ final, run step (start 0 0 "kubetemplater-system")
        (lateRefresh (.write (teamPolicy []))) = some final ∧
      ¬ final.Current (teamPolicy []).key) ∧
    ∃ final, run step (start 0 0 "kubetemplater-system")
        (lateRefresh (.delete (teamPolicy []).key)) = some final ∧
      ¬ final.Current (teamPolicy []).key := by
  constructor
  all_goals
    refine ⟨_, rfl, ?_⟩
    intro current
    have behind := current _ List.mem_cons_self _ rfl rfl
    revert behind
    decide

end System

end KubeTemplater.Cache
