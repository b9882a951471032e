/-
Calls of `Get` and executions of the two reconcilers, one step at a time.

Any number of callers are inside `Get`; each reconciler works on a policy in at
most one execution at a time, as the controller's work queue sees to.  A step
performs the next call of one of them, or changes the policies, or lets time
pass.  API reads may fail.
-/

import KubeTemplater.Cache.PolicyCache
import KubeTemplater.Library.Transition

namespace KubeTemplater.Cache

open Library Library.Program

structure GetThread where
  sourceNamespace : String
  -- the versions that were current when the call started
  floor : NamespacedName → Nat
  program : Program cacheApi (Except GoError KubeTemplatePolicy)

structure ReconcileThread where
  -- the latest change of the policy when this execution read it
  observed : Option Nat
  program : Program cacheApi (Option GoError)

structure Returned where
  sourceNamespace : String
  floor : NamespacedName → Nat
  result : Except GoError KubeTemplatePolicy

structure System where
  cluster : Cluster
  operatorNamespace : String
  revision : Nat
  /-- The revision of the latest change of each policy. -/
  changed : NamespacedName → Nat
  /-- The reconciler has written to the cache what it read after the latest change. -/
  published : Reconciler → NamespacedName → Bool
  gets : Nat → Option GetThread
  reconciles : Reconciler → NamespacedName → Option ReconcileThread
  returned : List Returned

inductive Event where
  | write (policy : KubeTemplatePolicy)
  | delete (key : NamespacedName)
  | pass (elapsed : Nat)
  | startGet (caller : Nat) (sourceNamespace : String)
  | get (caller : Nat) (failure : Option GoError)
  | startReconcile (reconciler : Reconciler) (key : NamespacedName)
  | reconcile (reconciler : Reconciler) (key : NamespacedName) (failure : Option GoError)

namespace System

def start (ttl clock : Time) (operatorNamespace : String) : System :=
  { cluster := newPolicyCache ttl clock
    operatorNamespace := operatorNamespace
    revision := 0
    changed := fun _ => 0
    published := fun _ _ => false
    gets := fun _ => none
    reconciles := fun _ _ => none
    returned := [] }

/-- Both reconcilers have published the latest change of the policy: from here on
only this version of it is current. -/
def floor (system : System) (key : NamespacedName) : Nat :=
  if system.published .policyCache key && system.published .kubeTemplatePolicy key then
    system.changed key
  else 0

def setGet (gets : Nat → Option GetThread) (caller : Nat) (thread : Option GetThread) :
    Nat → Option GetThread :=
  fun other => if other = caller then thread else gets other

def setReconcile (reconciles : Reconciler → NamespacedName → Option ReconcileThread)
    (reconciler : Reconciler) (key : NamespacedName) (thread : Option ReconcileThread) :
    Reconciler → NamespacedName → Option ReconcileThread :=
  fun other otherKey =>
    if other = reconciler ∧ otherKey = key then thread else reconciles other otherKey

def change (system : System) (policies : List KubeTemplatePolicy) (key : NamespacedName) :
    System :=
  { system with
    cluster := { system.cluster with policies := policies }
    revision := system.revision + 1
    changed := fun other => if other = key then system.revision + 1 else system.changed other
    published := fun reconciler other =>
      if other = key then false else system.published reconciler other }

def answer (cluster : Cluster) (request : CacheCall) :
    Option GoError → Option (request.Answer × Cluster)
  | none => some (respond request cluster)
  | some err => (refuse request err).map (fun answer => (answer, cluster))

def isRead : CacheCall → Bool
  | .getPolicy _ => true
  | _ => false

def advanceGet (system : System) (caller : Nat) (thread : GetThread)
    (program : Program cacheApi (Except GoError KubeTemplatePolicy)) (cluster : Cluster) :
    System :=
  { system with
    cluster := cluster
    gets := setGet system.gets caller (some { thread with program := program }) }

def advanceReconcile (system : System) (reconciler : Reconciler) (key : NamespacedName)
    (thread : ReconcileThread) (request : CacheCall)
    (program : Program cacheApi (Option GoError)) (cluster : Cluster) : System :=
  { system with
    cluster := cluster
    published := fun other otherKey =>
      if other = reconciler ∧ otherKey = key ∧ isRead request = false ∧
          thread.observed = some (system.changed key) then true
      else system.published other otherKey
    reconciles := setReconcile system.reconciles reconciler key
      (some
        { observed := if isRead request then some (system.changed key) else thread.observed
          program := program }) }

def step (system : System) : Event → Option System
  | .write policy =>
      let stored := { policy with resourceVersion := system.revision + 1 }
      some (system.change (others system.cluster.policies policy.key ++ [stored]) policy.key)
  | .delete key => some (system.change (others system.cluster.policies key) key)
  | .pass elapsed =>
      some { system with
        cluster := { system.cluster with clock := system.cluster.clock + elapsed } }
  | .startGet caller sourceNamespace =>
      match system.gets caller with
      | some _ => none
      | none =>
          -- a call starts with its lookup
          some { system with
            gets := setGet system.gets caller (some
              { sourceNamespace := sourceNamespace
                floor := system.floor
                program := getFound sourceNamespace system.operatorNamespace
                  (system.cluster.entries sourceNamespace) }) }
  | .get caller failure =>
      match system.gets caller with
      | none => none
      | some thread =>
          match thread.program with
          | .done result =>
              some { system with
                gets := setGet system.gets caller none
                returned := ⟨thread.sourceNamespace, thread.floor, result⟩ :: system.returned }
          | .call request next =>
              (answer system.cluster request failure).map (fun answered =>
                system.advanceGet caller thread (next answered.1) answered.2)
  | .startReconcile reconciler key =>
      match system.reconciles reconciler key with
      | some _ => none
      | none =>
          some { system with
            reconciles := setReconcile system.reconciles reconciler key
              (some { observed := none, program := Cache.reconcile reconciler key }) }
  | .reconcile reconciler key failure =>
      match system.reconciles reconciler key with
      | none => none
      | some thread =>
          match thread.program with
          | .done _ =>
              some { system with
                reconciles := setReconcile system.reconciles reconciler key none }
          | .call request next =>
              (answer system.cluster request failure).map (fun answered =>
                system.advanceReconcile reconciler key thread request (next answered.1)
                  answered.2)

private theorem setGet_self (gets : Nat → Option GetThread) (caller : Nat)
    (thread : Option GetThread) : setGet gets caller thread caller = thread :=
  if_pos rfl

private theorem setGet_other (gets : Nat → Option GetThread) (caller other : Nat)
    (thread : Option GetThread) (different : other ≠ caller) :
    setGet gets caller thread other = gets other :=
  if_neg different

/-- Who is inside `Get` after a step is either the caller of the step or was there
before. -/
theorem setGet_cases {gets : Nat → Option GetThread} {caller other : Nat}
    {thread : Option GetThread} {found : GetThread}
    (inside : setGet gets caller thread other = some found) :
    (other = caller ∧ thread = some found) ∨ gets other = some found := by
  by_cases same : other = caller
  · rw [same, setGet_self] at inside
    exact .inl ⟨same, inside⟩
  · rw [setGet_other _ _ _ _ same] at inside
    exact .inr inside

theorem setReconcile_cases
    {reconciles : Reconciler → NamespacedName → Option ReconcileThread}
    {reconciler other : Reconciler} {key otherKey : NamespacedName}
    {thread : Option ReconcileThread} {found : ReconcileThread}
    (inside : setReconcile reconciles reconciler key thread other otherKey = some found) :
    (other = reconciler ∧ otherKey = key ∧ thread = some found) ∨
      (¬ (other = reconciler ∧ otherKey = key) ∧ reconciles other otherKey = some found) := by
  unfold setReconcile at inside
  split at inside
  · rename_i same
    exact .inl ⟨same.1, same.2, inside⟩
  · rename_i different
    exact .inr ⟨different, inside⟩

variable {failure : Option GoError}

theorem answer_policies {cluster : Cluster} {request : CacheCall}
    {answered : request.Answer × Cluster}
    (isAnswer : answer cluster request failure = some answered) :
    answered.2.policies = cluster.policies := by
  cases failure with
  | some err =>
      obtain ⟨_refused, _isRefused, same⟩ := Option.map_eq_some_iff.mp isAnswer
      rw [← same]
  | none =>
      cases isAnswer
      cases request <;> rfl

theorem answer_entry {cluster : Cluster} {request : CacheCall} {answered : request.Answer × Cluster}
    (isAnswer : answer cluster request failure = some answered) {target : String}
    {entry : CacheEntry} (found : answered.2.entries target = some entry) :
    (cluster.entries target = some entry ∧ request ≠ .clear ∧
        ∀ stored, request ≠ .store target stored) ∨
      request = .store target entry.policy := by
  cases failure with
  | some err =>
      obtain ⟨refused, isRefused, same⟩ := Option.map_eq_some_iff.mp isAnswer
      rw [← same] at found
      refine .inl ⟨found, ?_, ?_⟩
      · rintro rfl
        cases isRefused
      · rintro stored rfl
        cases isRefused
  | none =>
      cases isAnswer
      cases request with
      | store source stored =>
          simp only [respond] at found
          by_cases same : target = source
          · subst same
            rw [setEntry_self] at found
            cases found
            exact .inr rfl
          · rw [setEntry_other _ _ _ _ same] at found
            refine .inl ⟨found, ?_, ?_⟩
            · intro impossible
              cases impossible
            · intro other impossible
              cases impossible
              exact same rfl
      | remove source =>
          simp only [respond] at found
          by_cases same : target = source
          · rw [same, setEntry_self] at found
            cases found
          · rw [setEntry_other _ _ _ _ same] at found
            exact .inl ⟨found, nofun, nofun⟩
      | clear => cases found
      | _ => exact .inl ⟨found, nofun, nofun⟩

theorem step_get {system next : System} {caller : Nat}
    (taken : system.step (.get caller failure) = some next) :
    ∃ thread, system.gets caller = some thread ∧
      ((∃ result, thread.program = .done result ∧
        next = { system with
          gets := setGet system.gets caller none
          returned := ⟨thread.sourceNamespace, thread.floor, result⟩ :: system.returned }) ∨
      ∃ request rest answered, thread.program = .call request rest ∧
        answer system.cluster request failure = some answered ∧
        next = system.advanceGet caller thread (rest answered.1) answered.2) := by
  simp only [step] at taken
  cases inside : system.gets caller with
  | none =>
      rw [inside] at taken
      cases taken
  | some thread =>
      rw [inside] at taken
      dsimp only at taken
      refine ⟨thread, rfl, ?_⟩
      cases program : thread.program with
      | done result =>
          rw [program] at taken
          cases taken
          exact .inl ⟨result, rfl, rfl⟩
      | call request rest =>
          rw [program] at taken
          obtain ⟨answered, isAnswer, equal⟩ := Option.map_eq_some_iff.mp taken
          exact .inr ⟨request, rest, answered, rfl, isAnswer, equal.symm⟩

theorem step_reconcile {system next : System} {reconciler : Reconciler} {key : NamespacedName}
    (taken : system.step (.reconcile reconciler key failure) = some next) :
    ∃ thread, system.reconciles reconciler key = some thread ∧
      ((∃ result, thread.program = .done result ∧
        next = { system with
          reconciles := setReconcile system.reconciles reconciler key none }) ∨
      ∃ request rest answered, thread.program = .call request rest ∧
        answer system.cluster request failure = some answered ∧
        next = system.advanceReconcile reconciler key thread request (rest answered.1)
          answered.2) := by
  simp only [step] at taken
  cases inside : system.reconciles reconciler key with
  | none =>
      rw [inside] at taken
      cases taken
  | some thread =>
      rw [inside] at taken
      dsimp only at taken
      refine ⟨thread, rfl, ?_⟩
      cases program : thread.program with
      | done result =>
          rw [program] at taken
          cases taken
          exact .inl ⟨result, rfl, rfl⟩
      | call request rest =>
          rw [program] at taken
          obtain ⟨answered, isAnswer, equal⟩ := Option.map_eq_some_iff.mp taken
          exact .inr ⟨request, rest, answered, rfl, isAnswer, equal.symm⟩

theorem step_startGet {system next : System} {caller : Nat} {source : String}
    (taken : system.step (.startGet caller source) = some next) :
    next = { system with
      gets := setGet system.gets caller (some
        { sourceNamespace := source
          floor := system.floor
          program := getFound source system.operatorNamespace
            (system.cluster.entries source) }) } := by
  simp only [step] at taken
  split at taken
  · cases taken
  · cases taken
    rfl

theorem step_startReconcile {system next : System} {reconciler : Reconciler}
    {key : NamespacedName}
    (taken : system.step (.startReconcile reconciler key) = some next) :
    next = { system with
      reconciles := setReconcile system.reconciles reconciler key
        (some { observed := none, program := Cache.reconcile reconciler key }) } := by
  simp only [step] at taken
  split at taken
  · cases taken
  · cases taken
    rfl

end System

end KubeTemplater.Cache
