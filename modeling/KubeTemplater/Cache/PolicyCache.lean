/-
The policy cache and the two reconcilers that write it on watch events.

Each critical section of the cache's mutex and each API read is one call, so
that the methods can be run to their end or interleaved.  `time.Now` is read
inside the critical section that stores an entry.
-/

import KubeTemplater.Api
import KubeTemplater.Library.Program

namespace KubeTemplater.Cache

open Library Library.Program

structure CacheEntry where
  /-- `none` is a cached "not found". -/
  policy : Option KubeTemplatePolicy
  expiresAt : Time
  deriving DecidableEq, Repr

def defaultTTL : Time := 300000000000

inductive CacheCall where
  | lookup (sourceNamespace : String)
  | store (sourceNamespace : String) (policy : Option KubeTemplatePolicy)
  | remove (sourceNamespace : String)
  | clear
  | listPolicies (operatorNamespace sourceNamespace : String)
  | getPolicy (key : NamespacedName)
  | now

abbrev CacheCall.Answer : CacheCall → Type
  | .lookup _ => Option CacheEntry
  | .store _ _ => Unit
  | .remove _ => Unit
  | .clear => Unit
  | .listPolicies _ _ => Except GoError (List KubeTemplatePolicy)
  | .getPolicy _ => Except GoError KubeTemplatePolicy
  | .now => Time

abbrev cacheApi : Interface :=
  { Call := CacheCall
    Answer := CacheCall.Answer }

def notFoundError (sourceNamespace : String) : GoError :=
  errorf ("no KubeTemplatePolicy found for source namespace " ++ sourceNamespace)

def multipleError (sourceNamespace : String) : GoError :=
  errorf ("multiple KubeTemplatePolicies found for source namespace " ++ sourceNamespace)

def set (sourceNamespace : String) (policy : Option KubeTemplatePolicy) :
    Program cacheApi Unit :=
  .call (CacheCall.store sourceNamespace policy) .done

def update (policy : KubeTemplatePolicy) : Program cacheApi Unit :=
  set policy.sourceNamespace (some policy)

def delete (sourceNamespace : String) : Program cacheApi Unit :=
  .call (CacheCall.remove sourceNamespace) .done

def invalidate (sourceNamespace : String) : Program cacheApi Unit :=
  delete sourceNamespace

def clear : Program cacheApi Unit :=
  .call CacheCall.clear .done

def refreshListed (sourceNamespace : String) :
    Except GoError (List KubeTemplatePolicy) →
      Program cacheApi (Except GoError KubeTemplatePolicy)
  | .error err => pure (.error (err.wrap "failed to list KubeTemplatePolicies: "))
  | .ok [] => do
      set sourceNamespace none
      pure (.error (notFoundError sourceNamespace))
  | .ok [policy] => do
      set sourceNamespace (some policy)
      pure (.ok policy)
  | .ok (_ :: _ :: _) => pure (.error (multipleError sourceNamespace))

def refresh (sourceNamespace operatorNamespace : String) :
    Program cacheApi (Except GoError KubeTemplatePolicy) :=
  .call (CacheCall.listPolicies operatorNamespace sourceNamespace)
    (refreshListed sourceNamespace)

def CacheEntry.answer (sourceNamespace : String) (entry : CacheEntry) :
    Except GoError KubeTemplatePolicy :=
  match entry.policy with
  | none => .error (notFoundError sourceNamespace)
  | some policy => .ok policy

/-- The rest of `Get` after the lookup; the clock is read only for a found entry. -/
def getFound (sourceNamespace operatorNamespace : String) :
    Option CacheEntry → Program cacheApi (Except GoError KubeTemplatePolicy)
  | none => refresh sourceNamespace operatorNamespace
  | some entry => .call CacheCall.now (fun now =>
      if now < entry.expiresAt then pure (entry.answer sourceNamespace)
      else refresh sourceNamespace operatorNamespace)

def get (sourceNamespace operatorNamespace : String) :
    Program cacheApi (Except GoError KubeTemplatePolicy) :=
  .call (CacheCall.lookup sourceNamespace) (getFound sourceNamespace operatorNamespace)

inductive Reconciler where
  | policyCache
  | kubeTemplatePolicy
  deriving DecidableEq, Repr

/-- What a reconciler does with the policy it has read.  After a deletion the
variable `policy` of the policy-cache reconciler is the zero value, so it deletes
the entry of the empty namespace; the other reconciler clears the cache. -/
def reconcileRead : Reconciler → Except GoError KubeTemplatePolicy →
    Program cacheApi (Option GoError)
  | .policyCache, .ok policy => do
      set policy.sourceNamespace (some policy)
      pure none
  | .kubeTemplatePolicy, .ok policy => do
      update policy
      pure none
  | .policyCache, .error err =>
      if err.isNotFound then do
        delete ""
        pure none
      else pure (some err)
  | .kubeTemplatePolicy, .error err =>
      if err.isNotFound then do
        clear
        pure none
      else pure (some err)

def reconcile (reconciler : Reconciler) (key : NamespacedName) :
    Program cacheApi (Option GoError) :=
  .call (CacheCall.getPolicy key) (reconcileRead reconciler)

structure Cluster where
  policies : List KubeTemplatePolicy
  entries : String → Option CacheEntry
  ttl : Time
  clock : Time

def newPolicyCache (ttl clock : Time) : Cluster :=
  { policies := []
    entries := fun _ => none
    ttl := if ttl = 0 then defaultTTL else ttl
    clock := clock }

def setEntry (entries : String → Option CacheEntry) (sourceNamespace : String)
    (entry : Option CacheEntry) : String → Option CacheEntry :=
  fun other => if other = sourceNamespace then entry else entries other

theorem setEntry_self (entries : String → Option CacheEntry) (sourceNamespace : String)
    (entry : Option CacheEntry) :
    setEntry entries sourceNamespace entry sourceNamespace = entry :=
  if_pos rfl

theorem setEntry_other (entries : String → Option CacheEntry) (sourceNamespace other : String)
    (entry : Option CacheEntry) (different : other ≠ sourceNamespace) :
    setEntry entries sourceNamespace entry other = entries other :=
  if_neg different

def selectPolicies (policies : List KubeTemplatePolicy)
    (operatorNamespace sourceNamespace : String) : List KubeTemplatePolicy :=
  policies.filter
    (fun policy => policy.ns == operatorNamespace && policy.sourceNamespace == sourceNamespace)

def Cluster.listed (cluster : Cluster) (operatorNamespace sourceNamespace : String) :
    List KubeTemplatePolicy :=
  selectPolicies cluster.policies operatorNamespace sourceNamespace

def Cluster.found (cluster : Cluster) (key : NamespacedName) :
    Except GoError KubeTemplatePolicy :=
  match cluster.policies.find? (fun policy => policy.key == key) with
  | some policy => .ok policy
  | none => .error { reason := .notFound, message := key.name ++ " not found" }

def respond : (request : CacheCall) → Cluster → request.Answer × Cluster
  | .lookup sourceNamespace, cluster => (cluster.entries sourceNamespace, cluster)
  | .store sourceNamespace policy, cluster =>
      ((), { cluster with
        entries := setEntry cluster.entries sourceNamespace
          (some { policy := policy, expiresAt := cluster.clock + cluster.ttl }) })
  | .remove sourceNamespace, cluster =>
      ((), { cluster with entries := setEntry cluster.entries sourceNamespace none })
  | .clear, cluster => ((), { cluster with entries := fun _ => none })
  | .listPolicies operatorNamespace sourceNamespace, cluster =>
      (.ok (cluster.listed operatorNamespace sourceNamespace), cluster)
  | .getPolicy key, cluster => (cluster.found key, cluster)
  | .now, cluster => (cluster.clock, cluster)

/-- The answer of an API read that fails.  "Not found" is an answer of the server
and no failure. -/
def refuse : (request : CacheCall) → GoError → Option request.Answer
  | .listPolicies _ _, err => some (.error err)
  | .getPolicy _, err => if err.isNotFound then none else some (.error err)
  | _, _ => none

theorem refuse_getPolicy (key : NamespacedName) (err : GoError)
    (read : Except GoError KubeTemplatePolicy)
    (refused : refuse (.getPolicy key) err = some read) :
    read = .error err ∧ err.isNotFound = false := by
  change (if err.isNotFound = true then none else some (.error err) :
    Option (Except GoError KubeTemplatePolicy)) = some read at refused
  split at refused
  · cases refused
  · rename_i other
    cases refused
    exact ⟨rfl, Bool.eq_false_iff.mpr other⟩

def others (policies : List KubeTemplatePolicy) (key : NamespacedName) :
    List KubeTemplatePolicy :=
  policies.filter (fun policy => policy.key != key)

theorem mem_others_iff (policies : List KubeTemplatePolicy) (key : NamespacedName)
    (policy : KubeTemplatePolicy) :
    policy ∈ others policies key ↔ policy ∈ policies ∧ policy.key ≠ key := by
  unfold others
  rw [List.mem_filter, bne_iff_ne]

theorem mem_listed_iff (cluster : Cluster) (operatorNamespace sourceNamespace : String)
    (policy : KubeTemplatePolicy) :
    policy ∈ cluster.listed operatorNamespace sourceNamespace ↔
      policy ∈ cluster.policies ∧ policy.ns = operatorNamespace ∧
        policy.sourceNamespace = sourceNamespace := by
  unfold Cluster.listed selectPolicies
  rw [List.mem_filter, Bool.and_eq_true_iff, beq_iff_eq, beq_iff_eq]

theorem found_ok (cluster : Cluster) (key : NamespacedName) (policy : KubeTemplatePolicy)
    (isFound : cluster.found key = .ok policy) :
    policy ∈ cluster.policies ∧ policy.key = key := by
  unfold Cluster.found at isFound
  split at isFound
  · rename_i first search
    cases isFound
    have same := List.find?_some search
    exact ⟨List.mem_of_find?_eq_some search, eq_of_beq same⟩
  · cases isFound

theorem found_error (cluster : Cluster) (key : NamespacedName) (err : GoError)
    (missing : cluster.found key = .error err) :
    err.isNotFound = true ∧ ∀ policy, policy ∈ cluster.policies → policy.key ≠ key := by
  unfold Cluster.found at missing
  split at missing
  · cases missing
  · rename_i search
    cases missing
    refine ⟨rfl, ?_⟩
    intro policy member same
    exact List.find?_eq_none.mp search policy member (beq_iff_eq.mpr same)

end KubeTemplater.Cache
