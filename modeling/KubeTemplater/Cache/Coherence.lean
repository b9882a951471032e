/-
The cache after the reconcilers have caught up.

Policies of the operator namespace change one at a time, each change followed by
complete runs of both reconcilers, with complete calls of `Get` and the passing
of time in between.  Once no reconcile is owed, `Get` should answer what
`refresh` would.  It does so in a run that never has two policies for one source
namespace and never moves a policy away from a namespace with a live entry.
-/

import KubeTemplater.Cache.PolicyCache
import KubeTemplater.Library.Transition

namespace KubeTemplater.Cache.Quiet

open Library Library.Program

/-- The reconciles a change still owes.  `source` is the source namespace the
change concerns: the new one of a write, the old one of a deletion. -/
structure Owed where
  key : NamespacedName
  source : String
  policyCache : Bool
  kubeTemplatePolicy : Bool
  deriving DecidableEq, Repr

structure State where
  cluster : Cluster
  operatorNamespace : String
  revision : Nat
  owed : Option Owed

inductive Act where
  | create (policy : KubeTemplatePolicy)
  | update (policy : KubeTemplatePolicy)
  | delete (policy : KubeTemplatePolicy)
  | reconcile (reconciler : Reconciler)
  | get (sourceNamespace : String)
  | pass (elapsed : Nat)

def start (ttl clock : Time) (operatorNamespace : String) : State :=
  { cluster := newPolicyCache ttl clock
    operatorNamespace := operatorNamespace
    revision := 0
    owed := none }

def exists? (state : State) (key : NamespacedName) : Bool :=
  state.cluster.policies.any (fun policy => policy.key == key)

def State.change (state : State) (policies : List KubeTemplatePolicy)
    (policy : KubeTemplatePolicy) : State :=
  { state with
    cluster := { state.cluster with policies := policies }
    revision := state.revision + 1
    owed := some
      { key := policy.key, source := policy.sourceNamespace
        policyCache := true, kubeTemplatePolicy := true } }

def State.write (state : State) (policy : KubeTemplatePolicy) : State :=
  let stored := { policy with resourceVersion := state.revision + 1 }
  state.change (others state.cluster.policies policy.key ++ [stored]) stored

def Owed.paid (owed : Owed) : Reconciler → Owed
  | .policyCache => { owed with policyCache := false }
  | .kubeTemplatePolicy => { owed with kubeTemplatePolicy := false }

def Owed.owes (owed : Owed) : Reconciler → Bool
  | .policyCache => owed.policyCache
  | .kubeTemplatePolicy => owed.kubeTemplatePolicy

def Owed.left (owed : Owed) : Option Owed :=
  if owed.policyCache || owed.kubeTemplatePolicy then some owed else none

def State.step (state : State) : Act → Option State
  | .create policy =>
      if state.owed = none ∧ policy.ns = state.operatorNamespace ∧
          exists? state policy.key = false then some (state.write policy)
      else none
  | .update policy =>
      if state.owed = none ∧ exists? state policy.key = true then some (state.write policy)
      else none
  | .delete policy =>
      if state.owed = none ∧ policy ∈ state.cluster.policies then
        some (state.change (others state.cluster.policies policy.key) policy)
      else none
  | .reconcile reconciler =>
      match state.owed with
      | none => none
      | some owed =>
          if owed.owes reconciler then
            some { state with
              cluster := (runWith respond (reconcile reconciler owed.key) state.cluster).2
              owed := (owed.paid reconciler).left }
          else none
  | .get sourceNamespace =>
      some { state with
        cluster := (runWith respond (Cache.get sourceNamespace state.operatorNamespace)
          state.cluster).2 }
  | .pass elapsed =>
      some { state with cluster := { state.cluster with clock := state.cluster.clock + elapsed } }

def State.getAnswer (state : State) (sourceNamespace : String) :
    Except GoError KubeTemplatePolicy :=
  (runWith respond (Cache.get sourceNamespace state.operatorNamespace) state.cluster).1

def State.refreshAnswer (state : State) (sourceNamespace : String) :
    Except GoError KubeTemplatePolicy :=
  (runWith respond (refresh sourceNamespace state.operatorNamespace) state.cluster).1

def Coherent (state : State) : Prop :=
  state.owed = none → ∀ sourceNamespace,
    state.getAnswer sourceNamespace = state.refreshAnswer sourceNamespace

def Live (cluster : Cluster) (entry : CacheEntry) : Prop :=
  cluster.clock < entry.expiresAt

/-- A written policy is the only one for its source namespace, and it does not
leave a namespace for which the cache holds a live entry. -/
def KeepsApart (state : State) : Act → Prop
  | .create policy => ∀ other, other ∈ state.cluster.policies → other.key ≠ policy.key →
      other.sourceNamespace ≠ policy.sourceNamespace
  | .update policy =>
      (∀ other, other ∈ state.cluster.policies → other.key ≠ policy.key →
        other.sourceNamespace ≠ policy.sourceNamespace) ∧
      ∀ old, old ∈ state.cluster.policies → old.key = policy.key →
        old.sourceNamespace ≠ policy.sourceNamespace →
        ∀ entry, state.cluster.entries old.sourceNamespace = some entry →
          ¬ Live state.cluster entry
  | _ => True

def listAnswer (sourceNamespace : String) :
    List KubeTemplatePolicy → Except GoError KubeTemplatePolicy
  | [] => .error (notFoundError sourceNamespace)
  | [policy] => .ok policy
  | _ :: _ :: _ => .error (multipleError sourceNamespace)

def Remembered (before after : Cluster) (sourceNamespace : String)
    (listed : List KubeTemplatePolicy) : Prop :=
  after = before ∨ ∃ policy, listed = Option.toList policy ∧
    after = (respond (.store sourceNamespace policy) before).2

private theorem runWith_refresh (cluster : Cluster) (sourceNamespace operatorNamespace : String) :
    (runWith respond (refresh sourceNamespace operatorNamespace) cluster).1 =
        listAnswer sourceNamespace (cluster.listed operatorNamespace sourceNamespace) ∧
      Remembered cluster
        (runWith respond (refresh sourceNamespace operatorNamespace) cluster).2
        sourceNamespace (cluster.listed operatorNamespace sourceNamespace) := by
  simp only [refresh, runWith, respond]
  cases cluster.listed operatorNamespace sourceNamespace with
  | nil => exact ⟨rfl, .inr ⟨none, rfl, rfl⟩⟩
  | cons policy rest =>
      cases rest with
      | nil => exact ⟨rfl, .inr ⟨some policy, rfl, rfl⟩⟩
      | cons other rest => exact ⟨rfl, .inl rfl⟩

private theorem runWith_getFound_some (cluster : Cluster) (source operator : String)
    (entry : CacheEntry) :
    runWith respond (getFound source operator (some entry)) cluster =
      if cluster.clock < entry.expiresAt then (entry.answer source, cluster)
      else runWith respond (refresh source operator) cluster := by
  change runWith respond
    (if cluster.clock < entry.expiresAt then Program.done (entry.answer source)
      else refresh source operator : Program cacheApi (Except GoError KubeTemplatePolicy))
    cluster = _
  split
  · rfl
  · rfl

private theorem runWith_get (cluster : Cluster) (source operator : String) :
    (∃ entry, cluster.entries source = some entry ∧ Live cluster entry ∧
      runWith respond (Cache.get source operator) cluster = (entry.answer source, cluster)) ∨
    ((∀ entry, cluster.entries source = some entry → ¬ Live cluster entry) ∧
      runWith respond (Cache.get source operator) cluster =
        runWith respond (refresh source operator) cluster) := by
  simp only [Cache.get, runWith, respond]
  cases known : cluster.entries source with
  | none =>
      refine .inr ⟨?_, rfl⟩
      intro entry found
      cases found
  | some entry =>
      by_cases live : Live cluster entry
      · refine .inl ⟨entry, rfl, live, ?_⟩
        exact (runWith_getFound_some cluster source operator entry).trans (if_pos live)
      · refine .inr ⟨?_, ?_⟩
        · intro other found
          cases found
          exact live
        · exact (runWith_getFound_some cluster source operator entry).trans (if_neg live)

/-- A reconcile stores the policy it finds; for a missing one it removes entries. -/
theorem runWith_reconcile (cluster : Cluster) (reconciler : Reconciler)
    (key : NamespacedName) :
    (∃ policy, policy ∈ cluster.policies ∧ policy.key = key ∧
      (runWith respond (reconcile reconciler key) cluster).2 =
        (respond (.store policy.sourceNamespace (some policy)) cluster).2) ∨
    ((∀ policy, policy ∈ cluster.policies → policy.key ≠ key) ∧
      ∃ entries, (runWith respond (reconcile reconciler key) cluster).2 =
          { cluster with entries := entries } ∧
        (∀ source entry, entries source = some entry →
          cluster.entries source = some entry ∧ reconciler = .policyCache)) := by
  simp only [reconcile, runWith, respond]
  cases read : cluster.found key with
  | ok policy =>
      obtain ⟨member, sameKey⟩ := found_ok cluster key policy read
      refine .inl ⟨policy, member, sameKey, ?_⟩
      cases reconciler with
      | policyCache => rfl
      | kubeTemplatePolicy => rfl
  | error err =>
      obtain ⟨notFound, absent⟩ := found_error cluster key err read
      refine .inr ⟨absent, ?_⟩
      cases reconciler with
      | policyCache =>
          rw [reconcileRead, if_pos notFound]
          refine ⟨setEntry cluster.entries "" none, rfl, ?_⟩
          intro source entry found
          by_cases same : source = ""
          · rw [same, setEntry_self] at found
            cases found
          · rw [setEntry_other _ _ _ _ same] at found
            exact ⟨found, rfl⟩
      | kubeTemplatePolicy =>
          rw [reconcileRead, if_pos notFound]
          refine ⟨fun _ => none, rfl, ?_⟩
          intro source entry found
          cases found

/-- The change of a source namespace is not yet in the cache. -/
def State.Dirty (state : State) (sourceNamespace : String) : Prop :=
  ∃ owed, state.owed = some owed ∧ owed.source = sourceNamespace ∧
    owed.kubeTemplatePolicy = true

structure Inv (state : State) : Prop where
  placed : ∀ policy, policy ∈ state.cluster.policies → policy.ns = state.operatorNamespace
  nodup : state.cluster.policies.Nodup
  sameKey : ∀ policy other, policy ∈ state.cluster.policies → other ∈ state.cluster.policies →
    policy.key = other.key → policy = other
  sameSource : ∀ policy other, policy ∈ state.cluster.policies →
    other ∈ state.cluster.policies → policy.sourceNamespace = other.sourceNamespace →
    policy = other
  agrees : ∀ source entry, state.cluster.entries source = some entry →
    Live state.cluster entry →
    state.cluster.listed state.operatorNamespace source = entry.policy.toList ∨
      state.Dirty source
  owes : ∀ owed, state.owed = some owed → ∀ policy, policy ∈ state.cluster.policies →
    policy.key = owed.key → policy.sourceNamespace = owed.source

private theorem start_inv (ttl clock : Time) (operatorNamespace : String) :
    Inv (start ttl clock operatorNamespace) where
  placed := by intro policy member; cases member
  nodup := List.nodup_nil
  sameKey := by intro policy other member; cases member
  sameSource := by intro policy other member; cases member
  agrees := by intro source entry found; cases found
  owes := by intro owed pending; cases pending

private theorem listAnswer_toList (sourceNamespace : String) (entry : CacheEntry) :
    entry.answer sourceNamespace = listAnswer sourceNamespace entry.policy.toList := by
  unfold CacheEntry.answer
  cases entry.policy with
  | none => rfl
  | some policy => rfl

variable {state : State}

theorem Inv.coherent (inv : Inv state) : Coherent state := by
  intro settled source
  unfold State.getAnswer State.refreshAnswer
  rcases runWith_get state.cluster source state.operatorNamespace with
    ⟨entry, known, live, answered⟩ | ⟨_expired, answered⟩
  · rw [answered, (runWith_refresh _ _ _).1]
    rcases inv.agrees source entry known live with same | ⟨owed, pending, _⟩
    · rw [same]
      exact listAnswer_toList source entry
    · rw [settled] at pending
      cases pending
  · rw [answered]

theorem Inv.stored (inv : Inv state) (source : String) (policy : Option KubeTemplatePolicy)
    (owed : Option Owed)
    (lists : state.cluster.listed state.operatorNamespace source = policy.toList)
    (pays : ∀ other, state.Dirty other → other ≠ source →
      ∃ left, owed = some left ∧ left.source = other ∧ left.kubeTemplatePolicy = true)
    (keeps : ∀ left, owed = some left →
      ∃ before, state.owed = some before ∧ left.key = before.key ∧ left.source = before.source) :
    Inv { state with
      cluster := (respond (.store source policy) state.cluster).2
      owed := owed } where
  placed := inv.placed
  nodup := inv.nodup
  sameKey := inv.sameKey
  sameSource := inv.sameSource
  agrees := by
    intro other entry found live
    simp only [respond] at found live
    by_cases same : other = source
    · subst same
      rw [setEntry_self] at found
      cases found
      exact .inl lists
    · rw [setEntry_other _ _ _ _ same] at found
      rcases inv.agrees other entry found live with agree | dirty
      · exact .inl agree
      · exact .inr (pays other dirty same)
  owes := by
    intro left pending member inPolicies sameKey
    obtain ⟨before, was, keySame, sourceSame⟩ := keeps left pending
    rw [sourceSame]
    exact inv.owes before was member inPolicies (sameKey.trans keySame)

/-- Taking away policies that are not listed for a namespace changes no list. -/
theorem selectPolicies_others (policies : List KubeTemplatePolicy) (operator source : String)
    (key : NamespacedName)
    (apart : ∀ policy, policy ∈ policies → policy.key = key → policy.sourceNamespace ≠ source) :
    selectPolicies (others policies key) operator source =
      selectPolicies policies operator source := by
  unfold selectPolicies others
  rw [List.filter_filter]
  apply List.filter_congr
  intro policy member
  by_cases same : policy.key = key
  · have different : (policy.sourceNamespace == source) = false :=
      beq_eq_false_iff_ne.mpr (apart policy member same)
    rw [different, Bool.and_false, Bool.false_and]
  · have kept : (policy.key != key) = true := bne_iff_ne.mpr same
    rw [kept, Bool.and_true]

private theorem selectPolicies_append_other (policies : List KubeTemplatePolicy)
    (operator source : String) (policy : KubeTemplatePolicy)
    (different : policy.sourceNamespace ≠ source) :
    selectPolicies (policies ++ [policy]) operator source =
      selectPolicies policies operator source := by
  unfold selectPolicies
  have skipped : (policy.sourceNamespace == source) = false :=
    beq_eq_false_iff_ne.mpr different
  rw [List.filter_append, List.filter_cons, skipped, Bool.and_false]
  exact List.append_nil _

theorem mem_write {policy other : KubeTemplatePolicy}
    (member : other ∈ (state.write policy).cluster.policies) :
    other ∈ state.cluster.policies ∧ other.key ≠ policy.key ∨
      other = { policy with resourceVersion := state.revision + 1 } := by
  rcases List.mem_append.mp member with old | new
  · exact .inl ((mem_others_iff _ _ _).mp old)
  · exact .inr (List.mem_singleton.mp new)

/-- What tells the old policies apart, and the new one from those with another key,
tells the policies apart after the write. -/
theorem write_injective {α : Type} (name : KubeTemplatePolicy → α) {policy : KubeTemplatePolicy}
    (before : ∀ first second, first ∈ state.cluster.policies → second ∈ state.cluster.policies →
      name first = name second → first = second)
    (apart : ∀ other, other ∈ state.cluster.policies → other.key ≠ policy.key →
      name other ≠ name { policy with resourceVersion := state.revision + 1 })
    (first second : KubeTemplatePolicy)
    (firstMember : first ∈ (state.write policy).cluster.policies)
    (secondMember : second ∈ (state.write policy).cluster.policies)
    (same : name first = name second) : first = second := by
  rcases mem_write firstMember with ⟨old, different⟩ | new
  · rcases mem_write secondMember with ⟨old', _⟩ | new'
    · exact before first second old old' same
    · rw [new'] at same
      exact absurd same (apart first old different)
  · rcases mem_write secondMember with ⟨old', different'⟩ | new'
    · rw [new] at same
      exact absurd same.symm (apart second old' different')
    · rw [new, new']

theorem Inv.written (inv : Inv state) (settled : state.owed = none) (policy : KubeTemplatePolicy)
    (placed : policy.ns = state.operatorNamespace)
    (apart : ∀ other, other ∈ state.cluster.policies → other.key ≠ policy.key →
      other.sourceNamespace ≠ policy.sourceNamespace)
    (moved : ∀ old, old ∈ state.cluster.policies → old.key = policy.key →
      old.sourceNamespace ≠ policy.sourceNamespace →
      ∀ entry, state.cluster.entries old.sourceNamespace = some entry →
        ¬ Live state.cluster entry) :
    Inv (state.write policy) := by
  constructor
  · intro other member
    rcases mem_write member with ⟨old, _different⟩ | new
    · exact inv.placed other old
    · rw [new]
      exact placed
  · apply List.nodup_append.mpr
    refine ⟨inv.nodup.filter _, List.nodup_cons.mpr ⟨List.not_mem_nil, List.nodup_nil⟩, ?_⟩
    intro other old new member same
    have different := ((mem_others_iff _ _ _).mp old).2
    rw [same, List.mem_singleton.mp member] at different
    exact different rfl
  · exact write_injective KubeTemplatePolicy.key inv.sameKey (fun _ _ different => different)
  · exact write_injective KubeTemplatePolicy.sourceNamespace inv.sameSource apart
  · intro source entry found live
    by_cases concerned : policy.sourceNamespace = source
    · exact .inr ⟨_, rfl, concerned, rfl⟩
    · left
      have before := inv.agrees source entry found live
      have unmoved : ∀ old, old ∈ state.cluster.policies → old.key = policy.key →
          old.sourceNamespace ≠ source := by
        intro old member same left
        rw [← left] at found concerned
        exact moved old member same (fun stays => concerned stays.symm) entry found live
      change selectPolicies (others _ _ ++ [_]) _ _ = _
      rw [selectPolicies_append_other _ _ _
          { policy with resourceVersion := state.revision + 1 } concerned,
        selectPolicies_others _ _ _ _ unmoved]
      rcases before with agree | ⟨owed, pending, _⟩
      · exact agree
      · rw [settled] at pending
        cases pending
  · intro owed pending other member same
    cases pending
    rcases mem_write member with ⟨_old, different⟩ | new
    · exact absurd same different
    · rw [new]

theorem Inv.deleted (inv : Inv state) (settled : state.owed = none) (policy : KubeTemplatePolicy)
    (present : policy ∈ state.cluster.policies) :
    Inv (state.change (others state.cluster.policies policy.key) policy) := by
  have members : ∀ other, other ∈ others state.cluster.policies policy.key →
      other ∈ state.cluster.policies :=
    fun other member => ((mem_others_iff _ _ _).mp member).1
  constructor
  · intro other member
    exact inv.placed other (members other member)
  · exact inv.nodup.filter _
  · intro first second firstMember secondMember same
    exact inv.sameKey first second (members _ firstMember) (members _ secondMember) same
  · intro first second firstMember secondMember same
    exact inv.sameSource first second (members _ firstMember) (members _ secondMember) same
  · intro source entry found live
    by_cases concerned : policy.sourceNamespace = source
    · exact .inr ⟨_, rfl, concerned, rfl⟩
    · left
      have apart : ∀ other, other ∈ state.cluster.policies → other.key = policy.key →
          other.sourceNamespace ≠ source := by
        intro other member same
        rw [inv.sameKey other policy member present same]
        exact concerned
      change selectPolicies (others _ _) _ _ = _
      rw [selectPolicies_others _ _ _ _ apart]
      rcases inv.agrees source entry found live with agree | ⟨owed, pending, _⟩
      · exact agree
      · rw [settled] at pending
        cases pending
  · intro owed pending other member same
    cases pending
    exact absurd same ((mem_others_iff _ _ _).mp member).2

private theorem filter_eq_singleton (policies : List KubeTemplatePolicy)
    (selected : KubeTemplatePolicy → Bool) (policy : KubeTemplatePolicy)
    (nodup : policies.Nodup) (present : policy ∈ policies)
    (only : ∀ other, other ∈ policies → (selected other = true ↔ other = policy)) :
    policies.filter selected = [policy] := by
  induction policies with
  | nil => cases present
  | cons head rest ih =>
      obtain ⟨absent, nodupRest⟩ := List.nodup_cons.mp nodup
      by_cases same : head = policy
      · subst same
        have none : rest.filter selected = [] := by
          apply List.filter_eq_nil_iff.mpr
          intro other member isSelected
          have equal := (only other (List.mem_cons_of_mem _ member)).mp isSelected
          rw [equal] at member
          exact absent member
        rw [List.filter_cons, if_pos ((only head List.mem_cons_self).mpr rfl), none]
      · have skipped : ¬ selected head = true :=
          fun isSelected => same ((only head List.mem_cons_self).mp isSelected)
        rw [List.filter_cons, if_neg skipped]
        apply ih nodupRest
        · rcases List.mem_cons.mp present with equal | inRest
          · exact absurd equal.symm same
          · exact inRest
        · intro other member
          exact only other (List.mem_cons_of_mem _ member)

theorem Inv.listed_of_mem (inv : Inv state) (policy : KubeTemplatePolicy)
    (present : policy ∈ state.cluster.policies) :
    state.cluster.listed state.operatorNamespace policy.sourceNamespace = [policy] := by
  apply filter_eq_singleton _ _ policy inv.nodup present
  intro other member
  rw [Bool.and_eq_true_iff, beq_iff_eq, beq_iff_eq]
  constructor
  · intro both
    exact inv.sameSource other policy member present both.2
  · intro same
    rw [same]
    exact ⟨inv.placed policy present, rfl⟩

private theorem left_keeps (owed left : Owed) (reconciler : Reconciler)
    (still : (owed.paid reconciler).left = some left) :
    left.key = owed.key ∧ left.source = owed.source := by
  unfold Owed.left at still
  split at still
  · cases still
    cases reconciler with
    | policyCache => exact ⟨rfl, rfl⟩
    | kubeTemplatePolicy => exact ⟨rfl, rfl⟩
  · cases still

theorem Inv.reconciled (inv : Inv state) (reconciler : Reconciler) (owed : Owed)
    (pending : state.owed = some owed) :
    Inv { state with
      cluster := (runWith respond (reconcile reconciler owed.key) state.cluster).2
      owed := (owed.paid reconciler).left } := by
  rcases runWith_reconcile state.cluster reconciler owed.key with
    ⟨policy, present, sameKey, stores⟩ | ⟨_absent, entries, removes, kept⟩
  · rw [stores]
    apply inv.stored policy.sourceNamespace (some policy)
    · exact inv.listed_of_mem policy present
    · -- the namespace the change concerns is the one that is stored
      intro other dirty different
      obtain ⟨before, was, source, _⟩ := dirty
      rw [pending] at was
      cases was
      rw [← source, inv.owes owed pending policy present sameKey] at different
      exact absurd rfl different
    · intro left still
      obtain ⟨keySame, sourceSame⟩ := left_keeps owed left reconciler still
      exact ⟨owed, pending, keySame, sourceSame⟩
  · rw [removes]
    constructor
    · exact inv.placed
    · exact inv.nodup
    · exact inv.sameKey
    · exact inv.sameSource
    · intro source entry found live
      obtain ⟨before, byPolicyCache⟩ := kept source entry found
      rcases inv.agrees source entry before live with agree | dirty
      · exact .inl agree
      · obtain ⟨was, isOwed, sourceSame, unpaid⟩ := dirty
        rw [pending] at isOwed
        cases isOwed
        subst byPolicyCache
        refine .inr ⟨owed.paid .policyCache, ?_, sourceSame, unpaid⟩
        unfold Owed.left Owed.paid
        rw [unpaid, Bool.or_true]
        rfl
    · intro left still policy member same
      obtain ⟨keySame, sourceSame⟩ := left_keeps owed left reconciler still
      rw [sourceSame]
      exact inv.owes owed pending policy member (same.trans keySame)

theorem Inv.got (inv : Inv state) (source : String) :
    Inv { state with
      cluster := (runWith respond (Cache.get source state.operatorNamespace)
        state.cluster).2 } := by
  rcases runWith_get state.cluster source state.operatorNamespace with
    ⟨entry, _known, _live, answered⟩ | ⟨_expired, answered⟩
  · rw [answered]
    exact inv
  · rw [answered]
    rcases (runWith_refresh state.cluster source state.operatorNamespace).2 with
      same | ⟨policy, lists, stores⟩
    · rw [same]
      exact inv
    · rw [stores]
      apply inv.stored source policy state.owed lists
      · intro other dirty _different
        exact dirty
      · intro left still
        exact ⟨left, still, rfl, rfl⟩

theorem Inv.passed (inv : Inv state) (elapsed : Nat) :
    Inv { state with
      cluster := { state.cluster with clock := state.cluster.clock + elapsed } } where
  placed := inv.placed
  nodup := inv.nodup
  sameKey := inv.sameKey
  sameSource := inv.sameSource
  agrees := by
    intro source entry found live
    apply inv.agrees source entry found
    exact Int.lt_of_le_of_lt (Int.le_add_of_nonneg_right (Int.natCast_nonneg elapsed)) live
  owes := inv.owes

private theorem step_inv (state : State) (act : Act) (next : State) (inv : Inv state)
    (apart : KeepsApart state act) (taken : state.step act = some next) : Inv next := by
  cases act with
  | create policy =>
      simp only [State.step] at taken
      split at taken
      · rename_i enabled
        cases taken
        obtain ⟨settled, placed, fresh⟩ := enabled
        apply inv.written settled policy placed apart
        intro old member same
        have present : exists? state policy.key = true :=
          List.any_eq_true.mpr ⟨old, member, beq_iff_eq.mpr same⟩
        rw [fresh] at present
        cases present
      · cases taken
  | update policy =>
      simp only [State.step] at taken
      split at taken
      · rename_i enabled
        cases taken
        obtain ⟨settled, present⟩ := enabled
        obtain ⟨old, member, same⟩ := List.any_eq_true.mp present
        have sameKey : old.key = policy.key := eq_of_beq same
        have placed : policy.ns = state.operatorNamespace :=
          (congrArg NamespacedName.ns sameKey).symm.trans (inv.placed old member)
        exact inv.written settled policy placed apart.1 apart.2
      · cases taken
  | delete policy =>
      simp only [State.step] at taken
      split at taken
      · rename_i enabled
        cases taken
        exact inv.deleted enabled.1 policy enabled.2
      · cases taken
  | reconcile reconciler =>
      simp only [State.step] at taken
      split at taken
      · cases taken
      · rename_i owed pending
        split at taken
        · cases taken
          exact inv.reconciled reconciler owed pending
        · cases taken
  | get source =>
      cases taken
      exact inv.got source
  | pass elapsed =>
      cases taken
      exact inv.passed elapsed

/-- In a run that keeps the policies apart the cache is coherent whenever no
reconcile is owed. -/
theorem coherent_of_keeps_apart (ttl clock : Time) (operatorNamespace : String)
    (acts : List Act)
    (apart : Along State.step KeepsApart (start ttl clock operatorNamespace) acts) :
    Throughout State.step Coherent (start ttl clock operatorNamespace) acts := by
  have invariant := throughout_of_along State.step KeepsApart Inv step_inv
    (start ttl clock operatorNamespace) acts (start_inv ttl clock operatorNamespace) apart
  exact invariant.mono (fun _ inv => inv.coherent)

def samplePolicy (name source : String) (revision : Nat) : KubeTemplatePolicy :=
  { ns := "kubetemplater-system", name := name, resourceVersion := revision
    sourceNamespace := source, validationRules := [] }

/-- One policy is created, used, deleted and asked for again. -/
theorem coherent_of_keeps_apart_single :
    Throughout State.step Coherent (start 0 0 "kubetemplater-system")
      [.create (samplePolicy "a" "team-a" 0), .reconcile .policyCache, .get "team-a",
        .reconcile .kubeTemplatePolicy, .pass 60, .delete (samplePolicy "a" "team-a" 1),
        .reconcile .kubeTemplatePolicy, .reconcile .policyCache, .get "team-a"] :=
  coherent_of_keeps_apart 0 0 "kubetemplater-system" _
    ⟨(fun _ member => nomatch member), fun _ _ => ⟨trivial, fun _ _ => ⟨trivial, fun _ _ =>
      ⟨trivial, fun _ _ => ⟨trivial, fun _ _ => ⟨trivial, fun _ _ => ⟨trivial, fun _ _ =>
        ⟨trivial, fun _ _ => ⟨trivial, fun _ _ => trivial⟩⟩⟩⟩⟩⟩⟩⟩⟩

/-- A policy moves from `team-a` to `team-b`; both reconcilers run after each change. -/
def moving : List Act :=
  [.create (samplePolicy "a" "team-a" 0), .reconcile .policyCache,
    .reconcile .kubeTemplatePolicy, .update (samplePolicy "a" "team-b" 0),
    .reconcile .policyCache, .reconcile .kubeTemplatePolicy]

/-- Two policies for one source namespace. -/
def doubling : List Act :=
  [.create (samplePolicy "a" "team-a" 0), .reconcile .policyCache,
    .reconcile .kubeTemplatePolicy, .create (samplePolicy "b" "team-a" 0),
    .reconcile .policyCache, .reconcile .kubeTemplatePolicy]

/-- After the move `Get` still answers with the policy that has left; with two
policies it answers with the one written last instead of the error. -/
theorem moved_and_doubled_incoherent :
    (run State.step (start 0 0 "kubetemplater-system") moving).map
        (fun final => (final.owed, final.getAnswer "team-a", final.refreshAnswer "team-a")) =
      some (none, .ok (samplePolicy "a" "team-a" 1), .error (notFoundError "team-a")) ∧
    (run State.step (start 0 0 "kubetemplater-system") doubling).map
        (fun final => (final.owed, final.getAnswer "team-a", final.refreshAnswer "team-a")) =
      some (none, .ok (samplePolicy "b" "team-a" 2), .error (multipleError "team-a")) := by
  decide

end KubeTemplater.Cache.Quiet
