/-
Where the policies that `Get` returns come from.

`refresh` asks for the operator namespace, but the reconcilers watch every
namespace and store whatever policy they read under the source namespace it
names.  What `Get` returns is from the operator namespace as long as the
reconcilers only read policies from there.
-/

import KubeTemplater.Cache.Interleaving

namespace KubeTemplater.Cache

open Library Library.Program

structure FromOperator (operatorNamespace sourceNamespace : String)
    (policy : KubeTemplatePolicy) : Prop where
  placed : policy.ns = operatorNamespace
  source : policy.sourceNamespace = sourceNamespace

def EntryFromOperator (operatorNamespace sourceNamespace : String) (entry : CacheEntry) : Prop :=
  ∀ policy, entry.policy = some policy → FromOperator operatorNamespace sourceNamespace policy

/-- The conversation of a thread with the cluster: it is answered with policies of
the operator namespace and stores no others.  `keys` are the policies it may read. -/
def provenance (operatorNamespace : String) (keys : NamespacedName → Prop) :
    Protocol cacheApi Unit :=
  Protocol.stateless
    (fun
      | .lookup source => fun found => ∀ entry, found = some entry →
          EntryFromOperator operatorNamespace source entry
      | .listPolicies operator source => fun listed => ∀ policies, listed = .ok policies →
          ∀ policy, policy ∈ policies → FromOperator operator source policy
      | .getPolicy _ => fun read => ∀ policy, read = .ok policy → policy.ns = operatorNamespace
      | _ => fun _ => True)
    (fun
      | .store source stored => ∀ policy, stored = some policy →
          FromOperator operatorNamespace source policy
      | .listPolicies operator _ => operator = operatorNamespace
      | .getPolicy key => keys key
      | _ => True)

def ReturnsFromOperator (operatorNamespace sourceNamespace : String)
    (result : Except GoError KubeTemplatePolicy) : Prop :=
  ∀ policy, result = .ok policy → FromOperator operatorNamespace sourceNamespace policy

private theorem refresh_provenance (source operator : String) (keys : NamespacedName → Prop) :
    Guarantees (provenance operator keys) (fun _ => ReturnsFromOperator operator source) ()
      (refresh source operator) := by
  refine ⟨rfl, ?_⟩
  intro listed expected
  cases listed with
  | error err =>
      intro policy returned
      cases returned
  | ok policies =>
      cases policies with
      | nil =>
          refine ⟨?_, ?_⟩
          · intro policy stored
            cases stored
          · intro _ _ policy returned
            cases returned
      | cons policy rest =>
          cases rest with
          | nil =>
              have own := expected [policy] rfl policy List.mem_cons_self
              refine ⟨?_, ?_⟩
              · intro stored same
                cases same
                exact own
              · intro _ _ returned same
                cases same
                exact own
          | cons other rest =>
              intro returned same
              cases same

private theorem getFound_provenance (source operator : String) (keys : NamespacedName → Prop)
    (found : Option CacheEntry)
    (known : ∀ entry, found = some entry → EntryFromOperator operator source entry) :
    Guarantees (provenance operator keys) (fun _ => ReturnsFromOperator operator source) ()
      (getFound source operator found) := by
  cases found with
  | none => exact refresh_provenance source operator keys
  | some entry =>
      refine ⟨trivial, ?_⟩
      intro now _expected
      dsimp only
      split
      · intro policy returned
        apply known entry rfl policy
        unfold CacheEntry.answer at returned
        split at returned
        · cases returned
        · rename_i stored isStored
          cases returned
          exact isStored
      · exact refresh_provenance source operator keys

private theorem reconcile_provenance (reconciler : Reconciler) (key : NamespacedName)
    (operator : String) :
    Guarantees (provenance operator (fun other => other = key)) (fun _ _ => True) ()
      (reconcile reconciler key) := by
  refine ⟨rfl, ?_⟩
  intro read expected
  cases read with
  | ok policy =>
      have own : ∀ stored, some policy = some stored →
          FromOperator operator policy.sourceNamespace stored := by
        intro stored same
        cases same
        exact ⟨expected policy rfl, rfl⟩
      cases reconciler with
      | policyCache => exact ⟨own, fun _ _ => trivial⟩
      | kubeTemplatePolicy => exact ⟨own, fun _ _ => trivial⟩
  | error err =>
      cases reconciler with
      | _ =>
          change Guarantees _ _ _ (if err.isNotFound = true then _ else _)
          split
          · exact ⟨trivial, fun _ _ => trivial⟩
          · trivial

namespace System

def EntriesFromOperator (operatorNamespace : String) (cluster : Cluster) : Prop :=
  ∀ source entry, cluster.entries source = some entry →
    EntryFromOperator operatorNamespace source entry

private theorem answer_entries {operator : String} {keys : NamespacedName → Prop}
    {cluster : Cluster}
    {request : CacheCall} {failure : Option GoError} {answered : request.Answer × Cluster}
    (entries : EntriesFromOperator operator cluster)
    (permitted : (provenance operator keys).permitted () request)
    (isAnswer : answer cluster request failure = some answered) :
    EntriesFromOperator operator answered.2 := by
  intro source entry found
  rcases answer_entry isAnswer found with ⟨before, _⟩ | isStore
  · exact entries source entry before
  · subst isStore
    exact permitted

private theorem answer_expected {operator : String} {keys : NamespacedName → Prop}
    {cluster : Cluster}
    {request : CacheCall} {failure : Option GoError} {answered : request.Answer × Cluster}
    (entries : EntriesFromOperator operator cluster)
    (reads : failure = none → ∀ key, request = .getPolicy key →
      ∀ policy, cluster.found key = .ok policy → policy.ns = operator)
    (isAnswer : answer cluster request failure = some answered) :
    (provenance operator keys).expected () request answered.1 := by
  cases failure with
  | some err =>
      obtain ⟨refused, isRefused, same⟩ := Option.map_eq_some_iff.mp isAnswer
      cases same
      -- only the two reads can fail, and then they return no policy
      cases request with
      | listPolicies operator source =>
          cases isRefused
          intro policies read
          cases read
      | getPolicy key =>
          obtain ⟨isError, _⟩ := refuse_getPolicy key err refused isRefused
          intro policy read
          cases isError.symm.trans read
      | _ => cases isRefused
  | none =>
      cases isAnswer
      cases request with
      | lookup source => exact fun entry found => entries source entry found
      | listPolicies operator source =>
          intro policies read policy member
          cases read
          obtain ⟨_present, placed, sourced⟩ := (mem_listed_iff _ _ _ _).mp member
          exact ⟨placed, sourced⟩
      | getPolicy key => exact reads rfl key rfl
      | _ => trivial

/-- Every policy that a `Get` has returned is from the operator namespace and for
the source namespace asked for. -/
def Provenance (system : System) : Prop :=
  ∀ returned, returned ∈ system.returned → ∀ policy, returned.result = .ok policy →
    FromOperator system.operatorNamespace returned.sourceNamespace policy

/-- A read that succeeds finds no policy of another namespace. -/
def ReadsOperatorPolicies (system : System) : Event → Prop
  | .reconcile reconciler key none =>
      ∀ thread rest, system.reconciles reconciler key = some thread →
        thread.program = .call (.getPolicy key) rest →
        ∀ policy, system.cluster.found key = .ok policy →
          policy.ns = system.operatorNamespace
  | _ => True

structure Sound (system : System) : Prop where
  entries : EntriesFromOperator system.operatorNamespace system.cluster
  gets : ∀ caller thread, system.gets caller = some thread →
    Guarantees (provenance system.operatorNamespace (fun _ => False))
      (fun _ => ReturnsFromOperator system.operatorNamespace thread.sourceNamespace) ()
      thread.program
  reconciles : ∀ reconciler key thread, system.reconciles reconciler key = some thread →
    Guarantees (provenance system.operatorNamespace (fun other => other = key))
      (fun _ _ => True) () thread.program
  returned : system.Provenance

theorem start_sound (ttl clock : Time) (operatorNamespace : String) :
    (start ttl clock operatorNamespace).Sound where
  entries := by intro source entry found; cases found
  gets := by intro caller thread inside; cases inside
  reconciles := by intro reconciler key thread inside; cases inside
  returned := by intro returned member; cases member

private theorem sound_get (system next : System) (caller : Nat) (failure : Option GoError)
    (sound : system.Sound) (taken : system.step (.get caller failure) = some next) :
    next.Sound := by
  obtain ⟨thread, inside, effect⟩ := step_get taken
  have guarantees := sound.gets caller thread inside
  rcases effect with ⟨result, isDone, rfl⟩ | ⟨request, rest, answered, calls, isAnswer, rfl⟩
  · rw [isDone] at guarantees
    refine ⟨sound.entries, ?_, sound.reconciles, ?_⟩
    · intro other found stays
      rcases setGet_cases stays with ⟨_, gone⟩ | before
      · cases gone
      · exact sound.gets other found before
    · intro returned member
      rcases List.mem_cons.mp member with new | old
      · rw [new]
        exact guarantees
      · exact sound.returned returned old
  · rw [calls] at guarantees
    have expected : (provenance system.operatorNamespace (fun _ => False)).expected ()
        request answered.1 :=
      answer_expected sound.entries
        (fun _ key isRead => by subst isRead; exact guarantees.1.elim) isAnswer
    refine ⟨answer_entries sound.entries guarantees.1 isAnswer, ?_, sound.reconciles,
      sound.returned⟩
    intro other found stays
    rcases setGet_cases stays with ⟨_, advanced⟩ | before
    · cases advanced
      exact guarantees.2 answered.1 expected
    · exact sound.gets other found before

private theorem sound_reconcile (system next : System) (reconciler : Reconciler)
    (key : NamespacedName) (failure : Option GoError) (sound : system.Sound)
    (reads : system.ReadsOperatorPolicies (.reconcile reconciler key failure))
    (taken : system.step (.reconcile reconciler key failure) = some next) : next.Sound := by
  obtain ⟨thread, inside, effect⟩ := step_reconcile taken
  have guarantees := sound.reconciles reconciler key thread inside
  rcases effect with ⟨result, _isDone, rfl⟩ | ⟨request, rest, answered, calls, isAnswer, rfl⟩
  · refine ⟨sound.entries, sound.gets, ?_, sound.returned⟩
    intro other otherKey found stays
    rcases setReconcile_cases stays with ⟨_, _, gone⟩ | ⟨_, before⟩
    · cases gone
    · exact sound.reconciles other otherKey found before
  · rw [calls] at guarantees
    have expected : (provenance system.operatorNamespace (fun other => other = key)).expected ()
        request answered.1 :=
      answer_expected sound.entries
        (fun succeeds other isRead => by
          subst succeeds isRead
          cases guarantees.1
          exact reads thread rest inside calls) isAnswer
    refine ⟨answer_entries sound.entries guarantees.1 isAnswer, sound.gets, ?_,
      sound.returned⟩
    intro other otherKey found stays
    rcases setReconcile_cases stays with ⟨_, sameKey, advanced⟩ | ⟨_, before⟩
    · cases advanced
      rw [sameKey]
      exact guarantees.2 answered.1 expected
    · exact sound.reconciles other otherKey found before

theorem step_sound (system : System) (event : Event) (next : System) (sound : system.Sound)
    (reads : system.ReadsOperatorPolicies event) (taken : system.step event = some next) :
    next.Sound := by
  cases event with
  | startGet caller source =>
      rw [step_startGet taken]
      refine ⟨sound.entries, ?_, sound.reconciles, sound.returned⟩
      intro other found stays
      rcases setGet_cases stays with ⟨_, started⟩ | before
      · cases started
        apply getFound_provenance
        exact fun entry known => sound.entries source entry known
      · exact sound.gets other found before
  | get caller failure => exact sound_get system next caller failure sound taken
  | startReconcile reconciler key =>
      rw [step_startReconcile taken]
      refine ⟨sound.entries, sound.gets, ?_, sound.returned⟩
      intro other otherKey found stays
      rcases setReconcile_cases stays with ⟨_, sameKey, started⟩ | ⟨_, before⟩
      · cases started
        rw [sameKey]
        exact reconcile_provenance reconciler key system.operatorNamespace
      · exact sound.reconciles other otherKey found before
  | reconcile reconciler key failure =>
      exact sound_reconcile system next reconciler key failure sound reads taken
  | _ =>
      cases taken
      exact ⟨sound.entries, sound.gets, sound.reconciles, sound.returned⟩

/-- In a run whose reconcilers only find policies of the operator namespace, every
policy that `Get` returns is from there and for the source namespace asked for. -/
theorem provenance_of_operator_reads (ttl clock : Time) (operatorNamespace : String)
    (events : List Event)
    (reads : Along step ReadsOperatorPolicies (start ttl clock operatorNamespace) events) :
    Throughout step Provenance (start ttl clock operatorNamespace) events := by
  have invariant := throughout_of_along step ReadsOperatorPolicies Sound step_sound
    (start ttl clock operatorNamespace) events (start_sound ttl clock operatorNamespace) reads
  exact invariant.mono (fun _ sound => sound.returned)

def allPlaced (system : System) (_event : Event) : Bool :=
  system.cluster.policies.all (fun policy => policy.ns == system.operatorNamespace)

private theorem readsOperatorPolicies_of_allPlaced (system : System) (event : Event)
    (placed : system.allPlaced event = true) : system.ReadsOperatorPolicies event := by
  cases event with
  | reconcile reconciler key failure =>
      cases failure with
      | some err => trivial
      | none =>
          intro thread rest _inside _calls policy found
          have member := (found_ok _ _ _ found).1
          exact eq_of_beq (List.all_eq_true.mp placed policy member)
  | _ => trivial

def policyFor (ns : String) : KubeTemplatePolicy :=
  { ns := ns, name := "policy", resourceVersion := 0, sourceNamespace := "team-a"
    validationRules := [] }

def storedAndRead (ns : String) : List Event :=
  [.write (policyFor ns), .startReconcile .policyCache ⟨ns, "policy"⟩,
    .reconcile .policyCache ⟨ns, "policy"⟩ none, .reconcile .policyCache ⟨ns, "policy"⟩ none,
    .startGet 0 "team-a", .get 0 none, .get 0 none]

theorem provenance_of_operator_reads_stored :
    Throughout step Provenance (start 0 0 "kubetemplater-system")
      (storedAndRead "kubetemplater-system") := by
  apply provenance_of_operator_reads
  exact along_of_checkAlong readsOperatorPolicies_of_allPlaced (by decide)

/-- A tenant's policy in another namespace governs `team-a`. -/
theorem tenant_policy_returned :
    ∃ final, run step (start 0 0 "kubetemplater-system") (storedAndRead "team-b") =
      some final ∧ ¬ final.Provenance := by
  refine ⟨_, rfl, ?_⟩
  intro provenance
  have origin := (provenance _ List.mem_cons_self _ rfl).placed
  revert origin
  decide

end System

end KubeTemplater.Cache
