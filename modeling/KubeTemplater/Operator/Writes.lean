/-
Whether the policy in force allows what the operator writes.

The drift correction and, for field validations, the worker rely on the checks
of an earlier time.  Every write is allowed as long as what they leave unchecked
still holds when they rely on it.
-/

import KubeTemplater.Agreement.SecondCheck
import KubeTemplater.Operator.Calls
import KubeTemplater.Operator.WriteProtocol

namespace KubeTemplater.Operator

open Library Library.Program Webhook

namespace System

variable (config : Config)

def WritesAllowed (system : System) : Prop :=
  ∀ write, write ∈ system.writes →
    ObjectAllowed config.platform write.key.ns write.policy write.object

/-- A policy does not change within an execution that it governs. -/
def PolicyHolds (system : System) : Label → Prop
  | .setPolicy source _ => ∀ entry, entry ∈ system.active → entry.2.ns ≠ source
  | _ => True

/-- What the checks leave out holds when an execution relies on it: the rest of the rule when a
worker has its policy, everything when `Reconcile` reads an idle template. -/
def Vetted (system : System) : Label → Prop
  | .setPolicy source answer => system.PolicyHolds (.setPolicy source answer)
  | .worker worker _ =>
      ∀ execution source operator rest granted template,
        system.workers worker = some execution →
        execution.program = .call (.policyCacheGet source operator) rest →
        system.policies execution.key.ns = .ok granted → execution.read = some template →
        ElementsFit config.platform granted template
  | .controller key outcome =>
      ∀ execution rest answered template, system.reconciles key = some execution →
        execution.read = none → execution.program = .call (.getTemplate key) rest →
        system.respond (.getTemplate key) outcome = some answered →
        answered.1 = .ok template → DriftReady config.platform template →
        Admitted config.platform (system.policies key.ns) template
  | _ => True

private theorem respond_expected {system : System} (keyed : system.Keyed) {party : Party}
    {key : NamespacedName} {read : Option KubeTemplate}
    {request : Call} {outcome : Outcome} {answered : request.Answer × System}
    (permitted : (writing config.platform party key (system.policies key.ns)).permitted read
      request)
    (isAnswer : system.respond request outcome = some answered)
    (reads : ∀ template, request = .getTemplate key →
      system.respond (.getTemplate key) outcome = some (.ok template, answered.2) →
      party = .controller →
      reconcileTrust config.platform (system.policies key.ns) read template)
    (fields : ∀ source operator granted template, request = .policyCacheGet source operator →
      party ≠ .controller →
      system.policies key.ns = .ok granted → read = some template →
      ElementsFit config.platform granted template) :
    (writing config.platform party key (system.policies key.ns)).expected read request
      answered.1 := by
  cases request with
  | getTemplate wanted =>
      have same : wanted = key := permitted
      subst same
      intro template isOk
      refine ⟨respond_getTemplate keyed isAnswer isOk, ?_⟩
      apply reads template rfl
      rw [isAnswer, ← isOk]
  | policyCacheGet source operator =>
      intro granted isOk
      have inForce : system.policies key.ns = .ok granted := by
        cases outcome with
        | succeeds =>
            cases isAnswer
            rw [← isOk, permitted.1]
        | fails err =>
            cases isAnswer
            cases isOk
        | _ => cases isAnswer
      exact ⟨inForce, fun template isRead =>
        fields source operator granted template rfl permitted.2 inForce isRead⟩
  | _ => trivial

private theorem logged_allowed {system : System} {key : NamespacedName} {read : Option KubeTemplate}
    {party : Party} {request : Call} {outcome : Outcome}
    (allowed : system.WritesAllowed config)
    (permitted : (writing config.platform party key (system.policies key.ns)).permitted read
      request) :
    ∀ write, write ∈ system.logged key read request outcome →
      ObjectAllowed config.platform write.key.ns write.policy write.object := by
  intro write member
  unfold logged at member
  cases request with
  | patch object forceOwnership dryRun =>
      cases dryRun with
      | true => exact allowed write member
      | false =>
          rcases List.mem_cons.mp member with new | old
          · rw [new]
            exact permitted
          · exact allowed write old
  | delete object =>
      rcases List.mem_cons.mp member with new | old
      · rw [new]
        exact permitted
      · exact allowed write old
  | _ => exact allowed write member

structure Governed (system : System) : Prop where
  keyed : system.Keyed
  listed : system.Listed
  workers : ∀ worker execution, system.workers worker = some execution →
    Guarantees (writing config.platform (.worker worker) execution.key
      (system.policies execution.key.ns)) (fun _ _ => True) execution.read execution.program
  reconciles : ∀ key execution, system.reconciles key = some execution →
    Guarantees (writing config.platform .controller key (system.policies key.ns))
      (fun _ _ => True) execution.read execution.program
  writes : system.WritesAllowed config

private theorem start_governed (session : Queue.Session)
    (policies : String → Except GoError KubeTemplatePolicy) :
    (start session policies).Governed config where
  keyed := by intro key template stored; cases stored
  listed := start_listed session policies
  workers := by intro worker execution inside; cases inside
  reconciles := by intro key execution inside; cases inside
  writes := by intro write member; cases member

private theorem governed_worker {system next : System} {worker : Nat} {outcome : Outcome}
    (governed : system.Governed config)
    (vetted : system.Vetted config (.worker worker outcome))
    (taken : system.step config (.worker worker outcome) = some next) :
    next.Governed config := by
  have listed := step_listed config system _ next governed.listed taken
  obtain ⟨execution, inside, effect⟩ := step_worker config taken
  have guarantees := governed.workers worker execution inside
  rcases effect with ⟨disposition, session, _isDone, _ends, rfl⟩ |
    ⟨request, rest, answered, calls, isAnswer, rfl⟩
  · refine ⟨governed.keyed, listed, ?_, governed.reconciles, governed.writes⟩
    intro other found stays
    obtain ⟨_, stays⟩ := update_none_eq_some stays
    exact governed.workers other found stays
  · have frame := (respond_effect isAnswer).frame
    have keyed := (respond_effect isAnswer).keyed governed.keyed
    rw [calls] at guarantees
    have expected := respond_expected config governed.keyed guarantees.1 isAnswer
      (fun _ _ _ impossible => nomatch impossible)
      (fun source operator granted template isGet _worker inForce isRead => by
        subst isGet
        exact vetted execution source operator rest granted template inside calls inForce isRead)
    refine ⟨keyed, listed, ?_, ?_,
      logged_allowed config governed.writes guarantees.1⟩
    · intro other found stays
      dsimp only at stays ⊢
      rw [frame.policies]
      rcases update_eq_some stays with ⟨rfl, ⟨⟩⟩ | ⟨_, stays⟩
      · exact guarantees.2 answered.1 expected
      · exact governed.workers other found stays
    · intro key found stays
      dsimp only at stays ⊢
      rw [frame.reconciles] at stays
      rw [frame.policies]
      exact governed.reconciles key found stays

private theorem governed_controller {system next : System} {key : NamespacedName}
    {outcome : Outcome}
    (governed : system.Governed config)
    (vetted : system.Vetted config (.controller key outcome))
    (taken : system.step config (.controller key outcome) = some next) :
    next.Governed config := by
  have listed := step_listed config system _ next governed.listed taken
  obtain ⟨execution, inside, effect⟩ := step_controller config taken
  have guarantees := governed.reconciles key execution inside
  rcases effect with ⟨result, _isDone, rfl⟩ |
    ⟨request, rest, answered, calls, isAnswer, rfl⟩
  · refine ⟨governed.keyed, listed, governed.workers, ?_, governed.writes⟩
    intro other found stays
    obtain ⟨_, stays⟩ := update_none_eq_some stays
    exact governed.reconciles other found stays
  · have frame := (respond_effect isAnswer).frame
    have keyed := (respond_effect isAnswer).keyed governed.keyed
    rw [calls] at guarantees
    have expected := respond_expected config governed.keyed guarantees.1 isAnswer
      (fun template isGet isRead _controller first ready => by
        subst isGet
        exact vetted execution rest _ template inside first calls isRead rfl ready)
      (fun _ _ _ _ _ worker => absurd rfl worker)
    refine ⟨keyed, listed, ?_, ?_,
      logged_allowed config governed.writes guarantees.1⟩
    · intro worker found stays
      dsimp only at stays ⊢
      rw [frame.workers] at stays
      rw [frame.policies]
      exact governed.workers worker found stays
    · intro other found stays
      dsimp only at stays ⊢
      rw [frame.policies]
      rcases update_eq_some stays with ⟨rfl, ⟨⟩⟩ | ⟨_, stays⟩
      · exact guarantees.2 answered.1 expected
      · exact governed.reconciles other found stays

private theorem governed_setPolicy {system next : System} {source : String}
    {answer : Except GoError KubeTemplatePolicy} (governed : system.Governed config)
    (holds : system.PolicyHolds (.setPolicy source answer))
    (taken : system.step config (.setPolicy source answer) = some next) :
    next.Governed config := by
  have listed := step_listed config system _ next governed.listed taken
  cases taken
  -- the policy of an execution in progress is another one
  have kept (party : Party) (key : NamespacedName) (member : (party, key) ∈ system.active) :
      Function.update system.policies source answer key.ns = system.policies key.ns :=
    Function.update_of_ne (holds (party, key) member) answer system.policies
  refine ⟨governed.keyed, listed, ?_, ?_, governed.writes⟩
  · intro worker execution inside
    dsimp only
    rw [kept _ _ (governed.listed.workers worker execution inside)]
    exact governed.workers worker execution inside
  · intro key execution inside
    dsimp only
    rw [kept _ _ (governed.listed.reconciles key execution inside)]
    exact governed.reconciles key execution inside

private theorem step_governed (laws : MetadataLaws config.platform)
    (kinds : KindLaws config.platform)
    (system : System) (label : Label) (next : System)
    (governed : system.Governed config) (vetted : system.Vetted config label)
    (taken : system.step config label = some next) : next.Governed config := by
  have listed := step_listed config system label next governed.listed taken
  cases label with
  | create template =>
      obtain ⟨_free, rfl⟩ := step_create config taken
      exact ⟨put_keyed governed.keyed _, listed, governed.workers, governed.reconciles,
        governed.writes⟩
  | update key spec labels annotations =>
      obtain ⟨old, _stored, ⟨_, rfl⟩ | ⟨_, rfl⟩⟩ := step_update config taken
      · exact ⟨put_keyed governed.keyed _, listed, governed.workers, governed.reconciles,
          governed.writes⟩
      · exact ⟨put_keyed governed.keyed _, listed, governed.workers, governed.reconciles,
          governed.writes⟩
  | remove key =>
      obtain rfl := step_remove config taken
      exact ⟨remove_keyed governed.keyed key, listed, governed.workers, governed.reconciles,
        governed.writes⟩
  | setPolicy source answer => exact governed_setPolicy config governed vetted taken
  | pass elapsed =>
      cases taken
      exact ⟨governed.keyed, listed, governed.workers, governed.reconciles, governed.writes⟩
  | deliver key =>
      obtain ⟨_free, rfl⟩ := step_deliver config taken
      refine ⟨governed.keyed, listed, governed.workers, ?_, governed.writes⟩
      intro other found stays
      rcases update_eq_some stays with ⟨rfl, ⟨⟩⟩ | ⟨_, stays⟩
      · exact reconcile_writing config.platform config.interval
      · exact governed.reconciles other found stays
  | controller key outcome => exact governed_controller config governed vetted taken
  | dequeue worker =>
      obtain ⟨session, ref, _free, _dequeued, _holds, rfl⟩ := step_dequeue config taken
      refine ⟨governed.keyed, listed, ?_, governed.reconciles, governed.writes⟩
      intro other found stays
      rcases update_eq_some stays with ⟨rfl, ⟨⟩⟩ | ⟨_, stays⟩
      · have isWorker : Party.worker other ≠ .controller := by
          intro same
          cases same
        exact handleItem_writing config.platform laws kinds isWorker _ _ _ rfl
      · exact governed.workers other found stays
  | worker worker outcome => exact governed_worker config governed vetted taken

/-- In a run in which what the operator does not check again still holds when it
relies on it, every real Patch and every Delete is allowed by the policy in force. -/
theorem writesAllowed_of_vetted (laws : MetadataLaws config.platform)
    (kinds : KindLaws config.platform) (session : Queue.Session)
    (policies : String → Except GoError KubeTemplatePolicy) (labels : List Label)
    (vetted : Along (step config) (Vetted config) (start session policies) labels) :
    Throughout (step config) (WritesAllowed config) (start session policies) labels := by
  have invariant := throughout_of_along (step config) (Vetted config) (Governed config)
    (step_governed config laws kinds) (start session policies) labels
    (start_governed config session policies) vetted
  exact invariant.mono (fun _ governed => governed.writes)

def settingsConfig : Config :=
  { platform := Reference.versionsPlatform
    operatorNamespace := "kubetemplater-system"
    interval := 60000000000 }

def webKey : NamespacedName := { ns := "team-a", name := "web" }

def teamStart (policy : KubeTemplatePolicy) : System :=
  start (Queue.Session.start 5 1000000000 300000000000 3) (fun ns =>
    if ns = "team-a" then .ok policy else .error (errorf "no KubeTemplatePolicy found"))

/-- `Reconcile` queues a new template: two reads, the time, the status, the queue. -/
def queuing : List Label :=
  .deliver webKey :: List.replicate 6 (.controller webKey .succeeds)

/-- A worker's turn for a template with one element: up to its policy, its Patch,
and its last status. -/
def processing (worker : Nat) (object : Unstructured) : List Label :=
  .dequeue worker :: List.replicate 4 (.worker worker .succeeds) ++
    .worker worker (.returns object) :: List.replicate 4 (.worker worker .succeeds)

/-- The drift correction for a missing resource, up to its Patch. -/
def correcting (object : Unstructured) : List Label :=
  [.deliver webKey, .controller webKey .succeeds, .controller webKey .succeeds,
    .controller webKey (.fails ⟨.notFound, "not found"⟩), .controller webKey (.returns object),
    .controller webKey (.returns object)]

private theorem settings_allowed (raw : String) (decoded : Unstructured)
    (decodes : Reference.versionsPlatform.unmarshal raw = .ok decoded) :
    PolicyAllows Reference.versionsPlatform Reference.versionsPlatform.cel
      (Reference.configMapPolicy [])
      (defaultNamespace Reference.versionsPlatform "team-a" decoded) := by
  have none : ∀ validation, validation ∈ (Reference.configMapRule []).fieldValidations →
      FieldPasses Reference.versionsPlatform Reference.versionsPlatform.cel
        (defaultNamespace Reference.versionsPlatform "team-a" decoded) validation := by
    intro validation member
    cases member
  rcases Reference.versions_unmarshal raw decoded decodes with ⟨_, rfl | rfl, _isRaw, rfl⟩
  · exact ⟨Reference.configMapRule [], rfl, ⟨List.mem_cons_self, .inl rfl⟩, none⟩
  · exact ⟨Reference.configMapRule [], rfl, ⟨List.mem_cons_self, .inl rfl⟩, none⟩

def policyUnused (system : System) : Label → Bool
  | .setPolicy source _ => system.active.all (fun entry => decide (entry.2.ns ≠ source))
  | _ => true

private theorem policyHolds_of_unused (system : System) (label : Label)
    (unused : system.policyUnused label = true) : system.PolicyHolds label := by
  cases label with
  | setPolicy source answer =>
      intro entry member
      exact of_decide_eq_true (List.all_eq_true.mp unused entry member)
  | _ => trivial

/-- An evaluable condition: the policy is the one without field validations, and
`Reconcile` reads what is stored. -/
def unfielded (system : System) : Label → Bool
  | .setPolicy source answer => system.policyUnused (.setPolicy source answer)
  | .worker worker _ =>
      (system.workers worker).all (fun execution =>
        decide (system.policies execution.key.ns = .ok (Reference.configMapPolicy [])))
  | .controller _ (.stale _) => false
  | .controller key _ =>
      decide (system.policies key.ns = .ok (Reference.configMapPolicy [])) &&
        (system.templates key).all (fun template => template.metadata.ns == "team-a")
  | _ => true

private theorem vetted_of_unfielded (system : System) (label : Label)
    (checked : unfielded system label = true) : system.Vetted settingsConfig label := by
  cases label with
  | worker worker outcome =>
      intro execution source operator rest granted template inside _calls inForce _isRead
        element _member decoded rule passes owner _own
      simp only [unfielded, inside, Option.all_some, decide_eq_true_eq] at checked
      rw [inForce] at checked
      cases checked
      obtain ⟨first, _admits⟩ := (Worker.checkPolicy_ok_iff _ _ _ _).mp passes.passes
      have same := List.mem_singleton.mp (List.mem_of_find?_eq_some first)
      rw [same]
      refine ⟨.inl rfl, ?_⟩
      intro validation member
      cases member
  | controller key outcome =>
      intro execution rest answered template inside _first _calls isAnswer isOk _ready
      cases outcome with
      | succeeds =>
          obtain ⟨inForce, stored⟩ := Bool.and_eq_true_iff.mp checked
          cases isAnswer
          dsimp only at isOk
          unfold found at isOk
          split at isOk
          · rename_i current isStored
            cases isOk
            rw [isStored] at stored
            have ns : template.metadata.ns = "team-a" := eq_of_beq stored
            intro element _member decoded decodes
            rw [ns]
            exact ⟨_, of_decide_eq_true inForce, settings_allowed _ decoded decodes⟩
          · cases isOk
      | fails err =>
          cases isAnswer
          cases isOk
      | stale old => cases checked
      | returns object => cases isAnswer
      | lost err => cases isAnswer
  | setPolicy source answer => exact policyHolds_of_unused system (.setPolicy source answer) checked
  | _ => trivial

/-- The template is created and applied by a worker, the policy is written again, and
`Reconcile` finds the resource missing. -/
theorem writesAllowed_of_vetted_settings :
    Throughout (step settingsConfig) (WritesAllowed settingsConfig)
      (teamStart (Reference.configMapPolicy []))
      (.create (Reference.kubeTemplate (Reference.settingsSpec "fast").templates) ::
        queuing ++ processing 0 (Reference.configMap "settings" "fast") ++
        .setPolicy "team-a" (.ok (Reference.configMapPolicy [])) ::
        correcting (Reference.configMap "settings" "fast")) :=
  writesAllowed_of_vetted settingsConfig (Reference.platform_metadataLaws _ _)
    (Reference.platform_kindLaws _ _) _ _ _
    (along_of_checkAlong vetted_of_unfielded (by decide +kernel))

def webTemplate : KubeTemplate := Reference.kubeTemplate (Reference.settingsSpec "fast").templates

def forbidding : KubeTemplatePolicy :=
  { Reference.configMapPolicy [] with validationRules := [] }

private theorem forbidding_not_allows (object : Unstructured) :
    ¬ PolicyAllows Reference.versionsPlatform Reference.versionsPlatform.cel forbidding object := by
  intro allows
  obtain ⟨rule, first, _⟩ := allows
  cases first

/-- A ConfigMap without the required field. -/
def ownerless (object : Unstructured) : Bool :=
  decide (firstMatchingRule (Reference.configMapPolicy [Agreement.ownerRequired])
    (Reference.versionsPlatform.groupVersionKind object) =
      some (Reference.configMapRule [Agreement.ownerRequired])) &&
    match Reference.versionsPlatform.nestedFieldCopy object
        (fieldPathToKeys Agreement.ownerRequired.fieldPath) with
    | .ok none => true
    | _ => false

private theorem ownerless_not_allows {object : Unstructured} (lacks : ownerless object = true) :
    ¬ PolicyAllows Reference.versionsPlatform Reference.versionsPlatform.cel
      (Reference.configMapPolicy [Agreement.ownerRequired]) object := by
  obtain ⟨kind, missing⟩ := Bool.and_eq_true_iff.mp lacks
  intro allows
  obtain ⟨rule, first, _admits, fields⟩ := allows
  rw [of_decide_eq_true kind] at first
  cases first
  obtain ⟨_path, found, isFound, present⟩ := fields Agreement.ownerRequired List.mem_cons_self
  rw [isFound] at missing
  cases found with
  | none => cases present
  | some value => cases missing

/-- The template is admitted and the policy is tightened twice: before the worker's
turn, and before the drift correction. -/
def tightening : List Label :=
  .create webTemplate ::
    .setPolicy "team-a" (.ok (Reference.configMapPolicy [Agreement.ownerRequired])) ::
    queuing ++ processing 0 (Reference.configMap "settings" "fast") ++
    .setPolicy "team-a" (.ok forbidding) :: correcting (Reference.configMap "settings" "fast")

/-- Both paths write an object that the policy in force forbids: the worker one
whose required field is missing, the drift correction one that no rule matches. -/
theorem tightened_policy_ignored :
    Agreement.Accepts settingsConfig.platform "kubetemplater-system"
        (Reference.configMapPolicy []) webTemplate (RegexCache.empty _) ∧
      Along (step settingsConfig) PolicyHolds (teamStart (Reference.configMapPolicy []))
        tightening ∧
      ∃ final, run (step settingsConfig) (teamStart (Reference.configMapPolicy [])) tightening =
          some final ∧
        final.writes.map (fun write => (write.key, write.policy)) =
          [(webKey, .ok forbidding),
            (webKey, .ok (Reference.configMapPolicy [Agreement.ownerRequired]))] ∧
        ∀ write, write ∈ final.writes →
          ¬ ObjectAllowed settingsConfig.platform write.key.ns write.policy write.object := by
  refine ⟨?_, along_of_checkAlong policyHolds_of_unused (by decide +kernel), ?_⟩
  · rw [Agreement.accepts_iff]
    decide
  · have ran : (run (step settingsConfig) (teamStart (Reference.configMapPolicy [])) tightening).map
        (fun final => final.writes.map (fun write => (write.key, write.policy,
          ownerless (defaultNamespace Reference.versionsPlatform "team-a" write.object)))) =
          some [(webKey, .ok forbidding, true),
            (webKey, .ok (Reference.configMapPolicy [Agreement.ownerRequired]), true)] := by
      decide +kernel
    obtain ⟨final, isRun, writes⟩ := Option.map_eq_some_iff.mp ran
    refine ⟨final, isRun, ?_, ?_⟩
    · have keyed := congrArg (List.map (fun write => (write.1, write.2.1))) writes
      rwa [List.map_map] at keyed
    · intro write member allowed
      have listed := List.mem_map_of_mem (f := fun write => (write.key, write.policy,
        ownerless (defaultNamespace Reference.versionsPlatform "team-a" write.object))) member
      rw [writes] at listed
      obtain ⟨granted, inForce, allows⟩ := allowed
      rcases List.mem_cons.mp listed with drift | worker
      · obtain ⟨_isKey, rest⟩ := Prod.mk.inj drift
        rw [(Prod.mk.inj rest).1] at inForce
        cases inForce
        exact forbidding_not_allows _ allows
      · obtain ⟨isKey, rest⟩ := Prod.mk.inj (List.mem_singleton.mp worker)
        rw [(Prod.mk.inj rest).1] at inForce
        cases inForce
        rw [isKey] at allows
        exact ownerless_not_allows (Prod.mk.inj rest).2 allows

end System

end KubeTemplater.Operator
