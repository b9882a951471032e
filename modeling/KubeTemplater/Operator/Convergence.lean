/-
Whether the operator settles on the stored spec.

A worker that started with an older spec can finish after one that started with
a newer spec: its Patch and its status are then the last ones, and nothing is
left that would look again.  Where at most one party at a time writes on behalf
of a KubeTemplate, a completed template that nobody works on has the stored spec
applied.
-/

import KubeTemplater.Operator.Consistency
import KubeTemplater.Operator.Writes
import KubeTemplater.Worker.Completion

namespace KubeTemplater.Operator

open Library Library.Program

namespace System

variable (config : Config) (specs : List KubeTemplateSpec)

/-- Nobody works on the KubeTemplate and nothing will start to. -/
structure Quiescent (system : System) (key : NamespacedName) : Prop where
  undelivered : system.pending key = false
  reconciles : system.reconciles key = none
  queued : ¬ Queued system.session key
  workers : ∀ worker execution, system.workers worker = some execution → execution.key ≠ key

/-- A completed template has the hash of the stored spec, and the last successful
Patch of every resource was issued while processing that spec. -/
def Converged (system : System) (key : NamespacedName) : Prop :=
  ∀ current, system.templates key = some current →
    current.status.processingPhase = .completed →
    current.status.appliedSpecHash = calculateSpecHash config.platform current.spec ∧
    ∀ template, template ∈ current.spec.templates → ∀ decoded,
      config.platform.unmarshal template.object.raw = .ok decoded →
      PatchedFrom config.platform system.writes key
        (elementResource config.platform current.metadata template decoded) current.spec

theorem Quiescent.not_owed {system : System} {key : NamespacedName}
    (quiescent : system.Quiescent key) (turns : Nat → WorkerStage)
    (stages : NamespacedName → ReconcileStage) : ¬ Owed system turns stages key := by
  intro owed
  rcases owed with pending | ⟨execution, inside, _⟩ | queued | ⟨worker, execution, inside, own, _⟩
  · rw [quiescent.undelivered] at pending
    cases pending
  · rw [quiescent.reconciles] at inside
    cases inside
  · exact quiescent.queued queued
  · exact quiescent.workers worker execution inside own

private theorem converged_of_tracked {system : System} {turns : Nat → WorkerStage}
    {stages : NamespacedName → ReconcileStage} {key : NamespacedName}
    (tracked : Tracked config specs system turns stages key) (quiescent : system.Quiescent key) :
    system.Converged config key := by
  intro current isStored completed
  obtain ⟨spec, _known, hash, patched, owed⟩ := tracked.completed current isStored completed
  have same : spec = current.spec := by
    by_contra different
    exact quiescent.not_owed turns stages (owed different)
  subst same
  exact ⟨hash.symm, patched⟩

/-- When parties do not overlap, a completed template that nobody works on has the
stored spec applied, in every state of every run in which calls succeed. -/
theorem converged_of_serialised (laws : HashLaws config.platform specs)
    (maxRetries initialDelay maxDelay maxCycles : Int)
    (policies : String → Except GoError KubeTemplatePolicy) (labels : List Label)
    (along : Along (step config)
      (fun system label => system.Smooth config specs label ∧ system.Serialised config label)
      (start (Queue.Session.start maxRetries initialDelay maxDelay maxCycles) policies) labels) :
    Throughout (step config)
      (fun system => ∀ key, system.Quiescent key → system.Converged config key)
      (start (Queue.Session.start maxRetries initialDelay maxDelay maxCycles) policies)
      labels := by
  have invariant := throughout_of_along (step config) _ (Consistent config specs)
    (step_consistent config specs laws) _ labels
    (start_consistent config specs maxRetries initialDelay maxDelay maxCycles policies) along
  apply invariant.mono
  intro system consistent key quiescent
  obtain ⟨turns, stages, tracked⟩ := consistent.tracked
  exact converged_of_tracked config specs (tracked key) quiescent

def acceptsAll (platform : Platform) (granted : KubeTemplatePolicy) (kubeTemplate : KubeTemplate) :
    Bool :=
  kubeTemplate.spec.templates.all (fun template =>
    !(platform.unmarshal template.object.raw).isOk ||
      Worker.passesCheck platform granted kubeTemplate.metadata template)

private theorem policyAccepts_of_acceptsAll {platform : Platform} {granted : KubeTemplatePolicy}
    {kubeTemplate : KubeTemplate} (checked : acceptsAll platform granted kubeTemplate = true) :
    PolicyAccepts platform granted kubeTemplate := by
  intro template member decoded decodes
  have checkedHere := List.all_eq_true.mp checked template member
  rw [decodes] at checkedHere
  obtain ⟨found, rule, isFound, passes⟩ := Worker.passes_of_check _ checkedHere
  cases decodes.symm.trans isFound
  exact ⟨rule, passes⟩

def smoothExecution {α : Type} (system : System) (execution : Execution α) (outcome : Outcome) :
    Bool :=
  match execution.program with
  | .done _ => true
  | .call (.getResource _ _ _) _ => true
  | .call (.policyCacheGet source _) _ =>
      outcome.isSuccess &&
        match system.policies source with
        | .ok granted => execution.read.all (acceptsAll config.platform granted)
        | .error _ => false
  | .call _ _ => outcome.isSuccess

private theorem smoothCall_of_smoothExecution {α : Type} {system : System} {execution : Execution α}
    {outcome : Outcome} {request : Call} {rest : request.Answer → Program client α}
    (calls : execution.program = .call request rest)
    (checked : smoothExecution config system execution outcome = true) :
    SmoothCall config system execution.read request outcome := by
  unfold smoothExecution at checked
  rw [calls] at checked
  cases request with
  | getResource gvk ns name =>
      exact ⟨fun other => absurd rfl (other gvk ns name), fun _ _ isPolicy => by cases isPolicy⟩
  | policyCacheGet source operator =>
      obtain ⟨success, accepted⟩ := Bool.and_eq_true_iff.mp checked
      refine ⟨fun _ => success, ?_⟩
      intro wanted other isPolicy
      cases isPolicy
      cases answer : system.policies source with
      | error err =>
          rw [answer] at accepted
          cases accepted
      | ok granted =>
          rw [answer] at accepted
          refine ⟨granted, rfl, ?_⟩
          intro template isRead
          rw [isRead] at accepted
          exact policyAccepts_of_acceptsAll accepted
  | recordEvent kind reason message =>
      exact ⟨fun _ => checked, fun _ _ isPolicy => by cases isPolicy⟩
  | _ => exact ⟨fun _ => checked, fun _ _ isPolicy => by cases isPolicy⟩

def checkSmooth (system : System) : Label → Bool
  | .create template => decide (template.spec ∈ specs)
  | .update _ spec _ _ => decide (spec ∈ specs)
  | .remove _ => false
  | .worker worker outcome =>
      (system.workers worker).all (fun execution =>
        smoothExecution config system execution outcome)
  | .controller key outcome =>
      (system.reconciles key).all (fun execution =>
        smoothExecution config system execution outcome)
  | _ => true

private theorem smooth_of_check (system : System) (label : Label)
    (checked : checkSmooth config specs system label = true) :
    system.Smooth config specs label := by
  cases label with
  | create template => exact of_decide_eq_true (p := template.spec ∈ specs) checked
  | update key spec labels annotations => exact of_decide_eq_true (p := spec ∈ specs) checked
  | remove key => cases checked
  | setPolicy source answer => trivial
  | pass elapsed => trivial
  | deliver key => trivial
  | dequeue worker => trivial
  | _ =>
      intro execution request rest inside calls
      simp only [checkSmooth, inside, Option.all_some] at checked
      exact smoothCall_of_smoothExecution config calls checked

def checkSerialised (system : System) : Label → Bool
  | .dequeue _ =>
      (system.session.queue.items[0]?).all (fun ref =>
        system.untended (system.session.queue.key ref) &&
          !system.correctsDrift config (system.session.queue.key ref))
  | .controller key _ => system.untended key
  | _ => true

private theorem serialised_of_check (system : System) (label : Label)
    (checked : checkSerialised config system label = true) : system.Serialised config label := by
  cases label with
  | dequeue worker =>
      intro ref root
      simp only [checkSerialised, root, Option.all_some, Bool.and_eq_true,
        Bool.not_eq_true'] at checked
      exact checked
  | controller key outcome =>
      intro execution current _inside _first _isStored _ready
      exact checked
  | _ => trivial

def checkStep (system : System) (label : Label) : Bool :=
  checkSmooth config specs system label && checkSerialised config system label

private theorem conditions_of_check (system : System) (label : Label)
    (checked : checkStep config specs system label = true) :
    system.Smooth config specs label ∧ system.Serialised config label := by
  obtain ⟨smooth, serial⟩ := Bool.and_eq_true_iff.mp checked
  exact ⟨smooth_of_check config specs system label smooth,
    serialised_of_check config system label serial⟩

private theorem quiescent_of_idle {system : System} {key : NamespacedName} (listed : system.Listed)
    (idle : system.active = []) (undelivered : system.pending key = false)
    (empty : system.session.queue.items.toList = []) : system.Quiescent key := by
  refine ⟨undelivered, ?_, ?_, ?_⟩
  · cases inside : system.reconciles key with
    | none => rfl
    | some execution =>
        have member := listed.reconciles key execution inside
        rw [idle] at member
        cases member
  · intro queued
    obtain ⟨ref, member, _⟩ := queued
    rw [empty] at member
    cases member
  · intro worker execution inside
    have member := listed.workers worker execution inside
    rw [idle] at member
    cases member

/-- The state that a run ends in, when nobody is left at work. -/
theorem run_quiescent {session : Queue.Session}
    {policies : String → Except GoError KubeTemplatePolicy} {labels : List Label} {final : System}
    {key : NamespacedName} (ran : run (step config) (start session policies) labels = some final)
    (idle : (final.active, final.pending key, final.session.queue.items.toList) =
      ([], false, [])) : final.Quiescent key := by
  have listed := throughout_of_preserved (step config) Listed (step_listed config)
    (start session policies) labels (start_listed session policies)
  obtain ⟨active, others⟩ := Prod.mk.inj idle
  obtain ⟨pending, items⟩ := Prod.mk.inj others
  exact quiescent_of_idle (listed.last ran) active pending items

def versions : List KubeTemplateSpec :=
  [Reference.settingsSpec "fast", Reference.settingsSpec "slow"]

private theorem versions_hashLaws : HashLaws settingsConfig.platform versions := by
  have injective : ∀ left, left ∈ versions → ∀ right, right ∈ versions →
      calculateSpecHash settingsConfig.platform left =
        calculateSpecHash settingsConfig.platform right → left = right := by
    decide
  constructor
  · decide
  · intro left right isLeft isRight
    exact injective left isLeft right isRight

/-- The user changes the spec, and `Reconcile` sees that and queues the template. -/
def changing (calls : Nat) : List Label :=
  .update webKey (Reference.settingsSpec "slow") [] [] :: .deliver webKey ::
    List.replicate calls (.controller webKey .succeeds)

def succession : List Label :=
  .create webTemplate :: queuing ++ processing 0 (Reference.configMap "settings" "fast") ++
    changing 5 ++ processing 1 (Reference.configMap "settings" "slow")

theorem converged_of_serialised_succession :
    ∃ final, run (step settingsConfig) (teamStart (Reference.configMapPolicy [])) succession =
        some final ∧
      (final.templates webKey).map (fun template => template.status.processingPhase) =
        some .completed ∧
      final.Quiescent webKey ∧ final.Converged settingsConfig webKey := by
  have ran : (run (step settingsConfig) (teamStart (Reference.configMapPolicy []))
      succession).map (fun final =>
        ((final.templates webKey).map (fun template => template.status.processingPhase),
          final.active, final.pending webKey, final.session.queue.items.toList)) =
        some (some .completed, [], false, []) := by
    decide
  obtain ⟨final, isRun, observed⟩ := Option.map_eq_some_iff.mp ran
  obtain ⟨completed, idle⟩ := Prod.mk.inj observed
  have quiescent := run_quiescent settingsConfig isRun idle
  refine ⟨final, isRun, completed, quiescent, ?_⟩
  have along : Along (step settingsConfig)
      (fun system label => system.Smooth settingsConfig versions label ∧
        system.Serialised settingsConfig label)
      (teamStart (Reference.configMapPolicy [])) succession :=
    along_of_checkAlong (conditions_of_check settingsConfig versions) (by decide)
  have converged := converged_of_serialised settingsConfig versions versions_hashLaws 5 1000000000
    300000000000 3 _ succession along
  exact converged.last isRun webKey quiescent

/-- Worker 0 has read the first version when the user changes the spec; worker 1
applies the second version; then worker 0 applies the first and completes. -/
def overtaking : List Label :=
  .create webTemplate :: queuing ++
    .dequeue 0 :: List.replicate 4 (.worker 0 .succeeds) ++ changing 3 ++
    processing 1 (Reference.configMap "settings" "slow") ++
    .worker 0 (.returns (Reference.configMap "settings" "fast")) ::
      List.replicate 4 (.worker 0 .succeeds)

/-- The resource that both versions of the spec have. -/
def settingsResource : ResourceId :=
  { gvk := { group := "", version := "v1", kind := "ConfigMap" }, ns := "team-a"
    name := "settings" }

/-- Every call succeeds and nobody is left at work, but the first version is applied
and its hash is in the status. -/
theorem overtaken_version_stays :
    Along (step settingsConfig) (Smooth settingsConfig versions)
        (teamStart (Reference.configMapPolicy [])) overtaking ∧
      ∃ final current,
        run (step settingsConfig) (teamStart (Reference.configMapPolicy [])) overtaking =
          some final ∧
        final.Quiescent webKey ∧
        final.templates webKey = some current ∧
        current.status.processingPhase = .completed ∧
        current.spec = Reference.settingsSpec "slow" ∧
        current.status.appliedSpecHash =
          calculateSpecHash settingsConfig.platform (Reference.settingsSpec "fast") ∧
        PatchedFrom settingsConfig.platform final.writes webKey settingsResource
          (Reference.settingsSpec "fast") ∧
        ¬ final.Converged settingsConfig webKey := by
  refine ⟨along_of_checkAlong (smooth_of_check settingsConfig versions) (by decide), ?_⟩
  have ended : (run (step settingsConfig) (teamStart (Reference.configMapPolicy []))
      overtaking).map (fun final =>
        (final.active, final.pending webKey, final.session.queue.items.toList)) =
        some ([], false, []) := by
    decide
  have stored : ((run (step settingsConfig) (teamStart (Reference.configMapPolicy []))
      overtaking).bind (fun final => final.templates webKey)).map (fun template =>
        (template.status.processingPhase, template.spec, template.status.appliedSpecHash)) =
        some (.completed, Reference.settingsSpec "slow",
          calculateSpecHash settingsConfig.platform (Reference.settingsSpec "fast")) := by
    decide
  have patched : (run (step settingsConfig) (teamStart (Reference.configMapPolicy []))
      overtaking).bind (fun final =>
        (final.writes.find? (isPatchOf settingsConfig.platform webKey settingsResource)).bind
          (fun write => write.read.map (fun template => template.spec))) =
        some (Reference.settingsSpec "fast") := by
    decide
  obtain ⟨final, isRun, idle⟩ := Option.map_eq_some_iff.mp ended
  rw [isRun, Option.bind_some] at stored patched
  obtain ⟨current, isStored, fields⟩ := Option.map_eq_some_iff.mp stored
  obtain ⟨completed, others⟩ := Prod.mk.inj fields
  obtain ⟨spec, hash⟩ := Prod.mk.inj others
  obtain ⟨write, isLast, reads⟩ := Option.bind_eq_some_iff.mp patched
  obtain ⟨template, isRead, fromFast⟩ := Option.map_eq_some_iff.mp reads
  refine ⟨final, current, isRun, run_quiescent settingsConfig isRun idle, isStored, completed,
    spec, hash, ⟨write, template, isLast, isRead, fromFast⟩, ?_⟩
  intro converged
  have same := (converged current isStored completed).1
  rw [hash, spec] at same
  have different : calculateSpecHash settingsConfig.platform (Reference.settingsSpec "fast") ≠
      calculateSpecHash settingsConfig.platform (Reference.settingsSpec "slow") := by
    decide
  exact different same

end System

end KubeTemplater.Operator
