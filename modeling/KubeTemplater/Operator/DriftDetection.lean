/-
Whether drift detection stays armed.

`Reconcile` sees to a Completed KubeTemplate every `PeriodicReconcileInterval`: each
execution that finds it Completed asks for the next one.  But Completed is written
by a worker, the filter drops the event of that write, and the execution of
`Reconcile` that queued the KubeTemplate has asked for nothing.
-/

import KubeTemplater.Operator.Unfailing

namespace KubeTemplater.Operator

open Library Library.Program

/-- The execution of `Reconcile` finds the KubeTemplate Completed, or may still. -/
def Visit.arms : Visit → Bool
  | .waiting | .refused | .found .completed _ => true
  | _ => false

theorem Visit.ends_arms {interval : Time} (positive : 0 < interval) {visit : Visit}
    {result : Controller.ReconcileResult} (ends : visit.ends interval result)
    (arms : visit.arms = true) : asksAgain result = true := by
  cases visit with
  | waiting => exact ends
  | refused => exact ends
  | missing => cases arms
  | handed => cases arms
  | found phase requeues =>
      cases phase with
      | completed => exact ends.2 rfl positive
      | _ => cases arms

namespace Journal

/-- Every Completed KubeTemplate that is neither queued nor held by a worker has a
request for `Reconcile`, waiting, undelivered or being carried out. -/
def Armed (journal : Journal) : Prop :=
  ∀ key current, journal.system.templates key = some current →
    current.status.processingPhase = .completed → ¬ Queued journal.system.session key →
    (¬ ∃ worker ref, journal.system.session.held worker = some ref ∧
      journal.system.session.queue.key ref = key) →
    journal.system.pending key = true ∨ journal.scheduled key = true ∨
      ∃ execution, journal.system.reconciles key = some execution

/-- A worker writes Completed only where a request for `Reconcile` is left that will
read the KubeTemplate. -/
def Watched (journal : Journal) : Event → Prop
  | .operator (.worker worker _) =>
      ∀ execution template rest, journal.system.workers worker = some execution →
        execution.program = .call (.updateStatus template) rest →
        template.status.processingPhase = .completed →
        journal.Requested Visit.arms execution.key
  | _ => True

variable {config : Config} {journal next : Journal} {key : NamespacedName}

/-- A Completed KubeTemplate is worked on, or `Reconcile` will find it. -/
def Seen (journal : Journal) (key : NamespacedName) : Prop :=
  journal.Worked owes key ∨ journal.Requested Visit.arms key

private theorem requested_of_worker {duty : Visit → Bool} (starts : duty .waiting = true)
    {worker : Nat}
    {outcome : Outcome} (requested : journal.Requested duty key)
    (taken : journal.step config (.operator (.worker worker outcome)) = some next) :
    next.Requested duty key := by
  rcases requested.step starts taken with still | ⟨_, _, impossible, _⟩
  · exact still
  · cases impossible

theorem Seen.step (positive : 0 < config.interval) (faithful : journal.Faithful config)
    {event : Event} (dependable : journal.Dependable config event)
    (watched : journal.Watched event) (taken : journal.step config event = some next)
    {current : KubeTemplate} (isStored : next.system.templates key = some current)
    (completed : current.status.processingPhase = .completed) (seen : journal.Seen key) :
    next.Seen key := by
  rcases seen with worked | requested
  · rcases worked.step faithful rfl taken with still | lapsed
    · exact .inl still
    · -- the worker has written Completed
      obtain ⟨worker, outcome, execution, template, rest, rfl, inside, own, calls, _, same⟩ :=
        written_of_turnOver faithful dependable lapsed taken isStored
      rw [same] at completed
      have requested := watched execution template rest inside calls completed
      rw [own] at requested
      exact .inr (requested_of_worker rfl requested taken)
  · rcases requested.step rfl taken with still | lapsed
    · exact .inr still
    · have sighted : ∀ outcome, event = .operator (.controller key outcome) →
          journal.Sighted key outcome := by
        rintro outcome rfl
        exact dependable
      rcases lapsed.left faithful sighted (fun _ _ => Visit.ends_arms positive)
          (fun phase requeues more has => by cases phase <;> first | rfl | cases has)
          rfl taken isStored with queued | unarmed
      · exact .inl (.inl queued)
      · rw [completed] at unarmed
        cases unarmed

structure Guarded (config : Config) (journal : Journal) : Prop where
  faithful : journal.Faithful config
  seen : ∀ key current, journal.system.templates key = some current →
    current.status.processingPhase = .completed → journal.Seen key

private theorem step_guarded (positive : 0 < config.interval) (journal : Journal) (event : Event)
    (next : Journal) (guarded : journal.Guarded config)
    (conditions : journal.Dependable config event ∧ journal.Watched event)
    (taken : journal.step config event = some next) : next.Guarded config := by
  have faithful := guarded.faithful
  obtain ⟨dependable, watched⟩ := conditions
  refine ⟨step_faithful journal event next faithful taken, ?_⟩
  intro key current isStored completed
  cases step_status faithful taken isStored with
  | kept before wasStored same =>
      have seen := guarded.seen key before wasStored (same ▸ completed)
      exact seen.step positive faithful dependable watched taken isStored completed
  | created absent isNew pending => exact .inr (.inl pending)
  | worker worker outcome execution template rest answered isEvent inside own calls isAnswer same =>
      subst isEvent
      rw [same] at completed
      have requested := watched execution template rest inside calls completed
      rw [own] at requested
      exact .inr (requested_of_worker rfl requested taken)
  | controller outcome execution template rest answered isEvent inside calls isAnswer same =>
      subst isEvent
      rw [same] at completed
      have permitted := visit_permitted faithful inside calls
      rcases permitted.2 with ⟨queued, _⟩ | ⟨_, isVisit⟩
      · rw [queued] at completed
        cases completed
      · refine .inr (requested_of_call taken inside calls isAnswer ?_)
        rw [visitAfter_snoc, isVisit]
        rfl

theorem Guarded.armed (guarded : journal.Guarded config) : journal.Armed := by
  intro key current isStored completed unqueued unheld
  rcases guarded.seen key current isStored completed with worked | requested
  · rcases worked with queued | ⟨worker, execution, inside, own, _has⟩
    · exact absurd queued unqueued
    · obtain ⟨ref, item, turn⟩ := guarded.faithful.turn worker execution inside
      exact absurd ⟨worker, ref, turn.held, turn.key.trans own⟩ unheld
  · rcases requested with pending | waits | ⟨execution, inside, _has⟩
    · exact .inl pending
    · exact .inr (.inl waits)
    · exact .inr (.inr ⟨execution, inside⟩)

private theorem start_guarded (maxRetries initialDelay maxDelay maxCycles : Int)
    (policies : String → Except GoError KubeTemplatePolicy) :
    (start (Queue.Session.start maxRetries initialDelay maxDelay maxCycles) policies).Guarded
      config where
  faithful := start_faithful config _ _ _ _ _
  seen := by intro key current isStored; cases isStored

/-- In a run in which Completed is written only while a request for `Reconcile` is
left, drift detection is armed in every state. -/
theorem armed_of_watched (config : Config) (positive : 0 < config.interval)
    (maxRetries initialDelay maxDelay maxCycles : Int)
    (policies : String → Except GoError KubeTemplatePolicy) (events : List Event)
    (along : Along (step config)
      (fun journal event => journal.Dependable config event ∧ journal.Watched event)
      (start (Queue.Session.start maxRetries initialDelay maxDelay maxCycles) policies) events) :
    Throughout (step config) Armed
      (start (Queue.Session.start maxRetries initialDelay maxDelay maxCycles) policies)
      events := by
  have invariant := throughout_of_along (step config) _ (Guarded config)
    (step_guarded positive) _ events
    (start_guarded maxRetries initialDelay maxDelay maxCycles policies) along
  exact invariant.mono (fun _ => Guarded.armed)

/-- An evaluable condition: Completed is written while an event is undelivered or a
timer runs. -/
def requests (journal : Journal) : Event → Bool
  | .operator (.worker worker _) =>
      (journal.system.workers worker).all (fun execution =>
        match execution.program with
        | .call (.updateStatus template) _ =>
            decide (template.status.processingPhase ≠ .completed) ||
              journal.system.pending execution.key || journal.scheduled execution.key
        | _ => true)
  | _ => true

private theorem watched_of_requests (journal : Journal) (event : Event)
    (checked : journal.requests event = true) : journal.Watched event := by
  cases event with
  | expire wanted => trivial
  | operator label =>
      cases label with
      | worker worker outcome =>
          intro execution template rest inside calls completed
          simp only [requests, inside, Option.all_some, calls, completed, ne_eq, not_true_eq_false,
            decide_false, Bool.false_or, Bool.or_eq_true] at checked
          rcases checked with pending | waits
          · exact .inl pending
          · exact .inr (.inl waits)
      | _ => trivial

def annotating : List Label :=
  .create System.webTemplate :: System.queuing ++
    .dequeue 0 :: List.replicate 4 (.worker 0 .succeeds) ++
    [.worker 0 (.returns (Reference.configMap "settings" "fast")),
      .update System.webKey (Reference.settingsSpec "fast") [] [("contact", "team-a")]] ++
    List.replicate 4 (.worker 0 .succeeds)

/-- `Reconcile` finds the KubeTemplate Completed and its resource as it should be. -/
def inspecting : List Label :=
  [.deliver System.webKey, .controller System.webKey .succeeds,
    .controller System.webKey .succeeds,
    .controller System.webKey (.returns (Reference.configMap "settings" "fast")),
    .controller System.webKey (.returns (Reference.configMap "settings" "fast")),
    .controller System.webKey .succeeds, .controller System.webKey .succeeds,
    .controller System.webKey .succeeds]

def watchedRun : List Event := List.map .operator (annotating ++ inspecting)

theorem armed_of_watched_annotating :
    (run (step System.settingsConfig) smallStart watchedRun).map (fun final =>
      ((final.system.templates System.webKey).map (fun current => current.status.processingPhase),
        final.system.session.queue.items.toList, final.scheduled System.webKey)) =
        some (some .completed, [], true) ∧
      Throughout (step System.settingsConfig) Armed smallStart watchedRun := by
  refine ⟨by decide, armed_of_watched System.settingsConfig (by decide) _ _ _ _ _ watchedRun ?_⟩
  have unfailing : Along (step System.settingsConfig) Unfailing smallStart watchedRun :=
    @along_of_checkAlong _ _ _ _ _ _ (fun _ => succeeds) unfailing_of_succeeds (by decide)
  exact along_and (along_dependable System.settingsConfig _ _ _ _ _ watchedRun unfailing)
    (along_of_checkAlong watched_of_requests (by decide))

def completing : List Event :=
  List.map .operator (.create System.webTemplate :: System.queuing ++
    System.processing 0 (Reference.configMap "settings" "fast"))

/-- Every call succeeds, and no request for `Reconcile` is left. -/
theorem completing_disarmed :
    Along (step System.settingsConfig) Unfailing smallStart completing ∧
      ∃ final current, run (step System.settingsConfig) smallStart completing = some final ∧
        final.system.templates System.webKey = some current ∧
        current.status.processingPhase = .completed ∧ ¬ final.Tended System.webKey ∧
        ¬ final.Armed := by
  refine ⟨@along_of_checkAlong _ _ _ _ _ _ (fun _ => succeeds) unfailing_of_succeeds (by decide),
    ?_⟩
  have ended : (run (step System.settingsConfig) smallStart completing).map (fun final =>
      (final.system.active, final.system.session.queue.items.toList,
        final.system.pending System.webKey, final.scheduled System.webKey)) =
        some ([], [], false, false) := by
    decide
  have stored : ((run (step System.settingsConfig) smallStart completing).bind (fun final =>
      final.system.templates System.webKey)).map (fun current =>
        current.status.processingPhase) = some .completed := by
    decide
  obtain ⟨final, isRun, idle⟩ := Option.map_eq_some_iff.mp ended
  rw [isRun, Option.bind_some] at stored
  obtain ⟨current, isStored, completed⟩ := Option.map_eq_some_iff.mp stored
  have untended := run_untended isRun idle
  refine ⟨final, current, isRun, isStored, completed, untended, ?_⟩
  intro armed
  have requested := armed System.webKey current isStored completed
    (fun queued => untended (.inl queued)) (fun held => untended (.inr (.inl held)))
  exact untended (.inr (.inr requested))

end Journal

end KubeTemplater.Operator
