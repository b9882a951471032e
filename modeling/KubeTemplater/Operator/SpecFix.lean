/-
What a change of the spec does for a Failed KubeTemplate.

`Reconcile` compares the hash of the spec with the recorded one and queues the
KubeTemplate when they differ.  A KubeTemplate that has never been applied has no
recorded hash, and `Enqueue` leaves an item alone that already waits for its retry:
in both cases the fix waits for the retries of the old spec.
-/

import KubeTemplater.Operator.Recovery

namespace KubeTemplater.Operator

open Library Library.Program

namespace Journal

variable {config : Config} {journal next : Journal} {key : NamespacedName}
  {origin : KubeTemplate}

/-- The work queue has an item of the KubeTemplate that can be taken now and has its
retries before it. -/
def HoldsFresh (journal : Journal) (key : NamespacedName) : Prop :=
  journal.system.session.HoldsFresh key journal.system.clock

/-- `Enqueue` would make a new item of the KubeTemplate. -/
def Unmapped (journal : Journal) (key : NamespacedName) : Prop :=
  journal.system.session.queue.itemsMap key = none

/-- When `Reconcile` is started for the KubeTemplate and goes on without failures, with
nobody else at it, it can end, and the KubeTemplate can then be taken at once. -/
def RetriedAtOnce (config : Config) (key : NamespacedName) (journal : Journal) : Prop :=
  ∀ started, journal.step config (.operator (.deliver key)) = some started →
    started.CanEnd config key ∧
      ∀ visiting final, Along (step config) (Sole key) started visiting →
        run (step config) started visiting = some final →
        final.visits key ≠ [] → final.system.reconciles key = none → final.HoldsFresh key

/-- What a step does with the queue and the clock. -/
inductive SessionFrom (journal next : Journal) : Prop where
  | kept (session : next.system.session = journal.system.session)
      (later : journal.system.clock ≤ next.system.clock)
  | moved (operation : Queue.Operation) (notAfter : operation.notAfter journal.system.clock)
      (taken : journal.system.session.step operation = some next.system.session)
      (clock : next.system.clock = journal.system.clock)

theorem SessionFrom.effect {request : Call} {after : System}
    (effect : System.Effect journal.system request after)
    (session : next.system.session = after.session) (clock : next.system.clock = after.clock) :
    SessionFrom journal next := by
  cases effect with
  | none => exact .kept session (Int.le_of_eq clock.symm)
  | status template stored isUpdate isStored version =>
      exact .kept session (Int.le_of_eq clock.symm)
  | enqueued wanted priority isEnqueue =>
      exact .moved (.enqueue wanted priority journal.system.clock) (Int.le_refl _)
        (congrArg some session.symm) clock

theorem step_session {event : Event} (taken : journal.step config event = some next) :
    SessionFrom journal next := by
  cases event with
  | expire wanted =>
      obtain ⟨_waits, rfl⟩ := step_expire config taken
      exact .kept rfl (Int.le_refl _)
  | operator label =>
      cases label with
      | worker worker outcome =>
          obtain ⟨execution, _inside, effect⟩ := step_worker config taken
          rcases effect with ⟨disposition, session, _isDone, ends, rfl⟩ |
            ⟨request, rest, answered, _calls, isAnswer, rfl⟩
          · cases disposition with
            | done => exact .moved (.done worker) trivial ends rfl
            | requeue err => exact .moved (.requeue worker _) trivial ends rfl
          · exact .effect (System.respond_effect isAnswer) rfl rfl
      | controller wanted outcome =>
          obtain ⟨execution, _inside, effect⟩ := step_controller config taken
          rcases effect with ⟨result, _isDone, rfl⟩ |
            ⟨request, rest, answered, _calls, isAnswer, rfl⟩
          · exact .kept rfl (Int.le_refl _)
          · exact .effect (System.respond_effect isAnswer) rfl rfl
      | dequeue worker =>
          obtain ⟨session, ref, _free, dequeued, _hands, _holds, rfl⟩ := step_dequeue config taken
          exact .moved (.dequeue worker _) trivial dequeued rfl
      | deliver wanted =>
          obtain ⟨_free, rfl⟩ := step_deliver config taken
          exact .kept rfl (Int.le_refl _)
      | _ =>
          have aside := step_users config rfl taken
          exact .kept aside.session aside.clock

def Prompt (journal : Journal) : Prop :=
  journal.system.session.Prompt journal.system.clock

theorem step_prompt {event : Event} (prompt : journal.Prompt)
    (taken : journal.step config event = some next) : next.Prompt := by
  unfold Prompt
  cases step_session taken with
  | kept session later =>
      rw [session]
      exact Queue.Session.Prompt.later prompt later
  | moved operation notAfter stepped clock =>
      rw [clock]
      exact Queue.Session.step_prompt operation prompt notAfter stepped

theorem step_clock {event : Event} (taken : journal.step config event = some next) :
    journal.system.clock ≤ next.system.clock := by
  cases step_session taken with
  | kept session later => exact later
  | moved operation notAfter stepped clock => exact Int.le_of_eq clock.symm

theorem Reached.prompt (reached : Reached config journal) : journal.Prompt := by
  induction reached with
  | start => exact Queue.Session.start_prompt _ _ _ _ _
  | step journal event next _ taken ih => exact step_prompt ih taken
  | restart journal _ _ => exact Queue.Session.start_prompt _ _ _ _ _

/-- `Reconcile` has handed the KubeTemplate to the work queue. -/
def Handed (origin : KubeTemplate) (key : NamespacedName) (journal : Journal) : Prop :=
  (progressAfter origin.status.processingPhase (journal.visits key)).handed = true

/-- The queue during the execution: there was a fresh item before it, or the map had no
entry and the KubeTemplate has been handed over. -/
structure Refreshed (origin : KubeTemplate) (fresh unmapped : Prop) (key : NamespacedName)
    (journal : Journal) : Prop where
  prompt : journal.Prompt
  holds : journal.HoldsFresh key ↔ fresh ∨ unmapped ∧ journal.Handed origin key
  map : journal.Unmapped key ↔ unmapped ∧ ¬ journal.Handed origin key

variable {fresh unmapped : Prop}

theorem Refreshed.kept (refreshed : journal.Refreshed origin fresh unmapped key)
    (prompt : next.Prompt) (holds : next.HoldsFresh key ↔ journal.HoldsFresh key)
    (map : next.Unmapped key ↔ journal.Unmapped key)
    (handed : next.Handed origin key ↔ journal.Handed origin key) :
    next.Refreshed origin fresh unmapped key := by
  refine ⟨prompt, ?_, ?_⟩
  · rw [holds, handed]
    exact refreshed.holds
  · rw [map, handed]
    exact refreshed.map

private theorem handed_of_visits (visits : next.visits key = journal.visits key) :
    next.Handed origin key ↔ journal.Handed origin key := by
  unfold Handed
  rw [visits]

theorem Refreshed.elsewhere (refreshed : journal.Refreshed origin fresh unmapped key)
    (valid : journal.system.session.Valid) (prompt : next.Prompt)
    (later : journal.system.clock ≤ next.system.clock)
    (elsewhere : journal.Elsewhere key next) : next.Refreshed origin fresh unmapped key := by
  refine refreshed.kept prompt ?_ ?_ (handed_of_visits elsewhere.visits)
  · exact (elsewhere.session.holdsFresh _).trans (refreshed.prompt.holdsFresh valid later)
  · unfold Unmapped
    rw [elsewhere.session.itemsMap]

private theorem effect_session {system after : System} {request : Call}
    (effect : System.Effect system request after)
    (other : ∀ wanted priority, request ≠ .enqueue wanted priority) :
    after.session = system.session ∧ after.clock = system.clock := by
  cases effect with
  | none => exact ⟨rfl, rfl⟩
  | status template stored isUpdate isStored version => exact ⟨rfl, rfl⟩
  | enqueued wanted priority isEnqueue => exact absurd isEnqueue (other wanted priority)

/-- A call of the execution: only `Enqueue` touches the queue. -/
theorem Refreshed.called (refreshed : journal.Refreshed origin fresh unmapped key)
    (faithful : journal.Faithful config) {outcome : Outcome}
    {execution : Execution Controller.ReconcileResult} {request : Call}
    {rest : request.Answer → Program client Controller.ReconcileResult}
    {answered : request.Answer × System}
    (inside : journal.system.reconciles key = some execution)
    (calls : execution.program = .call request rest)
    (isAnswer : journal.system.respond request outcome = some answered)
    (taken : journal.step config (.operator (.controller key outcome)) = some next) :
    next.Refreshed origin fresh unmapped key := by
  have prompt := step_prompt refreshed.prompt taken
  have permitted := visit_permitted faithful inside calls
  have isNext := step_controller_call config taken inside calls isAnswer
  have handed : next.Handed origin key ↔
      ((progressAfter origin.status.processingPhase (journal.visits key)).after
        request).handed = true := by
    unfold Handed
    rw [isNext]
    dsimp only
    rw [Function.update_self, progressAfter_snoc]
  have others (other : ∀ wanted priority, request ≠ .enqueue wanted priority)
      (same : ((progressAfter origin.status.processingPhase (journal.visits key)).after
        request).handed = true ↔ journal.Handed origin key) :
      next.Refreshed origin fresh unmapped key := by
    obtain ⟨session, clock⟩ := effect_session (System.respond_effect isAnswer) other
    refine refreshed.kept prompt ?_ ?_ (handed.trans same)
    · unfold HoldsFresh
      rw [isNext]
      dsimp only
      rw [session, clock]
    · unfold Unmapped
      rw [isNext]
      dsimp only
      rw [session]
  cases request with
  | enqueue wanted priority =>
      have same : wanted = key := permitted
      subst same
      have nowHanded : next.Handed origin wanted := handed.mpr rfl
      have effect := respond_enqueue isAnswer
      have map := refreshed.map
      have holds := refreshed.holds
      refine ⟨prompt, ?_, ?_⟩
      · have enqueued : next.HoldsFresh wanted ↔
            journal.HoldsFresh wanted ∨ journal.Unmapped wanted := by
          unfold HoldsFresh
          rw [isNext, effect]
          exact Queue.Session.enqueue_holdsFresh faithful.valid wanted priority
        rw [enqueued, holds, map]
        by_cases before : journal.Handed origin wanted
        · simp only [before, nowHanded, not_true_eq_false, and_false, and_true, or_false]
        · simp only [before, nowHanded, not_false_eq_true, and_false, and_true, or_false]
      · have mapped : ¬ next.Unmapped wanted := by
          unfold Unmapped
          rw [isNext, effect]
          exact Queue.Session.enqueue_mapped _ _ _ _
        exact iff_of_false mapped (fun absent => absent.2 nowHanded)
  | _ => exact others (fun _ _ impossible => by cases impossible) Iff.rfl

theorem Refreshed.step {event : Event} (refreshed : journal.Refreshed origin fresh unmapped key)
    (faithful : journal.Faithful config) (sole : journal.Sole key event)
    (taken : journal.step config event = some next) :
    next.Refreshed origin fresh unmapped key := by
  have prompt := step_prompt refreshed.prompt taken
  by_cases own : journal.subject event = some key
  · have allowed := sole own
    cases event with
    | expire wanted =>
        obtain ⟨_waits, rfl⟩ := step_expire config taken
        exact refreshed.kept prompt Iff.rfl Iff.rfl Iff.rfl
    | operator label =>
        cases label with
        | deliver wanted =>
            cases own
            obtain ⟨_free, rfl⟩ := step_deliver config taken
            refine refreshed.kept prompt Iff.rfl Iff.rfl (handed_of_visits ?_)
            exact (Function.update_self _ _ _).trans allowed.symm
        | controller wanted outcome =>
            cases own
            obtain ⟨execution, inside, effect⟩ := step_controller config taken
            rcases effect with ⟨result, _isDone, rfl⟩ |
              ⟨request, rest, answered, calls, isAnswer, _⟩
            · exact refreshed.kept prompt Iff.rfl Iff.rfl Iff.rfl
            · exact refreshed.called faithful inside calls isAnswer taken
        | _ => exact allowed.elim
  · exact refreshed.elsewhere faithful.valid prompt (step_clock taken)
      (step_elsewhere faithful own taken)

private theorem refreshed_deliver (prompt : journal.Prompt)
    (taken : journal.step config (.operator (.deliver key)) = some next) :
    next.Refreshed origin (journal.HoldsFresh key) (journal.Unmapped key) key := by
  have later := step_prompt prompt taken
  obtain ⟨_free, isNext⟩ := step_deliver config taken
  have visits : next.visits key = [] := by
    rw [isNext]
    exact Function.update_self _ _ _
  have unhanded : ¬ next.Handed origin key := by
    unfold Handed
    rw [visits]
    exact Bool.false_ne_true
  subst isNext
  refine ⟨later, ?_, ?_⟩
  · exact ⟨.inl, fun either => either.resolve_right (fun handed => unhanded handed.2)⟩
  · exact ⟨fun absent => ⟨absent, unhanded⟩, And.left⟩

/-- The execution reads the KubeTemplate; where it finds another hash than the recorded
one it writes Queued and enqueues. -/
theorem failed_canEnd (faithful : journal.Faithful config)
    (isStored : journal.system.templates key = some origin)
    (failed : origin.status.processingPhase = .failed)
    (taken : journal.step config (.operator (.deliver key)) = some next) :
    next.CanEnd config key := by
  have isKey : origin.key = key := faithful.keyed key origin isStored
  obtain ⟨_free, rfl⟩ := step_deliver config taken
  refine canEnd_call (Function.update_self _ _ _) rfl (respond_found isStored) ?_
  intro afterRead templates inside _visited
  by_cases changed : specChanged config.platform origin
  · have program : Controller.reconcilePhase config.platform config.interval key origin =
        .call .now (fun now => Controller.updateAndEnqueue origin
          (Controller.failedRequeuedStatus (calculateSpecHash config.platform origin.spec) now
            origin.status)) := by
      unfold Controller.reconcilePhase
      rw [failed]
      exact if_pos changed
    apply canEnd_updateAndEnqueue inside program
    rw [templates, isKey]
    exact isStored
  · have program : Controller.reconcilePhase config.platform config.interval key origin =
        .call (.queueContains origin.key) (fun _ => .done .finished) := by
      unfold Controller.reconcilePhase
      rw [failed]
      exact if_neg changed
    refine canEnd_call inside program rfl ?_
    intro afterLook _ inside visited
    exact canEnd_done inside rfl visited

/-- What the execution leaves in the queue, whenever it has ended. -/
theorem fresh_after_failed (reached : Reached config journal)
    (isStored : journal.system.templates key = some origin)
    (failed : origin.status.processingPhase = .failed) {started final : Journal}
    {visiting : List Event}
    (delivered : journal.step config (.operator (.deliver key)) = some started)
    (along : Along (step config) (Sole key) started visiting)
    (ran : run (step config) started visiting = some final)
    (visited : final.visits key ≠ []) (ended : final.system.reconciles key = none) :
    final.HoldsFresh key ↔
      journal.HoldsFresh key ∨ specChanged config.platform origin ∧ journal.Unmapped key := by
  obtain ⟨attended, refreshed⟩ := (throughout_of_along (step config) (Sole key)
    (fun journal => journal.Attended config origin (Queued _ key) key ∧
      journal.Refreshed origin _ _ key)
    (fun journal event next here sole taken =>
      ⟨Attended.step journal event next here.1 sole taken,
        here.2.step here.1.faithful sole taken⟩)
    started visiting ⟨attended_deliver reached.faithful isStored delivered,
      refreshed_deliver reached.prompt delivered⟩ along).last ran
  have handed : final.Handed origin key ↔ specChanged config.platform origin := by
    unfold Handed
    rw [attended.progress ended visited]
    unfold reconciled stageAfterRead
    rw [failed]
    dsimp only
    by_cases changed : specChanged config.platform origin
    · rw [if_pos changed]
      exact iff_of_true rfl changed
    · rw [if_neg changed]
      exact iff_of_false Bool.false_ne_true changed
  rw [refreshed.holds, handed, and_comm]

/-- A Failed KubeTemplate is retried at once exactly when the queue has a fresh item of it
already, or its spec has another hash than the recorded one and the map has no item of it. -/
theorem failed_retried_iff (config : Config) (journal : Journal)
    (reached : Reached config journal) (key : NamespacedName) (origin : KubeTemplate)
    (isStored : journal.system.templates key = some origin)
    (failed : origin.status.processingPhase = .failed)
    (free : journal.system.reconciles key = none) :
    journal.RetriedAtOnce config key ↔
      journal.HoldsFresh key ∨ specChanged config.platform origin ∧ journal.Unmapped key := by
  constructor
  · intro retried
    obtain ⟨started, delivered⟩ : ∃ started,
        journal.step config (.operator (.deliver key)) = some started := by
      simp only [Journal.step, System.step, free, Option.map_some, Option.some.injEq, exists_eq']
    obtain ⟨⟨calls, final, ran, visited, ended⟩, holds⟩ := retried started delivered
    have along := callsOf_sole config key calls started
    exact (fresh_after_failed reached isStored failed delivered along ran visited ended).mp
      (holds _ final along ran visited ended)
  · intro condition started delivered
    refine ⟨failed_canEnd reached.faithful isStored failed delivered, ?_⟩
    intro visiting final along ran visited ended
    exact (fresh_after_failed reached isStored failed delivered along ran visited ended).mpr
      condition

def specFix (mode : String) : Event :=
  .operator (.update System.webKey (Reference.settingsSpec mode) [] [])

/-- The KubeTemplate has been applied once.  Its spec is changed, and a worker cannot get
the policy: it writes Failed and hands its item back. -/
def refailed : List Event :=
  List.map .operator (.create System.webTemplate :: System.queuing ++
      System.processing 0 (Reference.configMap "settings" "fast")) ++
    specFix "slow" ::
    List.map .operator (.deliver System.webKey ::
      List.replicate 5 (.controller System.webKey .succeeds) ++
      .dequeue 0 :: List.replicate 3 (.worker 0 .succeeds) ++
      .worker 0 unavailable :: List.replicate 4 (.worker 0 .succeeds))

def itemsSeen (journal : Journal) : List (Time × Int × Int) :=
  journal.system.session.queue.items.toList.map (fun ref =>
    ((journal.system.session.queue.memory ref).scheduledAt,
      journal.system.session.queue.attempts ref))

theorem HoldsFresh.seen (holds : journal.HoldsFresh key) :
    ∃ time, (time, 0, 0) ∈ journal.itemsSeen := by
  obtain ⟨ref, ⟨member, _isKey⟩, _due, unused⟩ := holds
  refine ⟨(journal.system.session.queue.memory ref).scheduledAt, ?_⟩
  rw [← unused]
  exact List.mem_map.mpr ⟨ref, member, rfl⟩

private theorem unmapped_of_empty (valid : journal.system.session.Valid)
    (empty : journal.itemsSeen = []) : journal.Unmapped key := by
  unfold Unmapped
  cases known : journal.system.session.queue.itemsMap key with
  | none => rfl
  | some ref =>
      have member := (valid.mapped key ref known).1
      rw [List.map_eq_nil_iff.mp empty] at member
      cases member

structure FixSeen where
  /-- The KubeTemplate after the fix: its phase, and whether its hash is a new one. -/
  stored : Option (Phase × Bool)
  waiting : List (Time × Int × Int)
  ended : Bool
  queued : List (Time × Int × Int)
  deriving DecidableEq

def seen (fixed final : Journal) : FixSeen :=
  { stored := (fixed.system.templates System.webKey).map (fun current =>
      (current.status.processingPhase,
        decide (specChanged System.settingsConfig.platform current)))
    waiting := fixed.itemsSeen
    ended := !(final.visits System.webKey).isEmpty &&
      (final.system.reconciles System.webKey).isNone
    queued := final.itemsSeen }

def seeFix (journal : Journal) (mode : String) (calls : Nat) : Option FixSeen :=
  (journal.step System.settingsConfig (specFix mode)).bind (fun fixed =>
    (fixed.step System.settingsConfig (.operator (.deliver System.webKey))).bind (fun started =>
      (run (step System.settingsConfig) started (callsOf System.webKey calls)).map fixed.seen))

private theorem seeFix_runs {mode : String} {calls : Nat} {phase : Phase} {changed : Bool}
    {waiting queued : List (Time × Int × Int)}
    (isSeen : journal.seeFix mode calls = some
      { stored := some (phase, changed), waiting := waiting, ended := true, queued := queued }) :
    ∃ fixed started final current,
      journal.step System.settingsConfig (specFix mode) = some fixed ∧
      fixed.system.templates System.webKey = some current ∧
      current.status.processingPhase = phase ∧
      decide (specChanged System.settingsConfig.platform current) = changed ∧
      fixed.itemsSeen = waiting ∧
      fixed.step System.settingsConfig (.operator (.deliver System.webKey)) = some started ∧
      run (step System.settingsConfig) started (callsOf System.webKey calls) = some final ∧
      final.visits System.webKey ≠ [] ∧ final.system.reconciles System.webKey = none ∧
      final.itemsSeen = queued := by
  obtain ⟨fixed, isFixed, isSeen⟩ := Option.bind_eq_some_iff.mp isSeen
  obtain ⟨started, isStarted, isSeen⟩ := Option.bind_eq_some_iff.mp isSeen
  obtain ⟨final, ran, observed⟩ := Option.map_eq_some_iff.mp isSeen
  simp only [seen, FixSeen.mk.injEq, Option.map_eq_some_iff, Prod.mk.injEq, Bool.and_eq_true,
    Bool.not_eq_true', List.isEmpty_eq_false_iff, Option.isNone_iff_eq_none] at observed
  obtain ⟨⟨current, isStored, isPhase, isChanged⟩, isWaiting, ⟨visited, ended⟩, isQueued⟩ :=
    observed
  exact ⟨fixed, started, final, current, isFixed, isStored, isPhase, isChanged, isWaiting,
    isStarted, ran, visited, ended, isQueued⟩

/-- The operator is started again and the spec is changed back: the hash that was recorded
last is another, and the queue is empty. -/
theorem failed_retried_restarted :
    ∃ failed fixed started final,
      run (step System.settingsConfig) smallStart refailed = some failed ∧
      failed.restart.step System.settingsConfig (specFix "fast") = some fixed ∧
      fixed.step System.settingsConfig (.operator (.deliver System.webKey)) = some started ∧
      run (step System.settingsConfig) started (callsOf System.webKey 5) = some final ∧
      final.HoldsFresh System.webKey := by
  have sees : (run (step System.settingsConfig) smallStart refailed).bind
      (fun failed => failed.restart.seeFix "fast" 5) =
        some { stored := some (.failed, true), waiting := [], ended := true
               queued := [(0, 0, 0)] } := by
    decide +kernel
  obtain ⟨failed, ran, isSeen⟩ := Option.bind_eq_some_iff.mp sees
  obtain ⟨fixed, started, final, current, isFixed, isStored, isFailed, isChanged, isWaiting,
    isStarted, visit, visited, ended, _⟩ := seeFix_runs isSeen
  have reached : Reached System.settingsConfig fixed :=
    .step _ _ _ (.restart _ (Reached.run (.start 1 1000000000 60000000000 1 _) ran)) isFixed
  refine ⟨failed, fixed, started, final, ran, isFixed, isStarted, visit, ?_⟩
  have retried := failed_retried_iff System.settingsConfig fixed reached System.webKey current
    isStored isFailed (step_deliver _ isStarted).1
  exact (retried.mpr (.inr ⟨of_decide_eq_true isChanged,
    unmapped_of_empty reached.faithful.valid isWaiting⟩) started isStarted).2 _ final
    (callsOf_sole _ _ _ _) visit visited ended

/-- The first turn of a worker has failed, and no hash is recorded: `Reconcile` leaves the
fixed KubeTemplate to the item that waits for its retry. -/
theorem unrecorded_not_retried :
    ∃ failed fixed current,
      run (step System.settingsConfig) smallStart rejected = some failed ∧
      (∀ worker, failed.system.workers worker = none) ∧
      (failed.system.templates System.webKey).map KubeTemplate.spec =
        some (Reference.settingsSpec "fast") ∧
      failed.step System.settingsConfig (specFix "slow") = some fixed ∧
      fixed.system.templates System.webKey = some current ∧
      current.status.processingPhase = .failed ∧
      ¬ fixed.RetriedAtOnce System.settingsConfig System.webKey := by
  have sees : (run (step System.settingsConfig) smallStart rejected).bind (fun failed =>
      (failed.seeFix "slow" 3).map (fun observed =>
        (observed, failed.system.active.isEmpty,
          (failed.system.templates System.webKey).map KubeTemplate.spec))) =
        some ({ stored := some (.failed, false), waiting := [(1000000000, 1, 0)], ended := true
                queued := [(1000000000, 1, 0)] }, true,
          some (Reference.settingsSpec "fast")) := by
    decide +kernel
  obtain ⟨failed, ran, isSeen⟩ := Option.bind_eq_some_iff.mp sees
  obtain ⟨observed, isObserved, same⟩ := Option.map_eq_some_iff.mp isSeen
  obtain ⟨rfl, isIdle, isSpec⟩ : observed = _ ∧ _ = _ ∧ _ = _ := by
    simpa only [Prod.mk.injEq] using same
  obtain ⟨fixed, started, final, current, isFixed, isStored, isFailed, _isChanged, _isWaiting,
    isStarted, visit, visited, ended, isQueued⟩ := seeFix_runs isObserved
  refine ⟨failed, fixed, current, ran, ?_, isSpec, isFixed, isStored, isFailed, ?_⟩
  · intro worker
    have faithful := (Reached.run (.start 1 1000000000 60000000000 1 _) ran).faithful
    cases working : failed.system.workers worker with
    | none => rfl
    | some execution =>
        have listed := faithful.listed.workers worker execution working
        rw [List.isEmpty_iff.mp isIdle] at listed
        cases listed
  · intro retried
    obtain ⟨time, member⟩ := ((retried started isStarted).2 _ final (callsOf_sole _ _ _ _) visit
      visited ended).seen
    rw [isQueued] at member
    cases List.mem_singleton.mp member

end Journal

end KubeTemplater.Operator
