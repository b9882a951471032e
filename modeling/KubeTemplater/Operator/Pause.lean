/-
Whether a paused KubeTemplate stays paused.

The worker that writes Paused calls `Done` next, and `Reconcile` leaves a Paused
KubeTemplate alone until its resume annotation is "true".  That is enough when the
worker had the only item of the KubeTemplate and no execution of `Reconcile` was
already past its read.  Another worker writes Processing over whatever phase it
finds.
-/

import KubeTemplater.Operator.Unfailing

namespace KubeTemplater.Operator

open Library Library.Program

def isPause : Call → Bool
  | .updateStatus template => decide (template.status.processingPhase = .paused)
  | _ => false

def yielding : Protocol client Bool where
  expected := fun _ => keyedAnswer
  permitted := fun paused request =>
    match request with
    | .updateStatus template => paused = true → template.status.processingPhase = .paused
    | _ => True
  after := fun paused request _ => paused || isPause request

def pausedIn (trace : List (Exchange client)) : Bool :=
  yielding.afterAll false trace

private theorem pausedIn_snoc (trace : List (Exchange client)) (request : Call)
    (answer : request.Answer) :
    pausedIn (trace ++ [⟨request, answer⟩]) = (pausedIn trace || isPause request) :=
  List.foldl_append

section Turn

variable (platform : Platform)

private theorem processItem_yielding (operatorNamespace : String) (key : NamespacedName) :
    Guarantees yielding (fun after _ => after = false) false
      (Worker.processItem platform operatorNamespace key) := by
  have tends := @processItem_tending key applyPhase platform (fun _ => id) operatorNamespace true
  refine tends.steady false (fun _ _ expected _ => expected) ?_ ?_
  · intro place request _allowed
    cases request with
    | updateStatus template =>
        intro impossible
        cases impossible
    | _ => trivial
  · intro place request answer allowed
    cases request with
    | updateStatus template =>
        have applies : applyPhase template.status.processingPhase := allowed.2
        refine decide_eq_false ?_
        intro paused
        rw [paused] at applies
        rcases applies with impossible | impossible | impossible <;> cases impossible
    | _ => rfl

private theorem pauseTemplate_yielding (maxRetryCycles : Int) (key : NamespacedName) (err : GoError)
    (before : Bool) :
    Guarantees yielding (fun _ _ => True) before
      (Worker.pauseTemplate maxRetryCycles key err) := by
  have tends := @pauseTemplate_tending key (· = .paused) rfl maxRetryCycles err true
  refine tends.transfer (fun _ _ _ expected _ => expected) ?_ before
  intro state place request allowed
  cases request with
  | updateStatus template => exact fun _ => allowed.2
  | _ => trivial

/-- A turn that has written Paused ends with `Done`. -/
theorem handleItem_yielding (operatorNamespace : String) (maxRetryCycles : Int)
    (item : Queue.WorkItem) :
    Guarantees yielding (fun paused disposition => paused = true → disposition = .done) false
      (Worker.handleItem platform operatorNamespace maxRetryCycles item) := by
  apply guarantees_bind _ (processItem_yielding platform operatorNamespace item.namespacedName)
  rintro _ result rfl
  cases result with
  | none => exact fun _ => rfl
  | some err =>
      dsimp only
      split
      · apply guarantees_bind _
          (pauseTemplate_yielding maxRetryCycles item.namespacedName err false)
        intro _ _ _ _
        rfl
      · intro impossible
        cases impossible

end Turn

/-- What an execution of `Reconcile` has seen: nothing yet, nothing to do, or
something it acts on. -/
inductive Sight where
  | waiting
  | resting
  | acting
  deriving DecidableEq

def atRest (template : KubeTemplate) : Prop :=
  template.status.processingPhase = .paused ∧
    mapGet template.metadata.annotations Controller.resumeAnnotation ≠ some "true"

instance (template : KubeTemplate) : Decidable (atRest template) := by
  unfold atRest
  infer_instance

def Sight.read (answer : Except GoError KubeTemplate) : Sight :=
  match answer with
  | .error _ => .resting
  | .ok template => if atRest template then .resting else .acting

def Sight.after : Sight → (request : Call) → request.Answer → Sight
  | .waiting, .getTemplate _, answer => Sight.read answer
  | sight, _, _ => sight

/-- `Reconcile` reads first, and does nothing more at a KubeTemplate at rest. -/
def sighting (key : NamespacedName) : Protocol client Sight where
  expected := fun _ _ _ => True
  permitted := fun sight request =>
    match sight with
    | .waiting => request = .getTemplate key
    | .resting => False
    | .acting => True
  after := Sight.after

def sightAfter (trace : List (Exchange client)) : Sight :=
  (sighting ⟨"", ""⟩).afterAll .waiting trace

theorem sightAfter_snoc (trace : List (Exchange client)) (request : Call)
    (answer : request.Answer) :
    sightAfter (trace ++ [⟨request, answer⟩]) = (sightAfter trace).after request answer :=
  List.foldl_append

private theorem acting_sighting {α : Type} (key : NamespacedName) (program : Program client α) :
    Guarantees (sighting key) (fun _ _ => True) .acting program := by
  induction program with
  | done result => trivial
  | call request next ih =>
      refine ⟨trivial, ?_⟩
      intro answer _expected
      have stays : (sighting key).after .acting request answer = .acting := by
        cases request <;> rfl
      rw [stays]
      exact ih answer

private theorem reconcile_sighting (platform : Platform) (interval : Time) (key : NamespacedName) :
    Guarantees (sighting key) (fun _ _ => True) .waiting
      (Controller.reconcile platform interval key) := by
  simp only [Controller.reconcile, getTemplate, call_bind, done_bind]
  refine ⟨rfl, ?_⟩
  intro answer _expected
  cases answer with
  | error err =>
      dsimp only
      split <;> trivial
  | ok kubeTemplate =>
      change Guarantees (sighting key) _
        (if atRest kubeTemplate then .resting else .acting)
        (Controller.reconcilePhase platform interval key kubeTemplate)
      by_cases rests : atRest kubeTemplate
      · rw [if_pos rests]
        unfold Controller.reconcilePhase Controller.reconcilePaused
        rw [rests.1]
        dsimp only
        rw [if_neg rests.2]
        trivial
      · rw [if_neg rests]
        exact acting_sighting key _

namespace Journal

variable {config : Config} {journal next : Journal} {key : NamespacedName}

private theorem turn_yields (faithful : journal.Faithful config) {worker : Nat}
    {execution : Execution Worker.Disposition}
    (inside : journal.system.workers worker = some execution) :
    Guarantees yielding (fun paused disposition => paused = true → disposition = .done)
      (pausedIn (journal.turns worker)) execution.program := by
  obtain ⟨ref, item, turn⟩ := faithful.turn worker execution inside
  exact (handleItem_yielding config.platform _ _ item).leaves turn.leaves
    (fun exchange member _ => turn.answered exchange member)

variable {execution : Execution Controller.ReconcileResult}

private theorem visit_sights (faithful : journal.Faithful config)
    (inside : journal.system.reconciles key = some execution) :
    Guarantees (sighting key) (fun _ _ => True) (sightAfter (journal.visits key))
      execution.program :=
  (reconcile_sighting config.platform config.interval key).leaves
    (faithful.visit key execution inside).1 (fun _ _ _ => trivial)

/-- The next call is the first read, or the execution acts on what it has seen. -/
theorem visit_call (faithful : journal.Faithful config) {request : Call}
    {rest : request.Answer → Program client Controller.ReconcileResult}
    (inside : journal.system.reconciles key = some execution)
    (calls : execution.program = .call request rest) :
    sightAfter (journal.visits key) = .waiting ∧ request = .getTemplate key ∨
      sightAfter (journal.visits key) = .acting := by
  have sights := visit_sights faithful inside
  rw [calls] at sights
  cases sight : sightAfter (journal.visits key) with
  | waiting =>
      rw [sight] at sights
      exact .inl ⟨rfl, sights.1⟩
  | resting =>
      rw [sight] at sights
      exact sights.1.elim
  | acting => exact .inr rfl

/-- A status update or `Enqueue` comes from an execution that acts. -/
theorem visit_acts (faithful : journal.Faithful config) {request : Call}
    {rest : request.Answer → Program client Controller.ReconcileResult}
    (inside : journal.system.reconciles key = some execution)
    (calls : execution.program = .call request rest) (other : request ≠ .getTemplate key) :
    sightAfter (journal.visits key) = .acting := by
  rcases visit_call faithful inside calls with ⟨_waits, isRead⟩ | acting
  · exact absurd isRead other
  · exact acting

def PausedAt (key : NamespacedName) (journal : Journal) : Prop :=
  ∃ current, journal.system.templates key = some current ∧
    current.status.processingPhase = .paused

/-- Nobody is left who would move the KubeTemplate. -/
structure Resting (config : Config) (key : NamespacedName) (journal : Journal) : Prop where
  faithful : journal.Faithful config
  paused : journal.PausedAt key
  unqueued : ¬ Queued journal.system.session key
  turns : ∀ worker execution, journal.system.workers worker = some execution →
    execution.key = key → pausedIn (journal.turns worker) = true
  visit : ∀ execution, journal.system.reconciles key = some execution →
    sightAfter (journal.visits key) ≠ .acting

/-- The KubeTemplate is not removed, and `Reconcile` reads what is stored and does
not read the resume annotation. -/
def Unresumed (key : NamespacedName) (journal : Journal) : Event → Prop
  | .operator (.remove wanted) => wanted ≠ key
  | .operator (.controller wanted outcome) =>
      wanted = key → (∀ template, outcome ≠ .stale template) ∧
        ∀ execution rest current, journal.system.reconciles key = some execution →
          execution.program = .call (.getTemplate key) rest → outcome.isSuccess = true →
          journal.system.templates key = some current →
          mapGet current.metadata.annotations Controller.resumeAnnotation ≠ some "true"
  | _ => True

theorem Resting.step_paused (resting : journal.Resting config key) {event : Event}
    (unresumed : journal.Unresumed key event) (taken : journal.step config event = some next) :
    next.PausedAt key := by
  obtain ⟨before, wasStored, wasPaused⟩ := resting.paused
  have remains : event ≠ .operator (.remove key) := by
    rintro rfl
    exact unresumed rfl
  obtain ⟨current, isStored⟩ := step_stored taken wasStored remains
  refine ⟨current, isStored, ?_⟩
  cases step_status resting.faithful taken isStored with
  | kept old wasOld same =>
      rw [wasStored] at wasOld
      cases wasOld
      rw [same]
      exact wasPaused
  | created absent isNew pending =>
      rw [wasStored] at absent
      cases absent
  | worker worker outcome execution template rest answered isEvent inside own calls isAnswer same =>
      have yields := turn_yields resting.faithful inside
      rw [calls] at yields
      rw [same]
      exact yields.1 (resting.turns worker execution inside own)
  | controller outcome execution template rest answered isEvent inside calls isAnswer same =>
      have acting :=
        visit_acts resting.faithful inside calls (fun impossible => by cases impossible)
      exact absurd acting (resting.visit execution inside)

theorem Resting.step_unqueued (resting : journal.Resting config key) {event : Event}
    (taken : journal.step config event = some next) : ¬ Queued next.system.session key := by
  intro queued
  cases step_queued resting.faithful taken queued with
  | kept before => exact resting.unqueued before
  | enqueued outcome execution priority rest isEvent inside calls =>
      have acting :=
        visit_acts resting.faithful inside calls (fun impossible => by cases impossible)
      exact resting.visit execution inside acting
  | requeued worker outcome execution err isEvent inside own isDone =>
      have yields := turn_yields resting.faithful inside
      rw [isDone, resting.turns worker execution inside own] at yields
      cases yields rfl

theorem Resting.step_turns (resting : journal.Resting config key) {event : Event}
    (taken : journal.step config event = some next) {worker : Nat}
    {execution : Execution Worker.Disposition}
    (inside : next.system.workers worker = some execution) (own : execution.key = key) :
    pausedIn (next.turns worker) = true := by
  cases step_turn config taken inside with
  | kept before turns =>
      rw [turns]
      exact resting.turns worker execution before own
  | started isEvent queued turns =>
      rw [own] at queued
      exact absurd queued resting.unqueued
  | called outcome caller request rest answered isEvent before calls isAnswer isNext turns =>
      have same : caller.key = key := by
        rw [isNext] at own
        exact own
      rw [turns, pausedIn_snoc, resting.turns worker caller before same]
      rfl

theorem Resting.step_visit (resting : journal.Resting config key) {event : Event}
    (unresumed : journal.Unresumed key event) (taken : journal.step config event = some next)
    (inside : next.system.reconciles key = some execution) :
    sightAfter (next.visits key) ≠ .acting := by
  cases Journal.step_visit config taken inside with
  | kept before visits =>
      rw [visits]
      exact resting.visit execution before
  | started isEvent isProgram visits =>
      rw [visits]
      intro impossible
      cases impossible
  | called outcome caller request rest answered isEvent before calls isAnswer isNext visits =>
      subst isEvent
      obtain ⟨fresh, unread⟩ := unresumed rfl
      rw [visits, sightAfter_snoc]
      rcases visit_call resting.faithful before calls with ⟨waits, rfl⟩ | acting
      · rw [waits]
        obtain ⟨answer, after⟩ := answered
        cases answer with
        | error err =>
            intro impossible
            cases impossible
        | ok template =>
            -- what is read is Paused, and nobody asks to resume it
            have isStored := stored_of_read fresh isAnswer rfl
            obtain ⟨current, wasStored, paused⟩ := resting.paused
            rw [isStored] at wasStored
            cases wasStored
            have success : outcome.isSuccess = true := by
              cases outcome with
              | succeeds => rfl
              | returns object => rfl
              | stale old => exact absurd rfl (fresh old)
              | fails err => cases isAnswer
              | lost err => cases isAnswer
            have rests : atRest template :=
              ⟨paused, unread caller rest template before calls success isStored⟩
            change (if atRest template then Sight.resting else .acting) ≠ .acting
            rw [if_pos rests]
            intro impossible
            cases impossible
      · exact absurd acting (resting.visit caller before)

theorem Resting.step (journal : Journal) (event : Event) (next : Journal)
    (resting : journal.Resting config key) (unresumed : journal.Unresumed key event)
    (taken : journal.step config event = some next) : next.Resting config key where
  faithful := step_faithful journal event next resting.faithful taken
  paused := resting.step_paused unresumed taken
  unqueued := resting.step_unqueued taken
  turns := fun _ _ inside own => resting.step_turns taken inside own
  visit := fun _ inside => resting.step_visit unresumed taken inside

def statusWrite (journal : Journal) (worker : Nat) : Option (NamespacedName × Phase) :=
  (journal.system.workers worker).bind (fun execution =>
    match execution.program with
    | .call (.updateStatus template) _ => some (execution.key, template.status.processingPhase)
    | _ => none)

private theorem statusWrite_some {worker : Nat} {phase : Phase}
    (writes : journal.statusWrite worker = some (key, phase)) :
    ∃ execution template rest, journal.system.workers worker = some execution ∧
      execution.key = key ∧ execution.program = .call (.updateStatus template) rest ∧
      template.status.processingPhase = phase := by
  obtain ⟨execution, inside, isWrite⟩ := Option.bind_eq_some_iff.mp writes
  split at isWrite
  · rename_i template rest calls
    cases isWrite
    exact ⟨execution, template, rest, inside, rfl, calls, rfl⟩
  · cases isWrite

/-- The worker has the only item of the KubeTemplate, and no execution of `Reconcile`
is past a read that it acts on. -/
structure Alone (key : NamespacedName) (worker : Nat) (journal : Journal) : Prop where
  unqueued : ¬ Queued journal.system.session key
  others : ∀ other execution, journal.system.workers other = some execution →
    execution.key = key → other = worker
  visit : ∀ execution, journal.system.reconciles key = some execution →
    sightAfter (journal.visits key) ≠ .acting

private theorem resting_of_pause (faithful : journal.Faithful config) {worker : Nat}
    {outcome : Outcome}
    (writes : journal.statusWrite worker = some (key, .paused))
    (effective : outcome.effective = true) (alone : journal.Alone key worker)
    (taken : journal.step config (.operator (.worker worker outcome)) = some next) :
    next.Resting config key := by
  obtain ⟨execution, template, rest, inside, own, calls, paused⟩ := statusWrite_some writes
  obtain ⟨same, found, effect⟩ := step_worker config taken
  rw [inside] at found
  cases found
  rcases effect with ⟨_, _, isDone, _⟩ | ⟨request, after, answered, isCall, isAnswer, isNext⟩
  · rw [calls] at isDone
    cases isDone
  · rw [calls] at isCall
    cases isCall
    refine ⟨step_faithful journal _ next faithful taken, ?_, ?_, ?_, ?_⟩
    · obtain ⟨stored, isStored, isPut⟩ := respond_updateStatus_effective effective isAnswer
      have permitted := turn_permitted faithful inside calls
      have isKey : ({ stored with status := template.status } : KubeTemplate).key = key :=
        (faithful.keyed template.key stored isStored).trans (permitted.1.trans own)
      refine ⟨journal.system.stamp { stored with status := template.status }, ?_, paused⟩
      rw [isNext, ← isKey]
      dsimp only
      rw [isPut]
      exact put_templates_self _ _
    · intro queued
      cases step_queued faithful taken queued with
      | kept before => exact alone.unqueued before
      | enqueued _ _ _ _ isEvent _ _ => cases isEvent
      | requeued _ _ _ _ isEvent insideOther _ isDone =>
          cases isEvent
          rw [inside] at insideOther
          cases insideOther
          rw [calls] at isDone
          cases isDone
    · intro other turn insideOther ownOther
      have isWorker : other = worker := by
        cases step_turn config taken insideOther with
        | kept before turns => exact alone.others other turn before ownOther
        | started isEvent queued turns => cases isEvent
        | called _ _ _ _ _ isEvent _ _ _ _ _ =>
            cases isEvent
            rfl
      rw [isWorker, isNext]
      dsimp only
      rw [Function.update_self, pausedIn_snoc]
      exact (congrArg (pausedIn (journal.turns worker) || ·) (decide_eq_true paused)).trans
        (Bool.or_true _)
    · intro visit insideVisit
      cases Journal.step_visit config taken insideVisit with
      | kept before visits =>
          rw [visits]
          exact alone.visit visit before
      | started isEvent _ _ => cases isEvent
      | called _ _ _ _ _ isEvent _ _ _ _ _ => cases isEvent

/-- A worker with the only item of a KubeTemplate writes Paused: the phase stays
Paused until `Reconcile` reads the resume annotation. -/
theorem paused_stays (config : Config) (maxRetries initialDelay maxDelay maxCycles : Int)
    (policies : String → Except GoError KubeTemplatePolicy) (events : List Event)
    (journal : Journal)
    (isRun : run (step config)
      (start (Queue.Session.start maxRetries initialDelay maxDelay maxCycles) policies) events =
        some journal)
    (key : NamespacedName) (worker : Nat) (outcome : Outcome)
    (writes : journal.statusWrite worker = some (key, .paused))
    (effective : outcome.effective = true) (alone : journal.Alone key worker) (paused : Journal)
    (taken : journal.step config (.operator (.worker worker outcome)) = some paused)
    (later : List Event) (along : Along (step config) (Unresumed key) paused later) :
    Throughout (step config) (PausedAt key) paused later := by
  have resting := resting_of_pause (run_faithful isRun) writes effective alone taken
  exact (throughout_of_along (step config) (Unresumed key) (Resting config key) Resting.step paused
    later resting along).mono (fun _ rests => rests.paused)

private theorem alone_of_idle (faithful : journal.Faithful config) {worker : Nat}
    (active : journal.system.active = [(.worker worker, key)])
    (empty : journal.system.session.queue.items.toList = []) : journal.Alone key worker where
  unqueued := by
    rintro ⟨ref, member, _⟩
    rw [empty] at member
    cases member
  others := by
    intro other execution inside _own
    have member := faithful.listed.workers other execution inside
    rw [active] at member
    cases List.mem_singleton.mp member
    rfl
  visit := by
    intro execution inside
    have member := faithful.listed.reconciles key execution inside
    rw [active] at member
    cases List.mem_singleton.mp member

/-- An evaluable condition: the KubeTemplate is not removed, and nobody asks to resume. -/
def unasked (key : NamespacedName) (journal : Journal) : Event → Bool
  | .operator (.remove wanted) => decide (wanted ≠ key)
  | .operator (.controller _ outcome) =>
      outcome.isSuccess && (journal.system.templates key).all (fun current =>
        decide (mapGet current.metadata.annotations Controller.resumeAnnotation ≠ some "true"))
  | _ => true

private theorem unresumed_of_unasked (key : NamespacedName) (journal : Journal) (event : Event)
    (checked : journal.unasked key event = true) : journal.Unresumed key event := by
  cases event with
  | expire wanted => trivial
  | operator label =>
      cases label with
      | remove wanted =>
          have different : wanted ≠ key := of_decide_eq_true checked
          exact different
      | controller wanted outcome =>
          obtain ⟨success, asked⟩ := Bool.and_eq_true_iff.mp checked
          rintro rfl
          refine ⟨?_, ?_⟩
          · rintro template rfl
            cases success
          · intro execution rest current _inside _calls _success isStored
            rw [isStored, Option.all_some] at asked
            exact of_decide_eq_true asked
      | _ => trivial

def beforePause : List Event :=
  List.map .operator (failing ++
    [.dequeue 0, .worker 0 unavailable, .worker 0 .succeeds, .worker 0 .succeeds,
      .worker 0 .succeeds])

/-- The worker ends its turn; the user annotates the KubeTemplate, and `Reconcile` looks
at it. -/
def afterPause : List Event :=
  List.map .operator
    [.worker 0 .succeeds, .worker 0 .succeeds,
      .update System.webKey (Reference.settingsSpec "fast") [] [("contact", "team-a")],
      .deliver System.webKey, .controller System.webKey .succeeds,
      .controller System.webKey .succeeds]

theorem paused_stays_annotated :
    ∃ journal paused final,
      run (step System.settingsConfig) smallStart beforePause = some journal ∧
      journal.step System.settingsConfig (.operator (.worker 0 .succeeds)) = some paused ∧
      run (step System.settingsConfig) paused afterPause = some final ∧
      Throughout (step System.settingsConfig) (PausedAt System.webKey) paused afterPause := by
  have seen : ((run (step System.settingsConfig) smallStart beforePause).bind (fun journal =>
      (journal.step System.settingsConfig (.operator (.worker 0 .succeeds))).bind (fun paused =>
        (run (step System.settingsConfig) paused afterPause).map (fun _ =>
          (journal.statusWrite 0, journal.system.active,
            journal.system.session.queue.items.toList,
            checkAlong (step System.settingsConfig) (unasked System.webKey) paused
              afterPause))))) =
      some (some (System.webKey, .paused), [(.worker 0, System.webKey)], [], true) := by
    decide
  obtain ⟨journal, isRun, seen⟩ := Option.bind_eq_some_iff.mp seen
  obtain ⟨paused, taken, seen⟩ := Option.bind_eq_some_iff.mp seen
  obtain ⟨final, continued, observed⟩ := Option.map_eq_some_iff.mp seen
  simp only [Prod.mk.injEq] at observed
  obtain ⟨writes, active, empty, checked⟩ := observed
  refine ⟨journal, paused, final, isRun, taken, continued, ?_⟩
  exact paused_stays System.settingsConfig 1 1000000000 60000000000 1 _ beforePause journal isRun
    System.webKey 0 .succeeds writes rfl (alone_of_idle (run_faithful isRun) active empty) paused
    taken afterPause (along_of_checkAlong (unresumed_of_unasked System.webKey) checked)

/-- While worker 0 is in its last turn, the user annotates the KubeTemplate, `Reconcile`
finds it Queued and queues it again, and worker 1 takes the new item. -/
def overlapping : List Event :=
  List.map .operator (failing ++
    [.dequeue 0, .update System.webKey (Reference.settingsSpec "fast") [] [("contact", "team-a")],
      .deliver System.webKey, .controller System.webKey .succeeds,
      .controller System.webKey .succeeds, .controller System.webKey .succeeds, .dequeue 1,
      .worker 0 unavailable, .worker 0 .succeeds, .worker 0 .succeeds, .worker 0 .succeeds])

def applying : List Event :=
  List.map .operator
    [.worker 0 .succeeds, .worker 0 .succeeds, .worker 1 .succeeds, .worker 1 .succeeds,
      .worker 1 .succeeds]

/-- Nobody asks to resume, and Processing is written over Paused. -/
theorem overlapping_unpauses :
    ∃ journal paused final current,
      run (step System.settingsConfig) smallStart overlapping = some journal ∧
      journal.statusWrite 0 = some (System.webKey, .paused) ∧
      journal.step System.settingsConfig (.operator (.worker 0 .succeeds)) = some paused ∧
      paused.PausedAt System.webKey ∧
      Along (step System.settingsConfig) (Unresumed System.webKey) paused applying ∧
      run (step System.settingsConfig) paused applying = some final ∧
      final.system.templates System.webKey = some current ∧
      current.status.processingPhase = .processing ∧ ¬ final.PausedAt System.webKey := by
  have phaseOf (journal : Journal) (phase : Phase)
      (observed : (journal.system.templates System.webKey).map (fun current =>
        current.status.processingPhase) = some phase) :
      ∃ current, journal.system.templates System.webKey = some current ∧
        current.status.processingPhase = phase :=
    Option.map_eq_some_iff.mp observed
  have seen : ((run (step System.settingsConfig) smallStart overlapping).bind (fun journal =>
      (journal.step System.settingsConfig (.operator (.worker 0 .succeeds))).bind (fun paused =>
        (run (step System.settingsConfig) paused applying).map (fun final =>
          (journal.statusWrite 0,
            (paused.system.templates System.webKey).map (fun current =>
              current.status.processingPhase),
            checkAlong (step System.settingsConfig) (unasked System.webKey) paused applying,
            (final.system.templates System.webKey).map (fun current =>
              current.status.processingPhase)))))) =
      some (some (System.webKey, .paused), some .paused, true, some .processing) := by
    decide
  obtain ⟨journal, isRun, seen⟩ := Option.bind_eq_some_iff.mp seen
  obtain ⟨paused, taken, seen⟩ := Option.bind_eq_some_iff.mp seen
  obtain ⟨final, continued, observed⟩ := Option.map_eq_some_iff.mp seen
  simp only [Prod.mk.injEq] at observed
  obtain ⟨writes, isPaused, checked, isProcessing⟩ := observed
  obtain ⟨current, isStored, processing⟩ := phaseOf final .processing isProcessing
  refine ⟨journal, paused, final, current, isRun, writes, taken, phaseOf paused .paused isPaused,
    along_of_checkAlong (unresumed_of_unasked System.webKey) checked, continued, isStored,
    processing, ?_⟩
  rintro ⟨other, isOther, paused⟩
  rw [isStored] at isOther
  cases isOther
  rw [processing] at paused
  cases paused

end Journal

end KubeTemplater.Operator
