/-
Whether a KubeTemplate can be lost.

Responsibility for a KubeTemplate goes from its event to `Reconcile`, from there
to the work queue and from there to a worker, which hands the item back or brings
the KubeTemplate to a phase in which nothing is to be done.  The one hand-over that
can fail is the last: the pause branch of the worker calls `Done` even when it could
not read the KubeTemplate or write Paused.
-/

import KubeTemplater.Operator.Custody
import KubeTemplater.Operator.Origins
import KubeTemplater.Operator.Writes

namespace KubeTemplater.Operator

open Library Library.Program

/-- The execution of `Reconcile` will still hand the KubeTemplate on or ask again. -/
def Visit.owes : Visit → Bool
  | .waiting | .refused => true
  | .found phase requeues =>
      requeues || decide (phase = .empty ∨ phase = .queued ∨ phase = .processing)
  | .missing | .handed => false

theorem Visit.ends_owes {interval : Time} {visit : Visit} {result : Controller.ReconcileResult}
    (ends : visit.ends interval result) (owes : visit.owes = true) : asksAgain result = true := by
  cases visit with
  | waiting => exact ends
  | refused => exact ends
  | missing => cases owes
  | handed => cases owes
  | found phase requeues =>
      refine ends.1 ?_
      rcases Bool.or_eq_true_iff.mp owes with queues | isPhase
      · exact .inl queues
      · exact .inr (of_decide_eq_true isPhase)

namespace Journal

variable (config : Config)

/-- An item of the KubeTemplate is in the work queue, a worker holds one, or a request
for `Reconcile` is pending or being carried out. -/
def Tended (journal : Journal) (key : NamespacedName) : Prop :=
  Queued journal.system.session key ∨
    (∃ worker ref, journal.system.session.held worker = some ref ∧
      journal.system.session.queue.key ref = key) ∨
    journal.system.pending key = true ∨ journal.scheduled key = true ∨
    ∃ execution, journal.system.reconciles key = some execution

def NoneLost (journal : Journal) : Prop :=
  ∀ key current, journal.system.templates key = some current →
    current.status.processingPhase ≠ .completed → current.status.processingPhase ≠ .paused →
    journal.Tended key

/-- A KubeTemplate that exists is not reported missing, `Reconcile` reads what is
stored, and no worker calls `Done` after a pause branch that got nowhere. -/
def Dependable (journal : Journal) : Event → Prop
  | .operator (.worker worker outcome) =>
      ∀ execution, journal.system.workers worker = some execution →
        TrueMissing journal.system execution.program outcome ∧
        (execution.program = .done .done →
          ¬ Abandons config.platform config.operatorNamespace
            journal.system.session.queue.maxRetryCycles execution.key (journal.turns worker))
  | .operator (.controller key outcome) => journal.Sighted key outcome
  | _ => True

variable {config} {journal next : Journal} {key : NamespacedName}

private theorem settles_of_released {before : Bool} {request : Call} {answer : request.Answer}
    (had : before = true) (lost : owesAfter before request answer = false) :
    settles ⟨request, answer⟩ = true := by
  unfold owesAfter at lost
  split at lost
  · assumption
  · rw [had, Bool.or_true] at lost
    cases lost

/-- A worker loses its duty only by a status in which nothing is to be done. -/
theorem written_of_turnOver (faithful : journal.Faithful config) {event : Event}
    (dependable : journal.Dependable config event) (turnOver : journal.TurnOver owes key event)
    (taken : journal.step config event = some next) {current : KubeTemplate}
    (isStored : next.system.templates key = some current) :
    ∃ worker outcome execution template rest, event = .operator (.worker worker outcome) ∧
      journal.system.workers worker = some execution ∧ execution.key = key ∧
      execution.program = .call (.updateStatus template) rest ∧
      settled template.status.processingPhase = true ∧ current.status = template.status := by
  obtain ⟨worker, outcome, execution, rfl, inside, own, has, ended⟩ := turnOver
  obtain ⟨truthful, kept⟩ := dependable execution inside
  rcases ended with isDone | ⟨request, rest, answered, calls, isAnswer, lost⟩
  · rcases turn_done faithful inside isDone with released | abandons
    · rw [released] at has
      cases has
    · exact absurd abandons (kept isDone)
  · rw [owes_snoc] at lost
    have isSettled := settles_of_released has lost
    have permitted := turn_permitted faithful inside calls
    rw [step_worker_call config taken inside calls isAnswer] at isStored
    dsimp only at isStored
    cases request with
    | getTemplate wanted =>
        -- the KubeTemplate is gone
        obtain ⟨answer, after⟩ := answered
        cases answer with
        | ok template => cases isSettled
        | error err =>
            have absent := absent_of_missing truthful calls isAnswer rfl isSettled
            have same : wanted = key := permitted.trans own
            rw [show after = journal.system from read_templates isAnswer, ← same, absent]
              at isStored
            cases isStored
    | updateStatus template =>
        refine ⟨worker, outcome, execution, template, rest, rfl, inside, own, calls, ?_⟩
        obtain ⟨answer, after⟩ := answered
        cases answer with
        | error err => cases isSettled
        | ok revision =>
            obtain ⟨stored, wasStored, _version, same⟩ := respond_updateStatus_ok isAnswer rfl
            cases same
            have isKey : ({ stored with status := template.status } : KubeTemplate).key = key :=
              (faithful.keyed template.key stored wasStored).trans (permitted.1.trans own)
            rw [← isKey, put_templates_self] at isStored
            cases isStored
            exact ⟨isSettled, rfl⟩
    | _ => cases isSettled

private theorem settled_of_turnOver (faithful : journal.Faithful config) {event : Event}
    (dependable : journal.Dependable config event) (turnOver : journal.TurnOver owes key event)
    (taken : journal.step config event = some next) {current : KubeTemplate}
    (isStored : next.system.templates key = some current) :
    settled current.status.processingPhase = true := by
  obtain ⟨_, _, _, template, _, _, _, _, _, isSettled, same⟩ :=
    written_of_turnOver faithful dependable turnOver taken isStored
  rw [same]
  exact isSettled

/-- Whoever wrote the phase has left the KubeTemplate in somebody's hands; a failed
one is always in those of the queue or of a worker. -/
structure Owned (journal : Journal) (key : NamespacedName) (phase : Phase) : Prop where
  working : phase = .processing ∨ phase = .failed → journal.Worked owes key
  waiting : phase = .empty ∨ phase = .queued →
    journal.Worked owes key ∨ journal.Requested Visit.owes key

theorem owned_of_settled {phase : Phase} (isSettled : settled phase = true) :
    journal.Owned key phase := by
  refine ⟨?_, ?_⟩
  · rintro (rfl | rfl) <;> cases isSettled
  · rintro (rfl | rfl) <;> cases isSettled

theorem Owned.step (faithful : journal.Faithful config) {event : Event}
    (dependable : journal.Dependable config event) (taken : journal.step config event = some next)
    {current : KubeTemplate} (isStored : next.system.templates key = some current)
    (owned : journal.Owned key current.status.processingPhase) :
    next.Owned key current.status.processingPhase := by
  by_cases isSettled : settled current.status.processingPhase = true
  · exact owned_of_settled isSettled
  have worked (before : journal.Worked owes key) : next.Worked owes key := by
    rcases before.step faithful rfl taken with still | lapsed
    · exact still
    · exact absurd (settled_of_turnOver faithful dependable lapsed taken isStored) isSettled
  refine ⟨fun isPhase => worked (owned.working isPhase), ?_⟩
  intro isPhase
  rcases owned.waiting isPhase with before | before
  · exact .inl (worked before)
  · rcases before.step rfl taken with still | lapsed
    · exact .inr still
    · have sighted : ∀ outcome, event = .operator (.controller key outcome) →
          journal.Sighted key outcome := by
        rintro outcome rfl
        exact dependable
      rcases lapsed.left faithful sighted (fun _ _ => Visit.ends_owes)
          (fun phase requeues more has => by
            simp only [Visit.owes, Bool.or_eq_true] at has ⊢
            exact has.imp .inl id)
          rfl taken isStored with queued | unowed
      · exact .inl (.inl queued)
      · rcases isPhase with same | same <;> rw [same] at unowed <;> cases unowed

structure Kept (config : Config) (journal : Journal) : Prop where
  faithful : journal.Faithful config
  owned : ∀ key current, journal.system.templates key = some current →
    journal.Owned key current.status.processingPhase

theorem step_kept (journal : Journal) (event : Event) (next : Journal)
    (kept : journal.Kept config) (dependable : journal.Dependable config event)
    (taken : journal.step config event = some next) : next.Kept config := by
  have faithful := kept.faithful
  refine ⟨step_faithful journal event next faithful taken, ?_⟩
  intro key current isStored
  cases step_status faithful taken isStored with
  | kept before wasStored same =>
      have owned := kept.owned key before wasStored
      rw [← same] at owned
      exact owned.step faithful dependable taken isStored
  | created absent isNew pending =>
      rw [isNew]
      refine ⟨?_, fun _ => .inr (.inl pending)⟩
      rintro (same | same) <;> cases same
  | worker worker outcome execution template rest answered isEvent inside own calls isAnswer same =>
      subst isEvent
      have permitted := turn_permitted faithful inside calls
      rw [same]
      by_cases isSettled : settled template.status.processingPhase = true
      · exact owned_of_settled isSettled
      · have has :
            owes (journal.turns worker ++ [⟨.updateStatus template, answered.1⟩]) = true := by
          rw [owes_snoc]
          exact owesAfter_unsettled (Bool.eq_false_iff.mpr isSettled)
        have worked := worked_of_call taken inside calls isAnswer own has
        exact ⟨fun _ => worked, fun _ => .inl worked⟩
  | controller outcome execution template rest answered isEvent inside calls isAnswer same =>
      subst isEvent
      have permitted := visit_permitted faithful inside calls
      rw [same]
      rcases permitted.2 with ⟨queued, phase, requeues, isVisit⟩ | ⟨completed, _⟩
      · have has : Visit.owes (visitAfter (journal.visits key ++
            [⟨.updateStatus template, answered.1⟩])) = true := by
          rw [visitAfter_snoc, isVisit]
          simp only [Visit.after, Visit.owes, queued, decide_true, Bool.or_true, Bool.true_or]
        have requested := requested_of_call taken inside calls isAnswer has
        refine ⟨?_, fun _ => .inr requested⟩
        rw [queued]
        rintro (impossible | impossible) <;> cases impossible
      · rw [completed]
        exact owned_of_settled rfl

theorem Kept.noneLost (kept : journal.Kept config) : journal.NoneLost := by
  intro key current isStored notCompleted notPaused
  have owned := kept.owned key current isStored
  have worked (before : journal.Worked owes key) : journal.Tended key := by
    rcases before with queued | ⟨worker, execution, inside, own, _has⟩
    · exact .inl queued
    · obtain ⟨ref, item, turn⟩ := kept.faithful.turn worker execution inside
      exact .inr (.inl ⟨worker, ref, turn.held, turn.key.trans own⟩)
  have requested (before : journal.Requested Visit.owes key) : journal.Tended key := by
    rcases before with pending | waits | ⟨execution, inside, _has⟩
    · exact .inr (.inr (.inl pending))
    · exact .inr (.inr (.inr (.inl waits)))
    · exact .inr (.inr (.inr (.inr ⟨execution, inside⟩)))
  cases phase : current.status.processingPhase with
  | processing => exact worked (owned.working (.inl phase))
  | failed => exact worked (owned.working (.inr phase))
  | empty => exact (owned.waiting (.inl phase)).elim worked requested
  | queued => exact (owned.waiting (.inr phase)).elim worked requested
  | completed => exact absurd phase notCompleted
  | paused => exact absurd phase notPaused

theorem start_kept (maxRetries initialDelay maxDelay maxCycles : Int)
    (policies : String → Except GoError KubeTemplatePolicy) :
    (start (Queue.Session.start maxRetries initialDelay maxDelay maxCycles) policies).Kept
      config where
  faithful := start_faithful config _ _ _ _ _
  owned := by intro key current isStored; cases isStored

/-- In a run in which no worker abandons a pause, no KubeTemplate is lost. -/
theorem noneLost_of_dependable (config : Config)
    (maxRetries initialDelay maxDelay maxCycles : Int)
    (policies : String → Except GoError KubeTemplatePolicy) (events : List Event)
    (along : Along (step config) (Dependable config)
      (start (Queue.Session.start maxRetries initialDelay maxDelay maxCycles) policies) events) :
    Throughout (step config) NoneLost
      (start (Queue.Session.start maxRetries initialDelay maxDelay maxCycles) policies)
      events := by
  have invariant := throughout_of_along (step config) (Dependable config) (Kept config)
    step_kept _ events (start_kept maxRetries initialDelay maxDelay maxCycles policies) along
  exact invariant.mono (fun _ => Kept.noneLost)

/-- Nobody is at work and nothing is asked for. -/
theorem not_tended_of_idle (faithful : journal.Faithful config)
    (idle : journal.system.active = []) (empty : journal.system.session.queue.items.toList = [])
    (undelivered : journal.system.pending key = false)
    (unscheduled : journal.scheduled key = false) : ¬ journal.Tended key := by
  rintro (⟨ref, member, _⟩ | ⟨worker, ref, holds, _⟩ | pending | waits | ⟨execution, inside⟩)
  · rw [empty] at member
    cases member
  · cases inside : journal.system.workers worker with
    | none =>
        rw [faithful.idle worker inside] at holds
        cases holds
    | some execution =>
        have member := faithful.listed.workers worker execution inside
        rw [idle] at member
        cases member
  · rw [undelivered] at pending
    cases pending
  · rw [unscheduled] at waits
    cases waits
  · have member := faithful.listed.reconciles key execution inside
    rw [idle] at member
    cases member

/-- One retry and one cycle, the least that can be configured besides no limit. -/
def smallStart : Journal :=
  start (Queue.Session.start 1 1000000000 60000000000 1)
    (fun _ => .ok (Reference.configMapPolicy []))

def unavailable : Outcome := .fails (errorf "the server is currently unable to handle the request")

/-- A worker cannot read the KubeTemplate and hands its item back. -/
def refusedTurn (delay : Nat) : List Label :=
  [.dequeue 0, .worker 0 unavailable, .worker 0 .succeeds, .pass delay]

def failing : List Label :=
  .create System.webTemplate :: System.queuing ++ refusedTurn 1000000000 ++
    refusedTurn 60000000000

/-- The third turn fails as well, and the pause branch cannot read the KubeTemplate. -/
def outage : List Event :=
  List.map .operator (failing ++ [.dequeue 0, .worker 0 unavailable, .worker 0 unavailable,
    .worker 0 .succeeds])

/-- A run from the small start that ends with nobody at work and nothing asked for. -/
theorem run_untended {events : List Event} {final : Journal}
    (isRun : run (step config) smallStart events = some final)
    (observed : (final.system.active, final.system.session.queue.items.toList,
      final.system.pending key, final.scheduled key) = ([], [], false, false)) :
    ¬ final.Tended key := by
  simp only [Prod.mk.injEq] at observed
  obtain ⟨idle, empty, undelivered, unscheduled⟩ := observed
  exact not_tended_of_idle (run_faithful isRun) idle empty undelivered unscheduled

/-- The API server is away for a minute: the phase is Queued, and nobody will ever
look at the KubeTemplate. -/
theorem outage_loses_template :
    ∃ final current, run (step System.settingsConfig) smallStart outage = some final ∧
      final.system.templates System.webKey = some current ∧
      current.status.processingPhase = .queued ∧ ¬ final.Tended System.webKey ∧
      ¬ final.NoneLost := by
  have ended : (run (step System.settingsConfig) smallStart outage).map (fun final =>
      (final.system.active, final.system.session.queue.items.toList,
        final.system.pending System.webKey, final.scheduled System.webKey)) =
        some ([], [], false, false) := by
    decide
  have stored : ((run (step System.settingsConfig) smallStart outage).bind (fun final =>
      final.system.templates System.webKey)).map (fun current =>
        current.status.processingPhase) = some .queued := by
    decide
  obtain ⟨final, isRun, idle⟩ := Option.map_eq_some_iff.mp ended
  rw [isRun, Option.bind_some] at stored
  obtain ⟨current, isStored, queued⟩ := Option.map_eq_some_iff.mp stored
  have lost := run_untended isRun idle
  refine ⟨final, current, isRun, isStored, queued, lost, ?_⟩
  intro noneLost
  refine lost (noneLost System.webKey current isStored ?_ ?_)
  · rw [queued]
    intro impossible
    cases impossible
  · rw [queued]
    intro impossible
    cases impossible

def wrotePaused : Exchange client → Bool
  | ⟨.updateStatus template, answer⟩ =>
      (answer : Except GoError Nat).isOk && decide (template.status.processingPhase = .paused)
  | _ => false

private theorem settles_of_wrotePaused {exchange : Exchange client}
    (wrote : wrotePaused exchange = true) :
    settles exchange = true := by
  obtain ⟨request, answer⟩ := exchange
  cases request with
  | updateStatus template =>
      obtain ⟨isOk, isPaused⟩ := Bool.and_eq_true_iff.mp wrote
      cases answer with
      | error err => cases isOk
      | ok revision => exact (congrArg settled (of_decide_eq_true isPaused) :)
  | _ => cases wrote

private theorem not_abandons_of_wrotePaused {platform : Platform} {operatorNamespace : String}
    {maxRetryCycles : Int} {trace : List (Exchange client)} (answered : Answered trace)
    (wrote : trace.any wrotePaused = true) :
    ¬ Abandons platform operatorNamespace maxRetryCycles key trace := by
  rintro ⟨front, back, err, rfl, processed, _pauses, unsettled⟩
  obtain ⟨exchange, member, isPaused⟩ := List.any_eq_true.mp wrote
  rcases List.mem_append.mp member with early | late
  · obtain ⟨_state, permitted⟩ := (processItem_tending platform (fun _ => id) operatorNamespace
      true).permits processed.leaves (fun exchange member _ => answered.append.1 exchange member)
      exchange early
    obtain ⟨request, answer⟩ := exchange
    cases request with
    | updateStatus template =>
        have phase := of_decide_eq_true (Bool.and_eq_true_iff.mp isPaused).2
        have applies : applyPhase template.status.processingPhase := permitted.2
        rw [phase] at applies
        rcases applies with impossible | impossible | impossible <;> cases impossible
    | _ => cases isPaused
  · have isSettled := settles_of_wrotePaused isPaused
    rw [unsettled exchange late] at isSettled
    cases isSettled

/-- The outcome is neither a read that lags behind nor an answer that the
KubeTemplate is missing. -/
def outright : Outcome → Bool
  | .stale _ => false
  | .fails err => !err.isNotFound
  | _ => true

private theorem trueMissing_of_outright {α : Type} {system : System} {program : Program client α}
    {outcome : Outcome} (direct : outright outcome = true) :
    TrueMissing system program outcome := by
  rintro _ _ err _calls rfl missing
  rw [outright, missing] at direct
  cases direct

/-- An evaluable condition: a worker that calls `Done` has written Paused. -/
def pausesOnly (journal : Journal) : Event → Bool
  | .operator (.worker worker outcome) =>
      outright outcome && (journal.system.workers worker).all (fun execution =>
        match execution.program with
        | .done .done => (journal.turns worker).any wrotePaused
        | _ => true)
  | .operator (.controller _ outcome) => outright outcome
  | _ => true

private theorem dependable_of_pausesOnly (event : Event) (faithful : journal.Faithful config)
    (pauses : journal.pausesOnly event = true) : journal.Dependable config event := by
  cases event with
  | expire wanted => trivial
  | operator label =>
      cases label with
      | worker worker outcome =>
          obtain ⟨direct, checked⟩ := Bool.and_eq_true_iff.mp pauses
          intro execution inside
          refine ⟨trueMissing_of_outright direct, ?_⟩
          intro isDone
          obtain ⟨ref, item, turn⟩ := faithful.turn worker execution inside
          rw [inside, Option.all_some, isDone] at checked
          exact not_abandons_of_wrotePaused turn.answered checked
      | controller wanted outcome =>
          intro execution _inside
          refine ⟨trueMissing_of_outright pauses, ?_⟩
          rintro template rfl
          cases pauses
      | _ => trivial

/-- The third turn fails too, and the pause branch writes Paused. -/
def pausing : List Event :=
  List.map .operator (failing ++ .dequeue 0 :: .worker 0 unavailable ::
    List.replicate 6 (.worker 0 .succeeds))

theorem noneLost_pausing :
    ((run (step System.settingsConfig) smallStart pausing).bind (fun final =>
      final.system.templates System.webKey)).map (fun current =>
        current.status.processingPhase) = some .paused ∧
      Throughout (step System.settingsConfig) NoneLost smallStart pausing := by
  refine ⟨by decide, noneLost_of_dependable System.settingsConfig _ _ _ _ _ pausing ?_⟩
  exact (throughout_of_preserved (step System.settingsConfig) (Faithful System.settingsConfig)
    step_faithful smallStart pausing (start_faithful _ _ _ _ _ _)).along_both
    (@along_of_checkAlong _ _ _ _ _ _ pausesOnly (fun _ _ => id) (by decide))
    (fun _ => dependable_of_pausesOnly)

end Journal

end KubeTemplater.Operator
