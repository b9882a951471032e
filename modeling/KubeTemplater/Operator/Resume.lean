/-
How a paused KubeTemplate is resumed.

The user sets the resume annotation, the event passes the filter, and `Reconcile`
queues the KubeTemplate.  Nothing takes the annotation away again.  The next time
the KubeTemplate is paused, the annotation still says "true": the first event of any
kind resumes it, and setting the annotation once more is no event at all.
-/

import KubeTemplater.Operator.Pause
import KubeTemplater.Operator.SoleVisit

namespace KubeTemplater.Operator

open Library Library.Program

def asksResume (template : KubeTemplate) : Prop :=
  mapGet template.metadata.annotations Controller.resumeAnnotation = some "true"

namespace Journal

/-- When a worker writes Paused, the annotation does not ask to resume, and no
execution of `Reconcile` under way has read the KubeTemplate. -/
def CleanPause (journal : Journal) : Event → Prop
  | .operator (.worker worker _) =>
      ∀ key, journal.statusWrite worker = some (key, .paused) →
        (∀ current, journal.system.templates key = some current → ¬ asksResume current) ∧
        ∀ execution, journal.system.reconciles key = some execution → journal.visits key = []
  | _ => True

/-- `Reconcile` reads no old version of a KubeTemplate. -/
def ReadsStored : Event → Prop
  | .operator (.controller _ outcome) => ∀ template, outcome ≠ .stale template
  | _ => True

def QueuedAt (key : NamespacedName) (journal : Journal) : Prop :=
  ∃ current, journal.system.templates key = some current ∧
    current.status.processingPhase = .queued

variable {config : Config} {journal next : Journal} {key : NamespacedName}

private theorem statusWrite_eq {worker : Nat} {execution : Execution Worker.Disposition}
    {template : KubeTemplate} {rest : Except GoError Nat → Program client Worker.Disposition}
    (inside : journal.system.workers worker = some execution) (own : execution.key = key)
    (calls : execution.program = .call (.updateStatus template) rest) :
    journal.statusWrite worker = some (key, template.status.processingPhase) := by
  unfold statusWrite
  rw [inside, Option.bind_some, calls, own]

/-- `Reconcile` writes neither Paused nor, over another phase, Completed. -/
theorem visit_writes (faithful : journal.Faithful config)
    {execution : Execution Controller.ReconcileResult} {template : KubeTemplate}
    {rest : Except GoError Nat → Program client Controller.ReconcileResult}
    (inside : journal.system.reconciles key = some execution)
    (calls : execution.program = .call (.updateStatus template) rest) :
    template.status.processingPhase = .queued ∨
      template.status.processingPhase = .completed ∧
        visitAfter (journal.visits key) = .found .completed false := by
  rcases (visit_permitted faithful inside calls).2 with ⟨queued, _⟩ | completed
  · exact .inl queued
  · exact .inr completed

private theorem readsStored_of_succeeds (event : Event) (success : succeeds event = true) :
    ReadsStored event := by
  cases event with
  | expire wanted => trivial
  | operator label =>
      cases label with
      | controller wanted outcome =>
          rintro template rfl
          cases success
      | _ => trivial

theorem paused_from (faithful : journal.Faithful config) {event : Event}
    (taken : journal.step config event = some next) (paused : next.PausedAt key) :
    journal.PausedAt key ∨ ∃ worker outcome, event = .operator (.worker worker outcome) ∧
      journal.statusWrite worker = some (key, .paused) := by
  obtain ⟨current, isStored, isPaused⟩ := paused
  cases step_status faithful taken isStored with
  | kept before wasStored same =>
      rw [same] at isPaused
      exact .inl ⟨before, wasStored, isPaused⟩
  | created absent isNew pending =>
      rw [isNew] at isPaused
      cases isPaused
  | worker worker outcome execution template rest answered isEvent inside own calls isAnswer same =>
      rw [same] at isPaused
      refine .inr ⟨worker, outcome, isEvent, ?_⟩
      rw [statusWrite_eq inside own calls, isPaused]
  | controller outcome execution template rest answered isEvent inside calls isAnswer same =>
      rw [same] at isPaused
      rcases visit_writes faithful inside calls with queued | ⟨completed, _⟩
      · rw [queued] at isPaused
        cases isPaused
      · rw [completed] at isPaused
        cases isPaused

end Journal

structure Petition where
  journal : Journal
  /-- A user has set the annotation to "true" since Paused was written last. -/
  asked : NamespacedName → Bool

namespace Petition

def start (session : Queue.Session)
    (policies : String → Except GoError KubeTemplatePolicy) : Petition :=
  { journal := Journal.start session policies, asked := fun _ => false }

def askedAfter (petition : Petition) (event : Journal.Event) (key : NamespacedName) : Bool :=
  match event with
  | .operator (.update wanted _ _ annotations) =>
      petition.asked key || decide (wanted = key ∧
        mapGet annotations Controller.resumeAnnotation = some "true")
  | .operator (.worker worker _) =>
      petition.asked key && decide (petition.journal.statusWrite worker ≠ some (key, .paused))
  | _ => petition.asked key

def step (config : Config) (petition : Petition) (event : Journal.Event) : Option Petition :=
  (petition.journal.step config event).map (fun next =>
    { journal := next, asked := petition.askedAfter event })

variable {config : Config} {petition next : Petition} {key : NamespacedName}

theorem step_journal {event : Journal.Event} (taken : petition.step config event = some next) :
    petition.journal.step config event = some next.journal ∧
      next.asked = petition.askedAfter event := by
  obtain ⟨journal, stepped, rfl⟩ := Option.map_eq_some_iff.mp taken
  exact ⟨stepped, rfl⟩

/-- Having asked counts until Paused is written again. -/
theorem askedAfter_kept {event : Journal.Event} (asked : petition.asked key = true)
    (unpaused : ∀ worker outcome, event = .operator (.worker worker outcome) →
      petition.journal.statusWrite worker ≠ some (key, .paused)) :
    petition.askedAfter event key = true := by
  cases event with
  | expire wanted => exact asked
  | operator label =>
      cases label with
      | update wanted spec labels annotations => exact Bool.or_eq_true_iff.mpr (.inl asked)
      | worker worker outcome =>
          exact Bool.and_eq_true_iff.mpr ⟨asked, decide_eq_true (unpaused worker outcome rfl)⟩
      | _ => exact asked

def restful : Visit → Bool
  | .found phase _ => decide (phase = .paused)
  | _ => true

/-- A Paused KubeTemplate whose annotation asks to resume has been asked for, and so
has one that `Reconcile` acts on; no execution of `Reconcile` beside a Paused
KubeTemplate has found another phase. -/
structure Heeded (config : Config) (petition : Petition) : Prop where
  faithful : petition.journal.Faithful config
  asked : ∀ key current, petition.journal.system.templates key = some current →
    current.status.processingPhase = .paused → asksResume current → petition.asked key = true
  acting : ∀ key execution, petition.journal.system.reconciles key = some execution →
    sightAfter (petition.journal.visits key) = .acting → petition.journal.PausedAt key →
    petition.asked key = true
  visit : ∀ key execution, petition.journal.system.reconciles key = some execution →
    petition.journal.PausedAt key → restful (visitAfter (petition.journal.visits key)) = true

section Step

variable {event : Journal.Event} (heeded : petition.Heeded config)
  (fresh : Journal.ReadsStored event) (clean : petition.journal.CleanPause event)
  (taken : petition.journal.step config event = some next.journal)
include heeded taken

include clean in
theorem Heeded.step_asked {current : KubeTemplate}
    (isStored : next.journal.system.templates key = some current)
    (paused : current.status.processingPhase = .paused) (asks : asksResume current) :
    petition.askedAfter event key = true := by
  cases Journal.step_template heeded.faithful taken isStored with
  | kept before =>
      refine askedAfter_kept (heeded.asked key current before paused asks) ?_
      rintro worker outcome rfl writes
      exact (clean key writes).1 current before asks
  | created absent isNew pending =>
      rw [isNew] at paused
      cases paused
  | edited old spec labels annotations isEvent wasStored same =>
      subst same
      have sets : mapGet annotations Controller.resumeAnnotation = some "true" := asks
      rw [isEvent]
      exact Bool.or_eq_true_iff.mpr (.inr (decide_eq_true ⟨rfl, sets⟩))
  | worker worker outcome execution template stored rest answered isEvent inside own calls isAnswer
      wasStored same =>
      subst same isEvent
      have writes := Journal.statusWrite_eq inside own calls
      have isPaused : template.status.processingPhase = .paused := paused
      rw [isPaused] at writes
      exact absurd asks ((clean key writes).1 stored wasStored)
  | controller outcome execution template stored rest answered isEvent inside calls isAnswer
      wasStored same =>
      subst same
      have isPaused : template.status.processingPhase = .paused := paused
      rcases Journal.visit_writes heeded.faithful inside calls with queued | ⟨completed, _⟩
      · rw [queued] at isPaused
        cases isPaused
      · rw [completed] at isPaused
        cases isPaused

variable {execution : Execution Controller.ReconcileResult}

theorem Heeded.still_paused (clean : petition.journal.CleanPause event)
    (paused : next.journal.PausedAt key)
    (inside : petition.journal.system.reconciles key = some execution)
    (visited : petition.journal.visits key ≠ []) :
    petition.journal.PausedAt key ∧
      ∀ worker outcome, event = .operator (.worker worker outcome) →
        petition.journal.statusWrite worker ≠ some (key, .paused) := by
  have others : ∀ worker outcome, event = .operator (.worker worker outcome) →
      petition.journal.statusWrite worker ≠ some (key, .paused) := by
    rintro worker outcome rfl writes
    exact visited ((clean key writes).2 execution inside)
  rcases Journal.paused_from heeded.faithful taken paused with
    was | ⟨worker, outcome, isEvent, writes⟩
  · exact ⟨was, others⟩
  · exact absurd writes (others worker outcome isEvent)

include fresh clean in
theorem Heeded.step_acting (inside : next.journal.system.reconciles key = some execution)
    (acting : sightAfter (next.journal.visits key) = .acting) (paused : next.journal.PausedAt key) :
    petition.askedAfter event key = true := by
  cases Journal.step_visit config taken inside with
  | kept before visits =>
      rw [visits] at acting
      have visited : petition.journal.visits key ≠ [] := by
        intro unread
        rw [unread] at acting
        cases acting
      obtain ⟨was, others⟩ := heeded.still_paused taken clean paused before visited
      exact askedAfter_kept (heeded.acting key execution before acting was) others
  | started isEvent isProgram visits =>
      rw [visits] at acting
      cases acting
  | called outcome caller request rest answered isEvent before calls isAnswer isNext visits =>
      subst isEvent
      have was : petition.journal.PausedAt key := by
        rcases Journal.paused_from heeded.faithful taken paused with was | ⟨_, _, impossible, _⟩
        · exact was
        · cases impossible
      refine askedAfter_kept ?_ (fun _ _ impossible => by cases impossible)
      rcases Journal.visit_call heeded.faithful before calls with ⟨waits, rfl⟩ | already
      · -- the read finds what is stored: Paused, and not at rest
        rw [visits, sightAfter_snoc, waits] at acting
        obtain ⟨answer, after⟩ := answered
        cases answer with
        | error err => cases acting
        | ok template =>
            have isStored := stored_of_read fresh isAnswer rfl
            obtain ⟨current, wasStored, isPaused⟩ := was
            rw [isStored] at wasStored
            cases wasStored
            change (if atRest template then Sight.resting else .acting) = .acting at acting
            by_cases asks : asksResume template
            · exact heeded.asked key template isStored isPaused asks
            · rw [if_pos ⟨isPaused, asks⟩] at acting
              cases acting
      · exact heeded.acting key caller before already was

include fresh clean in
theorem Heeded.step_visit (inside : next.journal.system.reconciles key = some execution)
    (paused : next.journal.PausedAt key) :
    restful (visitAfter (next.journal.visits key)) = true := by
  cases Journal.step_visit config taken inside with
  | kept before visits =>
      rw [visits]
      by_cases unread : petition.journal.visits key = []
      · rw [unread]
        rfl
      · obtain ⟨was, _⟩ := heeded.still_paused taken clean paused before unread
        exact heeded.visit key execution before was
  | started isEvent isProgram visits =>
      rw [visits]
      rfl
  | called outcome caller request rest answered isEvent before calls isAnswer isNext visits =>
      subst isEvent
      have was : petition.journal.PausedAt key := by
        rcases Journal.paused_from heeded.faithful taken paused with was | ⟨_, _, impossible, _⟩
        · exact was
        · cases impossible
      have rests := heeded.visit key caller before was
      have permitted := Journal.visit_permitted heeded.faithful before calls
      rw [visits, visitAfter_snoc]
      have moves := Visit.after_moves (visitAfter (petition.journal.visits key)) request answered.1
      generalize (visitAfter (petition.journal.visits key)).after request answered.1 = after
        at moves
      generalize visitAfter (petition.journal.visits key) = visit at moves permitted rests
      obtain ⟨answer, system⟩ := answered
      cases moves with
      | stays => exact rests
      | writes phase requeues template answer => exact rests
      | enqueues phase requeues wanted priority => rfl
      | reads wanted answer =>
          cases answer with
          | error err =>
              unfold Visit.read
              dsimp only
              split <;> rfl
          | ok template =>
              have same : wanted = key := permitted
              subst same
              have isStored := stored_of_read fresh isAnswer rfl
              obtain ⟨current, wasStored, isPaused⟩ := was
              rw [isStored] at wasStored
              cases wasStored
              exact decide_eq_true isPaused

end Step

private theorem step_heeded (petition : Petition) (event : Journal.Event) (next : Petition)
    (heeded : petition.Heeded config)
    (conditions : Journal.ReadsStored event ∧ petition.journal.CleanPause event)
    (taken : petition.step config event = some next) : next.Heeded config := by
  obtain ⟨fresh, clean⟩ := conditions
  obtain ⟨stepped, isAsked⟩ := step_journal taken
  refine ⟨Journal.step_faithful _ event _ heeded.faithful stepped, ?_, ?_, ?_⟩
  · intro key current isStored paused asks
    rw [isAsked]
    exact heeded.step_asked clean stepped isStored paused asks
  · intro key execution inside acting paused
    rw [isAsked]
    exact heeded.step_acting fresh clean stepped inside acting paused
  · intro key execution inside paused
    exact heeded.step_visit fresh clean stepped inside paused

private theorem start_heeded (maxRetries initialDelay maxDelay maxCycles : Int)
    (policies : String → Except GoError KubeTemplatePolicy) :
    (start (Queue.Session.start maxRetries initialDelay maxDelay maxCycles) policies).Heeded
      config where
  faithful := Journal.start_faithful config _ _ _ _ _
  asked := by intro key current isStored; cases isStored
  acting := by intro key execution inside; cases inside
  visit := by intro key execution inside; cases inside

/-- The step does not make a Paused KubeTemplate Queued, unless a user has asked. -/
def AskedFor (config : Config) (key : NamespacedName) (petition : Petition)
    (event : Journal.Event) : Prop :=
  ∀ next, petition.step config event = some next → petition.journal.PausedAt key →
    next.journal.QueuedAt key → petition.asked key = true

theorem Heeded.askedFor (heeded : petition.Heeded config) (key : NamespacedName)
    (event : Journal.Event) : petition.AskedFor config key event := by
  intro next taken paused queued
  obtain ⟨stepped, _isAsked⟩ := step_journal taken
  obtain ⟨before, wasStored, isPaused⟩ := paused
  obtain ⟨current, isStored, isQueued⟩ := queued
  cases Journal.step_status heeded.faithful stepped isStored with
  | kept old wasOld same =>
      rw [wasStored] at wasOld
      cases wasOld
      rw [same, isPaused] at isQueued
      cases isQueued
  | created absent isNew pending =>
      rw [wasStored] at absent
      cases absent
  | worker worker outcome execution template rest answered isEvent inside own calls isAnswer same =>
      have writes : turnPhase template.status.processingPhase :=
        (Journal.turn_permitted heeded.faithful inside calls).2
      rw [← same, isQueued] at writes
      rcases writes with (impossible | impossible | impossible) | impossible <;> cases impossible
  | controller outcome execution template rest answered isEvent inside calls isAnswer same =>
      have acting := Journal.visit_acts heeded.faithful inside calls
        (fun impossible => by cases impossible)
      exact heeded.acting key execution inside acting ⟨before, wasStored, isPaused⟩

end Petition

namespace Journal

/-- Neither has a phase been found that `Reconcile` would leave or complete. -/
def resumable : Visit → Bool
  | .found phase _ => decide (phase = .paused ∨ phase = .queued)
  | _ => true

structure Resumable (config : Config) (key : NamespacedName) (journal : Journal) : Prop where
  faithful : journal.Faithful config
  stored : ∃ current, journal.system.templates key = some current ∧
    (current.status.processingPhase = .queued ∨
      current.status.processingPhase = .paused ∧ asksResume current)
  visit : ∀ execution, journal.system.reconciles key = some execution →
    resumable (visitAfter (journal.visits key)) = true

variable {config : Config} {journal next : Journal} {key : NamespacedName}

theorem Resumable.step_stored (able : journal.Resumable config key) {event : Event}
    (sole : journal.Sole key event) (taken : journal.step config event = some next) :
    ∃ current, next.system.templates key = some current ∧
      (current.status.processingPhase = .queued ∨
        current.status.processingPhase = .paused ∧ asksResume current) := by
  obtain ⟨before, wasStored, phase⟩ := able.stored
  have remains : event ≠ .operator (.remove key) := by
    rintro rfl
    exact sole rfl
  obtain ⟨current, isStored⟩ := Journal.step_stored taken wasStored remains
  refine ⟨current, isStored, ?_⟩
  cases step_template able.faithful taken isStored with
  | kept same =>
      rw [wasStored] at same
      cases same
      exact phase
  | created absent isNew pending =>
      rw [wasStored] at absent
      cases absent
  | edited old spec labels annotations isEvent wasOld same =>
      subst isEvent
      exact (sole rfl).elim
  | worker worker outcome execution template stored rest answered isEvent inside own calls isAnswer
      wasOld same =>
      subst isEvent
      refine (sole ?_).elim
      rw [← own]
      exact congrArg (Option.map Execution.key) inside
  | controller outcome execution template stored rest answered isEvent inside calls isAnswer
      wasOld same =>
      subst same
      rcases visit_writes able.faithful inside calls with queued | ⟨_, isVisit⟩
      · exact .inl queued
      · have impossible := able.visit execution inside
        rw [isVisit] at impossible
        cases impossible

theorem Resumable.step (journal : Journal) (event : Event) (next : Journal)
    (able : journal.Resumable config key) (sole : journal.Sole key event)
    (taken : journal.step config event = some next) : next.Resumable config key := by
  refine ⟨step_faithful journal event next able.faithful taken, able.step_stored sole taken, ?_⟩
  intro execution inside
  cases Journal.step_visit config taken inside with
  | kept before visits =>
      rw [visits]
      exact able.visit execution before
  | started isEvent isProgram visits =>
      rw [visits]
      rfl
  | called outcome caller request rest answered isEvent before calls isAnswer isNext visits =>
      subst isEvent
      have passes := sole rfl caller before
      have already := able.visit caller before
      have permitted := visit_permitted able.faithful before calls
      rw [visits, visitAfter_snoc]
      have moves := Visit.after_moves (visitAfter (journal.visits key)) request answered.1
      generalize (visitAfter (journal.visits key)).after request answered.1 = after at moves
      generalize visitAfter (journal.visits key) = visit at moves permitted already
      obtain ⟨answer, system⟩ := answered
      cases moves with
      | stays => exact already
      | writes phase requeues template answer => exact already
      | enqueues phase requeues wanted priority => rfl
      | reads wanted answer =>
          cases answer with
          | error err =>
              unfold Visit.read
              dsimp only
              split <;> rfl
          | ok template =>
              have same : wanted = key := permitted
              subst same
              have isStored := stored_of_read passes.fresh isAnswer rfl
              obtain ⟨current, wasStored, phase⟩ := able.stored
              rw [isStored] at wasStored
              cases wasStored
              refine decide_eq_true ?_
              rcases phase with queued | ⟨paused, _⟩
              · exact .inr queued
              · exact .inl paused

/-- With nobody but `Reconcile` at the KubeTemplate, and without failures, the execution
that is started for it can end, and leaves it Queued and in the work queue. -/
def QueuedByReconcile (config : Config) (key : NamespacedName) (journal : Journal) : Prop :=
  ∀ finishing idle started,
    Along (step config) (Sole key) journal finishing →
    run (step config) journal finishing = some idle →
    idle.step config (.operator (.deliver key)) = some started →
    started.CanEnd config key ∧
      ∀ visiting final, Along (step config) (Sole key) started visiting →
        run (step config) started visiting = some final →
        final.visits key ≠ [] → final.system.reconciles key = none →
        final.QueuedAt key ∧ Queued final.system.session key

/-- The execution that is started reads the KubeTemplate, writes Queued over Paused,
and enqueues. -/
theorem Resumable.canEnd (able : journal.Resumable config key)
    (taken : journal.step config (.operator (.deliver key)) = some next) :
    next.CanEnd config key := by
  obtain ⟨origin, isStored, phase⟩ := able.stored
  have isKey : origin.key = key := able.faithful.keyed key origin isStored
  obtain ⟨_free, rfl⟩ := step_deliver config taken
  refine canEnd_call (Function.update_self _ _ _) rfl (respond_found isStored) ?_
  intro afterRead templates inside _visited
  rcases phase with queued | ⟨paused, asks⟩
  · have program : Controller.reconcilePhase config.platform config.interval key origin =
        .call (.enqueue origin.key 0) (fun _ => .done .finished) := by
      unfold Controller.reconcilePhase
      rw [queued]
      rfl
    refine canEnd_call inside program rfl ?_
    intro afterEnqueue _ inside visited
    exact canEnd_done inside rfl visited
  · have program : Controller.reconcilePhase config.platform config.interval key origin =
        .call .now (fun now => Controller.updateAndEnqueue origin
          (Controller.resumedStatus now origin.status)) := by
      unfold Controller.reconcilePhase
      rw [paused]
      exact if_pos asks
    apply canEnd_updateAndEnqueue inside program
    rw [templates, isKey]
    exact isStored

theorem Resumable.queuedByReconcile (able : journal.Resumable config key) :
    journal.QueuedByReconcile config key := by
  intro finishing idle started alongFirst ranFirst delivered
  have stillAble := (throughout_of_along (Journal.step config) (Sole key) (Resumable config key)
    Resumable.step journal finishing able alongFirst).last ranFirst
  refine ⟨stillAble.canEnd delivered, ?_⟩
  intro visiting final alongVisit ranVisit visited ended
  obtain ⟨origin, isStored, phase⟩ := stillAble.stored
  have attended := (throughout_of_along (Journal.step config) (Sole key)
    (Attended config origin (Queued idle.system.session key) key) Attended.step started visiting
    (attended_deliver stillAble.faithful isStored delivered) alongVisit).last ranVisit
  have result : reconciled config.platform origin = ⟨true, .queued⟩ := by
    unfold reconciled stageAfterRead
    rcases phase with queued | ⟨paused, asks⟩
    · rw [queued]
    · unfold asksResume at asks
      rw [paused]
      dsimp only
      rw [if_pos asks]
  obtain ⟨isQueued, latest, isLatest, latestPhase⟩ := attended.finished ended visited
  rw [result] at isQueued latestPhase
  exact ⟨⟨latest, isLatest, latestPhase⟩, isQueued.mpr (.inr rfl)⟩

/-- A user's write that makes the annotation of a Paused KubeTemplate "true" is seen,
and `Reconcile` queues the KubeTemplate. -/
def ResumesOnAsking (config : Config) (key : NamespacedName) (journal : Journal) : Prop :=
  ∀ current spec labels annotations asked, journal.system.templates key = some current →
    current.status.processingPhase = .paused → ¬ asksResume current →
    mapGet annotations Controller.resumeAnnotation = some "true" →
    journal.step config (.operator (.update key spec labels annotations)) = some asked →
    asked.system.pending key = true ∧ asked.QueuedByReconcile config key

end Journal

theorem Petition.Heeded.resumesOnAsking {config : Config} {petition : Petition}
    (heeded : petition.Heeded config) (key : NamespacedName) :
    petition.journal.ResumesOnAsking config key := by
  intro current spec labels annotations asked isStored paused unasked sets taken
  have aside := Journal.step_users config rfl taken
  have faithful := Journal.step_faithful _ _ asked heeded.faithful taken
  obtain ⟨system, stepped, isNext⟩ := Journal.step_operator config taken
  obtain ⟨old, wasStored, effect⟩ := System.step_update config stepped
  rw [isStored] at wasStored
  cases wasStored
  have passes : Controller.updateFunc current (System.edited current spec labels annotations) =
      true := by
    refine @Controller.updateFunc_of_annotation _ _ Controller.resumeAnnotation ?_
    intro same
    exact unasked (same.trans sets)
  rcases effect with ⟨_, isSystem⟩ | ⟨blocked, _⟩
  · have isKey : (System.edited current spec labels annotations).key = key :=
      heeded.faithful.keyed key current isStored
    refine ⟨?_, Journal.Resumable.queuedByReconcile ⟨faithful, ?_, ?_⟩⟩
    · rw [isNext, isSystem]
      exact Function.update_self _ _ _
    · refine ⟨petition.journal.system.stamp (System.edited current spec labels annotations), ?_,
        .inr ⟨paused, sets⟩⟩
      rw [isNext, isSystem, ← isKey]
      exact put_templates_self _ _
    · intro execution inside
      rw [aside.reconciles] at inside
      have rests := heeded.visit key execution inside ⟨current, isStored, paused⟩
      rw [aside.visits]
      generalize visitAfter (petition.journal.visits key) = visit at rests
      cases visit with
      | found phase requeues => exact decide_eq_true (.inl (of_decide_eq_true rests))
      | _ => rfl
  · rw [passes] at blocked
    cases blocked

namespace Petition

/-- In a run in which `Reconcile` reads what is stored and workers pause only
KubeTemplates whose annotation is not "true", one write of the annotation resumes, and
nothing else does. -/
theorem resume_once (config : Config) (maxRetries initialDelay maxDelay maxCycles : Int)
    (policies : String → Except GoError KubeTemplatePolicy) (events : List Journal.Event)
    (along : Along (step config)
      (fun petition event =>
        Journal.ReadsStored event ∧ petition.journal.CleanPause event)
      (start (Queue.Session.start maxRetries initialDelay maxDelay maxCycles) policies) events) :
    Throughout (step config) (fun petition => ∀ key, petition.journal.ResumesOnAsking config key)
        (start (Queue.Session.start maxRetries initialDelay maxDelay maxCycles) policies) events ∧
      Along (step config) (fun petition event => ∀ key, petition.AskedFor config key event)
        (start (Queue.Session.start maxRetries initialDelay maxDelay maxCycles) policies)
        events := by
  have invariant := throughout_of_along (step config) _ (Heeded config) step_heeded _ events
    (start_heeded maxRetries initialDelay maxDelay maxCycles policies) along
  exact ⟨invariant.mono (fun _ heeded => heeded.resumesOnAsking),
    invariant.along (fun _ event heeded key => heeded.askedFor key event)⟩

def pausesCleanly (petition : Petition) : Journal.Event → Bool
  | .operator (.worker worker _) =>
      (petition.journal.statusWrite worker).all (fun write =>
        decide (write.2 ≠ .paused) ||
          ((petition.journal.system.templates write.1).all (fun current =>
              decide (mapGet current.metadata.annotations Controller.resumeAnnotation ≠
                some "true")) &&
            ((petition.journal.system.reconciles write.1).isNone ||
              (petition.journal.visits write.1).isEmpty)))
  | _ => true

private theorem cleanPause_of_pausesCleanly (petition : Petition) (event : Journal.Event)
    (checked : petition.pausesCleanly event = true) : petition.journal.CleanPause event := by
  cases event with
  | expire wanted => trivial
  | operator label =>
      cases label with
      | worker worker outcome =>
          intro key writes
          simp only [pausesCleanly, writes, Option.all_some, ne_eq, not_true_eq_false,
            decide_false, Bool.false_or, Bool.and_eq_true] at checked
          obtain ⟨unasked, unread⟩ := checked
          refine ⟨?_, ?_⟩
          · intro current isStored asks
            rw [isStored, Option.all_some] at unasked
            exact of_decide_eq_true unasked asks
          · intro execution inside
            rw [inside, Option.isNone_some, Bool.false_or] at unread
            exact List.isEmpty_iff.mp unread
      | _ => trivial

def unpolicedStart : Petition :=
  start (Queue.Session.start 1 1000000000 60000000000 1)
    (fun _ => .error (errorf "no KubeTemplatePolicy found"))

/-- A turn that writes Processing, finds no policy, writes Failed and hands the item
back. -/
def failedTurn (delay : Nat) : List Label :=
  .dequeue 0 :: List.replicate 8 (.worker 0 .succeeds) ++ [.pass delay]

def exhausting (meanwhile : List Label) : List Label :=
  failedTurn 1000000000 ++ failedTurn 60000000000 ++
    .dequeue 0 :: meanwhile ++ List.replicate 13 (.worker 0 .succeeds)

def annotate (labels : List (String × String)) : Label :=
  .update System.webKey (Reference.settingsSpec "fast") labels
    [(Controller.resumeAnnotation, "true")]

/-- The user sets the annotation, and `Reconcile` queues the KubeTemplate. -/
def resuming : List Label :=
  annotate [] :: .deliver System.webKey :: List.replicate 5 (.controller System.webKey .succeeds)

def pausedOnce : List Label := .create System.webTemplate :: System.queuing ++ exhausting []

theorem resume_once_annotated :
    (run (step System.settingsConfig) unpolicedStart
        (List.map .operator (pausedOnce ++ resuming))).map (fun final =>
      ((final.journal.system.templates System.webKey).map
          (fun current => current.status.processingPhase),
        final.journal.system.session.queue.items.size)) = some (some .queued, 1) ∧
      Throughout (step System.settingsConfig)
        (fun petition => ∀ key, petition.journal.ResumesOnAsking System.settingsConfig key)
        unpolicedStart (List.map .operator (pausedOnce ++ resuming)) ∧
      Along (step System.settingsConfig)
        (fun petition event => ∀ key, petition.AskedFor System.settingsConfig key event)
        unpolicedStart (List.map .operator (pausedOnce ++ resuming)) := by
  refine ⟨by decide +kernel, resume_once System.settingsConfig _ _ _ _ _ _ ?_⟩
  exact along_and
    (@along_of_checkAlong Petition _ _ _ _ _ (fun _ => Journal.succeeds)
      (fun _ => Journal.readsStored_of_succeeds) (by decide +kernel))
    (along_of_checkAlong cleanPause_of_pausesCleanly (by decide +kernel))

def pausedTwice : List Journal.Event :=
  List.map .operator (pausedOnce ++ resuming ++ exhausting [])

/-- The same, but the user changes a label before Paused is written again, and
`Reconcile` has read the KubeTemplate since. -/
def relabelled : List Journal.Event :=
  List.map .operator (pausedOnce ++ resuming ++ exhausting [annotate [("tier", "web")]] ++
    [.deliver System.webKey, .controller System.webKey .succeeds,
      .controller System.webKey .succeeds])

def phaseAt (journal : Journal) : Option Phase :=
  (journal.system.templates System.webKey).map (fun current => current.status.processingPhase)

/-- The user sets the annotation again, which is no change: nobody looks at the
KubeTemplate. -/
theorem pausedTwice_ignored :
    ∃ paused asked, run (step System.settingsConfig) unpolicedStart pausedTwice = some paused ∧
      paused.journal.PausedAt System.webKey ∧
      paused.journal.step System.settingsConfig (.operator (annotate [])) = some asked ∧
      asked.PausedAt System.webKey ∧ ¬ asked.Tended System.webKey := by
  have phases : (run (step System.settingsConfig) unpolicedStart pausedTwice).bind (fun paused =>
      (paused.journal.step System.settingsConfig (.operator (annotate []))).map (fun asked =>
        (phaseAt paused.journal, phaseAt asked))) = some (some .paused, some .paused) := by
    decide +kernel
  have ended : (run (step System.settingsConfig) unpolicedStart pausedTwice).bind (fun paused =>
      (paused.journal.step System.settingsConfig (.operator (annotate []))).map (fun asked =>
        (asked.system.active, asked.system.session.queue.items.toList,
          asked.system.pending System.webKey, asked.scheduled System.webKey))) =
      some ([], [], false, false) := by
    decide +kernel
  obtain ⟨paused, ran, isSeen⟩ := Option.bind_eq_some_iff.mp phases
  obtain ⟨asked, taken, observed⟩ := Option.map_eq_some_iff.mp isSeen
  rw [ran, Option.bind_some, taken, Option.map_some] at ended
  simp only [Option.some.injEq, Prod.mk.injEq] at observed ended
  obtain ⟨wasPaused, stillPaused⟩ := observed
  obtain ⟨active, empty, undelivered, unscheduled⟩ := ended
  have faithful := (throughout_of_preserved (step System.settingsConfig)
    (fun petition => petition.journal.Faithful System.settingsConfig)
    (fun petition event next faithful taken =>
      Journal.step_faithful _ event _ faithful (step_journal taken).1)
    unpolicedStart pausedTwice (Journal.start_faithful _ _ _ _ _ _)).last ran
  exact ⟨paused, asked, ran, Option.map_eq_some_iff.mp wasPaused, taken,
    Option.map_eq_some_iff.mp stillPaused,
    Journal.not_tended_of_idle (Journal.step_faithful _ _ asked faithful taken) active empty
      undelivered unscheduled⟩

/-- `Reconcile` resumes the KubeTemplate although no user has asked since Paused was
written. -/
theorem relabelled_resumes :
    ∃ paused next, run (step System.settingsConfig) unpolicedStart relabelled = some paused ∧
      paused.asked System.webKey = false ∧ paused.journal.PausedAt System.webKey ∧
      paused.step System.settingsConfig
        (.operator (.controller System.webKey .succeeds)) = some next ∧
      next.journal.QueuedAt System.webKey := by
  have seen : (run (step System.settingsConfig) unpolicedStart relabelled).bind (fun paused =>
      (paused.step System.settingsConfig
        (.operator (.controller System.webKey .succeeds))).map (fun next =>
          (paused.asked System.webKey, phaseAt paused.journal, phaseAt next.journal))) =
      some (false, some .paused, some .queued) := by
    decide +kernel
  obtain ⟨paused, ran, isSeen⟩ := Option.bind_eq_some_iff.mp seen
  obtain ⟨next, taken, observed⟩ := Option.map_eq_some_iff.mp isSeen
  simp only [Prod.mk.injEq] at observed
  obtain ⟨unasked, isPaused, isQueued⟩ := observed
  exact ⟨paused, next, ran, unasked, Option.map_eq_some_iff.mp isPaused, taken,
    Option.map_eq_some_iff.mp isQueued⟩

/-- Every call succeeds in both runs; neither half of the law holds. -/
theorem second_pause :
    (Along (step System.settingsConfig)
        (fun petition event => petition.journal.Unfailing event) unpolicedStart pausedTwice ∧
      ∃ paused asked, run (step System.settingsConfig) unpolicedStart pausedTwice = some paused ∧
        paused.journal.PausedAt System.webKey ∧
        paused.journal.step System.settingsConfig (.operator (annotate [])) = some asked ∧
        asked.PausedAt System.webKey ∧ ¬ asked.Tended System.webKey) ∧
      Along (step System.settingsConfig)
        (fun petition event => petition.journal.Unfailing event) unpolicedStart relabelled ∧
      ∃ paused, run (step System.settingsConfig) unpolicedStart relabelled = some paused ∧
        ¬ paused.AskedFor System.settingsConfig System.webKey
          (.operator (.controller System.webKey .succeeds)) := by
  have unfailing (petition : Petition) (events : List Journal.Event)
      (checked : checkAlong (step System.settingsConfig) (fun _ => Journal.succeeds) petition
        events = true) :
      Along (step System.settingsConfig)
        (fun petition event => petition.journal.Unfailing event) petition events :=
    along_of_checkAlong (fun petition => Journal.unfailing_of_succeeds petition.journal) checked
  refine ⟨⟨unfailing _ _ (by decide +kernel), pausedTwice_ignored⟩,
    unfailing _ _ (by decide +kernel), ?_⟩
  obtain ⟨paused, next, ran, unasked, isPaused, taken, isQueued⟩ := relabelled_resumes
  refine ⟨paused, ran, ?_⟩
  intro askedFor
  rw [askedFor next taken isPaused isQueued] at unasked
  cases unasked

end Petition

end KubeTemplater.Operator
