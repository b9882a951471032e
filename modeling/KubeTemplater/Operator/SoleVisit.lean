/-
An execution of `Reconcile` without failures and with nobody else at its
KubeTemplate.

Nothing then depends on the moments of its calls: what it makes of the KubeTemplate
is a function of the version it has read, whatever users, `Reconcile` and the workers
do with other KubeTemplates in between.
-/

import KubeTemplater.Operator.Stages
import KubeTemplater.Operator.Unfailing

namespace KubeTemplater.Operator

open Library Library.Program

/-- What an execution of `Reconcile` has made of its KubeTemplate. -/
structure Progress where
  /-- It has been handed to the work queue. -/
  handed : Bool
  phase : Phase
  deriving DecidableEq

def granted : Exchange client → Bool
  | ⟨.getTemplate _, answer⟩ => (answer : Except GoError KubeTemplate).isOk
  | ⟨.updateStatus _, answer⟩ => (answer : Except GoError Nat).isOk
  | _ => true

def Progress.after (progress : Progress) : Call → Progress
  | .updateStatus template => { progress with phase := template.status.processingPhase }
  | .enqueue _ _ => { progress with handed := true }
  | _ => progress

def progressing : Protocol client Progress where
  expected := fun _ request answer => granted ⟨request, answer⟩ = true
  permitted := fun _ _ => True
  after := fun progress request _ => progress.after request

def progressAfter (phase : Phase) (trace : List (Exchange client)) : Progress :=
  progressing.afterAll ⟨false, phase⟩ trace

theorem progressAfter_snoc (phase : Phase) (trace : List (Exchange client)) (request : Call)
    (answer : request.Answer) :
    progressAfter phase (trace ++ [⟨request, answer⟩]) =
      (progressAfter phase trace).after request :=
  List.foldl_append

section

variable (platform : Platform)

def reconciled (kubeTemplate : KubeTemplate) : Progress :=
  match stageAfterRead platform kubeTemplate with
  | .fresh | .queuing _ => ⟨true, .queued⟩
  | .enqueuing => ⟨true, kubeTemplate.status.processingPhase⟩
  | _ => ⟨false, kubeTemplate.status.processingPhase⟩

theorem updateAndEnqueue_progress (kubeTemplate : KubeTemplate) (status : KubeTemplateStatus)
    (queued : status.processingPhase = .queued) (progress : Progress) :
    Guarantees progressing (fun after _ => after = ⟨true, .queued⟩) progress
      (Controller.updateAndEnqueue kubeTemplate status) := by
  simp only [Controller.updateAndEnqueue, updateStatus, enqueue, call_bind, done_bind]
  refine ⟨trivial, ?_⟩
  intro answer expected
  cases answer with
  | error err => cases expected
  | ok revision =>
      refine ⟨trivial, fun _ _ => ?_⟩
      change Progress.mk true status.processingPhase = _
      rw [queued]

private theorem applyTemplateResources_progress (kubeTemplate : KubeTemplate)
    (completed : kubeTemplate.status.processingPhase = .completed) :
    Guarantees progressing (fun after _ => after = ⟨false, .completed⟩) ⟨false, .completed⟩
      (Controller.applyTemplateResources platform kubeTemplate) := by
  apply guarantees_bind (fun after _ => after = ⟨false, .completed⟩)
  · refine (applyTemplateResourceLoop_makes platform _ _).steady _ (fun _ _ => trivial) ?_
    intro request answer resource
    cases request <;> first | rfl | cases resource
  · rintro _ tally rfl
    simp only [timeNow, updateStatus, call_bind, done_bind]
    refine ⟨trivial, ?_⟩
    intro now _expected
    dsimp only
    split
    · refine ⟨trivial, ?_⟩
      intro answer expected
      cases answer with
      | error err => cases expected
      | ok revision =>
          exact congrArg (Progress.mk false)
            ((Controller.reconciledStatus_keeps _ _ _ _).1.trans completed)
    · rfl

private theorem reconcileIdle_progress (interval : Time) (kubeTemplate : KubeTemplate)
    (completed : kubeTemplate.status.processingPhase = .completed) :
    Guarantees progressing (fun after _ => after = ⟨false, .completed⟩) ⟨false, .completed⟩
      (Controller.reconcileIdle platform interval kubeTemplate) := by
  have corrects : Guarantees progressing (fun after _ => after = ⟨false, .completed⟩)
      ⟨false, .completed⟩
      (do
        let _ ← Controller.applyTemplateResources platform kubeTemplate
        pure (Controller.ReconcileResult.after interval)) := by
    apply guarantees_bind _ (applyTemplateResources_progress platform kubeTemplate completed)
    rintro _ _ rfl
    exact rfl
  unfold Controller.reconcileIdle
  cases kubeTemplate.status.lastReconcileTime with
  | none => exact corrects
  | some last =>
      simp only [timeNow, call_bind, done_bind]
      refine ⟨trivial, ?_⟩
      intro now _expected
      dsimp only
      split
      · exact rfl
      · exact corrects

private theorem reconcileCompleted_progress (interval : Time) (kubeTemplate : KubeTemplate)
    (completed : kubeTemplate.status.processingPhase = .completed) :
    Guarantees progressing (fun after _ => after = reconciled platform kubeTemplate)
      ⟨false, .completed⟩ (Controller.reconcileCompleted platform interval kubeTemplate) := by
  unfold Controller.reconcileCompleted reconciled stageAfterRead
  rw [completed]
  dsimp only
  by_cases unset : kubeTemplate.status.appliedSpecHash = ""
  · have unchanged : ¬ specChanged platform kubeTemplate := fun changed => changed.1 unset
    rw [if_neg unchanged, if_pos unset]
    simp only [updateStatus, call_bind, done_bind]
    exact ⟨trivial, fun _ _ => congrArg (Progress.mk false) completed⟩
  rw [if_neg unset]
  by_cases differs : calculateSpecHash platform kubeTemplate.spec ≠
      kubeTemplate.status.appliedSpecHash
  · have changed : specChanged platform kubeTemplate := ⟨unset, differs⟩
    rw [if_pos changed, if_pos differs]
    simp only [timeNow, call_bind, done_bind]
    exact ⟨trivial, fun _ _ => updateAndEnqueue_progress kubeTemplate _ rfl _⟩
  · have unchanged : ¬ specChanged platform kubeTemplate := fun changed => differs changed.2
    rw [if_neg unchanged, if_neg differs]
    simp only [queueContains, call_bind, done_bind]
    refine ⟨trivial, ?_⟩
    intro queued _expected
    cases queued with
    | true => exact rfl
    | false => exact reconcileIdle_progress platform interval kubeTemplate completed

private theorem queueNewTemplate_progress (key : NamespacedName) :
    Guarantees progressing (fun after result => result = none ∧ after = ⟨false, .queued⟩)
      ⟨false, .empty⟩ (Controller.queueNewTemplate key) := by
  simp only [Controller.queueNewTemplate, getTemplate, timeNow, updateStatus, call_bind, done_bind]
  refine ⟨trivial, ?_⟩
  intro answer expected
  cases answer with
  | error err => cases expected
  | ok latest =>
      refine ⟨trivial, fun now _expected => ⟨trivial, ?_⟩⟩
      intro stored confirmed
      cases stored with
      | error err => cases confirmed
      | ok revision => exact ⟨rfl, rfl⟩

private theorem reconcileNew_progress (key : NamespacedName) (kubeTemplate : KubeTemplate) :
    Guarantees progressing (fun after _ => after = ⟨true, .queued⟩) ⟨false, .empty⟩
      (Controller.reconcileNew platform key kubeTemplate) := by
  apply guarantees_bind (fun after result => result = none ∧ after = ⟨false, .queued⟩)
  · cases platform.conflictRetries with
    | zero => exact queueNewTemplate_progress key
    | succ retries =>
        apply guarantees_bind _ (queueNewTemplate_progress key)
        rintro _ _ ⟨rfl, rfl⟩
        exact ⟨rfl, rfl⟩
  · rintro _ _ ⟨rfl, rfl⟩
    exact ⟨trivial, fun _ _ => rfl⟩

/-- Every branch of `Reconcile`, given that its calls succeed. -/
theorem reconcilePhase_progress (interval : Time) (key : NamespacedName)
    (kubeTemplate : KubeTemplate) :
    Guarantees progressing (fun after _ => after = reconciled platform kubeTemplate)
      ⟨false, kubeTemplate.status.processingPhase⟩
      (Controller.reconcilePhase platform interval key kubeTemplate) := by
  unfold Controller.reconcilePhase
  cases phase : kubeTemplate.status.processingPhase with
  | paused =>
      unfold Controller.reconcilePaused reconciled stageAfterRead
      rw [phase]
      dsimp only
      by_cases resumed : mapGet kubeTemplate.metadata.annotations Controller.resumeAnnotation =
          some "true"
      · rw [if_pos resumed, if_pos resumed]
        simp only [timeNow, call_bind, done_bind]
        exact ⟨trivial, fun _ _ => updateAndEnqueue_progress kubeTemplate _ rfl _⟩
      · rw [if_neg resumed, if_neg resumed]
        exact rfl
  | failed =>
      unfold Controller.reconcileFailed reconciled stageAfterRead
      rw [phase]
      dsimp only
      by_cases changed : specChanged platform kubeTemplate
      · rw [if_pos changed]
        refine (if_pos changed).symm ▸ ?_
        simp only [timeNow, call_bind, done_bind]
        exact ⟨trivial, fun _ _ => updateAndEnqueue_progress kubeTemplate _ rfl _⟩
      · rw [if_neg changed]
        refine (if_neg changed).symm ▸ ?_
        exact ⟨trivial, fun _ _ => rfl⟩
  | completed => exact reconcileCompleted_progress platform interval kubeTemplate phase
  | empty =>
      unfold reconciled stageAfterRead
      rw [phase]
      exact reconcileNew_progress platform key kubeTemplate
  | _ =>
      unfold reconciled stageAfterRead
      rw [phase]
      exact ⟨trivial, fun _ _ => rfl⟩

end

namespace Journal

variable (config : Config)

/-- The KubeTemplate that the event is about; a worker's turn is about that of its item. -/
def subject (journal : Journal) : Event → Option NamespacedName
  | .operator (.create template) => some template.key
  | .operator (.update key _ _ _) => some key
  | .operator (.remove key) => some key
  | .operator (.setPolicy _ _) => none
  | .operator (.pass _) => none
  | .operator (.deliver key) => some key
  | .operator (.controller key _) => some key
  | .operator (.dequeue worker) =>
      journal.system.session.concerns (.dequeue worker journal.system.clock)
  | .operator (.worker worker _) => (journal.system.workers worker).map Execution.key
  | .expire key => some key

/-- Nobody but `Reconcile` is at the KubeTemplate, and its calls for it succeed; it is
started for it once. -/
def Sole (key : NamespacedName) (journal : Journal) (event : Event) : Prop :=
  journal.subject event = some key →
    match event with
    | .operator (.deliver _) => journal.visits key = []
    | .operator (.controller _ outcome) =>
        ∀ execution, journal.system.reconciles key = some execution →
          Passes execution.program outcome
    | .expire _ => True
    | _ => False

/-- What the step leaves alone. -/
structure Elsewhere (key : NamespacedName) (journal next : Journal) : Prop where
  templates : next.system.templates key = journal.system.templates key
  reconciles : next.system.reconciles key = journal.system.reconciles key
  visits : next.visits key = journal.visits key
  session : journal.system.session.SameAt key next.system.session

section Elsewhere

variable {config} {journal next : Journal} {key : NamespacedName}

private theorem users_elsewhere {label : Label} (keyed : journal.system.Keyed)
    (users : isUsers label = true) (other : journal.subject (.operator label) ≠ some key)
    (taken : journal.step config (.operator label) = some next) : journal.Elsewhere key next := by
  have aside := step_users config users taken
  refine ⟨?_, congrFun aside.reconciles key, congrFun aside.visits key, ?_⟩
  · obtain ⟨system, stepped, rfl⟩ := step_operator config taken
    cases label with
    | create template =>
        obtain ⟨_free, rfl⟩ := System.step_create config stepped
        exact put_templates_other _ _ _ (fun same => other (congrArg some same.symm))
    | update wanted spec labels annotations =>
        obtain ⟨old, isStored, effect⟩ := System.step_update config stepped
        have apart : key ≠ (System.edited old spec labels annotations).key :=
          fun same => other (congrArg some ((keyed wanted old isStored).symm.trans same.symm))
        rcases effect with ⟨_, rfl⟩ | ⟨_, rfl⟩
        · exact put_templates_other _ _ _ apart
        · exact put_templates_other _ _ _ apart
    | remove wanted =>
        rw [System.step_remove config stepped]
        exact Function.update_of_ne (fun same => other (congrArg some same.symm)) _ _
    | setPolicy source answer =>
        cases stepped
        rfl
    | pass elapsed =>
        cases stepped
        rfl
    | _ => cases users
  · rw [aside.session]
    exact Queue.Session.sameAt_refl _ _

private theorem controller_elsewhere (faithful : journal.Faithful config) {wanted : NamespacedName}
    {outcome : Outcome} (different : wanted ≠ key)
    (taken : journal.step config (.operator (.controller wanted outcome)) = some next) :
    journal.Elsewhere key next := by
  have apart : key ≠ wanted := different.symm
  obtain ⟨execution, inside, effect⟩ := step_controller config taken
  rcases effect with ⟨result, _isDone, rfl⟩ | ⟨request, rest, answered, calls, isAnswer, rfl⟩
  · exact ⟨rfl, Function.update_of_ne apart _ _, rfl, Queue.Session.sameAt_refl _ _⟩
  · have permitted := visit_permitted faithful inside calls
    have untouched : System.Apart journal.system answered.2 key := by
      refine (System.respond_effect isAnswer).apart faithful.keyed faithful.valid ?_ ?_
      · rintro template rfl same
        exact different (permitted.1.symm.trans same)
      · rintro enqueued priority rfl same
        exact different (permitted.symm.trans same)
    exact ⟨untouched.templates, Function.update_of_ne apart _ _, Function.update_of_ne apart _ _,
      untouched.session⟩

private theorem worker_elsewhere (faithful : journal.Faithful config) {worker : Nat}
    {outcome : Outcome}
    (other : (journal.system.workers worker).map Execution.key ≠ some key)
    (taken : journal.step config (.operator (.worker worker outcome)) = some next) :
    journal.Elsewhere key next := by
  obtain ⟨execution, inside, effect⟩ := step_worker config taken
  have different : execution.key ≠ key := by
    intro same
    apply other
    rw [inside, ← same]
    rfl
  rcases effect with ⟨disposition, session, _isDone, ends, rfl⟩ |
    ⟨request, rest, answered, calls, isAnswer, rfl⟩
  · obtain ⟨ref, item, turn⟩ := faithful.turn worker execution inside
    refine ⟨rfl, rfl, rfl, ?_⟩
    cases disposition with
    | done =>
        exact Queue.Session.step_sameAt (.done worker) faithful.valid
          (fun impossible => by cases impossible) ends
    | requeue err =>
        refine Queue.Session.step_sameAt (.requeue worker _) faithful.valid ?_ ends
        intro same
        simp only [Queue.Session.concerns, turn.held, Option.map_some, turn.key,
          Option.some.injEq] at same
        exact different same
  · have permitted := turn_permitted faithful inside calls
    have effect := System.respond_effect isAnswer
    have untouched : System.Apart journal.system answered.2 key := by
      refine effect.apart faithful.keyed faithful.valid ?_ ?_
      · rintro template rfl same
        exact different (permitted.1.symm.trans same)
      · rintro enqueued priority rfl _same
        exact permitted.elim
    exact ⟨untouched.templates, congrFun effect.frame.reconciles key, rfl, untouched.session⟩

/-- A step that is about another KubeTemplate leaves this one alone. -/
theorem step_elsewhere {event : Event} (faithful : journal.Faithful config)
    (other : journal.subject event ≠ some key) (taken : journal.step config event = some next) :
    journal.Elsewhere key next := by
  cases event with
  | expire wanted =>
      obtain ⟨_waits, rfl⟩ := step_expire config taken
      exact ⟨rfl, rfl, rfl, Queue.Session.sameAt_refl _ _⟩
  | operator label =>
      cases label with
      | deliver wanted =>
          obtain ⟨_free, rfl⟩ := step_deliver config taken
          have apart : key ≠ wanted := fun same => other (congrArg some same.symm)
          exact ⟨rfl, Function.update_of_ne apart _ _, Function.update_of_ne apart _ _,
            Queue.Session.sameAt_refl _ _⟩
      | controller wanted outcome =>
          exact controller_elsewhere faithful (fun same => other (congrArg some same)) taken
      | dequeue worker =>
          obtain ⟨session, ref, _free, dequeued, _hands, _holds, rfl⟩ := step_dequeue config taken
          exact ⟨rfl, rfl, rfl, Queue.Session.step_sameAt (.dequeue worker _) faithful.valid other
            dequeued⟩
      | worker worker outcome => exact worker_elsewhere faithful other taken
      | _ => exact users_elsewhere faithful.keyed rfl other taken

end Elsewhere

structure Attended (origin : KubeTemplate) (queuedBefore : Prop) (key : NamespacedName)
    (journal : Journal) : Prop where
  faithful : journal.Faithful config
  read : journal.visits key = [] ∨
    ∃ rest, journal.visits key = ⟨.getTemplate key, .ok origin⟩ :: rest
  granted : ∀ exchange, exchange ∈ journal.visits key → granted exchange = true
  unread : journal.visits key = [] → journal.system.templates key = some origin
  stored : ∃ latest, journal.system.templates key = some latest ∧
    latest.status.processingPhase =
      (progressAfter origin.status.processingPhase (journal.visits key)).phase
  queued : Queued journal.system.session key ↔ queuedBefore ∨
    (progressAfter origin.status.processingPhase (journal.visits key)).handed = true
  ended : journal.system.reconciles key = none → journal.visits key ≠ [] → ∃ result,
    Executes (Controller.reconcile config.platform config.interval key) (journal.visits key) result

variable {config} {journal next : Journal} {key : NamespacedName} {origin : KubeTemplate}
  {queuedBefore : Prop}

theorem attended_deliver (faithful : journal.Faithful config)
    (isStored : journal.system.templates key = some origin)
    (taken : journal.step config (.operator (.deliver key)) = some next) :
    next.Attended config origin (Queued journal.system.session key) key := by
  have nextFaithful := step_faithful journal _ next faithful taken
  obtain ⟨_free, rfl⟩ := step_deliver config taken
  have isNew : Function.update journal.visits key [] key = [] := Function.update_self _ _ _
  refine ⟨nextFaithful, .inl isNew, ?_, fun _ => isStored, ⟨origin, isStored, ?_⟩, ?_, ?_⟩
  · intro exchange member
    dsimp only at member
    rw [isNew] at member
    cases member
  · dsimp only
    rw [isNew]
    rfl
  · dsimp only
    rw [isNew]
    exact ⟨.inl, fun either => either.elim id (fun impossible => by cases impossible)⟩
  · intro free
    have started := (Function.update_self _ _ _).symm.trans free
    cases started

variable {execution : Execution Controller.ReconcileResult}

private theorem call_progress (faithful : journal.Faithful config) {outcome : Outcome}
    {request : Call}
    {rest : request.Answer → Program client Controller.ReconcileResult}
    {answered : request.Answer × System} (inside : journal.system.reconciles key = some execution)
    (calls : execution.program = .call request rest)
    (isAnswer : journal.system.respond request outcome = some answered)
    (passes : Passes execution.program outcome) {progress : Progress}
    (stored : ∃ latest, journal.system.templates key = some latest ∧
      latest.status.processingPhase = progress.phase)
    (queued : Queued journal.system.session key ↔ queuedBefore ∨ progress.handed = true) :
    granted ⟨request, answered.1⟩ = true ∧
      (∃ latest, answered.2.templates key = some latest ∧
        latest.status.processingPhase = (progress.after request).phase) ∧
      (Queued answered.2.session key ↔ queuedBefore ∨ (progress.after request).handed = true) := by
  have permitted := visit_permitted faithful inside calls
  cases request with
  | getTemplate wanted =>
      have success := passes.success calls (fun _ _ _ impossible => by cases impossible)
      have same : wanted = key := permitted
      obtain ⟨latest, isStored, phase⟩ := stored
      rw [respond_read success isAnswer, same, found_stored isStored]
      exact ⟨rfl, ⟨latest, isStored, phase⟩, queued⟩
  | updateStatus template =>
      have success := passes.success calls (fun _ _ _ impossible => by cases impossible)
      obtain ⟨old, wasStored, _version, rfl⟩ := respond_updateStatus success isAnswer
      have isKey : ({ old with status := template.status } : KubeTemplate).key = key :=
        (faithful.keyed template.key old wasStored).trans permitted.1
      refine ⟨rfl, ⟨journal.system.stamp { old with status := template.status }, ?_, rfl⟩, queued⟩
      rw [← isKey]
      exact put_templates_self _ _
  | enqueue wanted priority =>
      have same : wanted = key := permitted
      rw [respond_enqueue isAnswer]
      refine ⟨rfl, stored, ?_⟩
      exact ⟨fun _ => .inr rfl,
        fun _ => (queued_enqueue faithful.valid wanted key priority _).mpr (.inl same.symm)⟩
  | _ =>
      have unchanged := respond_unchanged isAnswer (fun _ impossible => by cases impossible)
        (fun _ _ impossible => by cases impossible)
      rw [unchanged]
      exact ⟨rfl, stored, queued⟩

section Attending

variable (attended : journal.Attended config origin queuedBefore key)

include attended

theorem Attended.first {outcome : Outcome} {request : Call}
    {rest : request.Answer → Program client Controller.ReconcileResult}
    {answered : request.Answer × System} (inside : journal.system.reconciles key = some execution)
    (calls : execution.program = .call request rest)
    (isAnswer : journal.system.respond request outcome = some answered)
    (passes : Passes execution.program outcome) (unread : journal.visits key = []) :
    (⟨request, answered.1⟩ : Exchange client) = ⟨.getTemplate key, .ok origin⟩ := by
  have leaves := (attended.faithful.visit key execution inside).1
  rw [unread, calls] at leaves
  have isFirst := leaves_nil leaves
  cases isFirst
  have success := passes.success calls (fun _ _ _ impossible => by cases impossible)
  rw [respond_read success isAnswer, found_stored (attended.unread unread)]

theorem Attended.called {outcome : Outcome} {request : Call}
    {rest : request.Answer → Program client Controller.ReconcileResult}
    {answered : request.Answer × System} (inside : journal.system.reconciles key = some execution)
    (calls : execution.program = .call request rest)
    (isAnswer : journal.system.respond request outcome = some answered)
    (passes : Passes execution.program outcome)
    (taken : journal.step config (.operator (.controller key outcome)) = some next) :
    next.Attended config origin queuedBefore key := by
  have nextFaithful := step_faithful journal _ next attended.faithful taken
  obtain ⟨isGranted, stored, queued⟩ := call_progress attended.faithful inside calls isAnswer passes
    attended.stored attended.queued
  have isFirst := attended.first inside calls isAnswer passes
  have isNext := step_controller_call config taken inside calls isAnswer
  have visits : next.visits key = journal.visits key ++ [⟨request, answered.1⟩] := by
    rw [isNext]
    exact Function.update_self _ _ _
  have extended : next.visits key ≠ [] := by
    rw [visits]
    exact List.append_ne_nil_of_right_ne_nil _ (List.cons_ne_nil _ _)
  refine ⟨nextFaithful, .inr ?_, ?_, fun unread => absurd unread extended, ?_, ?_, ?_⟩
  · rw [visits]
    rcases attended.read with unread | ⟨later, isRead⟩
    · exact ⟨[], by rw [unread, isFirst unread]; rfl⟩
    · exact ⟨later ++ [⟨request, answered.1⟩], by rw [isRead]; rfl⟩
  · intro exchange member
    rw [visits] at member
    rcases List.mem_append.mp member with early | last
    · exact attended.granted exchange early
    · rw [List.mem_singleton.mp last]
      exact isGranted
  · rw [visits, progressAfter_snoc, isNext]
    exact stored
  · rw [visits, progressAfter_snoc, isNext]
    exact queued
  · intro free
    rw [isNext] at free
    have still := (Function.update_self _ _ _).symm.trans free
    cases still

/-- Nothing at the KubeTemplate has changed, and its execution has not ended. -/
theorem Attended.kept (faithful : next.Faithful config)
    (visits : next.visits key = journal.visits key)
    (templates : next.system.templates key = journal.system.templates key)
    (queued : Queued next.system.session key ↔ Queued journal.system.session key)
    (reconciles : next.system.reconciles key = none → journal.system.reconciles key = none) :
    next.Attended config origin queuedBefore key := by
  refine ⟨faithful, ?_, ?_, ?_, ?_, ?_, ?_⟩
  · rw [visits]
    exact attended.read
  · rw [visits]
    exact attended.granted
  · rw [visits, templates]
    exact attended.unread
  · rw [visits, templates]
    exact attended.stored
  · rw [visits, queued]
    exact attended.queued
  · rw [visits]
    exact fun free => attended.ended (reconciles free)

theorem Attended.elsewhere (faithful : next.Faithful config)
    (elsewhere : journal.Elsewhere key next) :
    next.Attended config origin queuedBefore key :=
  attended.kept faithful elsewhere.visits elsewhere.templates
    (exists_congr elsewhere.session.items) (fun free => elsewhere.reconciles.symm.trans free)

end Attending

theorem Attended.step (journal : Journal) (event : Event) (next : Journal)
    (attended : journal.Attended config origin queuedBefore key)
    (sole : journal.Sole key event) (taken : journal.step config event = some next) :
    next.Attended config origin queuedBefore key := by
  have nextFaithful := step_faithful journal event next attended.faithful taken
  by_cases own : journal.subject event = some key
  · have allowed := sole own
    cases event with
    | expire wanted =>
        obtain ⟨_waits, rfl⟩ := step_expire config taken
        exact attended.kept nextFaithful rfl rfl Iff.rfl id
    | operator label =>
        cases label with
        | deliver wanted =>
            cases own
            obtain ⟨_free, rfl⟩ := step_deliver config taken
            have visits : Function.update journal.visits key [] key = journal.visits key := by
              rw [allowed]
              exact Function.update_self _ _ _
            refine attended.kept nextFaithful visits rfl Iff.rfl ?_
            intro free
            have started := (Function.update_self _ _ _).symm.trans free
            cases started
        | controller wanted outcome =>
            cases own
            obtain ⟨execution, inside, effect⟩ := step_controller config taken
            rcases effect with ⟨result, isDone, rfl⟩ |
              ⟨request, rest, answered, calls, isAnswer, _⟩
            · have leaves := (attended.faithful.visit key execution inside).1
              rw [isDone] at leaves
              exact ⟨nextFaithful, attended.read, attended.granted, attended.unread,
                attended.stored, attended.queued, fun _ _ => ⟨result, leaves.executes⟩⟩
            · exact attended.called inside calls isAnswer (allowed execution inside) taken
        | _ => exact allowed.elim
  · exact attended.elsewhere nextFaithful (step_elsewhere attended.faithful own taken)

theorem Attended.progress (attended : journal.Attended config origin queuedBefore key)
    (free : journal.system.reconciles key = none) (visited : journal.visits key ≠ []) :
    progressAfter origin.status.processingPhase (journal.visits key) =
      reconciled config.platform origin := by
  obtain ⟨result, execution⟩ := attended.ended free visited
  rcases attended.read with unread | ⟨rest, isRead⟩
  · exact absurd unread visited
  · have granted := attended.granted
    rw [isRead] at execution granted ⊢
    obtain ⟨answer, later, same, after⟩ := (executes_call_iff _ _ _ _).mp execution
    cases same
    exact (reconcilePhase_progress config.platform config.interval key origin).leaves after.leaves
      (fun exchange member _ => granted exchange (List.mem_cons_of_mem _ member))

theorem Attended.finished (attended : journal.Attended config origin queuedBefore key)
    (free : journal.system.reconciles key = none) (visited : journal.visits key ≠ []) :
    (Queued journal.system.session key ↔
        queuedBefore ∨ (reconciled config.platform origin).handed = true) ∧
      ∃ latest, journal.system.templates key = some latest ∧
        latest.status.processingPhase = (reconciled config.platform origin).phase := by
  rw [← attended.progress free visited]
  exact ⟨attended.queued, attended.stored⟩

/-- Calls of the execution alone, none of which fails. -/
def callsOf (key : NamespacedName) (calls : Nat) : List Event :=
  List.replicate calls (.operator (.controller key .succeeds))

theorem callsOf_sole (config : Config) (key : NamespacedName) (calls : Nat) (journal : Journal) :
    Along (Journal.step config) (Sole key) journal (callsOf key calls) := by
  induction calls generalizing journal with
  | zero => trivial
  | succ calls ih => exact ⟨fun _ _ _ => .inl rfl, fun next _ => ih next⟩

/-- The execution under way can go on to its end, by its own calls and without failures. -/
def CanEnd (config : Config) (key : NamespacedName) (journal : Journal) : Prop :=
  ∃ calls final, run (Journal.step config) journal (callsOf key calls) = some final ∧
    final.visits key ≠ [] ∧ final.system.reconciles key = none

private theorem canEnd_step
    (taken : journal.step config (.operator (.controller key .succeeds)) = some next)
    (goesOn : next.CanEnd config key) : journal.CanEnd config key := by
  obtain ⟨calls, final, ran, visited, ended⟩ := goesOn
  exact ⟨calls + 1, final, (run_cons_iff _ _ _ _ _).mpr ⟨next, taken, ran⟩, visited, ended⟩

theorem canEnd_done {result : Controller.ReconcileResult}
    (inside : journal.system.reconciles key = some execution)
    (isDone : execution.program = .done result) (visited : journal.visits key ≠ []) :
    journal.CanEnd config key := by
  obtain ⟨next, taken⟩ : ∃ next,
      journal.step config (.operator (.controller key .succeeds)) = some next := by
    simp only [Journal.step, System.step, inside, isDone, Option.map_some, Option.some.injEq,
      exists_eq']
  refine canEnd_step taken ⟨0, next, rfl, ?_⟩
  obtain ⟨_, isSame, effect⟩ := step_controller config taken
  rw [inside] at isSame
  cases isSame
  rcases effect with ⟨_result, _isDone, rfl⟩ | ⟨_, _, _, calls, _⟩
  · exact ⟨visited, Function.update_self _ _ _⟩
  · rw [isDone] at calls
    cases calls

theorem canEnd_call {request : Call}
    {rest : request.Answer → Program client Controller.ReconcileResult}
    {answered : request.Answer × System} (inside : journal.system.reconciles key = some execution)
    (calls : execution.program = .call request rest)
    (isAnswer : journal.system.respond request .succeeds = some answered)
    (goesOn : ∀ next : Journal, next.system.templates = answered.2.templates →
      next.system.reconciles key = some (execution.advance request rest answered.1) →
      next.visits key ≠ [] → next.CanEnd config key) :
    journal.CanEnd config key := by
  obtain ⟨next, taken⟩ : ∃ next,
      journal.step config (.operator (.controller key .succeeds)) = some next := by
    simp only [Journal.step, System.step, inside, calls, isAnswer, Option.map_some,
      Option.some.injEq, exists_eq']
  refine canEnd_step taken ?_
  have isNext := step_controller_call config taken inside calls isAnswer
  subst isNext
  refine goesOn _ rfl (Function.update_self _ _ _) ?_
  dsimp only
  rw [Function.update_self]
  exact List.append_ne_nil_of_right_ne_nil _ (List.cons_ne_nil _ _)

theorem canEnd_updateAndEnqueue {origin : KubeTemplate} {status : Time → KubeTemplateStatus}
    (inside : journal.system.reconciles key = some execution) (program : execution.program =
      .call .now (fun now => Controller.updateAndEnqueue origin (status now)))
    (isStored : journal.system.templates origin.key = some origin) :
    journal.CanEnd config key := by
  refine canEnd_call inside program rfl ?_
  intro afterNow templates inside _visited
  have isCurrent : afterNow.system.templates origin.key = some origin := by
    rw [templates]
    exact isStored
  refine canEnd_call inside rfl (respond_current isCurrent _) ?_
  intro afterWrite _ inside _visited
  refine canEnd_call inside rfl rfl ?_
  intro afterEnqueue _ inside visited
  exact canEnd_done inside rfl visited

end Journal

end KubeTemplater.Operator
