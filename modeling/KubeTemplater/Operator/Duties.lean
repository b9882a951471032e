/-
What an execution owes its KubeTemplate.

A worker takes responsibility for a KubeTemplate with its item.  It is rid of it
when it has written a phase in which nothing is to be done, or has found the
KubeTemplate gone, and takes it on again with every other status it writes.
`Reconcile` is rid of it when it has handed the KubeTemplate to the work queue or
found it in the hands of others.
-/

import KubeTemplater.Operator.Journal

namespace KubeTemplater.Operator

open Library Library.Program

def settled : Phase → Bool
  | .completed | .paused => true
  | _ => false

def keyedAnswer : (request : Call) → request.Answer → Prop
  | .getTemplate wanted, answer => ∀ template, answer = .ok template → template.key = wanted
  | _, _ => True

def settles : Exchange client → Bool
  | ⟨.getTemplate _, answer⟩ =>
      match (answer : Except GoError KubeTemplate) with
      | .error err => err.isNotFound
      | .ok _ => false
  | ⟨.updateStatus template, answer⟩ =>
      match (answer : Except GoError Nat) with
      | .error _ => false
      | .ok _ => settled template.status.processingPhase
  | _ => false

/-- A status in which something is to be done is written, whatever the answer. -/
def unsettles : Call → Bool
  | .updateStatus template => !settled template.status.processingPhase
  | _ => false

def owesAfter (owes : Bool) (request : Call) (answer : request.Answer) : Bool :=
  if settles ⟨request, answer⟩ then false else unsettles request || owes

theorem owesAfter_settles {owes : Bool} {request : Call} {answer : request.Answer}
    (isSettled : settles ⟨request, answer⟩ = true) : owesAfter owes request answer = false :=
  if_pos isSettled

theorem owesAfter_unsettled {owes : Bool} {template : KubeTemplate}
    {answer : Except GoError Nat} (unsettled : settled template.status.processingPhase = false) :
    owesAfter owes (.updateStatus template) answer = true := by
  have writes : unsettles (.updateStatus template) = true :=
    congrArg (fun isSettled => !isSettled) unsettled
  have unmoved : settles ⟨.updateStatus template, answer⟩ = false := by
    cases answer with
    | error err => rfl
    | ok revision => exact unsettled
  unfold owesAfter
  rw [if_neg (Bool.eq_false_iff.mp unmoved), writes, Bool.true_or]

def tending (key : NamespacedName) (phases : Phase → Prop) : Protocol client Bool where
  expected := fun _ => keyedAnswer
  permitted := fun _ request =>
    match request with
    | .getTemplate wanted => wanted = key
    | .updateStatus template => template.key = key ∧ phases template.status.processingPhase
    | .enqueue _ _ => False
    | _ => True
  after := owesAfter

def owes (trace : List (Exchange client)) : Bool :=
  (tending ⟨"", ""⟩ (fun _ => True)).afterAll true trace

private theorem owes_append (front back : List (Exchange client)) (key : NamespacedName)
    (phases : Phase → Prop) :
    owes (front ++ back) = (tending key phases).afterAll (owes front) back :=
  List.foldl_append

theorem owes_snoc (trace : List (Exchange client)) (request : Call) (answer : request.Answer) :
    owes (trace ++ [⟨request, answer⟩]) = owesAfter (owes trace) request answer :=
  owes_append trace _ ⟨"", ""⟩ (fun _ => True)

section Turn

variable {key : NamespacedName} {phases : Phase → Prop}

theorem updateStatusTurns_tending (update : KubeTemplateStatus → KubeTemplateStatus)
    (phase : Phase) (sets : ∀ status, (update status).processingPhase = phase)
    (allowed : phases phase) (turns : Nat) (before : Bool) (kubeTemplate : KubeTemplate)
    (own : kubeTemplate.key = key) :
    Guarantees (tending key phases)
      (fun after result => result.1.key = key ∧
        (result.2 = none → settled phase = true → after = false))
      before (Worker.updateStatusTurns update turns kubeTemplate) := by
  induction turns generalizing before kubeTemplate with
  | zero =>
      refine ⟨own, ?_⟩
      intro succeeded
      cases succeeded
  | succ turns ih =>
      simp only [Worker.updateStatusTurns, getTemplate, updateStatus, call_bind, done_bind]
      refine ⟨own, ?_⟩
      intro answer expected
      cases answer with
      | error err =>
          refine ⟨own, ?_⟩
          intro succeeded
          cases succeeded
      | ok latest =>
          have same : latest.key = key := (expected latest rfl).trans own
          refine ⟨⟨same, (congrArg phases (sets latest.status)).mpr allowed⟩, ?_⟩
          intro stored _expected
          cases stored with
          | ok revision =>
              refine ⟨same, ?_⟩
              intro _succeeded isSettled
              exact owesAfter_settles ((congrArg settled (sets latest.status)).trans isSettled)
          | error err =>
              dsimp only
              split
              · exact ih _ _ same
              · refine ⟨same, ?_⟩
                intro succeeded
                cases succeeded

variable (platform : Platform)

def applyPhase (phase : Phase) : Prop :=
  phase = .processing ∨ phase = .failed ∨ phase = .completed

variable (allowed : ∀ phase, applyPhase phase → phases phase)
include allowed

private theorem writeFailed_tending (text : String) (now : Time) (before : Bool)
    (kubeTemplate : KubeTemplate) (own : kubeTemplate.key = key) (failure : Option GoError) :
    Guarantees (tending key phases) (fun _ result => result.1.key = key) before
      (do
        let (kubeTemplate, _) ← Worker.updateStatusWithRetry kubeTemplate
          (Worker.failedStatus text now)
        pure (kubeTemplate, failure)) := by
  apply guarantees_bind (fun _ result => result.1.key = key)
  · exact (updateStatusTurns_tending _ .failed (fun _ => rfl)
      (allowed _ (.inr (.inl rfl))) 3 _ _ own).mono (fun _ _ held => held.1)
  · intro after result still
    exact still

private theorem applyObject_tending (before : Bool) (kubeTemplate : KubeTemplate)
    (template : Template)
    (gvk : GroupVersionKind) (object : Unstructured) (own : kubeTemplate.key = key) :
    Guarantees (tending key phases) (fun _ result => result.1.key = key) before
      (Worker.applyObject platform kubeTemplate template gvk object) := by
  simp only [Worker.applyObject, patch, deleteResource, timeNow, call_bind, done_bind]
  refine ⟨trivial, ?_⟩
  intro answer _expected
  cases answer with
  | ok stored => exact own
  | error err =>
      dsimp only
      split
      · refine ⟨trivial, ?_⟩
        intro deleted _expected
        cases deleted with
        | error refused => exact own
        | ok nothing => exact ⟨trivial, fun _ _ => own⟩
      · refine ⟨trivial, ?_⟩
        intro now _expected
        exact writeFailed_tending allowed _ now _ kubeTemplate own (some err)

private theorem processTemplate_tending (policy : KubeTemplatePolicy) (before : Bool)
    (kubeTemplate : KubeTemplate) (template : Template) (own : kubeTemplate.key = key) :
    Guarantees (tending key phases) (fun _ result => result.1.key = key) before
      (Worker.processTemplate platform policy kubeTemplate template) := by
  unfold Worker.processTemplate
  cases platform.unmarshal template.object.raw with
  | error text => exact own
  | ok decoded =>
      dsimp only
      cases Worker.checkPolicy platform policy
          (defaultNamespace platform kubeTemplate.metadata.ns decoded) with
      | error text =>
          simp only [timeNow, call_bind, done_bind]
          refine ⟨trivial, ?_⟩
          intro now _expected
          exact writeFailed_tending allowed text now _ kubeTemplate own none
      | ok rule => exact applyObject_tending platform allowed _ _ _ _ _ own

private theorem processTemplates_tending (policy : KubeTemplatePolicy) (templates : List Template)
    (before : Bool) (kubeTemplate : KubeTemplate) (own : kubeTemplate.key = key) :
    Guarantees (tending key phases) (fun _ result => result.1.key = key) before
      (Worker.processTemplates platform policy templates kubeTemplate) := by
  induction templates generalizing before kubeTemplate with
  | nil => exact own
  | cons template rest ih =>
      apply guarantees_bind (fun _ result => result.1.key = key)
      · exact processTemplate_tending platform allowed policy before kubeTemplate template own
      · intro after result still
        obtain ⟨changed, failure⟩ := result
        cases failure with
        | some err => exact still
        | none => exact ih after changed still

/-- The loop and the write of Completed: nil is returned only after that write. -/
theorem applyTemplates_tending (policy : KubeTemplatePolicy) (before : Bool)
    (kubeTemplate : KubeTemplate) (own : kubeTemplate.key = key) :
    Guarantees (tending key phases) (fun after result => result = none → after = false) before
      (Worker.applyTemplates platform policy kubeTemplate) := by
  apply guarantees_bind (fun _ result => result.1.key = key)
  · exact processTemplates_tending platform allowed policy _ before kubeTemplate own
  · intro after result still
    obtain ⟨changed, failure⟩ := result
    cases failure with
    | some err =>
        intro succeeded
        cases succeeded
    | none =>
        simp only [Worker.completeTemplate, timeNow, call_bind, done_bind]
        refine ⟨trivial, ?_⟩
        intro now _expected
        apply guarantees_bind (fun after result => result.2 = none → after = false)
        · exact (updateStatusTurns_tending _ .completed (fun _ => rfl)
            (allowed _ (.inr (.inr rfl))) 3 _ _ still).mono
              (fun _ _ held succeeded => held.2 succeeded rfl)
        · intro last result held
          exact held

private theorem processFetched_tending (operatorNamespace : String) (before : Bool)
    (kubeTemplate : KubeTemplate) (own : kubeTemplate.key = key) :
    Guarantees (tending key phases) (fun after result => result = none → after = false) before
      (Worker.processFetched platform operatorNamespace kubeTemplate) := by
  apply guarantees_bind (fun _ result => result.1.key = key)
  · exact (updateStatusTurns_tending _ .processing (fun _ => rfl)
      (allowed _ (.inl rfl)) 3 _ _ own).mono (fun _ _ held => held.1)
  · intro after result still
    obtain ⟨kubeTemplate, failure⟩ := result
    simp only [policyCacheGet, call_bind, done_bind]
    refine ⟨trivial, ?_⟩
    intro answer _expected
    cases answer with
    | error err =>
        simp only [timeNow, call_bind, done_bind]
        refine ⟨trivial, ?_⟩
        intro now _expected
        apply guarantees_bind (fun _ _ => True)
        · exact (updateStatusTurns_tending _ .failed (fun _ => rfl)
            (allowed _ (.inr (.inl rfl))) 3 _ _ still).mono (fun _ _ _ => trivial)
        · intro later result _held succeeded
          cases succeeded
    | ok granted => exact applyTemplates_tending platform allowed granted _ kubeTemplate still

theorem processItem_tending (operatorNamespace : String) (before : Bool) :
    Guarantees (tending key phases) (fun after result => result = none → after = false) before
      (Worker.processItem platform operatorNamespace key) := by
  simp only [Worker.processItem, getTemplate, call_bind, done_bind]
  refine ⟨rfl, ?_⟩
  intro answer expected
  cases answer with
  | error err =>
      dsimp only
      split
      · rename_i missing
        intro _succeeded
        exact owesAfter_settles missing
      · intro succeeded
        cases succeeded
  | ok kubeTemplate =>
      exact processFetched_tending platform allowed operatorNamespace _ kubeTemplate
        (expected kubeTemplate rfl)

omit allowed

/-- The pause branch writes Paused and nothing else. -/
theorem pauseTemplate_tending (paused : phases .paused) (maxRetryCycles : Int) (err : GoError)
    (before : Bool) :
    Guarantees (tending key phases) (fun _ _ => True) before
      (Worker.pauseTemplate maxRetryCycles key err) := by
  simp only [Worker.pauseTemplate, getTemplate, timeNow, call_bind, done_bind]
  refine ⟨rfl, ?_⟩
  intro answer expected
  cases answer with
  | error err => exact trivial
  | ok kubeTemplate =>
      refine ⟨trivial, ?_⟩
      intro now _expected
      apply guarantees_bind (fun _ _ => True)
      · exact (updateStatusTurns_tending _ .paused (fun _ => rfl) paused 3 _ _
          (expected kubeTemplate rfl)).mono (fun _ _ _ => trivial)
      · intro later result _held
        obtain ⟨changed, failure⟩ := result
        cases failure with
        | some err => exact trivial
        | none => exact ⟨trivial, fun _ _ => trivial⟩

def turnPhase (phase : Phase) : Prop :=
  applyPhase phase ∨ phase = .paused

theorem handleItem_tending (operatorNamespace : String) (maxRetryCycles : Int)
    (item : Queue.WorkItem) :
    Guarantees (tending item.namespacedName turnPhase) (fun _ _ => True) true
      (Worker.handleItem platform operatorNamespace maxRetryCycles item) := by
  apply guarantees_bind (fun _ _ => True)
  · exact (processItem_tending platform (fun _ => .inl) operatorNamespace true).mono
      (fun _ _ _ => trivial)
  · intro after result _held
    cases result with
    | none => exact trivial
    | some err =>
        dsimp only
        split
        · apply guarantees_bind (fun _ _ => True)
          · exact pauseTemplate_tending (.inr rfl) maxRetryCycles err after
          · intro _ _ _
            exact trivial
        · exact trivial

def Answered (trace : List (Exchange client)) : Prop :=
  ∀ exchange, exchange ∈ trace → keyedAnswer exchange.request exchange.answer

theorem Answered.append {front back : List (Exchange client)}
    (answered : Answered (front ++ back)) :
    Answered front ∧ Answered back :=
  List.forall_mem_append.mp answered

/-- The pause branch was taken, and it neither wrote Paused nor found the
KubeTemplate missing. -/
def Abandons (operatorNamespace : String) (maxRetryCycles : Int) (key : NamespacedName)
    (trace : List (Exchange client)) : Prop :=
  ∃ front back err, trace = front ++ back ∧
    Executes (Worker.processItem platform operatorNamespace key) front (some err) ∧
    Executes (Worker.pauseTemplate maxRetryCycles key err) back () ∧
    ∀ exchange, exchange ∈ back → settles exchange = false

/-- Where nothing unsettled is written, one exchange that settles is enough. -/
theorem afterAll_settled (trace : List (Exchange client)) (before : Bool)
    (quiet : ∀ exchange, exchange ∈ trace → unsettles exchange.request = false)
    (released : before = false ∨ ∃ exchange, exchange ∈ trace ∧ settles exchange = true) :
    (tending key phases).afterAll before trace = false := by
  induction trace generalizing before with
  | nil =>
      rcases released with released | ⟨exchange, member, _⟩
      · exact released
      · cases member
  | cons exchange rest ih =>
      refine ih _ (fun other member => quiet other (List.mem_cons_of_mem _ member)) ?_
      cases now : settles exchange with
      | true => exact .inl (owesAfter_settles now)
      | false =>
          rcases released with released | ⟨other, member, isSettled⟩
          · refine .inl ((if_neg (Bool.eq_false_iff.mp now)).trans ?_)
            rw [quiet exchange List.mem_cons_self, released]
            rfl
          · rcases List.mem_cons.mp member with same | later
            · rw [same, now] at isSettled
              cases isSettled
            · exact .inr ⟨other, later, isSettled⟩

theorem handleItem_done (operatorNamespace : String) (maxRetryCycles : Int)
    (item : Queue.WorkItem) (trace : List (Exchange client)) (answered : Answered trace)
    (execution : Executes (Worker.handleItem platform operatorNamespace maxRetryCycles item) trace
      .done) :
    owes trace = false ∨
      Abandons platform operatorNamespace maxRetryCycles item.namespacedName trace := by
  obtain ⟨front, back, result, rfl, processed, ended⟩ := (executes_bind_iff _ _ _ _).mp execution
  obtain ⟨answeredFront, answeredBack⟩ := answered.append
  have returned := (processItem_tending platform (fun _ => id) operatorNamespace true).leaves
    processed.leaves (fun exchange member _ => answeredFront exchange member)
  cases result with
  | none =>
      obtain ⟨rfl, _⟩ := (executes_done_iff _ _ _).mp ended
      rw [List.append_nil]
      exact .inl (returned rfl)
  | some err =>
      dsimp only at ended
      split at ended
      · obtain ⟨paused, nothing, ⟨⟩, rfl, pauses, last⟩ := (executes_bind_iff _ _ _ _).mp ended
        obtain ⟨rfl, _⟩ := (executes_done_iff _ _ _).mp last
        rw [List.append_nil] at answeredBack ⊢
        have quiet : ∀ exchange, exchange ∈ paused → unsettles exchange.request = false := by
          intro exchange member
          obtain ⟨_state, permitted⟩ := (@pauseTemplate_tending item.namespacedName (· = .paused)
            rfl maxRetryCycles err true).permits pauses.leaves
            (fun exchange member _ => answeredBack exchange member) exchange member
          obtain ⟨request, answer⟩ := exchange
          cases request with
          | updateStatus template =>
              change (!settled template.status.processingPhase) = false
              rw [permitted.2]
              rfl
          | _ => rfl
        by_cases released : ∃ exchange, exchange ∈ paused ∧ settles exchange = true
        · rw [owes_append front paused item.namespacedName turnPhase]
          exact .inl (afterAll_settled paused _ quiet (.inr released))
        · refine .inr ⟨front, paused, err, rfl, processed, pauses, ?_⟩
          intro exchange member
          refine Bool.eq_false_iff.mpr ?_
          intro isSettled
          exact released ⟨exchange, member, isSettled⟩
      · obtain ⟨_, same⟩ := (executes_done_iff _ _ _).mp ended
        cases same

/-- A worker that calls `Requeue` has found retry cycles left. -/
theorem handleItem_requeue (operatorNamespace : String) (maxRetryCycles : Int)
    (item : Queue.WorkItem) (trace : List (Exchange client)) (err : GoError)
    (execution : Executes (Worker.handleItem platform operatorNamespace maxRetryCycles item) trace
      (.requeue err)) :
    ¬ (0 < maxRetryCycles ∧ maxRetryCycles ≤ item.retryCycle) := by
  obtain ⟨front, back, result, rfl, _processed, ended⟩ :=
    (executes_bind_iff _ _ _ _).mp execution
  cases result with
  | none =>
      obtain ⟨_, same⟩ := (executes_done_iff _ _ _).mp ended
      cases same
  | some err =>
      dsimp only at ended
      split at ended
      · obtain ⟨paused, nothing, ⟨⟩, rfl, _pauses, last⟩ := (executes_bind_iff _ _ _ _).mp ended
        obtain ⟨_, same⟩ := (executes_done_iff _ _ _).mp last
        cases same
      · assumption

end Turn

/-- How far an execution of `Reconcile` has come. -/
inductive Visit where
  | waiting
  /-- The KubeTemplate was not there. -/
  | missing
  /-- The read failed otherwise. -/
  | refused
  /-- A KubeTemplate in the phase was read; whether Queued has been written since. -/
  | found (phase : Phase) (requeues : Bool)
  /-- The KubeTemplate has been handed to the work queue. -/
  | handed
  deriving DecidableEq

def Visit.read (answer : Except GoError KubeTemplate) : Visit :=
  match answer with
  | .ok template => .found template.status.processingPhase false
  | .error err => if err.isNotFound then .missing else .refused

def Visit.after : Visit → (request : Call) → request.Answer → Visit
  | .waiting, .getTemplate _, answer => Visit.read answer
  | .found phase requeues, .updateStatus template, _ =>
      .found phase (requeues || decide (template.status.processingPhase = .queued))
  | .found _ _, .enqueue _ _, _ => .handed
  | visit, _, _ => visit

/-- What the end of the execution owes: a request for another one, unless the
KubeTemplate has been handed on, is gone or was found with somebody else. -/
def Visit.ends (interval : Time) (visit : Visit) (result : Controller.ReconcileResult) : Prop :=
  match visit with
  | .waiting | .refused => asksAgain result = true
  | .missing | .handed => True
  | .found phase requeues =>
      (requeues = true ∨ phase = .empty ∨ phase = .queued ∨ phase = .processing →
        asksAgain result = true) ∧
      (phase = .completed → 0 < interval → asksAgain result = true)

def visiting (key : NamespacedName) : Protocol client Visit where
  expected := fun _ => keyedAnswer
  permitted := fun visit request =>
    match request with
    | .getTemplate wanted => wanted = key
    | .updateStatus template => template.key = key ∧
        ((template.status.processingPhase = .queued ∧
            ∃ phase requeues, visit = .found phase requeues) ∨
          template.status.processingPhase = .completed ∧ visit = .found .completed false)
    | .enqueue wanted _ => wanted = key
    | _ => True
  after := Visit.after

section Visit

variable {key : NamespacedName} {interval : Time}

theorem updateAndEnqueue_visiting (kubeTemplate : KubeTemplate) (status : KubeTemplateStatus)
    (own : kubeTemplate.key = key) (queued : status.processingPhase = .queued) (phase : Phase)
    (requeues : Bool) :
    Guarantees (visiting key) (Visit.ends interval) (.found phase requeues)
      (Controller.updateAndEnqueue kubeTemplate status) := by
  simp only [Controller.updateAndEnqueue, updateStatus, enqueue, call_bind, done_bind]
  refine ⟨⟨own, .inl ⟨queued, phase, requeues, rfl⟩⟩, ?_⟩
  intro answer _expected
  cases answer with
  | ok revision => exact ⟨own, fun _ _ => trivial⟩
  | error err =>
      dsimp only
      split
      · exact ⟨own, fun _ _ => trivial⟩
      · exact ⟨fun _ => rfl, fun _ _ => rfl⟩

private theorem after_completed {template : KubeTemplate} (answer : Except GoError Nat)
    (completed : template.status.processingPhase = .completed) :
    Visit.after (.found .completed false) (.updateStatus template) answer =
      .found .completed false := by
  change Visit.found .completed (false || decide (template.status.processingPhase = .queued)) = _
  rw [completed]
  rfl

theorem ends_completed :
    Visit.ends interval (.found .completed false) (.after interval) := by
  refine ⟨?_, fun _ positive => decide_eq_true positive⟩
  rintro (impossible | impossible | impossible | impossible) <;> cases impossible

variable (platform : Platform)

/-- The calls of the drift correction before its status update. -/
def onResource : Call → Prop
  | .getResource _ _ _ | .patch _ _ _ => True
  | _ => False

private theorem applyDrifted_makes (object : Unstructured) (tally : Controller.DriftTally) :
    Makes onResource (Controller.applyDrifted object tally) := by
  simp only [Controller.applyDrifted, patch, call_bind, done_bind]
  refine makes_call trivial ?_
  intro answer
  cases answer with
  | error err => exact makes_done _ _
  | ok stored => exact makes_done _ _

theorem applyTemplateResource_makes (template : Template) (tally : Controller.DriftTally) :
    Makes onResource (Controller.applyTemplateResource platform template tally) := by
  unfold Controller.applyTemplateResource
  cases platform.unmarshal template.object.raw with
  | error text => exact makes_done _ _
  | ok object =>
      simp only [getResource, patch, call_bind, done_bind]
      refine makes_call trivial (fun found => makes_call trivial ?_)
      intro checked
      cases checked with
      | error err => exact makes_done _ _
      | ok dryRun =>
          cases found with
          | _ =>
              dsimp only
              split
              · exact applyDrifted_makes _ _
              · exact makes_done _ _

theorem applyTemplateResourceLoop_makes (templates : List Template)
    (tally : Controller.DriftTally) :
    Makes onResource (Controller.applyTemplateResourceLoop platform templates tally) := by
  induction templates generalizing tally with
  | nil => exact makes_done _ _
  | cons template rest ih =>
      exact makes_bind (applyTemplateResource_makes platform template tally) (fun _ => ih _)

section Idle

variable (kubeTemplate : KubeTemplate) (own : kubeTemplate.key = key)
  (completed : kubeTemplate.status.processingPhase = .completed)

include kubeTemplate own completed

private theorem applyTemplateResources_visiting :
    Guarantees (visiting key) (fun after _ => after = .found .completed false)
      (.found .completed false) (Controller.applyTemplateResources platform kubeTemplate) := by
  apply guarantees_bind (fun after _ => after = .found .completed false)
  · refine (applyTemplateResourceLoop_makes platform _ _).steady _ ?_ ?_
    · intro request resource
      cases request <;> trivial
    · intro request answer resource
      cases request <;> first | rfl | cases resource
  · rintro _ tally rfl
    simp only [timeNow, updateStatus, call_bind, done_bind]
    refine ⟨trivial, ?_⟩
    intro now _expected
    dsimp only
    split
    · refine ⟨⟨own, .inr ⟨(Controller.reconciledStatus_keeps _ _ _ _).1.trans completed, rfl⟩⟩, ?_⟩
      intro answer _expected
      have same : (visiting key).after (.found .completed false) (.updateStatus { kubeTemplate with
          status := Controller.reconciledStatus kubeTemplate.spec.templates.length tally now
            kubeTemplate.status }) answer = .found .completed false :=
        after_completed answer ((Controller.reconciledStatus_keeps _ _ _ _).1.trans completed)
      cases answer with
      | error err => exact same
      | ok revision => exact same
    · rfl

private theorem reconcileIdle_visiting :
    Guarantees (visiting key) (Visit.ends interval) (.found .completed false)
      (Controller.reconcileIdle platform interval kubeTemplate) := by
  have corrects : Guarantees (visiting key) (Visit.ends interval) (.found .completed false)
      (do
        let _ ← Controller.applyTemplateResources platform kubeTemplate
        pure (Controller.ReconcileResult.after interval)) := by
    apply guarantees_bind _ (applyTemplateResources_visiting platform kubeTemplate own completed)
    rintro _ _ rfl
    exact ends_completed
  unfold Controller.reconcileIdle
  cases kubeTemplate.status.lastReconcileTime with
  | none => exact corrects
  | some last =>
      simp only [timeNow, call_bind, done_bind]
      refine ⟨trivial, ?_⟩
      intro now _expected
      dsimp only
      split
      · exact ends_completed
      · exact corrects

private theorem reconcileCompleted_visiting :
    Guarantees (visiting key) (Visit.ends interval) (.found .completed false)
      (Controller.reconcileCompleted platform interval kubeTemplate) := by
  unfold Controller.reconcileCompleted
  dsimp only
  split
  · simp only [updateStatus, call_bind, done_bind]
    refine ⟨⟨own, .inr ⟨completed, rfl⟩⟩, ?_⟩
    intro answer _expected
    have same : (visiting key).after (.found .completed false) (.updateStatus { kubeTemplate with
        status := { kubeTemplate.status with
          appliedSpecHash := calculateSpecHash platform kubeTemplate.spec } }) answer =
          .found .completed false :=
      after_completed answer completed
    rw [same]
    exact ends_completed
  · split
    · simp only [timeNow, call_bind, done_bind]
      refine ⟨trivial, ?_⟩
      intro now _expected
      exact updateAndEnqueue_visiting kubeTemplate _ own rfl _ _
    · simp only [queueContains, call_bind, done_bind]
      refine ⟨trivial, ?_⟩
      intro queued _expected
      cases queued with
      | true => exact ends_completed
      | false => exact reconcileIdle_visiting platform kubeTemplate own completed

end Idle

/-- The KubeTemplate was new when it was read first; it is read and written again. -/
def Visit.isNew (visit : Visit) : Prop :=
  ∃ requeues, visit = .found .empty requeues

private theorem queueNewTemplate_visiting (visit : Visit) (isNew : visit.isNew) :
    Guarantees (visiting key) (fun after _ => after.isNew) visit
      (Controller.queueNewTemplate key) := by
  obtain ⟨requeues, rfl⟩ := isNew
  simp only [Controller.queueNewTemplate, getTemplate, timeNow, updateStatus, call_bind,
    done_bind]
  refine ⟨rfl, ?_⟩
  intro answer expected
  cases answer with
  | error err => exact ⟨requeues, rfl⟩
  | ok latest =>
      refine ⟨trivial, fun now _expected =>
        ⟨⟨expected latest rfl, .inl ⟨rfl, .empty, requeues, rfl⟩⟩, ?_⟩⟩
      intro stored _expected
      cases stored with
      | error err => exact ⟨_, rfl⟩
      | ok revision => exact ⟨_, rfl⟩

private theorem retryOnConflict_visiting (retries : Nat) (visit : Visit) (isNew : visit.isNew) :
    Guarantees (visiting key) (fun after _ => after.isNew) visit
      (Controller.retryOnConflict (Controller.queueNewTemplate key) retries) := by
  induction retries generalizing visit with
  | zero => exact queueNewTemplate_visiting visit isNew
  | succ retries ih =>
      apply guarantees_bind _ (queueNewTemplate_visiting visit isNew)
      intro after result still
      cases result with
      | none => exact still
      | some err =>
          dsimp only
          split
          · exact ih after still
          · exact still

private theorem reconcileNew_visiting (kubeTemplate : KubeTemplate) (own : kubeTemplate.key = key) :
    Guarantees (visiting key) (Visit.ends interval) (.found .empty false)
      (Controller.reconcileNew platform key kubeTemplate) := by
  apply guarantees_bind _ (retryOnConflict_visiting platform.conflictRetries _ ⟨false, rfl⟩)
  intro after result still
  obtain ⟨requeues, rfl⟩ := still
  cases result with
  | some err => exact ⟨fun _ => rfl, fun _ _ => rfl⟩
  | none => exact ⟨own, fun _ _ => trivial⟩

private theorem reconcilePhase_visiting (kubeTemplate : KubeTemplate)
    (own : kubeTemplate.key = key) :
    Guarantees (visiting key) (Visit.ends interval)
      (.found kubeTemplate.status.processingPhase false)
      (Controller.reconcilePhase platform interval key kubeTemplate) := by
  have left (phase : Phase) (others : phase = .paused ∨ phase = .failed) :
      Visit.ends interval (.found phase false) .finished := by
    refine ⟨?_, ?_⟩
    · rintro (impossible | rfl | rfl | rfl)
      · cases impossible
      all_goals rcases others with impossible | impossible <;> cases impossible
    · rintro rfl
      rcases others with impossible | impossible <;> cases impossible
  unfold Controller.reconcilePhase
  cases phase : kubeTemplate.status.processingPhase with
  | paused =>
      dsimp only
      unfold Controller.reconcilePaused
      split
      · simp only [timeNow, call_bind, done_bind]
        refine ⟨trivial, ?_⟩
        intro now _expected
        exact updateAndEnqueue_visiting kubeTemplate _ own rfl _ _
      · exact left _ (.inl rfl)
  | failed =>
      dsimp only
      unfold Controller.reconcileFailed
      dsimp only
      split
      · simp only [timeNow, call_bind, done_bind]
        refine ⟨trivial, ?_⟩
        intro now _expected
        exact updateAndEnqueue_visiting kubeTemplate _ own rfl _ _
      · exact ⟨trivial, fun _ _ => left _ (.inr rfl)⟩
  | completed => exact reconcileCompleted_visiting platform kubeTemplate own phase
  | empty => exact reconcileNew_visiting platform kubeTemplate own
  | queued => exact ⟨own, fun _ _ => trivial⟩
  | processing => exact ⟨own, fun _ _ => trivial⟩

theorem reconcile_visiting :
    Guarantees (visiting key) (Visit.ends interval) .waiting
      (Controller.reconcile platform interval key) := by
  simp only [Controller.reconcile, getTemplate, call_bind, done_bind]
  refine ⟨rfl, ?_⟩
  intro answer expected
  cases answer with
  | error err =>
      change Guarantees (visiting key) (Visit.ends interval)
        (if err.isNotFound then .missing else .refused) _
      dsimp only
      split
      · exact trivial
      · exact rfl
  | ok kubeTemplate =>
      exact reconcilePhase_visiting platform kubeTemplate (expected kubeTemplate rfl)

/-- How far the execution has come after its calls. -/
def visitAfter (trace : List (Exchange client)) : Visit :=
  (visiting ⟨"", ""⟩).afterAll .waiting trace

theorem visitAfter_snoc (trace : List (Exchange client)) (request : Call)
    (answer : request.Answer) :
    visitAfter (trace ++ [⟨request, answer⟩]) = (visitAfter trace).after request answer :=
  List.foldl_append

inductive Visit.Moves : Visit → (request : Call) → request.Answer → Visit → Prop where
  | reads (wanted : NamespacedName) (answer : Except GoError KubeTemplate) :
      Moves .waiting (.getTemplate wanted) answer (Visit.read answer)
  | writes (phase : Phase) (requeues : Bool) (template : KubeTemplate)
      (answer : Except GoError Nat) :
      Moves (.found phase requeues) (.updateStatus template) answer
        (.found phase (requeues || decide (template.status.processingPhase = .queued)))
  | enqueues (phase : Phase) (requeues : Bool) (wanted : NamespacedName) (priority : Int) :
      Moves (.found phase requeues) (.enqueue wanted priority) () .handed
  | stays (visit : Visit) (request : Call) (answer : request.Answer) :
      Moves visit request answer visit

theorem Visit.after_moves (visit : Visit) (request : Call) (answer : request.Answer) :
    Visit.Moves visit request answer (visit.after request answer) := by
  cases visit with
  | waiting =>
      cases request with
      | getTemplate wanted => exact .reads wanted answer
      | _ => exact .stays _ _ _
  | found phase requeues =>
      cases request with
      | updateStatus template => exact .writes phase requeues template answer
      | enqueue wanted priority => exact .enqueues phase requeues wanted priority
      | _ => exact .stays _ _ _
  | _ => cases request <;> exact .stays _ _ _

end Visit

end KubeTemplater.Operator
