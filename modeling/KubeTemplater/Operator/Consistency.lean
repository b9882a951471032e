/-
One step of the operator keeps what is known of every KubeTemplate, when calls
succeed and at most one party at a time writes on behalf of a KubeTemplate.
-/

import KubeTemplater.Operator.Reconciling

namespace KubeTemplater.Operator

open Library Library.Program

namespace System

variable (config : Config) (specs : List KubeTemplateSpec)

/-- Every call succeeds with an up-to-date read, the policy allows every element,
and every spec is among the given ones. -/
def Smooth (system : System) : Label → Prop
  | .create template => template.spec ∈ specs
  | .update _ spec _ _ => spec ∈ specs
  | .remove _ => False
  | .worker worker outcome =>
      ∀ execution request rest, system.workers worker = some execution →
        execution.program = .call request rest →
        SmoothCall config system execution.read request outcome
  | .controller key outcome =>
      ∀ execution request rest, system.reconciles key = some execution →
        execution.program = .call request rest →
        SmoothCall config system execution.read request outcome
  | _ => True

def untended (system : System) (key : NamespacedName) : Bool :=
  system.active.all (fun entry =>
    match entry.1 with
    | .worker _ => decide (entry.2 ≠ key)
    | .controller => true)

def correctsDrift (system : System) (key : NamespacedName) : Bool :=
  match (system.reconciles key).bind (fun execution => execution.read) with
  | some template => decide (DriftReady config.platform template)
  | none => false

/-- A worker takes an item only when no other party writes on behalf of its
KubeTemplate, and `Reconcile` finds one idle only when no worker holds it. -/
def Serialised (system : System) : Label → Prop
  | .dequeue _ =>
      ∀ ref, system.session.queue.items[0]? = some ref →
        system.untended (system.session.queue.key ref) = true ∧
          system.correctsDrift config (system.session.queue.key ref) = false
  | .controller key _ =>
      ∀ execution current, system.reconciles key = some execution → execution.read = none →
        system.templates key = some current → DriftReady config.platform current →
        system.untended key = true
  | _ => True

private theorem untended_iff {system : System} {key : NamespacedName} (listed : system.Listed)
    (free : system.untended key = true) (worker : Nat)
    (execution : Execution Worker.Disposition)
    (inside : system.workers worker = some execution) : execution.key ≠ key := by
  have entry := List.all_eq_true.mp free _ (listed.workers worker execution inside)
  exact of_decide_eq_true entry

private theorem logged_find_other {system : System} {key other : NamespacedName}
    {read : Option KubeTemplate} {request : Call} {outcome : Outcome} (platform : Platform)
    (resource : ResourceId) (different : key ≠ other) :
    (system.logged key read request outcome).find? (isPatchOf platform other resource) =
      system.writes.find? (isPatchOf platform other resource) := by
  unfold logged
  split
  · rfl
  · exact find_patch_other platform different

structure Consistent (system : System) : Prop where
  valid : system.session.Valid
  listed : system.Listed
  tracked : ∃ turns stages, ∀ key, Tracked config specs system turns stages key

private theorem keyed_of_tracked {config : Config} {specs : List KubeTemplateSpec} {system : System}
    {turns : Nat → WorkerStage} {stages : NamespacedName → ReconcileStage}
    (tracked : ∀ key, Tracked config specs system turns stages key) : system.Keyed := by
  intro key template isStored
  exact ((tracked key).stored template isStored).1

theorem start_consistent (maxRetries initialDelay maxDelay maxCycles : Int)
    (policies : String → Except GoError KubeTemplatePolicy) :
    (start (Queue.Session.start maxRetries initialDelay maxDelay maxCycles)
      policies).Consistent config specs where
  valid := Queue.Session.start_valid maxRetries initialDelay maxDelay maxCycles
  listed := start_listed _ _
  tracked := by
    refine ⟨fun _ => .finished, fun _ => .finished, ?_⟩
    intro key
    constructor
    · intro current isStored
      cases isStored
    · intro worker execution inside
      cases inside
    · intro worker other execution found inside
      cases inside
    · intro execution inside
      cases inside
    · intro execution inside
      cases inside
    · intro busy
      rcases busy with ⟨ref, member, _⟩ | ⟨worker, execution, inside, _⟩
      · cases member
      · cases inside
    · intro current isStored
      cases isStored

section Steps

variable {config : Config} {specs : List KubeTemplateSpec} {system next : System}
  {turns : Nat → WorkerStage} {stages : NamespacedName → ReconcileStage}

variable {key : NamespacedName}

private theorem turn_concerns {worker : Nat} {execution : Execution Worker.Disposition}
    {request : Call}
    {rest : request.Answer → Program client Worker.Disposition}
    (tracked : Tracked config specs system turns stages key)
    (inside : system.workers worker = some execution) (own : execution.key = key)
    (calls : execution.program = .call request rest) :
    (∀ template, request = .updateStatus template → template.key = key) ∧
      ∀ wanted priority, request ≠ .enqueue wanted priority := by
  obtain ⟨guarantees, fits⟩ := tracked.turn worker execution inside own
  rw [calls] at guarantees
  have permitted := guarantees.1
  constructor
  · intro template isUpdate
    subst isUpdate
    cases isStage : turns worker with
    | reread latest =>
        rw [isStage] at permitted fits
        have isOwn := tracked.matches_key fits.2
        rw [show template = _ from permitted]
        exact isOwn
    | closing kubeTemplate latest =>
        rw [isStage] at permitted fits
        have isOwn := tracked.matches_key fits.1
        obtain ⟨now, isTemplate⟩ := permitted
        rw [isTemplate]
        exact isOwn
    | _ => rw [isStage] at permitted; exact permitted.elim
  · intro wanted priority isEnqueue
    subst isEnqueue
    cases isStage : turns worker <;> rw [isStage] at permitted <;> exact permitted.elim

private theorem tracked_turn_call {worker : Nat} {execution : Execution Worker.Disposition}
    {request : Call} {rest : request.Answer → Program client Worker.Disposition}
    {outcome : Outcome} {answered : request.Answer × System}
    (valid : system.session.Valid)
    (tracked : ∀ key, Tracked config specs system turns stages key)
    (inside : system.workers worker = some execution)
    (calls : execution.program = .call request rest)
    (smooth : SmoothCall config system execution.read request outcome)
    (isAnswer : system.respond request outcome = some answered) (key : NamespacedName) :
    Tracked config specs (afterTurn system worker execution request rest outcome answered)
      (Function.update turns worker
        (workerAfter config.platform (turns worker) request answered.1)) stages key := by
  by_cases same : execution.key = key
  · exact turn_call (tracked key) ⟨inside, same, calls, smooth, isAnswer⟩
  · obtain ⟨status, enqueues⟩ := turn_concerns (tracked execution.key) inside rfl calls
    have effect := respond_effect isAnswer
    have apart := effect.apart (keyed_of_tracked tracked) valid
      (fun template isUpdate => by rw [status template isUpdate]; exact same)
      (fun wanted priority isEnqueue => absurd isEnqueue (enqueues wanted priority))
    have elsewhere (other : Nat) (found : Execution Worker.Disposition)
        (insideOther : system.workers other = some found) (own : found.key = key) :
        other ≠ worker := by
      intro equal
      subst equal
      cases inside.symm.trans insideOther
      exact same own
    refine (tracked key).unconcerned
      ⟨apart.templates, apart.revision, congrFun effect.frame.pending key,
        congrFun effect.frame.reconciles key, rfl, ?_, ?_, apart.queued, ?_⟩
    · intro other found own
      by_cases isWorker : other = worker
      · subst isWorker
        constructor
        · intro insideOther
          simp only [afterTurn, Function.update_self] at insideOther
          cases insideOther
          exact absurd own same
        · intro insideOther
          exact absurd rfl (elsewhere other found insideOther own)
      · simp only [afterTurn, Function.update_of_ne isWorker]
    · intro other found insideOther own
      exact Function.update_of_ne (elsewhere other found insideOther own) _ turns
    · intro resource
      exact logged_find_other config.platform resource same

private theorem tracked_turn_done {worker : Nat} {execution : Execution Worker.Disposition}
    {disposition : Worker.Disposition} {session : Queue.Session}
    (tracked : ∀ key, Tracked config specs system turns stages key)
    (inside : system.workers worker = some execution)
    (isDone : execution.program = .done disposition)
    (ends : endTurn system.session worker system.clock disposition = some session)
    (key : NamespacedName) :
    Tracked config specs
      { system.finish (.worker worker) execution.key with
        session := session
        workers := Function.update system.workers worker none } turns stages key := by
  obtain ⟨ensures, _fits⟩ := (tracked execution.key).turn worker execution inside rfl
  rw [isDone] at ensures
  obtain ⟨isFinished, rfl⟩ := ensures
  rw [Queue.Session.step_done ends]
  refine (tracked key).left rfl rfl rfl ?_ (fun _ => id) id ?_
  · intro other found insideOther
    exact (update_none_eq_some insideOther).2
  · intro owed
    refine owed.mono id (fun found inside owes => ⟨found, inside, owes⟩) id ?_
    intro other found insideOther own early
    -- a finished turn owes nothing
    have different : other ≠ worker := by
      intro same
      rw [same, isFinished] at early
      exact early
    exact ⟨found, (Function.update_of_ne different _ _).trans insideOther, own, early⟩

variable {execution : Execution Controller.ReconcileResult}

private theorem reconcile_concerns {request : Call}
    {rest : request.Answer → Program client Controller.ReconcileResult}
    (tracked : Tracked config specs system turns stages key)
    (inside : system.reconciles key = some execution)
    (calls : execution.program = .call request rest) :
    (∀ template, request = .updateStatus template → template.key = key) ∧
      ∀ wanted priority, request = .enqueue wanted priority → wanted = key := by
  obtain ⟨guarantees, fits⟩ := tracked.reconcile execution inside
  rw [calls] at guarantees
  have permitted := guarantees.1
  constructor
  · intro template isUpdate
    subst isUpdate
    cases isStage : stages key with
    | queuing latest =>
        rw [isStage] at permitted fits
        have isOwn := tracked.matches_key fits.1
        obtain ⟨status, isTemplate, _⟩ := permitted
        rw [isTemplate]
        exact isOwn
    | correcting kubeTemplate =>
        rw [isStage] at permitted fits
        have isOwn := tracked.matches_key fits.2.2.1
        obtain ⟨status, isTemplate, _⟩ := permitted
        rw [isTemplate]
        exact isOwn
    | _ => rw [isStage] at permitted; exact permitted.elim
  · intro wanted priority isEnqueue
    subst isEnqueue
    cases isStage : stages key with
    | enqueuing =>
        rw [isStage] at permitted
        exact permitted
    | _ => rw [isStage] at permitted; exact permitted.elim

private theorem tracked_reconcile_call {request : Call}
    {rest : request.Answer → Program client Controller.ReconcileResult} {outcome : Outcome}
    {answered : request.Answer × System} (laws : HashLaws config.platform specs)
    (valid : system.session.Valid) (tracked : ∀ key, Tracked config specs system turns stages key)
    (inside : system.reconciles key = some execution)
    (calls : execution.program = .call request rest)
    (smooth : SmoothCall config system execution.read request outcome)
    (isAnswer : system.respond request outcome = some answered)
    (serial : ∀ current, execution.read = none → system.templates key = some current →
      DriftReady config.platform current →
      ∀ worker found, system.workers worker = some found → found.key ≠ key)
    (other : NamespacedName) :
    Tracked config specs (afterReconcile system key execution request rest outcome answered) turns
      (Function.update stages key
        (reconcileAfter config.platform (stages key) request answered.1)) other := by
  by_cases same : other = key
  · subst same
    exact reconcile_call (tracked other) laws valid ⟨inside, calls, smooth, isAnswer, serial⟩
  · obtain ⟨status, enqueues⟩ := reconcile_concerns (tracked key) inside calls
    have effect := respond_effect isAnswer
    have apart := effect.apart (keyed_of_tracked tracked) valid
      (fun template isUpdate => by rw [status template isUpdate]; exact Ne.symm same)
      (fun wanted priority isEnqueue => by
        rw [enqueues wanted priority isEnqueue]; exact Ne.symm same)
    refine (tracked other).unconcerned
      ⟨apart.templates, apart.revision, congrFun effect.frame.pending other,
        Function.update_of_ne same _ _, Function.update_of_ne same _ _, ?_, ?_, apart.queued, ?_⟩
    · intro worker found _own
      simp only [afterReconcile, effect.frame.workers]
    · intro worker found _insideWorker _own
      rfl
    · intro resource
      exact logged_find_other config.platform resource (Ne.symm same)

private theorem tracked_reconcile_done {result : Controller.ReconcileResult}
    (tracked : ∀ key, Tracked config specs system turns stages key)
    (inside : system.reconciles key = some execution) (isDone : execution.program = .done result)
    (other : NamespacedName) :
    Tracked config specs
      { system.finish .controller key with
        reconciles := Function.update system.reconciles key none } turns stages other := by
  obtain ⟨ensures, _fits⟩ := (tracked key).reconcile execution inside
  rw [isDone] at ensures
  refine (tracked other).left rfl rfl rfl (fun _ _ => id) ?_ id ?_
  · intro found insideOther
    exact (update_none_eq_some insideOther).2
  · intro owed
    refine owed.mono id ?_ id (fun _ found inside own early => ⟨found, inside, own, early⟩)
    intro found insideOther owes
    have different : other ≠ key := by
      intro same
      rw [same] at owes
      exact ensures owes
    exact ⟨found, (Function.update_of_ne different _ _).trans insideOther, owes⟩

/-- `Reconcile` starts: it will see the stored version. -/
theorem tracked_deliver (tracked : ∀ key, Tracked config specs system turns stages key)
    (other : NamespacedName) :
    Tracked config specs (system.deliverTo config key) turns
      (Function.update stages key .waiting) other := by
  by_cases same : other = key
  · subst same
    have owed : Owed (system.deliverTo config other) turns
        (Function.update stages other .waiting) other := by
      refine .inr (.inl ⟨_, Function.update_self _ _ _, ?_⟩)
      rw [Function.update_self]
      trivial
    have before := tracked other
    refine before.reconciled rfl rfl before.stored
      (reconcile_stages config.platform config.interval) rfl ?_ False.elim before.alive ?_
    · intro worker found _insideWorker _own fits
      refine fits.mono (fun _ known => known.same rfl) ?_
      intro kubeTemplate applied applying
      obtain ⟨current, isStored, phase, identity, _owes⟩ := applying.current
      exact ⟨applying.spec, ⟨current, isStored, phase, identity, fun _ => owed⟩,
        applying.applied⟩
    · intro current isStored phase
      obtain ⟨spec, isKnown, hash, patched, _owes⟩ := before.completed current isStored phase
      exact ⟨spec, isKnown, hash, patched, fun _ => owed⟩
  · have elsewhere : Unconcerned config.platform other system (system.deliverTo config key)
        turns turns stages (Function.update stages key .waiting) :=
      ⟨rfl, Nat.le_refl _, Function.update_of_ne same _ _, Function.update_of_ne same _ _,
        Function.update_of_ne same _ _, fun _ _ _ => Iff.rfl, fun _ _ _ _ => rfl, Iff.rfl,
        fun _ => rfl⟩
    exact (tracked other).unconcerned elsewhere

private theorem not_corrects_of_correctsDrift
    (tracked : Tracked config specs system turns stages key)
    (inside : system.reconciles key = some execution)
    (quiet : system.correctsDrift config key = false) : ¬ (stages key).corrects := by
  intro corrects
  obtain ⟨_guarantees, fits⟩ := tracked.reconcile execution inside
  cases isStage : stages key with
  | correcting kubeTemplate =>
      rw [isStage] at fits
      obtain ⟨isRead, ready, _⟩ := fits
      have reads : (system.reconciles key).bind (fun execution => execution.read) =
          some kubeTemplate := by
        rw [inside]
        exact isRead
      unfold correctsDrift at quiet
      rw [reads] at quiet
      exact of_decide_eq_false quiet ready
  | _ => rw [isStage] at corrects; exact corrects

private theorem take_unconcerned {worker : Nat} {session : Queue.Session} {ref : Queue.ItemRef}
    (free : system.workers worker = none)
    (taken : Queue.WorkQueue.Taken system.session.queue session.queue ref system.clock)
    (different : system.session.queue.key ref ≠ key) :
    Unconcerned config.platform key system
      (system.take config worker session (session.queue.memory ref)) turns
      (Function.update turns worker .waiting) stages stages := by
  have isKey : (session.queue.memory ref).namespacedName = system.session.queue.key ref :=
    taken.keys ref
  refine ⟨rfl, Nat.le_refl _, rfl, rfl, rfl, ?_, ?_, queued_dequeue_other taken different,
    fun _ => rfl⟩
  · intro other found own
    by_cases isWorker : other = worker
    · subst isWorker
      simp only [take, Function.update_self, free]
      constructor
      · intro inside
        cases inside
        exact absurd (isKey.symm.trans own) different
      · intro inside
        cases inside
    · simp only [take, Function.update_of_ne isWorker]
  · intro other found inside _own
    have another : other ≠ worker := by
      intro isWorker
      rw [isWorker, free] at inside
      cases inside
    exact Function.update_of_ne another _ _

/-- A worker starts a turn: it will read the stored version. -/
theorem tracked_take {worker : Nat} {session : Queue.Session} {ref : Queue.ItemRef}
    (tracked : ∀ key, Tracked config specs system turns stages key)
    (free : system.workers worker = none)
    (taken : Queue.WorkQueue.Taken system.session.queue session.queue ref system.clock)
    (alone : ∀ other found, system.workers other = some found →
      found.key ≠ system.session.queue.key ref)
    (quiet : system.correctsDrift config (system.session.queue.key ref) = false)
    (key : NamespacedName) :
    Tracked config specs (system.take config worker session (session.queue.memory ref))
      (Function.update turns worker .waiting) stages key := by
  have isKey : (session.queue.memory ref).namespacedName = system.session.queue.key ref :=
    taken.keys ref
  by_cases same : system.session.queue.key ref = key
  · subst same
    have before := tracked (system.session.queue.key ref)
    have only (other : Nat) (found : Execution Worker.Disposition)
        (inside : Function.update system.workers worker
          (some { key := (session.queue.memory ref).namespacedName, read := none
                  program := Worker.handleItem config.platform config.operatorNamespace
                    session.queue.maxRetryCycles (session.queue.memory ref) }) other = some found)
        (own : found.key = system.session.queue.key ref) : other = worker := by
      by_contra different
      rw [Function.update_of_ne different] at inside
      exact alone other found inside own
    have queued : Queued system.session (system.session.queue.key ref) :=
      ⟨ref, taken.items.mem_iff.mp List.mem_cons_self, rfl⟩
    have owed : Owed (system.take config worker session (session.queue.memory ref))
        (Function.update turns worker .waiting) stages (system.session.queue.key ref) := by
      refine .inr (.inr (.inr ⟨worker, _, Function.update_self _ _ _, isKey, ?_⟩))
      rw [Function.update_self]
      trivial
    constructor
    · exact before.stored
    · intro other found inside own
      have isWorker := only other found inside own
      subst isWorker
      simp only [take, Function.update_self] at inside
      cases inside
      rw [Function.update_self]
      exact ⟨handleItem_turn config.platform _ _ _ isKey, trivial⟩
    · intro first second found other insideFirst own insideSecond isOther
      rw [only first found insideFirst own, only second other insideSecond isOther]
    · intro execution inside
      obtain ⟨guarantees, fits⟩ := before.reconcile execution inside
      exact ⟨guarantees, fits.same rfl⟩
    · intro execution inside corrects
      exact absurd corrects (not_corrects_of_correctsDrift before inside quiet)
    · intro _busy
      exact (before.alive (.inl queued)).same rfl
    · intro current isStored phase
      obtain ⟨spec, isKnown, hash, patched, _owes⟩ := before.completed current isStored phase
      exact ⟨spec, isKnown, hash, patched, fun _ => owed⟩
  · exact (tracked key).unconcerned (take_unconcerned free taken same)

/-- A new version of one KubeTemplate does not concern the others. -/
theorem put_unconcerned (system : System) (template : KubeTemplate)
    (different : key ≠ template.key) :
    Unconcerned config.platform key system (system.put template) turns turns stages stages :=
  ⟨put_templates_other system template key different, Nat.le_succ _, rfl, rfl, rfl,
    fun _ _ _ => Iff.rfl, fun _ _ _ _ => rfl, Iff.rfl, fun _ => rfl⟩

private theorem notify_unconcerned (system : System) {other : NamespacedName}
    (different : other ≠ key) :
    Unconcerned config.platform other system (system.notify key) turns turns stages stages :=
  ⟨rfl, Nat.le_refl _, Function.update_of_ne different _ _, rfl, rfl,
    fun _ _ _ => Iff.rfl, fun _ _ _ _ => rfl, Iff.rfl, fun _ => rfl⟩

private theorem reconcileFits_absent {stage : ReconcileStage} (absent : system.templates key = none)
    (fits : ReconcileFits config specs system key execution stage) :
    ReconcileFits config specs next key execution stage := by
  have nothing (current : KubeTemplate) : system.templates key ≠ some current := by
    rw [absent]
    exact nofun
  cases stage with
  | waiting => exact fits
  | queuing latest =>
      obtain ⟨current, isStored, _⟩ := fits.1.current
      exact absurd isStored (nothing current)
  | correcting kubeTemplate =>
      obtain ⟨current, isStored, _⟩ := fits.2.2.1.current
      exact absurd isStored (nothing current)
  | finished => trivial
  | _ =>
      obtain ⟨current, isStored, _⟩ := fits
      exact absurd isStored (nothing current)

private theorem tracked_create {template : KubeTemplate}
    (tracked : ∀ key, Tracked config specs system turns stages key)
    (free : system.templates template.key = none) (known : template.spec ∈ specs)
    (key : NamespacedName) :
    Tracked config specs
      ((system.put { template with status := .initial }).notify template.key) turns stages
      key := by
  by_cases same : key = template.key
  · subst same
    have before := tracked template.key
    have isNew : ((system.put { template with status := .initial }).notify
        template.key).templates template.key =
          some (system.stamp { template with status := .initial }) :=
      put_templates_self system { template with status := .initial }
    have absent : ¬ Alive system template.key := by
      intro alive
      obtain ⟨current, isStored, _started⟩ := alive
      cases free.symm.trans isStored
    have unattended (worker : Nat) (execution : Execution Worker.Disposition)
        (inside : system.workers worker = some execution) : execution.key ≠ template.key :=
      fun own => absent (before.alive (.inr ⟨worker, execution, inside, own⟩))
    constructor
    · intro current isStored
      cases isNew.symm.trans isStored
      exact ⟨rfl, Nat.le_refl _, known⟩
    · intro worker execution inside own
      exact absurd own (unattended worker execution inside)
    · intro worker other execution found inside own
      exact absurd own (unattended worker execution inside)
    · intro execution inside
      obtain ⟨guarantees, fits⟩ := before.reconcile execution inside
      exact ⟨guarantees, reconcileFits_absent free fits⟩
    · intro execution _inside _corrects worker found insideWorker
      exact unattended worker found insideWorker
    · intro busy
      exact absurd (before.alive busy) absent
    · intro current isStored phase
      cases isNew.symm.trans isStored
      cases phase
  · have created := (tracked key).unconcerned
      (put_unconcerned system { template with status := .initial } same)
    exact created.unconcerned (notify_unconcerned _ same)

/-- A new version with another spec: if the spec has changed, an event is pending. -/
theorem tracked_edited {old : KubeTemplate} {spec : KubeTemplateSpec}
    (labels annotations : List (String × String))
    (tracked : Tracked config specs system turns stages key)
    (isStored : system.templates key = some old) (known : spec ∈ specs)
    (owes : old.spec ≠ spec → system.pending key = true) :
    Tracked config specs (system.put (edited old spec labels annotations)) turns stages key := by
  have rewritten := tracked.put_rewritten isStored (edited old spec labels annotations)
    ⟨rfl, rfl, rfl⟩ known
  have isNew := rewritten.isNew
  have identity : SameIdentity old.metadata
      (system.stamp (edited old spec labels annotations)).metadata := ⟨rfl, rfl, rfl⟩
  -- whoever applies another spec than the new one is followed by someone
  have owed (applied : KubeTemplateSpec)
      (before : applied ≠ old.spec → Owed system turns stages key) (different : applied ≠ spec) :
      Owed (system.put (edited old spec labels annotations)) turns stages key := by
    by_cases same : old.spec = spec
    · rw [← same] at different
      exact before different
    · exact .inl (owes same)
  constructor
  · exact rewritten.stored
  · intro worker execution inside isOwn
    obtain ⟨guarantees, fits⟩ := tracked.turn worker execution inside isOwn
    refine ⟨guarantees, fits.mono rewritten.known ?_⟩
    intro kubeTemplate applied applying
    obtain ⟨current, isCurrent, phase, same, before⟩ := applying.current
    cases isCurrent.symm.trans isStored
    exact ⟨applying.spec, ⟨_, isNew, phase, ⟨same.ns, same.name, same.uid⟩,
      owed kubeTemplate.spec before⟩, applying.applied⟩
  · exact tracked.once
  · intro execution inside
    obtain ⟨guarantees, fits⟩ := tracked.reconcile execution inside
    exact ⟨guarantees, rewritten.reconcileFits isStored rfl fits⟩
  · exact tracked.apart
  · intro busy
    exact rewritten.alive isStored rfl (tracked.alive busy)
  · intro current isCurrent phase
    cases isNew.symm.trans isCurrent
    obtain ⟨applied, isKnown, hash, patched, before⟩ := tracked.completed old isStored phase
    refine ⟨applied, isKnown, hash, ?_, owed applied before⟩
    intro template member decoded decodes
    rw [← elementResource_identity config.platform identity]
    exact patched template member decoded decodes

private theorem spec_of_updateFunc {old new : KubeTemplate}
    (drops : Controller.updateFunc old new = false) : old.spec = new.spec := by
  unfold Controller.updateFunc at drops
  have unchanged := (Bool.or_eq_false_iff.mp (Bool.or_eq_false_iff.mp drops).1).1
  exact not_not.mp (of_decide_eq_false unchanged)

private theorem tracked_update {spec : KubeTemplateSpec}
    {labels annotations : List (String × String)}
    (tracked : ∀ key, Tracked config specs system turns stages key) (known : spec ∈ specs)
    (taken : system.step config (.update key spec labels annotations) = some next)
    (other : NamespacedName) : Tracked config specs next turns stages other := by
  obtain ⟨old, isStored, effect⟩ := step_update config taken
  have own := ((tracked key).stored old isStored).1
  rcases effect with ⟨_passes, rfl⟩ | ⟨drops, rfl⟩
  · by_cases same : other = key
    · subst same
      have notified : Tracked config specs (system.notify other) turns stages other := by
        refine (tracked other).left rfl rfl rfl (fun _ _ => id) (fun _ => id) id ?_
        intro _owed
        exact .inl (Function.update_self _ _ _)
      exact tracked_edited labels annotations notified isStored known
        (fun _ => Function.update_self _ _ _)
    · have edits := (tracked other).unconcerned
        (put_unconcerned system (edited old spec labels annotations)
          (fun equal => same (equal.trans own)))
      exact edits.unconcerned (notify_unconcerned _ same)
  · by_cases same : other = key
    · subst same
      exact tracked_edited labels annotations (tracked other) isStored known
        (fun different => absurd (spec_of_updateFunc drops) different)
    · exact (tracked other).unconcerned
        (put_unconcerned system (edited old spec labels annotations)
          (fun equal => same (equal.trans own)))

end Steps

/-- A step in which calls succeed and parties do not overlap keeps the invariant. -/
theorem step_consistent (laws : HashLaws config.platform specs) (system : System) (label : Label)
    (next : System) (consistent : system.Consistent config specs)
    (met : system.Smooth config specs label ∧ system.Serialised config label)
    (taken : system.step config label = some next) : next.Consistent config specs := by
  obtain ⟨smooth, serial⟩ := met
  refine ⟨step_session_valid config system label next consistent.valid taken,
    step_listed config system label next consistent.listed taken, ?_⟩
  obtain ⟨turns, stages, tracked⟩ := consistent.tracked
  cases label with
  | create template =>
      obtain ⟨free, rfl⟩ := step_create config taken
      exact ⟨turns, stages, tracked_create tracked free smooth⟩
  | update key spec labels annotations =>
      exact ⟨turns, stages, tracked_update tracked smooth taken⟩
  | remove key => exact smooth.elim
  | deliver key =>
      obtain ⟨_free, rfl⟩ := step_deliver config taken
      exact ⟨turns, _, tracked_deliver tracked⟩
  | controller key outcome =>
      obtain ⟨execution, inside, effect⟩ := step_controller config taken
      rcases effect with ⟨result, isDone, rfl⟩ | ⟨request, rest, answered, calls, isAnswer, rfl⟩
      · exact ⟨turns, stages, tracked_reconcile_done tracked inside isDone⟩
      · refine ⟨turns, _, tracked_reconcile_call laws consistent.valid tracked inside calls
          (smooth execution request rest inside calls) isAnswer ?_⟩
        intro current first isStored ready
        exact untended_iff consistent.listed (serial execution current inside first isStored ready)
  | dequeue worker =>
      obtain ⟨session, ref, free, dequeued, holds, rfl⟩ := step_dequeue config taken
      obtain ⟨root, _free, hands, held⟩ := Queue.Session.step_dequeue dequeued
      rw [held, Queue.setHeld_self] at holds
      cases holds
      obtain ⟨alone, quiet⟩ := serial _ hands.root
      exact ⟨_, stages,
        tracked_take tracked free hands (untended_iff consistent.listed alone) quiet⟩
  | worker worker outcome =>
      obtain ⟨execution, inside, effect⟩ := step_worker config taken
      rcases effect with ⟨disposition, session, isDone, ends, rfl⟩ |
        ⟨request, rest, answered, calls, isAnswer, rfl⟩
      · exact ⟨turns, stages, tracked_turn_done tracked inside isDone ends⟩
      · exact ⟨_, stages, tracked_turn_call consistent.valid tracked inside calls
          (smooth execution request rest inside calls) isAnswer⟩
  | _ =>
      cases taken
      exact ⟨turns, stages, fun key =>
        (tracked key).left rfl rfl rfl (fun _ _ => id) (fun _ => id) id id⟩

end System

end KubeTemplater.Operator
