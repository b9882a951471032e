/-
One step of a worker's turn, when every call succeeds: what is known of its
KubeTemplate stays true.
-/

import KubeTemplater.Operator.Tracking

namespace KubeTemplater.Operator

open Library Library.Program

/-- The call succeeds, and a policy that it returns allows what has been read.
A resource may be missing. -/
structure SmoothCall (config : Config) (system : System) (read : Option KubeTemplate)
    (request : Call) (outcome : Outcome) : Prop where
  succeeds : (∀ gvk ns name, request ≠ .getResource gvk ns name) → outcome.isSuccess = true
  allowed : ∀ source operator, request = .policyCacheGet source operator →
    ∃ granted, system.policies source = .ok granted ∧
      ∀ template, read = some template → PolicyAccepts config.platform granted template

section

variable {config : Config} {specs : List KubeTemplateSpec} {system next : System}
  {turns : Nat → WorkerStage} {stages : NamespacedName → ReconcileStage}
  {key : NamespacedName}

theorem Tracked.matches_stored (tracked : Tracked config specs system turns stages key)
    {current : KubeTemplate} (isStored : system.templates key = some current) :
    Matches specs system key current :=
  ⟨(tracked.stored current isStored).2.2, current, isStored, ⟨rfl, rfl, rfl⟩, Nat.le_refl _,
    fun _ => rfl⟩

theorem Tracked.matches_key (tracked : Tracked config specs system turns stages key)
    {template : KubeTemplate} (known : Matches specs system key template) :
    template.key = key := by
  obtain ⟨current, isStored, identity, _⟩ := known.current
  rw [← (tracked.stored current isStored).1]
  unfold KubeTemplate.key
  rw [identity.ns, identity.name]

theorem Matches.replaced {template current new : KubeTemplate}
    (known : Matches specs system key template)
    (isStored : system.templates key = some current) (isNew : next.templates key = some new)
    (identity : SameIdentity current.metadata new.metadata)
    (later : current.metadata.resourceVersion < new.metadata.resourceVersion) :
    Matches specs next key template := by
  obtain ⟨old, isOld, same, version, _equal⟩ := known.current
  cases isOld.symm.trans isStored
  have before := Nat.lt_of_le_of_lt version later
  refine ⟨known.spec, new, isNew, ?_, Nat.le_of_lt before, ?_⟩
  · exact ⟨same.ns.trans identity.ns, same.name.trans identity.name,
      same.uid.trans identity.uid⟩
  · intro equal
    exact absurd equal (Nat.ne_of_lt before)

structure Rewritten (specs : List KubeTemplateSpec) (system next : System) (key : NamespacedName)
    (new : KubeTemplate) : Prop where
  isNew : next.templates key = some new
  stored : ∀ current, next.templates key = some current →
    current.key = key ∧ current.metadata.resourceVersion ≤ next.revision ∧ current.spec ∈ specs
  known : ∀ template, Matches specs system key template → Matches specs next key template

theorem Tracked.put_rewritten (tracked : Tracked config specs system turns stages key)
    {current : KubeTemplate} (isStored : system.templates key = some current)
    (template : KubeTemplate) (identity : SameIdentity current.metadata template.metadata)
    (spec : template.spec ∈ specs) :
    Rewritten specs system (system.put template) key (system.stamp template) := by
  obtain ⟨isKey, version, _isKnown⟩ := tracked.stored current isStored
  have own : template.key = key := by
    rw [← isKey]
    unfold KubeTemplate.key
    rw [identity.ns, identity.name]
  have isNew : (system.put template).templates key = some (system.stamp template) := by
    rw [← own]
    exact put_templates_self system template
  refine ⟨isNew, ?_, ?_⟩
  · intro other isOther
    cases isOther.symm.trans isNew
    exact ⟨own, Nat.le_refl _, spec⟩
  · intro other known
    exact known.replaced isStored isNew ⟨identity.ns, identity.name, identity.uid⟩
      (Nat.lt_succ_of_le version)

theorem Rewritten.alive {old new : KubeTemplate} (rewritten : Rewritten specs system next key new)
    (isStored : system.templates key = some old) (status : new.status = old.status)
    (alive : Alive system key) : Alive next key := by
  obtain ⟨current, isCurrent, started⟩ := alive
  cases isCurrent.symm.trans isStored
  rw [← status] at started
  exact ⟨new, rewritten.isNew, started⟩

/-- What `Reconcile` knows survives a new version with the same status. -/
theorem Rewritten.reconcileFits {old new : KubeTemplate}
    (rewritten : Rewritten specs system next key new)
    (isStored : system.templates key = some old) (status : new.status = old.status)
    {execution : Execution Controller.ReconcileResult} {stage : ReconcileStage}
    (fits : ReconcileFits config specs system key execution stage) :
    ReconcileFits config specs next key execution stage := by
  cases stage with
  | waiting => exact fits
  | fresh =>
      obtain ⟨current, isCurrent, empty⟩ := fits
      cases isCurrent.symm.trans isStored
      rw [← status] at empty
      exact ⟨new, rewritten.isNew, empty⟩
  | queuing latest => exact ⟨rewritten.known latest fits.1, fits.2⟩
  | enqueuing => exact rewritten.alive isStored status fits
  | correcting kubeTemplate =>
      obtain ⟨isRead, ready, known, current, isCurrent, completed, hash⟩ := fits
      cases isCurrent.symm.trans isStored
      rw [← status] at completed hash
      exact ⟨isRead, ready, rewritten.known kubeTemplate known, new, rewritten.isNew, completed,
        hash⟩
  | finished => trivial

theorem Tracked.written (tracked : Tracked config specs system turns stages key)
    {template : KubeTemplate} (known : Matches specs system key template)
    {status : KubeTemplateStatus} {outcome : Outcome}
    {answered : Except GoError Nat × System} (success : outcome.isSuccess = true)
    (isAnswer : system.respond (.updateStatus { template with status := status }) outcome =
      some answered) :
    system.templates key = some template ∧
      answered = (.ok (system.revision + 1), system.put { template with status := status }) := by
  obtain ⟨current, isStored, _identity, _version, equal⟩ := known.current
  obtain ⟨stored, isThere, version, isResult⟩ := respond_updateStatus success isAnswer
  have own := tracked.matches_key known
  have sameKey : ({ template with status := status } : KubeTemplate).key = key := own
  rw [sameKey] at isThere
  have unchanged : template = current := by
    apply equal
    rw [Option.some.inj (isStored.symm.trans isThere)]
    exact version.symm
  have isTemplate : stored = template := by
    rw [unchanged]
    exact Option.some.inj (isThere.symm.trans isStored)
  rw [isTemplate] at isThere isResult
  exact ⟨isThere, isResult⟩

variable {worker : Nat} {execution after : Execution Worker.Disposition} {stage : WorkerStage}

theorem Owed.turned (owed : Owed system turns stages key)
    (inside : system.workers worker = some execution)
    (workers : next.workers = Function.update system.workers worker (some after))
    (sameKey : after.key = execution.key)
    (reconciles : next.reconciles = system.reconciles) (pending : next.pending = system.pending)
    (session : next.session = system.session)
    (keeps : (turns worker).early → stage.early) :
    Owed next (Function.update turns worker stage) stages key := by
  apply owed.mono
  · rw [pending]
    exact id
  · rw [reconciles]
    exact fun found insideReconcile owes => ⟨found, insideReconcile, owes⟩
  · rw [session]
    exact id
  · intro other found insideOther own early
    rw [workers]
    by_cases same : other = worker
    · subst same
      cases insideOther.symm.trans inside
      refine ⟨after, Function.update_self _ _ _, sameKey.trans own, ?_⟩
      rw [Function.update_self]
      exact keeps early
    · refine ⟨found, (Function.update_of_ne same _ _).trans insideOther, own, ?_⟩
      rw [Function.update_of_ne same]
      exact early

section Beside

variable (tracked : Tracked config specs system turns stages key)
  (inside : system.workers worker = some execution) (own : execution.key = key)

include tracked inside own

/-- While a worker holds the template, `Reconcile` neither finds it new nor corrects
drift. -/
theorem Tracked.reconcile_beside
    (known : ∀ template, Matches specs system key template → Matches specs next key template)
    (alive : Alive next key) {found : Execution Controller.ReconcileResult}
    (insideReconcile : system.reconciles key = some found) :
    ReconcileFits config specs next key found (stages key) := by
  have fits := (tracked.reconcile found insideReconcile).2
  cases isStage : stages key with
  | waiting =>
      rw [isStage] at fits
      exact fits
  | fresh =>
      rw [isStage] at fits
      obtain ⟨current, isStored, empty⟩ := fits
      obtain ⟨other, isOther, started⟩ := tracked.alive (.inr ⟨worker, execution, inside, own⟩)
      cases isOther.symm.trans isStored
      exact absurd empty started
  | queuing latest =>
      rw [isStage] at fits
      exact ⟨known latest fits.1, fits.2⟩
  | enqueuing => exact alive
  | correcting kubeTemplate =>
      have corrects : (stages key).corrects := by
        rw [isStage]
        trivial
      exact absurd own (tracked.apart found insideReconcile corrects worker execution inside)
  | finished => trivial

/-- The fields of the invariant after a step of a turn. -/
theorem Tracked.turned (workers : next.workers = Function.update system.workers worker (some after))
    (reconciles : next.reconciles = system.reconciles)
    (stored : ∀ current, next.templates key = some current →
      current.key = key ∧ current.metadata.resourceVersion ≤ next.revision ∧
        current.spec ∈ specs)
    (known : ∀ template, Matches specs system key template → Matches specs next key template)
    (alive : Alive system key → Alive next key)
    (guarantees : Guarantees (turnProtocol config.platform key)
      (fun stage result => stage = .finished ∧ result = .done) stage after.program)
    (fits : TurnFits config specs next (Function.update turns worker stage) stages key after stage)
    (completed : ∀ current, next.templates key = some current →
      current.status.processingPhase = .completed →
      Settled config specs next (Function.update turns worker stage) stages key current) :
    Tracked config specs next (Function.update turns worker stage) stages key := by
  have isAlive : Alive system key := tracked.alive (.inr ⟨worker, execution, inside, own⟩)
  have only (other : Nat) (found : Execution Worker.Disposition)
      (insideOther : next.workers other = some found) (isKey : found.key = key) :
      other = worker := by
    by_contra different
    rw [workers, Function.update_of_ne different] at insideOther
    exact different (tracked.once worker other execution found inside own insideOther isKey)
  constructor
  · exact stored
  · intro other found insideOther isKey
    have same := only other found insideOther isKey
    subst same
    rw [workers, Function.update_self] at insideOther
    cases insideOther
    rw [Function.update_self]
    exact ⟨guarantees, fits⟩
  · intro first second found other insideFirst isKey insideSecond isOther
    rw [only second other insideSecond isOther, only first found insideFirst isKey]
  · intro found insideReconcile
    rw [reconciles] at insideReconcile
    exact ⟨(tracked.reconcile found insideReconcile).1,
      tracked.reconcile_beside inside own known (alive isAlive) insideReconcile⟩
  · intro found insideReconcile corrects
    rw [reconciles] at insideReconcile
    exact absurd own (tracked.apart found insideReconcile corrects worker execution inside)
  · intro _busy
    exact alive isAlive
  · exact completed

/-- A step of a turn that changes nothing but the execution itself. -/
theorem Tracked.turned_quietly (sameKey : after.key = execution.key)
    (keeps : (turns worker).early → stage.early)
    (guarantees : Guarantees (turnProtocol config.platform key)
      (fun stage result => stage = .finished ∧ result = .done) stage after.program)
    (fits : TurnFits config specs
      { system with workers := Function.update system.workers worker (some after) }
      (Function.update turns worker stage) stages key after stage) :
    Tracked config specs
      { system with workers := Function.update system.workers worker (some after) }
      (Function.update turns worker stage) stages key := by
  refine tracked.turned inside own rfl rfl tracked.stored ?_ id guarantees fits ?_
  · intro template known
    exact known.same rfl
  · intro current isStored phase
    obtain ⟨spec, isKnown, hash, patched, owed⟩ := tracked.completed current isStored phase
    refine ⟨spec, isKnown, hash, patched, ?_⟩
    intro different
    exact (owed different).turned inside rfl sameKey rfl rfl rfl keeps

end Beside

variable {request : Call} {rest : request.Answer → Program client Worker.Disposition}
  {outcome : Outcome} {answered : request.Answer × System}

def afterTurn (system : System) (worker : Nat) (execution : Execution Worker.Disposition)
    (request : Call) (rest : request.Answer → Program client Worker.Disposition)
    (outcome : Outcome) (answered : request.Answer × System) : System :=
  { answered.2 with
    workers := Function.update system.workers worker
      (some (execution.advance request rest answered.1))
    writes := system.logged execution.key execution.read request outcome }

structure TurnCall (config : Config) (system : System) (key : NamespacedName) (worker : Nat)
    (execution : Execution Worker.Disposition) (request : Call)
    (rest : request.Answer → Program client Worker.Disposition) (outcome : Outcome)
    (answered : request.Answer × System) : Prop where
  inside : system.workers worker = some execution
  own : execution.key = key
  calls : execution.program = .call request rest
  smooth : SmoothCall config system execution.read request outcome
  isAnswer : system.respond request outcome = some answered

variable {kubeTemplate : KubeTemplate}

theorem Applying.turned {applied : List ResourceId}
    (applying : Applying config specs system turns stages key kubeTemplate applied)
    (inside : system.workers worker = some execution) (sameKey : after.key = execution.key)
    (late : ¬ (turns worker).early) :
    Applying config specs
      { system with workers := Function.update system.workers worker (some after) }
      (Function.update turns worker stage) stages key kubeTemplate applied := by
  obtain ⟨current, isStored, phase, identity, owed⟩ := applying.current
  refine ⟨applying.spec, ⟨current, isStored, phase, identity, ?_⟩, applying.applied⟩
  intro different
  exact (owed different).turned inside rfl sameKey rfl rfl rfl (fun early => absurd early late)

/-- A Patch of a turn: one more resource is applied. -/
theorem Tracked.turned_patched (tracked : Tracked config specs system turns stages key)
    (inside : system.workers worker = some execution) (own : execution.key = key)
    (sameKey : after.key = execution.key) (sameRead : after.read = execution.read)
    {applied : List ResourceId} {write : Write} (isRead : execution.read = some kubeTemplate)
    (writes : write.read = execution.read) (writesOwn : write.key = key)
    (patches : write.deletes = false) (succeeded : write.succeeded = true)
    (late : ¬ (turns worker).early)
    (applying : Applying config specs system turns stages key kubeTemplate applied)
    (guarantees : Guarantees (turnProtocol config.platform key)
      (fun stage result => stage = .finished ∧ result = .done)
      (.applying kubeTemplate (resourceOf config.platform write.object :: applied))
      after.program) :
    Tracked config specs
      { system with
        workers := Function.update system.workers worker (some after)
        writes := write :: system.writes }
      (Function.update turns worker
        (.applying kubeTemplate (resourceOf config.platform write.object :: applied)))
      stages key := by
  obtain ⟨current, isStored, phase, identity, owed⟩ := applying.current
  have read : write.read = some kubeTemplate := writes.trans isRead
  refine tracked.turned inside own rfl rfl tracked.stored ?_ id guarantees ?_ ?_
  · intro template known
    exact known.same rfl
  · refine ⟨sameRead.trans isRead, applying.spec,
      ⟨current, isStored, phase, identity, ?_⟩, ?_⟩
    · intro different
      exact (owed different).turned inside rfl sameKey rfl rfl rfl
        (fun early => absurd early late)
    · intro resource member
      rcases List.mem_cons.mp member with new | old
      · rw [new, ← writesOwn]
        exact patchedFrom_first config.platform patches succeeded read
      · exact (applying.applied resource old).again config.platform read rfl
  · intro other isOther completed
    cases isOther.symm.trans isStored
    rw [phase] at completed
    cases completed

section Calls

variable (tracked : Tracked config specs system turns stages key)
  (turn : TurnCall config system key worker execution request rest outcome answered)

include tracked turn

private theorem turn_waiting (isStage : turns worker = .waiting) :
    Tracked config specs (afterTurn system worker execution request rest outcome answered)
      (Function.update turns worker
        (workerAfter config.platform (turns worker) request answered.1)) stages key := by
  obtain ⟨inside, own, calls, smooth, isAnswer⟩ := turn
  obtain ⟨current, isStored, _started⟩ := tracked.alive (.inr ⟨worker, execution, inside, own⟩)
  obtain ⟨guarantees, _fits⟩ := tracked.turn worker execution inside own
  rw [isStage, calls] at guarantees
  cases request with
  | getTemplate wanted =>
      have same : wanted = key := guarantees.1
      subst same
      rw [respond_read (smooth.succeeds nofun) isAnswer, isStage, found_stored isStored]
      refine tracked.turned_quietly inside own rfl (fun _ => trivial) ?_ trivial
      exact guarantees.2 (.ok current) ⟨current, rfl, (tracked.stored current isStored).1⟩
  | _ => exact guarantees.1.elim

private theorem turn_fetched (isStage : turns worker = .fetched) :
    Tracked config specs (afterTurn system worker execution request rest outcome answered)
      (Function.update turns worker
        (workerAfter config.platform (turns worker) request answered.1)) stages key := by
  obtain ⟨inside, own, calls, smooth, isAnswer⟩ := turn
  obtain ⟨current, isStored, _started⟩ := tracked.alive (.inr ⟨worker, execution, inside, own⟩)
  obtain ⟨guarantees, _fits⟩ := tracked.turn worker execution inside own
  rw [isStage, calls] at guarantees
  cases request with
  | getTemplate wanted =>
      have same : wanted = key := guarantees.1
      subst same
      rw [respond_read (smooth.succeeds nofun) isAnswer, isStage, found_stored isStored]
      have known := tracked.matches_stored isStored
      refine tracked.turned_quietly inside own rfl (fun _ => trivial) ?_
        ⟨rfl, known.spec, known.current⟩
      exact guarantees.2 (.ok current) ⟨current, rfl, (tracked.stored current isStored).1⟩
  | _ => exact guarantees.1.elim

private theorem turn_reread {latest : KubeTemplate} (isStage : turns worker = .reread latest) :
    Tracked config specs (afterTurn system worker execution request rest outcome answered)
      (Function.update turns worker
        (workerAfter config.platform (turns worker) request answered.1)) stages key := by
  obtain ⟨inside, own, calls, smooth, isAnswer⟩ := turn
  obtain ⟨guarantees, fits⟩ := tracked.turn worker execution inside own
  rw [isStage, calls] at guarantees
  rw [isStage] at fits ⊢
  obtain ⟨isRead, known⟩ := fits
  cases request with
  | updateStatus template =>
      have isTemplate : template =
          { latest with status := Worker.processingStatus latest.status } := guarantees.1
      subst isTemplate
      obtain ⟨isStored, isResult⟩ := tracked.written known (smooth.succeeds nofun) isAnswer
      have isKnown := (tracked.stored latest isStored).2.2
      subst isResult
      have rewritten := tracked.put_rewritten isStored
        { latest with status := Worker.processingStatus latest.status } ⟨rfl, rfl, rfl⟩ isKnown
      have isNew := rewritten.isNew
      refine tracked.turned inside own rfl rfl rewritten.stored ?_ ?_
        (guarantees.2 (.ok _) ⟨_, rfl⟩) ?_ ?_
      · intro template isMatch
        exact (rewritten.known template isMatch).same rfl
      · intro _alive
        exact ⟨_, isNew, nofun⟩
      · refine ⟨isRead, isKnown, ⟨_, isNew, rfl, ⟨rfl, rfl, rfl⟩, ?_⟩, ?_⟩
        · intro different
          exact absurd rfl different
        · intro resource member
          cases member
      · intro current isCurrent completed
        cases isCurrent.symm.trans isNew
        cases completed
  | _ => exact guarantees.1.elim

private theorem turn_applying {applied : List ResourceId}
    (isStage : turns worker = .applying kubeTemplate applied) :
    Tracked config specs (afterTurn system worker execution request rest outcome answered)
      (Function.update turns worker
        (workerAfter config.platform (turns worker) request answered.1)) stages key := by
  obtain ⟨inside, own, calls, smooth, isAnswer⟩ := turn
  obtain ⟨guarantees, fits⟩ := tracked.turn worker execution inside own
  have late : ¬ (turns worker).early := by
    rw [isStage]
    exact id
  rw [isStage, calls] at guarantees
  rw [isStage] at fits ⊢
  obtain ⟨isRead, applying⟩ := fits
  cases request with
  | policyCacheGet source operator =>
      obtain ⟨granted, inForce, accepts⟩ := smooth.allowed source operator rfl
      have isResult := respond_policyCacheGet (smooth.succeeds nofun) isAnswer
      rw [inForce] at isResult
      subst isResult
      refine tracked.turned_quietly inside own rfl (fun early => absurd early late) ?_
        ⟨isRead, applying.turned inside rfl late⟩
      apply guarantees.2
      refine ⟨granted, rfl, ?_⟩
      intro _ _ same
      cases same
      exact accepts kubeTemplate isRead
  | now =>
      rw [respond_now isAnswer]
      exact tracked.turned_quietly inside own rfl (fun early => absurd early late)
        (guarantees.2 system.clock trivial) ⟨isRead, applying.turned inside rfl late⟩
  | patch object forceOwnership dryRun =>
      have real : dryRun = false := guarantees.1
      subst real
      obtain ⟨result, rfl, rfl⟩ := respond_patch (smooth.succeeds nofun) isAnswer
      refine tracked.turned_patched inside own ?_ ?_ isRead ?_ own ?_ ?_ late applying
        (guarantees.2 (.ok result) ⟨result, rfl⟩)
      all_goals rfl
  | getTemplate wanted =>
      obtain ⟨same, all⟩ := guarantees.1
      subst same
      obtain ⟨current, isStored, _⟩ := applying.current
      rw [respond_read (smooth.succeeds nofun) isAnswer, found_stored isStored]
      have known := tracked.matches_stored isStored
      refine tracked.turned_quietly inside own rfl (fun early => absurd early late) ?_
        ⟨known.same rfl, applied, all, applying.turned inside rfl late⟩
      exact guarantees.2 (.ok current) ⟨current, rfl, (tracked.stored current isStored).1⟩
  | _ => exact guarantees.1.elim

private theorem turn_closing {latest : KubeTemplate}
    (isStage : turns worker = .closing kubeTemplate latest) :
    Tracked config specs (afterTurn system worker execution request rest outcome answered)
      (Function.update turns worker
        (workerAfter config.platform (turns worker) request answered.1)) stages key := by
  obtain ⟨inside, own, calls, smooth, isAnswer⟩ := turn
  obtain ⟨guarantees, fits⟩ := tracked.turn worker execution inside own
  have late : ¬ (turns worker).early := by
    rw [isStage]
    exact id
  rw [isStage, calls] at guarantees
  rw [isStage] at fits ⊢
  obtain ⟨known, applied, all, applying⟩ := fits
  cases request with
  | updateStatus template =>
      obtain ⟨now, isTemplate⟩ := guarantees.1
      subst isTemplate
      obtain ⟨isStored, isResult⟩ := tracked.written known (smooth.succeeds nofun) isAnswer
      subst isResult
      have rewritten := tracked.put_rewritten isStored
        { latest with
          status := Worker.completedStatus (calculateSpecHash config.platform kubeTemplate.spec)
            now latest.status } ⟨rfl, rfl, rfl⟩ (tracked.stored latest isStored).2.2
      have isNew := rewritten.isNew
      refine tracked.turned inside own rfl rfl rewritten.stored ?_ ?_
        (guarantees.2 (.ok _) ⟨_, rfl⟩) trivial ?_
      · intro template isMatch
        exact (rewritten.known template isMatch).same rfl
      · intro _alive
        exact ⟨_, isNew, nofun⟩
      · intro current isCurrent _completed
        cases isCurrent.symm.trans isNew
        obtain ⟨old, isOld, _phase, identity, owed⟩ := applying.current
        cases isOld.symm.trans isStored
        refine ⟨kubeTemplate.spec, applying.spec, rfl, ?_, ?_⟩
        · intro template member decoded decodes
          have resource := elementResource_identity config.platform identity template decoded
          have patched := applying.applied _ (all template member decoded decodes)
          rw [resource] at patched
          exact patched
        · intro different
          exact (owed different).turned inside rfl rfl rfl rfl rfl
            (fun early => absurd early late)
  | _ => exact guarantees.1.elim

theorem turn_call :
    Tracked config specs (afterTurn system worker execution request rest outcome answered)
      (Function.update turns worker
        (workerAfter config.platform (turns worker) request answered.1)) stages key := by
  cases isStage : turns worker with
  | waiting =>
      rw [← isStage]
      exact turn_waiting tracked turn isStage
  | fetched =>
      rw [← isStage]
      exact turn_fetched tracked turn isStage
  | reread latest =>
      rw [← isStage]
      exact turn_reread tracked turn isStage
  | applying kubeTemplate applied =>
      rw [← isStage]
      exact turn_applying tracked turn isStage
  | closing kubeTemplate latest =>
      rw [← isStage]
      exact turn_closing tracked turn isStage
  | finished =>
      obtain ⟨guarantees, _fits⟩ := tracked.turn worker execution turn.inside turn.own
      rw [isStage, turn.calls] at guarantees
      cases request <;> exact guarantees.1.elim

end Calls

end

end KubeTemplater.Operator
