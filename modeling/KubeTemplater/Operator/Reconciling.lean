/-
One step of an execution of `Reconcile`, when every call succeeds: what is known
of its KubeTemplate stays true.
-/

import KubeTemplater.Operator.Turns

namespace KubeTemplater.Operator

open Library Library.Program

/-- The hash tells the specs apart and is never the empty string. -/
structure HashLaws (platform : Platform) (specs : List KubeTemplateSpec) : Prop where
  nonempty : ∀ spec, spec ∈ specs → calculateSpecHash platform spec ≠ ""
  injective : ∀ left right, left ∈ specs → right ∈ specs →
    calculateSpecHash platform left = calculateSpecHash platform right → left = right

section

variable {config : Config} {specs : List KubeTemplateSpec} {system next : System}
  {turns : Nat → WorkerStage} {stages : NamespacedName → ReconcileStage}
  {key : NamespacedName} {execution after : Execution Controller.ReconcileResult}
  {stage : ReconcileStage}

theorem Owed.advanced (owed : Owed system turns stages key)
    (reconciles : next.reconciles = Function.update system.reconciles key (some after))
    (workers : next.workers = system.workers) (pending : next.pending = system.pending)
    (session : next.session = system.session) (keeps : (stages key).owes → stage.owes) :
    Owed next turns (Function.update stages key stage) key := by
  apply owed.mono
  · rw [pending]
    exact id
  · intro found _insideReconcile owes
    rw [reconciles, Function.update_self, Function.update_self]
    exact ⟨after, rfl, keeps owes⟩
  · rw [session]
    exact id
  · rw [workers]
    exact fun worker found insideWorker own early => ⟨found, insideWorker, own, early⟩

/-- The fields of the invariant after a step of `Reconcile`. -/
theorem Tracked.reconciled (tracked : Tracked config specs system turns stages key)
    (reconciles : next.reconciles = Function.update system.reconciles key (some after))
    (workers : next.workers = system.workers)
    (stored : ∀ current, next.templates key = some current →
      current.key = key ∧ current.metadata.resourceVersion ≤ next.revision ∧
        current.spec ∈ specs)
    (guarantees : Guarantees (reconcileProtocol config.platform key) (fun stage _ => ¬ stage.owes)
      stage after.program)
    (fits : ReconcileFits config specs next key after stage)
    (turnFits : ∀ worker found, system.workers worker = some found → found.key = key →
      TurnFits config specs system turns stages key found (turns worker) →
      TurnFits config specs next turns (Function.update stages key stage) key found
        (turns worker))
    (apart : stage.corrects →
      ∀ worker found, system.workers worker = some found → found.key ≠ key)
    (alive : Queued next.session key ∨
        (∃ worker found, system.workers worker = some found ∧ found.key = key) →
      Alive next key)
    (completed : ∀ current, next.templates key = some current →
      current.status.processingPhase = .completed →
      Settled config specs next turns (Function.update stages key stage) key current) :
    Tracked config specs next turns (Function.update stages key stage) key := by
  constructor
  · exact stored
  · intro worker found insideWorker own
    rw [workers] at insideWorker
    obtain ⟨promises, before⟩ := tracked.turn worker found insideWorker own
    exact ⟨promises, turnFits worker found insideWorker own before⟩
  · rw [workers]
    exact tracked.once
  · intro found insideReconcile
    rw [reconciles, Function.update_self] at insideReconcile
    cases insideReconcile
    rw [Function.update_self]
    exact ⟨guarantees, fits⟩
  · intro found _inside corrects
    rw [Function.update_self] at corrects
    rw [workers]
    exact apart corrects
  · rw [workers]
    exact alive
  · exact completed

variable {kubeTemplate : KubeTemplate}

theorem Applying.advanced {applied : List ResourceId}
    (applying : Applying config specs system turns stages key kubeTemplate applied)
    (keeps : (stages key).owes → stage.owes) :
    Applying config specs
      { system with reconciles := Function.update system.reconciles key (some after) }
      turns (Function.update stages key stage) key kubeTemplate applied := by
  obtain ⟨current, isStored, phase, identity, owed⟩ := applying.current
  refine ⟨applying.spec, ⟨current, isStored, phase, identity, ?_⟩, applying.applied⟩
  intro different
  exact (owed different).advanced rfl rfl rfl rfl keeps

/-- A step that changes nothing but the execution and still owes what it did. -/
theorem Tracked.reconciled_keeping (tracked : Tracked config specs system turns stages key)
    (keeps : (stages key).owes → stage.owes)
    (guarantees : Guarantees (reconcileProtocol config.platform key) (fun stage _ => ¬ stage.owes)
      stage after.program)
    (fits : ReconcileFits config specs
      { system with reconciles := Function.update system.reconciles key (some after) } key after
      stage)
    (apart : stage.corrects →
      ∀ worker found, system.workers worker = some found → found.key ≠ key) :
    Tracked config specs
      { system with reconciles := Function.update system.reconciles key (some after) }
      turns (Function.update stages key stage) key := by
  refine tracked.reconciled rfl rfl tracked.stored guarantees fits ?_ apart tracked.alive ?_
  · intro worker found _insideWorker _own before
    exact before.mono (fun _ known => known.same rfl)
      (fun _ _ applying => applying.advanced keeps)
  · intro current isStored phase
    obtain ⟨spec, isKnown, hash, patched, owed⟩ := tracked.completed current isStored phase
    refine ⟨spec, isKnown, hash, patched, ?_⟩
    intro different
    exact (owed different).advanced rfl rfl rfl rfl keeps

variable {current : KubeTemplate}

private theorem not_applying_of_idle {applied : List ResourceId}
    (isStored : system.templates key = some current)
    (idle : current.status.processingPhase ≠ .processing) :
    ¬ Applying config specs system turns stages key kubeTemplate applied := by
  intro applying
  obtain ⟨other, isOther, phase, _⟩ := applying.current
  cases isOther.symm.trans isStored
  exact idle phase

/-- A step that only looks at the template, and finds that nothing is owed. -/
theorem Tracked.reconciled_idle (tracked : Tracked config specs system turns stages key)
    (laws : HashLaws config.platform specs)
    (idle : ∀ current, system.templates key = some current →
      current.status.processingPhase ≠ .processing ∧
        (current.status.processingPhase = .completed →
          calculateSpecHash config.platform current.spec = current.status.appliedSpecHash))
    (guarantees : Guarantees (reconcileProtocol config.platform key) (fun stage _ => ¬ stage.owes)
      stage after.program)
    (fits : ReconcileFits config specs
      { system with reconciles := Function.update system.reconciles key (some after) } key after
      stage)
    (apart : stage.corrects →
      ∀ worker found, system.workers worker = some found → found.key ≠ key) :
    Tracked config specs
      { system with reconciles := Function.update system.reconciles key (some after) }
      turns (Function.update stages key stage) key := by
  refine tracked.reconciled rfl rfl tracked.stored guarantees fits ?_ apart tracked.alive ?_
  · intro worker found insideWorker own before
    obtain ⟨current, isStored, _started⟩ := tracked.alive (.inr ⟨worker, found, insideWorker, own⟩)
    exact before.mono (fun _ known => known.same rfl)
      (fun _ _ applying => absurd applying
        (not_applying_of_idle isStored (idle current isStored).1))
  · intro current isStored phase
    obtain ⟨spec, isKnown, hash, patched, _owed⟩ := tracked.completed current isStored phase
    refine ⟨spec, isKnown, hash, patched, ?_⟩
    intro different
    have same := hash.trans ((idle current isStored).2 phase).symm
    exact absurd (laws.injective spec current.spec isKnown
      (tracked.stored current isStored).2.2 same) different

variable {request : Call} {rest : request.Answer → Program client Controller.ReconcileResult}
  {outcome : Outcome} {answered : request.Answer × System}

def afterReconcile (system : System) (key : NamespacedName)
    (execution : Execution Controller.ReconcileResult) (request : Call)
    (rest : request.Answer → Program client Controller.ReconcileResult)
    (outcome : Outcome) (answered : request.Answer × System) : System :=
  { answered.2 with
    reconciles := Function.update system.reconciles key
      (some (execution.advance request rest answered.1))
    writes := system.logged key execution.read request outcome }

/-- A smooth call of `Reconcile`, with its answer.  Its first read finds the template
idle only when no worker holds it. -/
structure ReconcileCall (config : Config) (system : System) (key : NamespacedName)
    (execution : Execution Controller.ReconcileResult) (request : Call)
    (rest : request.Answer → Program client Controller.ReconcileResult) (outcome : Outcome)
    (answered : request.Answer × System) : Prop where
  inside : system.reconciles key = some execution
  calls : execution.program = .call request rest
  smooth : SmoothCall config system execution.read request outcome
  isAnswer : system.respond request outcome = some answered
  serial : ∀ current, execution.read = none → system.templates key = some current →
    DriftReady config.platform current →
    ∀ worker found, system.workers worker = some found → found.key ≠ key

section Steps

variable (tracked : Tracked config specs system turns stages key)

include tracked

/-- The status Queued is written next. -/
theorem Tracked.reconciled_queuing (isStored : system.templates key = some current)
    (idle : current.status.processingPhase ≠ .processing)
    (guarantees : Guarantees (reconcileProtocol config.platform key) (fun stage _ => ¬ stage.owes)
      (.queuing current) after.program) :
    Tracked config specs
      { system with reconciles := Function.update system.reconciles key (some after) }
      turns (Function.update stages key (.queuing current)) key :=
  tracked.reconciled_keeping (fun _ => trivial) guarantees
    ⟨(tracked.matches_stored isStored).same rfl, idle⟩ False.elim

/-- The template is put into the queue next. -/
theorem Tracked.reconciled_enqueuing (isStored : system.templates key = some current)
    (started : current.status.processingPhase ≠ .empty)
    (guarantees : Guarantees (reconcileProtocol config.platform key) (fun stage _ => ¬ stage.owes)
      .enqueuing after.program) :
    Tracked config specs
      { system with reconciles := Function.update system.reconciles key (some after) }
      turns (Function.update stages key .enqueuing) key :=
  tracked.reconciled_keeping (fun _ => trivial) guarantees ⟨current, isStored, started⟩
    False.elim

/-- A template that is left alone: it is neither worked on nor completed. -/
theorem Tracked.reconciled_finished (laws : HashLaws config.platform specs)
    (isStored : system.templates key = some current)
    (idle : current.status.processingPhase ≠ .processing)
    (notCompleted : current.status.processingPhase ≠ .completed)
    (guarantees : Guarantees (reconcileProtocol config.platform key) (fun stage _ => ¬ stage.owes)
      .finished after.program) :
    Tracked config specs
      { system with reconciles := Function.update system.reconciles key (some after) }
      turns (Function.update stages key .finished) key := by
  refine tracked.reconciled_idle laws ?_ guarantees trivial False.elim
  intro other isOther
  cases isOther.symm.trans isStored
  exact ⟨idle, fun completed => absurd completed notCompleted⟩

theorem Tracked.reconciled_correcting (laws : HashLaws config.platform specs)
    (isStored : system.templates key = some current)
    (ready : DriftReady config.platform current)
    (free : ∀ worker found, system.workers worker = some found → found.key ≠ key)
    (isRead : after.read = some current)
    (guarantees : Guarantees (reconcileProtocol config.platform key) (fun stage _ => ¬ stage.owes)
      (.correcting current) after.program) :
    Tracked config specs
      { system with reconciles := Function.update system.reconciles key (some after) }
      turns (Function.update stages key (.correcting current)) key := by
  obtain ⟨completed, hashed, same⟩ := ready
  refine tracked.reconciled_idle laws ?_ guarantees
    ⟨isRead, ⟨completed, hashed, same⟩, (tracked.matches_stored isStored).same rfl, current,
      isStored, completed, rfl⟩ (fun _ => free)
  intro other isOther
  cases isOther.symm.trans isStored
  refine ⟨?_, fun _ => same⟩
  rw [completed]
  exact nofun

private theorem stageAfterRead_fits (laws : HashLaws config.platform specs)
    (isStored : system.templates key = some current)
    (serial : DriftReady config.platform current →
      ∀ worker found, system.workers worker = some found → found.key ≠ key)
    (isRead : after.read = some current)
    (guarantees : Guarantees (reconcileProtocol config.platform key) (fun stage _ => ¬ stage.owes)
      (stageAfterRead config.platform current) after.program) :
    Tracked config specs
      { system with reconciles := Function.update system.reconciles key (some after) }
      turns (Function.update stages key (stageAfterRead config.platform current)) key := by
  cases phase : current.status.processingPhase with
  | empty =>
      simp only [stageAfterRead, phase] at guarantees ⊢
      exact tracked.reconciled_keeping (fun _ => trivial) guarantees
        ⟨current, isStored, phase⟩ False.elim
  | paused =>
      by_cases resumed : mapGet current.metadata.annotations Controller.resumeAnnotation =
          some "true"
      · simp only [stageAfterRead, phase, if_pos resumed] at guarantees ⊢
        exact tracked.reconciled_queuing isStored (by rw [phase]; exact nofun) guarantees
      · simp only [stageAfterRead, phase, if_neg resumed] at guarantees ⊢
        exact tracked.reconciled_finished laws isStored (by rw [phase]; exact nofun)
          (by rw [phase]; exact nofun) guarantees
  | failed =>
      by_cases changed : specChanged config.platform current
      · simp only [stageAfterRead, phase, if_pos changed] at guarantees ⊢
        exact tracked.reconciled_queuing isStored (by rw [phase]; exact nofun) guarantees
      · simp only [stageAfterRead, phase, if_neg changed] at guarantees ⊢
        exact tracked.reconciled_finished laws isStored (by rw [phase]; exact nofun)
          (by rw [phase]; exact nofun) guarantees
  | completed =>
      have hashed : current.status.appliedSpecHash ≠ "" := by
        obtain ⟨spec, isKnown, hash, _⟩ := tracked.completed current isStored phase
        rw [← hash]
        exact laws.nonempty spec isKnown
      by_cases changed : specChanged config.platform current
      · simp only [stageAfterRead, phase, if_pos changed] at guarantees ⊢
        exact tracked.reconciled_queuing isStored (by rw [phase]; exact nofun) guarantees
      · have ready : DriftReady config.platform current :=
          ⟨phase, hashed, not_not.mp (fun differs => changed ⟨hashed, differs⟩)⟩
        simp only [stageAfterRead, phase, if_neg changed] at guarantees ⊢
        exact tracked.reconciled_correcting laws isStored ready (serial ready) isRead guarantees
  | _ =>
      simp only [stageAfterRead, phase] at guarantees ⊢
      exact tracked.reconciled_enqueuing isStored (by rw [phase]; exact nofun) guarantees

private theorem reconcile_waiting (laws : HashLaws config.platform specs)
    (turn : ReconcileCall config system key execution request rest outcome answered)
    (isStage : stages key = .waiting) :
    Tracked config specs (afterReconcile system key execution request rest outcome answered) turns
      (Function.update stages key
        (reconcileAfter config.platform (stages key) request answered.1)) key := by
  obtain ⟨inside, calls, smooth, isAnswer, serial⟩ := turn
  obtain ⟨guarantees, fits⟩ := tracked.reconcile execution inside
  rw [isStage, calls] at guarantees
  rw [isStage] at fits ⊢
  cases request with
  | getTemplate wanted =>
      have same : wanted = key := guarantees.1
      subst same
      rw [respond_read (smooth.succeeds nofun) isAnswer]
      cases isStored : system.templates wanted with
      | none =>
          have missing : system.found wanted = .error (notFound wanted.name) := by
            unfold System.found
            rw [isStored]
          rw [missing]
          refine tracked.reconciled_idle laws ?_ ?_ trivial False.elim
          · intro current isCurrent
            cases isStored.symm.trans isCurrent
          · exact guarantees.2 (.error _) (.inr ⟨_, rfl, rfl⟩)
      | some current =>
          rw [found_stored isStored]
          refine stageAfterRead_fits tracked laws isStored
            (serial current fits isStored) rfl ?_
          refine guarantees.2 (.ok current)
            (.inl ⟨current, rfl, (tracked.stored current isStored).1, ?_⟩)
          intro completed
          obtain ⟨spec, isKnown, hash, _⟩ := tracked.completed current isStored completed
          rw [← hash]
          exact laws.nonempty spec isKnown
  | _ => exact guarantees.1.elim

private theorem reconcile_fresh
    (turn : ReconcileCall config system key execution request rest outcome answered)
    (isStage : stages key = .fresh) :
    Tracked config specs (afterReconcile system key execution request rest outcome answered) turns
      (Function.update stages key
        (reconcileAfter config.platform (stages key) request answered.1)) key := by
  obtain ⟨inside, calls, smooth, isAnswer, _serial⟩ := turn
  obtain ⟨guarantees, fits⟩ := tracked.reconcile execution inside
  rw [isStage, calls] at guarantees
  rw [isStage] at fits ⊢
  obtain ⟨current, isStored, empty⟩ := fits
  cases request with
  | getTemplate wanted =>
      have same : wanted = key := guarantees.1
      subst same
      rw [respond_read (smooth.succeeds nofun) isAnswer, found_stored isStored]
      have known := tracked.matches_stored isStored
      refine tracked.reconciled_keeping (fun _ => trivial) ?_ ⟨known.same rfl, ?_⟩
        False.elim
      · exact guarantees.2 (.ok current) ⟨current, rfl, (tracked.stored current isStored).1⟩
      · rw [empty]
        exact nofun
  | _ => exact guarantees.1.elim

private theorem reconcile_queuing
    (turn : ReconcileCall config system key execution request rest outcome answered)
    {latest : KubeTemplate} (isStage : stages key = .queuing latest) :
    Tracked config specs (afterReconcile system key execution request rest outcome answered) turns
      (Function.update stages key
        (reconcileAfter config.platform (stages key) request answered.1)) key := by
  obtain ⟨inside, calls, smooth, isAnswer, _serial⟩ := turn
  obtain ⟨guarantees, fits⟩ := tracked.reconcile execution inside
  rw [isStage, calls] at guarantees
  rw [isStage] at fits ⊢
  obtain ⟨known, idle⟩ := fits
  cases request with
  | now =>
      rw [respond_now isAnswer]
      exact tracked.reconciled_keeping (fun _ => trivial) (guarantees.2 system.clock trivial)
        ⟨known.same rfl, idle⟩ False.elim
  | updateStatus template =>
      obtain ⟨status, isTemplate, queued⟩ := guarantees.1
      subst isTemplate
      obtain ⟨isStored, isResult⟩ := tracked.written known (smooth.succeeds nofun) isAnswer
      subst isResult
      have rewritten := tracked.put_rewritten isStored { latest with status := status }
        ⟨rfl, rfl, rfl⟩ (tracked.stored latest isStored).2.2
      have isNew := rewritten.isNew
      have started : (system.stamp { latest with status := status }).status.processingPhase ≠
          .empty := by
        change status.processingPhase ≠ .empty
        rw [queued]
        exact nofun
      refine tracked.reconciled rfl rfl rewritten.stored (guarantees.2 (.ok _) ⟨_, rfl⟩)
        ⟨_, isNew, started⟩ ?_ False.elim (fun _ => ⟨_, isNew, started⟩) ?_
      · intro worker found _insideWorker _own before
        refine before.mono ?_
          (fun _ _ applying => absurd applying (not_applying_of_idle isStored idle))
        intro template isMatch
        exact (rewritten.known template isMatch).same rfl
      · intro current isCurrent completed
        cases isCurrent.symm.trans isNew
        cases queued.symm.trans completed
  | _ => exact guarantees.1.elim

private theorem reconcile_enqueuing (valid : system.session.Valid)
    (turn : ReconcileCall config system key execution request rest outcome answered)
    (isStage : stages key = .enqueuing) :
    Tracked config specs (afterReconcile system key execution request rest outcome answered) turns
      (Function.update stages key
        (reconcileAfter config.platform (stages key) request answered.1)) key := by
  obtain ⟨inside, calls, _smooth, isAnswer, _serial⟩ := turn
  obtain ⟨guarantees, fits⟩ := tracked.reconcile execution inside
  rw [isStage, calls] at guarantees
  rw [isStage] at fits ⊢
  cases request with
  | enqueue wanted priority =>
      have same : wanted = key := guarantees.1
      subst same
      rw [respond_enqueue isAnswer]
      have queued := (queued_enqueue valid wanted wanted priority system.clock).mpr (.inl rfl)
      refine tracked.reconciled rfl rfl tracked.stored (guarantees.2 () trivial) trivial
        ?_ False.elim (fun _ => fits) ?_
      · intro worker found _insideWorker _own before
        refine before.mono (fun _ known => known.same rfl) ?_
        intro kubeTemplate applied applying
        obtain ⟨current, isStored, phase, identity, _owed⟩ := applying.current
        exact ⟨applying.spec,
          ⟨current, isStored, phase, identity, fun _ => .inr (.inr (.inl queued))⟩,
          applying.applied⟩
      · intro current isStored phase
        obtain ⟨spec, isKnown, hash, patched, _owed⟩ := tracked.completed current isStored phase
        exact ⟨spec, isKnown, hash, patched, fun _ => .inr (.inr (.inl queued))⟩
  | _ => exact guarantees.1.elim

private theorem settled_spec (laws : HashLaws config.platform specs)
    (ready : DriftReady config.platform kubeTemplate)
    (known : Matches specs system key kubeTemplate) (isStored : system.templates key = some current)
    (completed : current.status.processingPhase = .completed)
    (hash : current.status.appliedSpecHash = kubeTemplate.status.appliedSpecHash) :
    (∀ template, template ∈ kubeTemplate.spec.templates → ∀ decoded,
      config.platform.unmarshal template.object.raw = .ok decoded →
      PatchedFrom config.platform system.writes key
        (elementResource config.platform current.metadata template decoded) kubeTemplate.spec) ∧
    (kubeTemplate.spec ≠ current.spec → Owed system turns stages key) := by
  obtain ⟨spec, isKnown, isHash, patched, owed⟩ := tracked.completed current isStored completed
  have same : spec = kubeTemplate.spec := by
    apply laws.injective spec kubeTemplate.spec isKnown known.spec
    rw [isHash, hash, ready.2.2]
  subst same
  exact ⟨patched, owed⟩

theorem Tracked.reconciled_patched (laws : HashLaws config.platform specs) {write : Write}
    (isRead : execution.read = some kubeTemplate) (writes : write.read = execution.read)
    (sameRead : after.read = execution.read) (owesNothing : ¬ (stages key).owes)
    (free : ∀ worker found, system.workers worker = some found → found.key ≠ key)
    (fits : ReconcileFits config specs system key execution (.correcting kubeTemplate))
    (guarantees : Guarantees (reconcileProtocol config.platform key) (fun stage _ => ¬ stage.owes)
      (.correcting kubeTemplate) after.program) :
    Tracked config specs
      { system with
        reconciles := Function.update system.reconciles key (some after)
        writes := write :: system.writes }
      turns (Function.update stages key (.correcting kubeTemplate)) key := by
  obtain ⟨_, ready, known, current, isStored, completed, hash⟩ := fits
  refine tracked.reconciled rfl rfl tracked.stored guarantees
    ⟨sameRead.trans isRead, ready, known.same rfl, current, isStored, completed, hash⟩
    (fun worker found insideWorker own => absurd own (free worker found insideWorker))
    (fun _ => free) tracked.alive ?_
  intro other isOther _phase
  cases isOther.symm.trans isStored
  obtain ⟨patched, owed⟩ := settled_spec tracked laws ready known isStored completed hash
  refine ⟨kubeTemplate.spec, known.spec, ready.2.2.trans hash.symm, ?_, ?_⟩
  · intro template member decoded decodes
    exact (patched template member decoded decodes).again config.platform (writes.trans isRead) rfl
  · intro different
    exact (owed different).advanced rfl rfl rfl rfl (fun owes => absurd owes owesNothing)

/-- The last status of the drift correction: phase and hash are kept. -/
theorem Tracked.reconciled_status (laws : HashLaws config.platform specs)
    {status : KubeTemplateStatus}
    (isStored : system.templates key = some kubeTemplate)
    (ready : DriftReady config.platform kubeTemplate)
    (samePhase : status.processingPhase = kubeTemplate.status.processingPhase)
    (sameHash : status.appliedSpecHash = kubeTemplate.status.appliedSpecHash)
    (free : ∀ worker found, system.workers worker = some found → found.key ≠ key)
    (guarantees : Guarantees (reconcileProtocol config.platform key) (fun stage _ => ¬ stage.owes)
      .finished after.program) :
    Tracked config specs
      { system.put { kubeTemplate with status := status } with
        reconciles := Function.update system.reconciles key (some after) }
      turns (Function.update stages key .finished) key := by
  have known := tracked.matches_stored isStored
  have rewritten := tracked.put_rewritten isStored { kubeTemplate with status := status }
    ⟨rfl, rfl, rfl⟩ known.spec
  refine tracked.reconciled rfl rfl rewritten.stored guarantees trivial
    (fun worker found insideWorker own => absurd own (free worker found insideWorker))
    False.elim ?_ ?_
  · intro _busy
    refine ⟨_, rewritten.isNew, ?_⟩
    change status.processingPhase ≠ .empty
    rw [samePhase, ready.1]
    exact nofun
  · intro other isOther _phase
    cases isOther.symm.trans rewritten.isNew
    obtain ⟨patched, _owed⟩ := settled_spec tracked laws ready known isStored ready.1 rfl
    refine ⟨kubeTemplate.spec, known.spec, ?_, patched, fun different => absurd rfl different⟩
    exact ready.2.2.trans sameHash.symm

private theorem reconcile_correcting (laws : HashLaws config.platform specs)
    (turn : ReconcileCall config system key execution request rest outcome answered)
    (isStage : stages key = .correcting kubeTemplate) :
    Tracked config specs (afterReconcile system key execution request rest outcome answered) turns
      (Function.update stages key
        (reconcileAfter config.platform (stages key) request answered.1)) key := by
  obtain ⟨inside, calls, smooth, isAnswer, _serial⟩ := turn
  obtain ⟨guarantees, fits⟩ := tracked.reconcile execution inside
  have free : ∀ worker found, system.workers worker = some found → found.key ≠ key := by
    apply tracked.apart execution inside
    rw [isStage]
    trivial
  have owesNothing : ¬ (stages key).owes := by
    rw [isStage]
    exact id
  rw [isStage, calls] at guarantees
  rw [isStage] at fits ⊢
  have found := fits
  obtain ⟨isRead, ready, known, current, isStored, completed, hash⟩ := found
  -- most calls of the correction leave everything as it is
  have quietly {after : Execution Controller.ReconcileResult}
      (read : after.read = some kubeTemplate)
      (promises : Guarantees (reconcileProtocol config.platform key)
        (fun stage _ => ¬ stage.owes) (.correcting kubeTemplate) after.program) :
      Tracked config specs
        { system with reconciles := Function.update system.reconciles key (some after) }
        turns (Function.update stages key (.correcting kubeTemplate)) key :=
    tracked.reconciled_keeping (fun owes => absurd owes owesNothing) promises
      ⟨read, ready, known.same rfl, current, isStored, completed, hash⟩
      (fun _ => free)
  cases request with
  | queueContains wanted =>
      rw [respond_queueContains isAnswer]
      exact quietly isRead (guarantees.2 _ trivial)
  | now =>
      rw [respond_now isAnswer]
      exact quietly isRead (guarantees.2 _ trivial)
  | getResource gvk ns name =>
      rw [respond_getResource isAnswer]
      exact quietly isRead (guarantees.2 answered.1 trivial)
  | patch object forceOwnership dryRun =>
      obtain ⟨result, rfl, rfl⟩ := respond_patch (smooth.succeeds nofun) isAnswer
      have promises := guarantees.2 (.ok result) ⟨result, rfl⟩
      cases dryRun with
      | true => exact quietly isRead promises
      | false =>
          refine tracked.reconciled_patched laws isRead ?_ ?_ owesNothing free fits promises
          · rfl
          · rfl
  | updateStatus template =>
      obtain ⟨status, isTemplate, samePhase, sameHash⟩ := guarantees.1
      subst isTemplate
      obtain ⟨isThere, isResult⟩ := tracked.written known (smooth.succeeds nofun) isAnswer
      subst isResult
      exact tracked.reconciled_status laws isThere ready samePhase sameHash free
        (guarantees.2 (.ok _) ⟨_, rfl⟩)
  | _ => exact guarantees.1.elim

private theorem reconcile_finished
    (turn : ReconcileCall config system key execution request rest outcome answered)
    (isStage : stages key = .finished) :
    Tracked config specs (afterReconcile system key execution request rest outcome answered) turns
      (Function.update stages key
        (reconcileAfter config.platform (stages key) request answered.1)) key := by
  obtain ⟨inside, calls, _smooth, isAnswer, _serial⟩ := turn
  obtain ⟨guarantees, _fits⟩ := tracked.reconcile execution inside
  have owesNothing : ¬ (stages key).owes := by
    rw [isStage]
    exact id
  rw [isStage, calls] at guarantees
  rw [isStage]
  cases request with
  | queueContains wanted =>
      rw [respond_queueContains isAnswer]
      exact tracked.reconciled_keeping (fun owes => absurd owes owesNothing)
        (guarantees.2 _ trivial) trivial False.elim
  | _ => exact guarantees.1.elim

theorem reconcile_call (laws : HashLaws config.platform specs) (valid : system.session.Valid)
    (turn : ReconcileCall config system key execution request rest outcome answered) :
    Tracked config specs (afterReconcile system key execution request rest outcome answered) turns
      (Function.update stages key
        (reconcileAfter config.platform (stages key) request answered.1)) key := by
  cases isStage : stages key with
  | waiting =>
      rw [← isStage]
      exact reconcile_waiting tracked laws turn isStage
  | fresh =>
      rw [← isStage]
      exact reconcile_fresh tracked turn isStage
  | queuing latest =>
      rw [← isStage]
      exact reconcile_queuing tracked turn isStage
  | enqueuing =>
      rw [← isStage]
      exact reconcile_enqueuing tracked valid turn isStage
  | correcting kubeTemplate =>
      rw [← isStage]
      exact reconcile_correcting tracked laws turn isStage
  | finished =>
      rw [← isStage]
      exact reconcile_finished tracked turn isStage

end Steps

end

end KubeTemplater.Operator
