/-
What is known of a KubeTemplate while the operator works on it.

Each worker's turn and each execution of `Reconcile` is at a stage.  For every
KubeTemplate the invariant relates the stages to its stored version, to the queue
and to the writes: a spec that is applied or being applied is the stored one, or
something is owed that will bring the stored one to a worker.
-/

import KubeTemplater.Operator.Calls
import KubeTemplater.Operator.Stages

namespace KubeTemplater.Operator

open Library Library.Program

section

variable (platform : Platform)

def isPatchOf (key : NamespacedName) (resource : ResourceId) (write : Write) : Bool :=
  write.key == key && !write.deletes && write.succeeded &&
    resourceOf platform write.object == resource

/-- The last successful Patch of the resource on behalf of the KubeTemplate was
issued while processing the spec. -/
def PatchedFrom (writes : List Write) (key : NamespacedName) (resource : ResourceId)
    (spec : KubeTemplateSpec) : Prop :=
  ∃ write template, writes.find? (isPatchOf platform key resource) = some write ∧
    write.read = some template ∧ template.spec = spec

theorem find_patch_other {key : NamespacedName} {resource : ResourceId} {write : Write}
    {writes : List Write} (different : write.key ≠ key) :
    (write :: writes).find? (isPatchOf platform key resource) =
      writes.find? (isPatchOf platform key resource) := by
  have missed : isPatchOf platform key resource write = false := by
    simp only [isPatchOf, beq_eq_false_iff_ne.mpr different, Bool.false_and]
  rw [List.find?_cons, missed]

theorem PatchedFrom.again {writes : List Write} {key : NamespacedName} {resource : ResourceId}
    {spec : KubeTemplateSpec} (patched : PatchedFrom platform writes key resource spec)
    {write : Write} {template : KubeTemplate} (isRead : write.read = some template)
    (same : template.spec = spec) : PatchedFrom platform (write :: writes) key resource spec := by
  unfold PatchedFrom
  rw [List.find?_cons]
  split
  · exact ⟨write, template, rfl, isRead, same⟩
  · exact patched

theorem patchedFrom_first {writes : List Write} {write : Write} {template : KubeTemplate}
    (patches : write.deletes = false) (succeeded : write.succeeded = true)
    (isRead : write.read = some template) :
    PatchedFrom platform (write :: writes) write.key (resourceOf platform write.object)
      template.spec := by
  refine ⟨write, template, ?_, isRead, rfl⟩
  rw [List.find?_cons]
  simp only [isPatchOf, patches, succeeded, beq_self_eq_true, Bool.not_false, Bool.and_self]

end

variable (config : Config) (specs : List KubeTemplateSpec)

section

variable (system : System) (turns : Nat → WorkerStage)
  (stages : NamespacedName → ReconcileStage) (key : NamespacedName)

def Alive : Prop :=
  ∃ current, system.templates key = some current ∧ current.status.processingPhase ≠ .empty

structure Matches (template : KubeTemplate) : Prop where
  spec : template.spec ∈ specs
  current : ∃ current, system.templates key = some current ∧
    SameIdentity template.metadata current.metadata ∧
    template.metadata.resourceVersion ≤ current.metadata.resourceVersion ∧
    (template.metadata.resourceVersion = current.metadata.resourceVersion →
      template = current)

def Owed : Prop :=
  system.pending key = true ∨
    (∃ execution, system.reconciles key = some execution ∧ (stages key).owes) ∨
    Queued system.session key ∨
    ∃ worker execution, system.workers worker = some execution ∧ execution.key = key ∧
      (turns worker).early

structure Applying (kubeTemplate : KubeTemplate) (applied : List ResourceId) : Prop where
  spec : kubeTemplate.spec ∈ specs
  current : ∃ current, system.templates key = some current ∧
    current.status.processingPhase = .processing ∧
    SameIdentity kubeTemplate.metadata current.metadata ∧
    (kubeTemplate.spec ≠ current.spec → Owed system turns stages key)
  applied : ∀ resource, resource ∈ applied →
    PatchedFrom config.platform system.writes key resource kubeTemplate.spec

def TurnFits (execution : Execution Worker.Disposition) : WorkerStage → Prop
  | .reread latest => execution.read = some latest ∧ Matches specs system key latest
  | .applying kubeTemplate applied =>
      execution.read = some kubeTemplate ∧
        Applying config specs system turns stages key kubeTemplate applied
  | .closing kubeTemplate latest =>
      Matches specs system key latest ∧
        ∃ applied, AllApplied config.platform kubeTemplate applied ∧
          Applying config specs system turns stages key kubeTemplate applied
  | _ => True

def ReconcileFits (execution : Execution Controller.ReconcileResult) : ReconcileStage → Prop
  | .waiting => execution.read = none
  | .fresh => ∃ current, system.templates key = some current ∧
      current.status.processingPhase = .empty
  | .queuing latest => Matches specs system key latest ∧
      latest.status.processingPhase ≠ .processing
  | .enqueuing => Alive system key
  | .correcting kubeTemplate =>
      execution.read = some kubeTemplate ∧ DriftReady config.platform kubeTemplate ∧
        Matches specs system key kubeTemplate ∧
        ∃ current, system.templates key = some current ∧
          current.status.processingPhase = .completed ∧
          current.status.appliedSpecHash = kubeTemplate.status.appliedSpecHash
  | .finished => True

/-- A completed template: the resources are those of the spec with the hash in the
status, and if that is not the stored spec, something is owed. -/
def Settled (current : KubeTemplate) : Prop :=
  ∃ spec, spec ∈ specs ∧
    calculateSpecHash config.platform spec = current.status.appliedSpecHash ∧
    (∀ template, template ∈ spec.templates → ∀ decoded,
      config.platform.unmarshal template.object.raw = .ok decoded →
      PatchedFrom config.platform system.writes key
        (elementResource config.platform current.metadata template decoded) spec) ∧
    (spec ≠ current.spec → Owed system turns stages key)

structure Tracked : Prop where
  stored : ∀ current, system.templates key = some current →
    current.key = key ∧ current.metadata.resourceVersion ≤ system.revision ∧
      current.spec ∈ specs
  turn : ∀ worker execution, system.workers worker = some execution → execution.key = key →
    Guarantees (turnProtocol config.platform key)
      (fun stage result => stage = .finished ∧ result = .done) (turns worker) execution.program ∧
    TurnFits config specs system turns stages key execution (turns worker)
  once : ∀ worker other execution found, system.workers worker = some execution →
    execution.key = key → system.workers other = some found → found.key = key → other = worker
  reconcile : ∀ execution, system.reconciles key = some execution →
    Guarantees (reconcileProtocol config.platform key) (fun stage _ => ¬ stage.owes)
      (stages key) execution.program ∧
    ReconcileFits config specs system key execution (stages key)
  apart : ∀ execution, system.reconciles key = some execution → (stages key).corrects →
    ∀ worker found, system.workers worker = some found → found.key ≠ key
  alive : Queued system.session key ∨
      (∃ worker execution, system.workers worker = some execution ∧ execution.key = key) →
    Alive system key
  completed : ∀ current, system.templates key = some current →
    current.status.processingPhase = .completed →
    Settled config specs system turns stages key current

end

/-- Nothing that the invariant of the KubeTemplate looks at has changed. -/
structure Unconcerned (platform : Platform) (key : NamespacedName) (system next : System)
    (turns turns' : Nat → WorkerStage) (stages stages' : NamespacedName → ReconcileStage) :
    Prop where
  templates : next.templates key = system.templates key
  revision : system.revision ≤ next.revision
  pending : next.pending key = system.pending key
  reconciles : next.reconciles key = system.reconciles key
  stage : stages' key = stages key
  workers : ∀ worker execution, execution.key = key →
    (next.workers worker = some execution ↔ system.workers worker = some execution)
  turn : ∀ worker execution, system.workers worker = some execution → execution.key = key →
    turns' worker = turns worker
  queued : Queued next.session key ↔ Queued system.session key
  writes : ∀ resource, next.writes.find? (isPatchOf platform key resource) =
    system.writes.find? (isPatchOf platform key resource)

section Unconcerned

variable {config : Config} {specs : List KubeTemplateSpec} {key : NamespacedName}
  {system next : System} {turns turns' : Nat → WorkerStage}
  {stages stages' : NamespacedName → ReconcileStage}

theorem TurnFits.mono {execution : Execution Worker.Disposition} {stage : WorkerStage}
    (fits : TurnFits config specs system turns stages key execution stage)
    (known : ∀ template, Matches specs system key template → Matches specs next key template)
    (applying : ∀ kubeTemplate applied,
      Applying config specs system turns stages key kubeTemplate applied →
      Applying config specs next turns' stages' key kubeTemplate applied) :
    TurnFits config specs next turns' stages' key execution stage := by
  cases stage with
  | reread latest => exact ⟨fits.1, known latest fits.2⟩
  | applying kubeTemplate applied => exact ⟨fits.1, applying kubeTemplate applied fits.2⟩
  | closing kubeTemplate latest =>
      obtain ⟨isMatch, applied, all, before⟩ := fits
      exact ⟨known latest isMatch, applied, all, applying kubeTemplate applied before⟩
  | waiting => trivial
  | fetched => trivial
  | finished => trivial

theorem Matches.same {template : KubeTemplate} (known : Matches specs system key template)
    (templates : next.templates key = system.templates key) :
    Matches specs next key template := by
  refine ⟨known.spec, ?_⟩
  rw [templates]
  exact known.current

theorem Alive.same (alive : Alive system key)
    (templates : next.templates key = system.templates key) : Alive next key := by
  unfold Alive
  rw [templates]
  exact alive

/-- What `Reconcile` knows depends on the stored version only. -/
theorem ReconcileFits.same {execution : Execution Controller.ReconcileResult}
    {stage : ReconcileStage} (fits : ReconcileFits config specs system key execution stage)
    (templates : next.templates key = system.templates key) :
    ReconcileFits config specs next key execution stage := by
  cases stage with
  | waiting => exact fits
  | fresh =>
      obtain ⟨current, isStored, phase⟩ := fits
      exact ⟨current, templates.trans isStored, phase⟩
  | queuing latest => exact ⟨fits.1.same templates, fits.2⟩
  | enqueuing => exact Alive.same fits templates
  | correcting kubeTemplate =>
      obtain ⟨isRead, ready, known, current, isStored, completed, hash⟩ := fits
      exact ⟨isRead, ready, known.same templates, current, templates.trans isStored, completed,
        hash⟩
  | finished => trivial

theorem Owed.mono (owed : Owed system turns stages key)
    (pending : system.pending key = true → next.pending key = true)
    (reconcile : ∀ execution, system.reconciles key = some execution → (stages key).owes →
      ∃ after, next.reconciles key = some after ∧ (stages' key).owes)
    (queued : Queued system.session key → Queued next.session key)
    (turn : ∀ worker execution, system.workers worker = some execution → execution.key = key →
      (turns worker).early →
      ∃ after, next.workers worker = some after ∧ after.key = key ∧ (turns' worker).early) :
    Owed next turns' stages' key := by
  rcases owed with isPending | ⟨execution, inside, owes⟩ | isQueued |
    ⟨worker, execution, inside, own, early⟩
  · exact .inl (pending isPending)
  · exact .inr (.inl (reconcile execution inside owes))
  · exact .inr (.inr (.inl (queued isQueued)))
  · exact .inr (.inr (.inr ⟨worker, turn worker execution inside own early⟩))

theorem Unconcerned.owed {platform : Platform}
    (same : Unconcerned platform key system next turns turns' stages stages')
    (owed : Owed system turns stages key) : Owed next turns' stages' key := by
  apply owed.mono
  · exact same.pending.trans
  · intro execution inside owes
    refine ⟨execution, same.reconciles.trans inside, ?_⟩
    rw [same.stage]
    exact owes
  · exact same.queued.mpr
  · intro worker execution inside own early
    refine ⟨execution, (same.workers worker execution own).mpr inside, own, ?_⟩
    rw [same.turn worker execution inside own]
    exact early

theorem Unconcerned.patchedFrom {platform : Platform}
    (same : Unconcerned platform key system next turns turns' stages stages')
    {resource : ResourceId} {spec : KubeTemplateSpec}
    (patched : PatchedFrom platform system.writes key resource spec) :
    PatchedFrom platform next.writes key resource spec := by
  unfold PatchedFrom
  rw [same.writes]
  exact patched

theorem Unconcerned.applying
    (same : Unconcerned config.platform key system next turns turns' stages stages')
    {kubeTemplate : KubeTemplate} {applied : List ResourceId}
    (applying : Applying config specs system turns stages key kubeTemplate applied) :
    Applying config specs next turns' stages' key kubeTemplate applied := by
  obtain ⟨current, isStored, phase, identity, owed⟩ := applying.current
  refine ⟨applying.spec, ⟨current, same.templates.trans isStored, phase, identity, ?_⟩, ?_⟩
  · intro different
    exact same.owed (owed different)
  · intro resource member
    exact same.patchedFrom (applying.applied resource member)

theorem Unconcerned.settled
    (same : Unconcerned config.platform key system next turns turns' stages stages')
    {current : KubeTemplate} (settled : Settled config specs system turns stages key current) :
    Settled config specs next turns' stages' key current := by
  obtain ⟨spec, known, hash, patched, owed⟩ := settled
  refine ⟨spec, known, hash, ?_, fun different => same.owed (owed different)⟩
  intro template member decoded decodes
  exact same.patchedFrom (patched template member decoded decodes)

theorem Tracked.unconcerned
    (same : Unconcerned config.platform key system next turns turns' stages stages')
    (tracked : Tracked config specs system turns stages key) :
    Tracked config specs next turns' stages' key := by
  constructor
  · intro current isStored
    rw [same.templates] at isStored
    obtain ⟨own, version, known⟩ := tracked.stored current isStored
    exact ⟨own, Nat.le_trans version same.revision, known⟩
  · intro worker execution inside own
    have before := (same.workers worker execution own).mp inside
    obtain ⟨guarantees, fits⟩ := tracked.turn worker execution before own
    rw [same.turn worker execution before own]
    exact ⟨guarantees,
      fits.mono (fun _ known => known.same same.templates) (fun _ _ => same.applying)⟩
  · intro worker other execution found inside own insideOther ownOther
    exact tracked.once worker other execution found
      ((same.workers worker execution own).mp inside) own
      ((same.workers other found ownOther).mp insideOther) ownOther
  · intro execution inside
    rw [same.reconciles] at inside
    obtain ⟨guarantees, fits⟩ := tracked.reconcile execution inside
    rw [same.stage]
    exact ⟨guarantees, fits.same same.templates⟩
  · intro execution inside corrects worker found insideWorker own
    rw [same.reconciles] at inside
    rw [same.stage] at corrects
    exact tracked.apart execution inside corrects worker found
      ((same.workers worker found own).mp insideWorker) own
  · intro busy
    refine (tracked.alive ?_).same same.templates
    rcases busy with queued | ⟨worker, execution, inside, own⟩
    · exact .inl (same.queued.mp queued)
    · exact .inr ⟨worker, execution, (same.workers worker execution own).mp inside, own⟩
  · intro current isStored phase
    rw [same.templates] at isStored
    exact same.settled (tracked.completed current isStored phase)

/-- Parties leave, and what is owed stays owed. -/
theorem Tracked.left (tracked : Tracked config specs system turns stages key)
    (templates : next.templates = system.templates) (revision : next.revision = system.revision)
    (writes : next.writes = system.writes)
    (workers : ∀ worker execution, next.workers worker = some execution →
      system.workers worker = some execution)
    (reconciles : ∀ execution, next.reconciles key = some execution →
      system.reconciles key = some execution)
    (queued : Queued next.session key → Queued system.session key)
    (owed : Owed system turns stages key → Owed next turns stages key) :
    Tracked config specs next turns stages key := by
  have same : next.templates key = system.templates key := congrFun templates key
  constructor
  · rw [same, revision]
    exact tracked.stored
  · intro worker execution inside own
    obtain ⟨guarantees, fits⟩ := tracked.turn worker execution (workers worker execution inside) own
    refine ⟨guarantees, fits.mono (fun _ known => known.same same) ?_⟩
    intro kubeTemplate applied applying
    obtain ⟨current, isStored, phase, identity, owes⟩ := applying.current
    refine ⟨applying.spec, ⟨current, same.trans isStored, phase, identity,
      fun different => owed (owes different)⟩, ?_⟩
    rw [writes]
    exact applying.applied
  · intro worker other execution found inside own insideOther isOther
    exact tracked.once worker other execution found (workers worker execution inside) own
      (workers other found insideOther) isOther
  · intro execution inside
    obtain ⟨guarantees, fits⟩ := tracked.reconcile execution (reconciles execution inside)
    exact ⟨guarantees, fits.same same⟩
  · intro execution inside corrects worker found insideWorker
    exact tracked.apart execution (reconciles execution inside) corrects worker found
      (workers worker found insideWorker)
  · intro busy
    refine (tracked.alive ?_).same same
    rcases busy with isQueued | ⟨worker, execution, inside, own⟩
    · exact .inl (queued isQueued)
    · exact .inr ⟨worker, execution, workers worker execution inside, own⟩
  · intro current isStored phase
    rw [same] at isStored
    obtain ⟨spec, isKnown, hash, patched, owes⟩ := tracked.completed current isStored phase
    refine ⟨spec, isKnown, hash, ?_, fun different => owed (owes different)⟩
    rw [writes]
    exact patched

end Unconcerned

end KubeTemplater.Operator
