/-
`updateStatusWithRetry` among everything else that goes on.

A call that returns nil has stored its update of the status that was stored just
before; a call that returns an error has stored nothing.
-/

import KubeTemplater.Operator.StatusUpdates

namespace KubeTemplater.Operator

open Library Library.Program

structure StatusWrite where
  before : Option KubeTemplateStatus
  after : Option KubeTemplateStatus

namespace System

def statusOf (system : System) (key : NamespacedName) : Option KubeTemplateStatus :=
  (system.templates key).map KubeTemplate.status

def statusWrites (system next : System) (key : NamespacedName) : List StatusWrite :=
  if next.revision = system.revision then []
  else [{ before := system.statusOf key, after := next.statusOf key }]

variable (config : Config) (worker : Nat) (key : NamespacedName)

/-- `Calls program system labels result writes`: from `system` the steps of `labels`, among
them those of the worker, take `program` to its `result`; `writes` are the worker's own. -/
inductive Calls {α : Type} :
    Program client α → System → List Label → α → List StatusWrite → Prop where
  | returns (result : α) (system : System) : Calls (.done result) system [] result []
  | aside {program : Program client α} {system next : System} {label : Label}
      {labels : List Label} {result : α} {writes : List StatusWrite}
      (others : ∀ outcome, label ≠ .worker worker outcome)
      (taken : system.step config label = some next)
      (later : Calls program next labels result writes) :
      Calls program system (label :: labels) result writes
  | own {request : Call} {rest : request.Answer → Program client α} {system next : System}
      {outcome : Outcome} {answered : request.Answer × System} {labels : List Label} {result : α}
      {writes : List StatusWrite}
      (isAnswer : system.respond request outcome = some answered)
      (taken : system.step config (.worker worker outcome) = some next)
      (later : Calls (rest answered.1) next labels result writes) :
      Calls (.call request rest) system (.worker worker outcome :: labels) result
        (system.statusWrites next key ++ writes)

def Inside {α : Type} (system : System) (program : Program client α)
    (follows : α → Program client Worker.Disposition) : Prop :=
  ∃ execution, system.workers worker = some execution ∧ execution.program = program >>= follows

def StoresExactly (update : KubeTemplateStatus → KubeTemplateStatus)
    (writes : List StatusWrite) : Option GoError → Prop
  | none => ∃ status, writes = [{ before := some status, after := some (update status) }]
  | some _ => writes = []

/-- Every call of `updateStatusWithRetry` that a worker is about to make stores exactly what
it returns, unless an answer to a successful update is lost. -/
def UpdatesExactly (system : System) : Prop :=
  ∀ worker kubeTemplate update follows,
    Inside worker system (Worker.updateStatusWithRetry kubeTemplate update) follows →
    ∀ labels result writes,
      Calls config worker kubeTemplate.key (Worker.updateStatusWithRetry kubeTemplate update)
        system labels result writes →
      (∀ err, Label.worker worker (.lost err) ∉ labels) →
      StoresExactly update writes result.2

variable {config worker key} {system next : System} {α : Type}

private theorem respond_workers {request : Call} {outcome : Outcome}
    {answered : request.Answer × System}
    (isAnswer : system.respond request outcome = some answered) :
    answered.2.workers = system.workers :=
  (respond_effect isAnswer).frame.workers

private theorem step_others {label : Label} {execution : Execution Worker.Disposition}
    (taken : system.step config label = some next)
    (others : ∀ outcome, label ≠ .worker worker outcome)
    (inside : system.workers worker = some execution) : next.workers worker = some execution := by
  cases label with
  | create template =>
      obtain ⟨_free, rfl⟩ := step_create config taken
      exact inside
  | update key spec labels annotations =>
      obtain ⟨old, _isStored, ⟨_, rfl⟩ | ⟨_, rfl⟩⟩ := step_update config taken
      · exact inside
      · exact inside
  | remove key =>
      cases step_remove config taken
      exact inside
  | setPolicy source answer =>
      cases taken
      exact inside
  | pass elapsed =>
      cases taken
      exact inside
  | deliver key =>
      obtain ⟨_free, rfl⟩ := step_deliver config taken
      exact inside
  | controller key outcome =>
      obtain ⟨visit, _inside, effect⟩ := step_controller config taken
      rcases effect with ⟨result, _isDone, rfl⟩ | ⟨request, rest, answered, _calls, isAnswer, rfl⟩
      · exact inside
      · exact (congrFun (respond_workers isAnswer) worker).trans inside
  | dequeue other =>
      obtain ⟨session, ref, free, _dequeued, _holds, rfl⟩ := step_dequeue config taken
      have different : worker ≠ other := by
        rintro rfl
        rw [inside] at free
        cases free
      exact (Function.update_of_ne different _ _).trans inside
  | worker other outcome =>
      have different : worker ≠ other := by
        rintro rfl
        exact others outcome rfl
      obtain ⟨turn, _inside, effect⟩ := step_worker config taken
      rcases effect with ⟨disposition, session, _isDone, _ends, rfl⟩ |
        ⟨request, rest, answered, _calls, isAnswer, rfl⟩
      · exact (Function.update_of_ne different _ _).trans inside
      · exact (Function.update_of_ne different _ _).trans inside

private theorem step_own {request : Call} {rest : request.Answer → Program client α}
    {follows : α → Program client Worker.Disposition} {outcome : Outcome}
    {answered : request.Answer × System}
    (inside : Inside worker system (.call request rest) follows)
    (isAnswer : system.respond request outcome = some answered)
    (taken : system.step config (.worker worker outcome) = some next) :
    Inside worker next (rest answered.1) follows ∧ SameStore next answered.2 := by
  obtain ⟨execution, working, isProgram⟩ := inside
  rw [call_bind] at isProgram
  obtain ⟨same, isExecution, effect⟩ := step_worker config taken
  cases working.symm.trans isExecution
  rcases effect with ⟨disposition, session, isDone, _ends, rfl⟩ |
    ⟨other, tail, given, calls, answers, rfl⟩
  · rw [isProgram] at isDone
    cases isDone
  · cases isProgram.symm.trans calls
    cases isAnswer.symm.trans answers
    exact ⟨⟨_, Function.update_self _ _ _, rfl⟩, rfl, rfl, rfl⟩

structure Made (config : Config) (worker : Nat) (key : NamespacedName) {α : Type}
    (follows : α → Program client Worker.Disposition) (request : Call)
    (rest : request.Answer → Program client α) (before here next : System) (outcome : Outcome)
    (answered : request.Answer × System) (labels later : List Label) (result : α)
    (writes : List StatusWrite) : Prop where
  rewriting : here.Rewriting
  grows : ∀ template, template ∈ before.history → template ∈ here.history
  isAnswer : here.respond request outcome = some answered
  nextRewriting : next.Rewriting
  store : SameStore next answered.2
  inside : Inside worker next (rest answered.1) follows
  label : Label.worker worker outcome ∈ labels
  subset : later ⊆ labels
  calls : Calls config worker key (rest answered.1) next later result writes

theorem Calls.call {follows : α → Program client Worker.Disposition} {request : Call}
    {rest : request.Answer → Program client α} {labels : List Label} {result : α}
    {writes : List StatusWrite}
    (calls : Calls config worker key (.call request rest) system labels result writes)
    (rewriting : system.Rewriting) (inside : Inside worker system (.call request rest) follows) :
    ∃ here next outcome answered later laterWrites,
      writes = here.statusWrites next key ++ laterWrites ∧
      Made config worker key follows request rest system here next outcome answered labels later
        result laterWrites := by
  generalize isProgram : @Program.call client α request rest = program at calls
  induction calls with
  | returns result system => cases isProgram
  | aside others taken calls ih =>
      obtain ⟨execution, working, isNext⟩ := inside
      obtain ⟨here, next, outcome, answered, later, laterWrites, isWrites, made⟩ :=
        ih (step_rewriting rewriting taken)
          ⟨execution, step_others taken others working, isNext⟩ isProgram
      refine ⟨here, next, outcome, answered, later, laterWrites, isWrites, ?_⟩
      exact { made with
        grows := fun template member =>
          made.grows template ((step_stores config taken).history member)
        label := List.mem_cons_of_mem _ made.label
        subset := fun _ member => List.mem_cons_of_mem _ (made.subset member) }
  | own isAnswer taken calls ih =>
      cases isProgram
      obtain ⟨insideNext, store⟩ := step_own inside isAnswer taken
      exact ⟨_, _, _, _, _, _, rfl,
        { rewriting := rewriting
          grows := fun _ member => member
          isAnswer := isAnswer
          nextRewriting := step_rewriting rewriting taken
          store := store
          inside := insideNext
          label := List.mem_cons_self
          subset := fun _ member => List.mem_cons_of_mem _ member
          calls := calls }⟩

theorem Calls.done {value result : α} {labels : List Label} {writes : List StatusWrite}
    (calls : Calls config worker key (.done value) system labels result writes) :
    result = value ∧ writes = [] := by
  generalize isProgram : (Program.done value : Program client α) = program at calls
  induction calls with
  | returns result system =>
      cases isProgram
      exact ⟨rfl, rfl⟩
  | aside others taken calls ih => exact ih isProgram
  | own isAnswer taken calls ih => cases isProgram

private theorem statusWrites_unchanged (store : SameStore next system) :
    system.statusWrites next key = [] :=
  if_pos store.revision

private theorem respond_refused {template : KubeTemplate} {outcome : Outcome}
    {answered : Except GoError Nat × System} {err : GoError}
    (isAnswer : system.respond (.updateStatus template) outcome = some answered)
    (isError : answered.1 = .error err) (kept : ∀ err, outcome ≠ .lost err) :
    answered.2 = system := by
  cases outcome with
  | succeeds =>
      obtain ⟨stored, _isStored, _version, rfl⟩ := respond_updateStatus rfl isAnswer
      cases isError
  | lost failure => exact absurd rfl (kept failure)
  | fails failure =>
      cases isAnswer
      rfl
  | returns object => cases isAnswer
  | stale old => cases isAnswer

private theorem statusWrites_updated {latest : KubeTemplate}
    {update : KubeTemplateStatus → KubeTemplateStatus} {outcome : Outcome}
    {answered : Except GoError Nat × System} {revision : Nat} (rewriting : system.Rewriting)
    (isVersion : latest ∈ system.history)
    (isAnswer : system.respond (.updateStatus { latest with status := update latest.status })
      outcome = some answered)
    (isOk : answered.1 = .ok revision) (store : SameStore next answered.2) :
    ∃ status, system.statusWrites next latest.key =
      [{ before := some status, after := some (update status) }] := by
  obtain ⟨stored, isStored, version, rfl⟩ := respond_updateStatus_ok isAnswer isOk
  have current := rewriting.versioned.current isVersion isStored version
  subst current
  refine ⟨latest.status, ?_⟩
  have fresh : ¬ next.revision = system.revision := by
    rw [store.revision]
    exact Nat.succ_ne_self _
  have after : next.statusOf latest.key = some (update latest.status) := by
    unfold statusOf
    rw [store.templates]
    exact congrArg (Option.map KubeTemplate.status) (put_templates_self system _)
  have before : system.statusOf latest.key = some latest.status :=
    congrArg (Option.map KubeTemplate.status) isStored
  unfold statusWrites
  rw [if_neg fresh, before, after]

private theorem updateStatusTurns_exact {update : KubeTemplateStatus → KubeTemplateStatus}
    {follows : KubeTemplate × Option GoError → Program client Worker.Disposition} (turns : Nat)
    {system : System} {kubeTemplate : KubeTemplate} {labels : List Label}
    {result : KubeTemplate × Option GoError} {writes : List StatusWrite}
    (rewriting : system.Rewriting) (own : kubeTemplate.key = key)
    (inside : Inside worker system (Worker.updateStatusTurns update turns kubeTemplate) follows)
    (calls : Calls config worker key (Worker.updateStatusTurns update turns kubeTemplate) system
      labels result writes)
    (kept : ∀ err, Label.worker worker (.lost err) ∉ labels) :
    StoresExactly update writes result.2 := by
  induction turns generalizing system kubeTemplate labels writes with
  | zero =>
      obtain ⟨rfl, rfl⟩ := calls.done
      exact rfl
  | succ turns ih =>
      simp only [Worker.updateStatusTurns, getTemplate, updateStatus, call_bind, done_bind]
        at inside calls
      -- the read
      obtain ⟨here, next, outcome, ⟨answer, after⟩, later, laterWrites, rfl, read⟩ :=
        calls.call rewriting inside
      obtain rfl : after = here := read_templates read.isAnswer
      rw [statusWrites_unchanged read.store, List.nil_append]
      cases answer with
      | error err =>
          obtain ⟨rfl, rfl⟩ := read.calls.done
          exact rfl
      | ok latest =>
          have isKey : latest.key = key :=
            (System.respond_getTemplate read.rewriting.versioned.keyed read.isAnswer rfl).trans own
          have isVersion : latest ∈ next.history := by
            rw [read.store.history]
            exact read.rewriting.versioned.read read.isAnswer rfl
          -- the write
          obtain ⟨there, last, outcome, ⟨answer, stored⟩, rest, restWrites, rfl, write⟩ :=
            read.calls.call read.nextRewriting read.inside
          cases answer with
          | ok revision =>
              obtain ⟨rfl, rfl⟩ := write.calls.done
              obtain ⟨status, isWrite⟩ := statusWrites_updated write.rewriting
                (write.grows latest isVersion) write.isAnswer rfl write.store
              rw [isKey] at isWrite
              exact ⟨status, by rw [isWrite, List.append_nil]⟩
          | error err =>
              have unlost : ∀ failure, outcome ≠ .lost failure := by
                rintro failure rfl
                exact kept failure (read.subset write.label)
              obtain rfl : stored = there := respond_refused write.isAnswer rfl unlost
              rw [statusWrites_unchanged write.store, List.nil_append]
              have ends := write.calls
              have working := write.inside
              dsimp only at ends working
              split at ends
              · rename_i again
                rw [if_pos again] at working
                have sameKey : ({ latest with status := update latest.status } : KubeTemplate).key =
                    key := isKey
                refine ih write.nextRewriting sameKey working ends ?_
                intro failure member
                exact kept failure (read.subset (write.subset member))
              · obtain ⟨rfl, rfl⟩ := ends.done
                exact rfl

theorem Rewriting.updatesExactly (rewriting : system.Rewriting) :
    system.UpdatesExactly config := by
  intro worker kubeTemplate update follows inside labels result writes calls kept
  exact updateStatusTurns_exact 3 rewriting rfl inside calls kept

end System

/-- However the workers' calls and the executions of `Reconcile` interleave: a call of
`updateStatusWithRetry` stores exactly its update or nothing, no counter decreases, and a
counter is the sum of all that was added to it. -/
theorem status_updates (config : Config) (session : Queue.Session)
    (policies : String → Except GoError KubeTemplatePolicy) (labels : List Label) :
    Throughout (System.step config) (System.UpdatesExactly config)
        (System.start session policies) labels ∧
      Along (System.step config) (System.CountersKept config)
        (System.start session policies) labels ∧
      ∀ counter, Throughout (Ledger.step config counter) (Ledger.Adds counter)
        (Ledger.start session policies) labels := by
  have sound : Throughout (System.step config) System.Rewriting
      (System.start session policies) labels := by
    apply throughout_of_preserved
    · intro system label next rewriting taken
      exact System.step_rewriting rewriting taken
    · exact System.start_rewriting session policies
  refine ⟨?_, ?_, ?_⟩
  · exact sound.mono (fun _ rewriting => rewriting.updatesExactly)
  · exact sound.along (fun _ label rewriting => rewriting.countersKept label)
  · intro counter
    exact Ledger.adds_throughout config counter session policies labels

end KubeTemplater.Operator
