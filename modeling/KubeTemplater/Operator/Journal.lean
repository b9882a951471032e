/-
The operator with a journal.

The journal notes the calls of every execution under way with their answers, and
the turns of workers that have ended.  It also keeps the part of the controller's
own queue that waits for a time: a request after an error or a `RequeueAfter`,
until it expires and asks for `Reconcile` as an event does.
-/

import KubeTemplater.Operator.Calls

namespace KubeTemplater.Operator

open Library Library.Program

def asksAgain (result : Controller.ReconcileResult) : Bool :=
  result.err.isSome || decide (0 < result.requeueAfter)

structure Journal where
  system : System
  /-- A request for `Reconcile` that waits for its time. -/
  scheduled : NamespacedName → Bool
  /-- The calls of the worker's turn. -/
  turns : Nat → List (Exchange client)
  /-- The calls of the execution of `Reconcile`. -/
  visits : NamespacedName → List (Exchange client)
  /-- The turns that have ended, the latest first. -/
  past : List (List (Exchange client))

def System.exchanged {α : Type} (system : System) (execution : Execution α) (outcome : Outcome) :
    List (Exchange client) :=
  match execution.program with
  | .done _ => []
  | .call request _ =>
      match system.respond request outcome with
      | none => []
      | some answered => [⟨request, answered.1⟩]

namespace Journal

inductive Event where
  | operator (label : Label)
  | expire (key : NamespacedName)

def start (session : Queue.Session)
    (policies : String → Except GoError KubeTemplatePolicy) : Journal :=
  { system := System.start session policies
    scheduled := fun _ => false
    turns := fun _ => []
    visits := fun _ => []
    past := [] }

/-- What a step of the operator that leads to `next` adds. -/
def record (journal : Journal) (next : System) : Label → Journal
  | .deliver key =>
      { journal with
        system := next
        visits := Function.update journal.visits key [] }
  | .controller key outcome =>
      match journal.system.reconciles key with
      | none => { journal with system := next }
      | some execution =>
          match execution.program with
          | .done result =>
              { journal with
                system := next
                -- a request that waits already is not cancelled
                scheduled := Function.update journal.scheduled key
                  (asksAgain result || journal.scheduled key) }
          | .call _ _ =>
              { journal with
                system := next
                visits := Function.update journal.visits key
                  (journal.visits key ++ journal.system.exchanged execution outcome) }
  | .dequeue worker =>
      { journal with
        system := next
        turns := Function.update journal.turns worker [] }
  | .worker worker outcome =>
      match journal.system.workers worker with
      | none => { journal with system := next }
      | some execution =>
          match execution.program with
          | .done _ =>
              { journal with
                system := next
                past := journal.turns worker :: journal.past }
          | .call _ _ =>
              { journal with
                system := next
                turns := Function.update journal.turns worker
                  (journal.turns worker ++ journal.system.exchanged execution outcome) }
  | _ => { journal with system := next }

variable (config : Config)

def step (journal : Journal) : Event → Option Journal
  | .operator label =>
      (journal.system.step config label).map (fun next => journal.record next label)
  | .expire key =>
      if journal.scheduled key then
        some { journal with
          system := journal.system.notify key
          scheduled := Function.update journal.scheduled key false }
      else none

variable {journal next : Journal}

theorem step_operator {label : Label} (taken : journal.step config (.operator label) = some next) :
    ∃ system, journal.system.step config label = some system ∧
      next = journal.record system label := by
  obtain ⟨system, stepped, equal⟩ := Option.map_eq_some_iff.mp taken
  exact ⟨system, stepped, equal.symm⟩

variable {key : NamespacedName}

theorem step_expire (taken : journal.step config (.expire key) = some next) :
    journal.scheduled key = true ∧
      next = { journal with
        system := journal.system.notify key
        scheduled := Function.update journal.scheduled key false } := by
  simp only [step] at taken
  split at taken
  · rename_i waits
    cases taken
    exact ⟨waits, rfl⟩
  · cases taken

variable {outcome : Outcome}

theorem exchanged_call {α : Type} {system : System} {execution : Execution α} {request : Call}
    {rest : request.Answer → Program client α} {answered : request.Answer × System}
    (calls : execution.program = .call request rest)
    (isAnswer : system.respond request outcome = some answered) :
    system.exchanged execution outcome = [⟨request, answered.1⟩] := by
  unfold System.exchanged
  rw [calls]
  dsimp only
  rw [isAnswer]

theorem step_controller
    (taken : journal.step config (.operator (.controller key outcome)) = some next) :
    ∃ execution, journal.system.reconciles key = some execution ∧
      ((∃ result, execution.program = .done result ∧
        next = { journal with
          system := { journal.system.finish .controller key with
            reconciles := Function.update journal.system.reconciles key none }
          scheduled := Function.update journal.scheduled key
            (asksAgain result || journal.scheduled key) }) ∨
      ∃ request rest answered, execution.program = .call request rest ∧
        journal.system.respond request outcome = some answered ∧
        next = { journal with
          system := { answered.2 with
            reconciles := Function.update journal.system.reconciles key
              (some (execution.advance request rest answered.1))
            writes := journal.system.logged key execution.read request outcome }
          visits := Function.update journal.visits key
            (journal.visits key ++ [⟨request, answered.1⟩]) }) := by
  obtain ⟨system, stepped, rfl⟩ := step_operator config taken
  obtain ⟨execution, inside, effect⟩ := System.step_controller config stepped
  refine ⟨execution, inside, ?_⟩
  rcases effect with ⟨result, isDone, rfl⟩ | ⟨request, rest, answered, calls, isAnswer, rfl⟩
  · refine .inl ⟨result, isDone, ?_⟩
    simp only [record, inside, isDone]
  · refine .inr ⟨request, rest, answered, calls, isAnswer, ?_⟩
    simp only [record, inside, calls, exchanged_call calls isAnswer]

theorem step_worker {worker : Nat}
    (taken : journal.step config (.operator (.worker worker outcome)) = some next) :
    ∃ execution, journal.system.workers worker = some execution ∧
      ((∃ disposition session, execution.program = .done disposition ∧
        System.endTurn journal.system.session worker journal.system.clock disposition =
          some session ∧
        next = { journal with
          system := { journal.system.finish (.worker worker) execution.key with
            session := session
            workers := Function.update journal.system.workers worker none }
          past := journal.turns worker :: journal.past }) ∨
      ∃ request rest answered, execution.program = .call request rest ∧
        journal.system.respond request outcome = some answered ∧
        next = { journal with
          system := { answered.2 with
            workers := Function.update journal.system.workers worker
              (some (execution.advance request rest answered.1))
            writes := journal.system.logged execution.key execution.read request outcome }
          turns := Function.update journal.turns worker
            (journal.turns worker ++ [⟨request, answered.1⟩]) }) := by
  obtain ⟨system, stepped, rfl⟩ := step_operator config taken
  obtain ⟨execution, inside, effect⟩ := System.step_worker config stepped
  refine ⟨execution, inside, ?_⟩
  rcases effect with ⟨disposition, session, isDone, ends, rfl⟩ |
    ⟨request, rest, answered, calls, isAnswer, rfl⟩
  · refine .inl ⟨disposition, session, isDone, ends, ?_⟩
    simp only [record, inside, isDone]
  · refine .inr ⟨request, rest, answered, calls, isAnswer, ?_⟩
    simp only [record, inside, calls, exchanged_call calls isAnswer]

theorem step_worker_call {worker : Nat} {execution : Execution Worker.Disposition} {request : Call}
    {rest : request.Answer → Program client Worker.Disposition} {answered : request.Answer × System}
    (taken : journal.step config (.operator (.worker worker outcome)) = some next)
    (inside : journal.system.workers worker = some execution)
    (calls : execution.program = .call request rest)
    (isAnswer : journal.system.respond request outcome = some answered) :
    next = { journal with
      system := { answered.2 with
        workers := Function.update journal.system.workers worker
          (some (execution.advance request rest answered.1))
        writes := journal.system.logged execution.key execution.read request outcome }
      turns := Function.update journal.turns worker
        (journal.turns worker ++ [⟨request, answered.1⟩]) } := by
  simp only [step, System.step, inside, calls, isAnswer, Option.map_some, record,
    exchanged_call calls isAnswer, Option.some.injEq] at taken
  exact taken.symm

theorem step_controller_call {execution : Execution Controller.ReconcileResult} {request : Call}
    {rest : request.Answer → Program client Controller.ReconcileResult}
    {answered : request.Answer × System}
    (taken : journal.step config (.operator (.controller key outcome)) = some next)
    (inside : journal.system.reconciles key = some execution)
    (calls : execution.program = .call request rest)
    (isAnswer : journal.system.respond request outcome = some answered) :
    next = { journal with
      system := { answered.2 with
        reconciles := Function.update journal.system.reconciles key
          (some (execution.advance request rest answered.1))
        writes := journal.system.logged key execution.read request outcome }
      visits := Function.update journal.visits key
        (journal.visits key ++ [⟨request, answered.1⟩]) } := by
  simp only [step, System.step, inside, calls, isAnswer, Option.map_some, record,
    exchanged_call calls isAnswer, Option.some.injEq] at taken
  exact taken.symm

def isUsers : Label → Bool
  | .create _ | .update _ _ _ _ | .remove _ | .setPolicy _ _ | .pass _ => true
  | _ => false

/-- No execution and no item is touched, and no request is lost. -/
structure Aside (journal next : Journal) : Prop where
  session : next.system.session = journal.system.session
  workers : next.system.workers = journal.system.workers
  reconciles : next.system.reconciles = journal.system.reconciles
  scheduled : next.scheduled = journal.scheduled
  turns : next.turns = journal.turns
  visits : next.visits = journal.visits
  past : next.past = journal.past
  pending : ∀ key, journal.system.pending key = true → next.system.pending key = true
  clock : journal.system.clock ≤ next.system.clock

theorem notify_pending (system : System) (wanted key : NamespacedName)
    (pending : system.pending key = true) : (system.notify wanted).pending key = true := by
  unfold System.notify
  by_cases same : key = wanted
  · rw [same]
    exact Function.update_self _ _ _
  · exact (Function.update_of_ne same _ _).trans pending

theorem step_users {label : Label} (users : isUsers label = true)
    (taken : journal.step config (.operator label) = some next) : Aside journal next := by
  obtain ⟨system, stepped, rfl⟩ := step_operator config taken
  cases label with
  | create template =>
      obtain ⟨_free, rfl⟩ := System.step_create config stepped
      exact ⟨rfl, rfl, rfl, rfl, rfl, rfl, rfl, notify_pending _ _, Int.le_refl _⟩
  | update wanted spec labels annotations =>
      obtain ⟨old, _stored, ⟨_, rfl⟩ | ⟨_, rfl⟩⟩ := System.step_update config stepped
      · exact ⟨rfl, rfl, rfl, rfl, rfl, rfl, rfl, notify_pending _ _, Int.le_refl _⟩
      · exact ⟨rfl, rfl, rfl, rfl, rfl, rfl, rfl, fun _ => id, Int.le_refl _⟩
  | remove wanted =>
      rw [System.step_remove config stepped]
      exact ⟨rfl, rfl, rfl, rfl, rfl, rfl, rfl, notify_pending _ _, Int.le_refl _⟩
  | setPolicy source answer =>
      cases stepped
      exact ⟨rfl, rfl, rfl, rfl, rfl, rfl, rfl, fun _ => id, Int.le_refl _⟩
  | pass elapsed =>
      cases stepped
      exact ⟨rfl, rfl, rfl, rfl, rfl, rfl, rfl, fun _ => id,
        Int.le_add_of_nonneg_right (Int.natCast_nonneg elapsed)⟩
  | _ => cases users

theorem step_deliver (taken : journal.step config (.operator (.deliver key)) = some next) :
    journal.system.reconciles key = none ∧
      next = { journal with
        system := journal.system.deliverTo config key
        visits := Function.update journal.visits key [] } := by
  obtain ⟨system, stepped, rfl⟩ := step_operator config taken
  obtain ⟨free, rfl⟩ := System.step_deliver config stepped
  exact ⟨free, rfl⟩

theorem step_dequeue {worker : Nat}
    (taken : journal.step config (.operator (.dequeue worker)) = some next) :
    ∃ session ref, journal.system.workers worker = none ∧
      journal.system.session.step (.dequeue worker journal.system.clock) = some session ∧
      Queue.WorkQueue.Taken journal.system.session.queue session.queue ref
        journal.system.clock ∧
      session.held worker = some ref ∧
      next = { journal with
        system := journal.system.take config worker session (session.queue.memory ref)
        turns := Function.update journal.turns worker [] } := by
  obtain ⟨system, stepped, rfl⟩ := step_operator config taken
  obtain ⟨session, ref, free, dequeued, holds, rfl⟩ := System.step_dequeue config stepped
  obtain ⟨root, _free, hands, held⟩ := Queue.Session.step_dequeue dequeued
  have same : root = ref := by
    rw [held, Queue.setHeld_self] at holds
    exact Option.some.inj holds
  rw [same] at hands
  exact ⟨session, ref, free, dequeued, hands, holds, rfl⟩

inductive TurnFrom (journal next : Journal) (event : Event) (worker : Nat)
    (execution : Execution Worker.Disposition) : Prop where
  | kept (inside : journal.system.workers worker = some execution)
      (turns : next.turns worker = journal.turns worker)
  | started (isEvent : event = .operator (.dequeue worker))
      (queued : Queued journal.system.session execution.key) (turns : next.turns worker = [])
  | called (outcome : Outcome) (before : Execution Worker.Disposition) (request : Call)
      (rest : request.Answer → Program client Worker.Disposition)
      (answered : request.Answer × System)
      (isEvent : event = .operator (.worker worker outcome))
      (inside : journal.system.workers worker = some before)
      (calls : before.program = .call request rest)
      (isAnswer : journal.system.respond request outcome = some answered)
      (isNext : execution = before.advance request rest answered.1)
      (turns : next.turns worker = journal.turns worker ++ [⟨request, answered.1⟩])

theorem step_turn {event : Event} {worker : Nat} {execution : Execution Worker.Disposition}
    (taken : journal.step config event = some next)
    (inside : next.system.workers worker = some execution) :
    TurnFrom journal next event worker execution := by
  cases event with
  | expire wanted =>
      obtain ⟨_waits, rfl⟩ := step_expire config taken
      exact .kept inside rfl
  | operator label =>
      cases label with
      | worker other outcome =>
          obtain ⟨before, insideBefore, effect⟩ := step_worker config taken
          rcases effect with ⟨disposition, session, _isDone, _ends, rfl⟩ |
            ⟨request, rest, answered, calls, isAnswer, rfl⟩
          · exact .kept (update_none_eq_some inside).2 rfl
          · rcases update_eq_some inside with ⟨rfl, isNext⟩ | ⟨same, stays⟩
            · exact .called outcome before request rest answered rfl insideBefore calls isAnswer
                (Option.some.inj isNext).symm (Function.update_self _ _ _)
            · exact .kept stays (Function.update_of_ne same _ _)
      | dequeue other =>
          obtain ⟨session, ref, _free, _dequeued, hands, _holds, rfl⟩ := step_dequeue config taken
          rcases update_eq_some inside with ⟨rfl, ⟨⟩⟩ | ⟨same, stays⟩
          · exact .started rfl ⟨ref, hands.items.mem_iff.mp List.mem_cons_self,
              (hands.keys ref).symm⟩ (Function.update_self _ _ _)
          · exact .kept stays (Function.update_of_ne same _ _)
      | deliver wanted =>
          obtain ⟨_free, rfl⟩ := step_deliver config taken
          exact .kept inside rfl
      | controller wanted outcome =>
          obtain ⟨visiting, _insideVisit, effect⟩ := step_controller config taken
          rcases effect with ⟨result, _isDone, rfl⟩ |
            ⟨request, rest, answered, _calls, isAnswer, rfl⟩
          · exact .kept inside rfl
          · dsimp only at inside
            rw [(System.respond_effect isAnswer).frame.workers] at inside
            exact .kept inside rfl
      | _ =>
          have aside := step_users config rfl taken
          rw [aside.workers] at inside
          exact .kept inside (congrFun aside.turns worker)

inductive VisitFrom (journal next : Journal) (event : Event) (key : NamespacedName)
    (execution : Execution Controller.ReconcileResult) : Prop where
  | kept (inside : journal.system.reconciles key = some execution)
      (visits : next.visits key = journal.visits key)
  | started (isEvent : event = .operator (.deliver key))
      (isProgram : execution.program =
        Controller.reconcile config.platform config.interval key)
      (visits : next.visits key = [])
  | called (outcome : Outcome) (before : Execution Controller.ReconcileResult) (request : Call)
      (rest : request.Answer → Program client Controller.ReconcileResult)
      (answered : request.Answer × System)
      (isEvent : event = .operator (.controller key outcome))
      (inside : journal.system.reconciles key = some before)
      (calls : before.program = .call request rest)
      (isAnswer : journal.system.respond request outcome = some answered)
      (isNext : execution = before.advance request rest answered.1)
      (visits : next.visits key = journal.visits key ++ [⟨request, answered.1⟩])

theorem step_visit {event : Event} {execution : Execution Controller.ReconcileResult}
    (taken : journal.step config event = some next)
    (inside : next.system.reconciles key = some execution) :
    VisitFrom config journal next event key execution := by
  cases event with
  | expire wanted =>
      obtain ⟨_waits, rfl⟩ := step_expire config taken
      exact .kept inside rfl
  | operator label =>
      cases label with
      | controller wanted outcome =>
          obtain ⟨before, insideBefore, effect⟩ := step_controller config taken
          rcases effect with ⟨result, _isDone, rfl⟩ |
            ⟨request, rest, answered, calls, isAnswer, rfl⟩
          · exact .kept (update_none_eq_some inside).2 rfl
          · rcases update_eq_some inside with ⟨rfl, isNext⟩ | ⟨same, stays⟩
            · exact .called outcome before request rest answered rfl insideBefore calls isAnswer
                (Option.some.inj isNext).symm (Function.update_self _ _ _)
            · exact .kept stays (Function.update_of_ne same _ _)
      | deliver wanted =>
          obtain ⟨_free, rfl⟩ := step_deliver config taken
          rcases update_eq_some inside with ⟨rfl, ⟨⟩⟩ | ⟨same, stays⟩
          · exact .started rfl rfl (Function.update_self _ _ _)
          · exact .kept stays (Function.update_of_ne same _ _)
      | worker worker outcome =>
          obtain ⟨turn, _insideTurn, effect⟩ := step_worker config taken
          rcases effect with ⟨disposition, session, _isDone, _ends, rfl⟩ |
            ⟨request, rest, answered, _calls, isAnswer, rfl⟩
          · exact .kept inside rfl
          · dsimp only at inside
            rw [(System.respond_effect isAnswer).frame.reconciles] at inside
            exact .kept inside rfl
      | dequeue worker =>
          obtain ⟨session, ref, _free, _dequeued, _hands, _holds, rfl⟩ := step_dequeue config taken
          exact .kept inside rfl
      | _ =>
          have aside := step_users config rfl taken
          rw [aside.reconciles] at inside
          exact .kept inside (congrFun aside.visits key)

section Store

variable {config} {journal next : Journal}

/-- The KubeTemplates and their versions after a step: as before, with a new version of
one of them, or without one of them. -/
inductive StoreFrom (journal next : Journal) (event : Event) : Prop where
  | kept (templates : next.system.templates = journal.system.templates)
      (history : next.system.history = journal.system.history)
  | put (template : KubeTemplate)
      (templates : next.system.templates = (journal.system.put template).templates)
      (history : next.system.history = (journal.system.put template).history)
  | removed (key : NamespacedName) (isEvent : event = .operator (.remove key))
      (templates : next.system.templates = Function.update journal.system.templates key none)
      (history : next.system.history = journal.system.history)

theorem StoreFrom.effect {event : Event} {request : Call} {after : System}
    (effect : System.Effect journal.system request after)
    (templates : next.system.templates = after.templates)
    (history : next.system.history = after.history) : StoreFrom journal next event := by
  cases effect with
  | none => exact .kept templates history
  | status template stored isUpdate isStored version => exact .put _ templates history
  | enqueued key priority isEnqueue => exact .kept templates history

theorem step_store {event : Event} (taken : journal.step config event = some next) :
    StoreFrom journal next event := by
  cases event with
  | expire wanted =>
      obtain ⟨_waits, rfl⟩ := step_expire config taken
      exact .kept rfl rfl
  | operator label =>
      cases label with
      | worker worker outcome =>
          obtain ⟨execution, _inside, effect⟩ := step_worker config taken
          rcases effect with ⟨disposition, session, _isDone, _ends, rfl⟩ |
            ⟨request, rest, answered, _calls, isAnswer, rfl⟩
          · exact .kept rfl rfl
          · exact .effect (System.respond_effect isAnswer) rfl rfl
      | controller wanted outcome =>
          obtain ⟨execution, _inside, effect⟩ := step_controller config taken
          rcases effect with ⟨result, _isDone, rfl⟩ |
            ⟨request, rest, answered, _calls, isAnswer, rfl⟩
          · exact .kept rfl rfl
          · exact .effect (System.respond_effect isAnswer) rfl rfl
      | dequeue worker =>
          obtain ⟨session, ref, _free, _dequeued, _hands, _holds, rfl⟩ := step_dequeue config taken
          exact .kept rfl rfl
      | deliver wanted =>
          obtain ⟨_free, rfl⟩ := step_deliver config taken
          exact .kept rfl rfl
      | create template =>
          obtain ⟨system, stepped, rfl⟩ := step_operator config taken
          obtain ⟨_free, rfl⟩ := System.step_create config stepped
          exact .put _ rfl rfl
      | update wanted spec labels annotations =>
          obtain ⟨system, stepped, rfl⟩ := step_operator config taken
          obtain ⟨old, _stored, ⟨_, rfl⟩ | ⟨_, rfl⟩⟩ := System.step_update config stepped
          · exact .put _ rfl rfl
          · exact .put _ rfl rfl
      | remove wanted =>
          obtain ⟨system, stepped, rfl⟩ := step_operator config taken
          rw [System.step_remove config stepped]
          exact .removed wanted rfl rfl rfl
      | _ =>
          obtain ⟨system, stepped, rfl⟩ := step_operator config taken
          cases stepped
          exact .kept rfl rfl

theorem step_keyed {event : Event} (taken : journal.step config event = some next)
    (keyed : journal.system.Keyed) : next.system.Keyed := by
  intro key template isStored
  cases step_store taken with
  | kept templates history =>
      rw [templates] at isStored
      exact keyed key template isStored
  | put added templates history =>
      rw [templates] at isStored
      exact System.put_keyed keyed added key template isStored
  | removed wanted isEvent templates history =>
      rw [templates] at isStored
      exact System.remove_keyed keyed wanted key template isStored

theorem step_stored {event : Event} {key : NamespacedName} {current : KubeTemplate}
    (taken : journal.step config event = some next)
    (isStored : journal.system.templates key = some current)
    (remains : event ≠ .operator (.remove key)) :
    ∃ new, next.system.templates key = some new := by
  cases step_store taken with
  | kept templates history =>
      rw [templates]
      exact ⟨current, isStored⟩
  | put template templates history =>
      rw [templates]
      by_cases same : key = template.key
      · rw [same]
        exact ⟨_, put_templates_self _ _⟩
      · exact ⟨current, (put_templates_other _ _ _ same).trans isStored⟩
  | removed wanted isEvent templates history =>
      have different : key ≠ wanted := by
        rintro rfl
        exact remains isEvent
      rw [templates, Function.update_of_ne different]
      exact ⟨current, isStored⟩

theorem step_history {event : Event} (taken : journal.step config event = some next)
    {template : KubeTemplate} (member : template ∈ next.system.history) :
    template ∈ journal.system.history ∨
      next.system.templates template.key = some template := by
  cases step_store taken with
  | kept templates history =>
      rw [history] at member
      exact .inl member
  | put added templates history =>
      rw [history] at member
      rw [templates]
      rcases List.mem_cons.mp member with rfl | old
      · exact .inr (put_templates_self journal.system added)
      · exact .inl old
  | removed wanted isEvent templates history =>
      rw [history] at member
      exact .inl member

end Store

end Journal

end KubeTemplater.Operator
