/-
What the journal knows of the executions under way.

The journal is faithful: what is left of an execution is what its program becomes
by the calls noted for it, and a worker's item stays as it was when the worker took
it.  So every execution keeps to its conversation, wherever it is.
-/

import KubeTemplater.Operator.Duties

namespace KubeTemplater.Operator

open Library Library.Program

structure Undisturbed (before after : Queue.Session) (worker : Nat) : Prop where
  held : after.held worker = before.held worker
  keys : ∀ ref, before.held worker = some ref → after.queue.key ref = before.queue.key ref
  attempts : ∀ ref, before.held worker = some ref →
    after.queue.attempts ref = before.queue.attempts ref
  settings : after.queue.settings = before.queue.settings

theorem undisturbed_refl (session : Queue.Session) (worker : Nat) :
    Undisturbed session session worker :=
  ⟨rfl, fun _ _ => rfl, fun _ _ => rfl, rfl⟩

private theorem undisturbed_enqueue {session : Queue.Session} (valid : session.Valid)
    (key : NamespacedName) (priority : Int) (now : Time) (worker : Nat) :
    Undisturbed session { session with queue := session.queue.enqueue key priority now }
      worker := by
  refine ⟨rfl, ?_, ?_, Queue.WorkQueue.enqueue_settings _ _ _ _⟩
  · intro ref holds
    have old := Nat.ne_of_lt (valid.heldBelow worker ref holds)
    cases known : session.queue.itemsMap key with
    | some existing => exact (Queue.WorkQueue.enqueue_existing _ key priority now _ known).keys ref
    | none => exact (Queue.WorkQueue.enqueue_new _ key priority now known).keys ref old
  · intro ref holds
    exact Queue.WorkQueue.enqueue_attempts _ _ _ _ _
      (Nat.ne_of_lt (valid.heldBelow worker ref holds))

private theorem undisturbed_dequeue {session next : Queue.Session} {worker other : Nat} {now : Time}
    (taken : session.step (.dequeue worker now) = some next) (different : other ≠ worker) :
    Undisturbed session next other := by
  obtain ⟨ref, rest, _free, hands, rfl⟩ := Queue.Session.step_hands taken
  have spec := Queue.WorkQueue.dequeue_take _ _ _ _ hands
  have kept := Queue.WorkQueue.dequeue_settings _ _ _ _ hands
  exact ⟨Queue.setHeld_other _ _ _ _ different, fun held _ => spec.keys held,
    fun held _ => kept.2 held, kept.1⟩

private theorem undisturbed_endTurn {session next : Queue.Session} (valid : session.Valid)
    {worker other : Nat} {now : Time} {disposition : Worker.Disposition}
    (ends : System.endTurn session worker now disposition = some next)
    (different : other ≠ worker) : Undisturbed session next other := by
  cases disposition with
  | done =>
      rw [Queue.Session.step_done ends]
      exact ⟨Queue.setHeld_other _ _ _ _ different, fun _ _ => rfl, fun _ _ => rfl, rfl⟩
  | requeue err =>
      obtain ⟨ref, holds, rfl⟩ := Queue.Session.step_requeue ends
      refine ⟨Queue.setHeld_other _ _ _ _ different, ?_, ?_,
        Queue.WorkQueue.requeue_settings _ _ _⟩
      · intro held _isHeld
        cases again : session.queue.retries ref now with
        | true => exact (Queue.WorkQueue.requeue_putBack _ ref now again).keys held
        | false => exact (Queue.WorkQueue.requeue_givenUp _ ref now again).keys held
      · intro held isHeld
        refine Queue.WorkQueue.requeue_attempts_other _ _ _ _ ?_
        rintro rfl
        exact different (valid.heldOnce other worker held isHeld holds)

theorem System.Effect.undisturbed {system next : System} {request : Call}
    (effect : System.Effect system request next) (valid : system.session.Valid) (worker : Nat) :
    Undisturbed system.session next.session worker := by
  cases effect with
  | none => exact undisturbed_refl _ _
  | status template stored isUpdate isStored version => exact undisturbed_refl _ _
  | enqueued key priority isEnqueue => exact undisturbed_enqueue valid key priority _ worker

namespace Journal

variable (config : Config)

structure Turn (journal : Journal) (worker : Nat) (execution : Execution Worker.Disposition)
    (ref : Queue.ItemRef) (item : Queue.WorkItem) : Prop where
  held : journal.system.session.held worker = some ref
  key : journal.system.session.queue.key ref = execution.key
  own : item.namespacedName = execution.key
  cycle : item.retryCycle = (journal.system.session.queue.attempts ref).2
  leaves : Leaves (Worker.handleItem config.platform config.operatorNamespace
    journal.system.session.queue.settings.maxRetryCycles item) (journal.turns worker)
    execution.program
  answered : Answered (journal.turns worker)

structure Faithful (journal : Journal) : Prop where
  keyed : journal.system.Keyed
  valid : journal.system.session.Valid
  listed : journal.system.Listed
  idle : ∀ worker, journal.system.workers worker = none →
    journal.system.session.held worker = none
  turn : ∀ worker execution, journal.system.workers worker = some execution →
    ∃ ref item, journal.Turn config worker execution ref item
  visit : ∀ key execution, journal.system.reconciles key = some execution →
    Leaves (Controller.reconcile config.platform config.interval key) (journal.visits key)
        execution.program ∧
      Answered (journal.visits key)

theorem start_faithful (maxRetries initialDelay maxDelay maxCycles : Int)
    (policies : String → Except GoError KubeTemplatePolicy) :
    (start (Queue.Session.start maxRetries initialDelay maxDelay maxCycles) policies).Faithful
      config where
  keyed := by intro key template stored; cases stored
  valid := Queue.Session.start_valid _ _ _ _
  listed := System.start_listed _ _
  idle := fun _ _ => rfl
  turn := by intro worker execution inside; cases inside
  visit := by intro key execution inside; cases inside

variable {config} {journal next : Journal}

theorem Turn.undisturbed {worker : Nat} {execution : Execution Worker.Disposition}
    {ref : Queue.ItemRef} {item : Queue.WorkItem}
    (turn : journal.Turn config worker execution ref item)
    (same : Undisturbed journal.system.session next.system.session worker)
    (turns : next.turns worker = journal.turns worker) :
    next.Turn config worker execution ref item where
  held := same.held.trans turn.held
  key := (same.keys ref turn.held).trans turn.key
  own := turn.own
  cycle := turn.cycle.trans (congrArg Prod.snd (same.attempts ref turn.held).symm)
  leaves := by
    rw [same.settings, turns]
    exact turn.leaves
  answered := by
    rw [turns]
    exact turn.answered

private theorem answered_snoc {trace : List (Exchange client)} (answered : Answered trace)
    {request : Call} {answer : request.Answer} (keyed : keyedAnswer request answer) :
    Answered (trace ++ [⟨request, answer⟩]) := by
  refine List.forall_mem_append.mpr ⟨answered, ?_⟩
  intro exchange member
  cases List.mem_singleton.mp member
  exact keyed

theorem Turn.called {worker : Nat} {execution : Execution Worker.Disposition}
    {ref : Queue.ItemRef} {item : Queue.WorkItem}
    (turn : journal.Turn config worker execution ref item)
    (same : Undisturbed journal.system.session next.system.session worker) {request : Call}
    {rest : request.Answer → Program client Worker.Disposition} {answer : request.Answer}
    (calls : execution.program = .call request rest) (keyed : keyedAnswer request answer)
    (turns : next.turns worker = journal.turns worker ++ [⟨request, answer⟩]) :
    next.Turn config worker (execution.advance request rest answer) ref item where
  held := same.held.trans turn.held
  key := (same.keys ref turn.held).trans turn.key
  own := turn.own
  cycle := turn.cycle.trans (congrArg Prod.snd (same.attempts ref turn.held).symm)
  leaves := by
    have leaves := turn.leaves
    rw [calls] at leaves
    rw [same.settings, turns]
    exact leaves.snoc answer
  answered := by
    rw [turns]
    exact answered_snoc turn.answered keyed

theorem respond_keyed {system : System} (keyed : system.Keyed) {request : Call}
    {outcome : Outcome} {answered : request.Answer × System}
    (isAnswer : system.respond request outcome = some answered) :
    keyedAnswer request answered.1 := by
  cases request with
  | getTemplate wanted =>
      intro template isOk
      exact System.respond_getTemplate keyed isAnswer isOk
  | _ => trivial

theorem Faithful.visits (faithful : journal.Faithful config) {event : Event}
    (taken : journal.step config event = some next) (key : NamespacedName)
    (execution : Execution Controller.ReconcileResult)
    (inside : next.system.reconciles key = some execution) :
    Leaves (Controller.reconcile config.platform config.interval key) (next.visits key)
        execution.program ∧
      Answered (next.visits key) := by
  cases step_visit config taken inside with
  | kept before visits =>
      rw [visits]
      exact faithful.visit key execution before
  | started isEvent isProgram visits =>
      rw [visits, isProgram]
      refine ⟨.nil _, ?_⟩
      intro exchange member
      cases member
  | called outcome caller request rest answered isEvent before calls isAnswer isNext visits =>
      obtain ⟨leaves, earlier⟩ := faithful.visit key caller before
      rw [calls] at leaves
      rw [visits, isNext]
      exact ⟨leaves.snoc answered.1,
        answered_snoc earlier (respond_keyed faithful.keyed isAnswer)⟩

/-- A step that leaves all executions alone. -/
theorem Faithful.aside (faithful : journal.Faithful config) (aside : Aside journal next)
    (keyed : next.system.Keyed) (listed : next.system.Listed) : next.Faithful config := by
  refine ⟨keyed, ?_, listed, ?_, ?_, ?_⟩
  · rw [aside.session]
    exact faithful.valid
  · rw [aside.session, aside.workers]
    exact faithful.idle
  · intro worker execution inside
    rw [aside.workers] at inside
    obtain ⟨ref, item, turn⟩ := faithful.turn worker execution inside
    refine ⟨ref, item, turn.undisturbed ?_ (by rw [aside.turns])⟩
    rw [aside.session]
    exact undisturbed_refl _ _
  · rw [aside.reconciles, aside.visits]
    exact faithful.visit

theorem record_system (journal : Journal) (system : System) (label : Label) :
    (journal.record system label).system = system := by
  cases label with
  | controller key outcome =>
      unfold record
      dsimp only
      split
      · rfl
      · split <;> rfl
  | worker worker outcome =>
      unfold record
      dsimp only
      split
      · rfl
      · split <;> rfl
  | _ => rfl

theorem step_system_listed (listed : journal.system.Listed) {label : Label}
    (taken : journal.step config (.operator label) = some next) : next.system.Listed := by
  obtain ⟨system, stepped, rfl⟩ := step_operator config taken
  rw [record_system]
  exact System.step_listed config journal.system label system listed stepped

private theorem endTurn_held {session after : Queue.Session} {worker : Nat} {now : Time}
    {disposition : Worker.Disposition}
    (ends : System.endTurn session worker now disposition = some after) :
    after.held worker = none := by
  cases disposition with
  | done =>
      rw [Queue.Session.step_done ends]
      exact Queue.setHeld_self _ _ _
  | requeue err =>
      obtain ⟨ref, _holds, rfl⟩ := Queue.Session.step_requeue ends
      exact Queue.setHeld_self _ _ _

private theorem faithful_worker (faithful : journal.Faithful config) {worker : Nat}
    {outcome : Outcome}
    (taken : journal.step config (.operator (.worker worker outcome)) = some next) :
    next.Faithful config := by
  have listed := step_system_listed faithful.listed taken
  have visits := faithful.visits taken
  obtain ⟨execution, inside, effect⟩ := step_worker config taken
  rcases effect with ⟨disposition, session, _isDone, ends, rfl⟩ |
    ⟨request, rest, answered, calls, isAnswer, rfl⟩
  · refine ⟨faithful.keyed, System.endTurn_valid faithful.valid ends, listed, ?_, ?_, visits⟩
    · intro other free
      by_cases same : other = worker
      · rw [same]
        exact endTurn_held ends
      · simp only [Function.update_of_ne same] at free
        exact (undisturbed_endTurn faithful.valid ends same).held.trans (faithful.idle other free)
    · intro other found stays
      obtain ⟨same, stays⟩ := update_none_eq_some stays
      obtain ⟨ref, item, turn⟩ := faithful.turn other found stays
      exact ⟨ref, item, turn.undisturbed (undisturbed_endTurn faithful.valid ends same) rfl⟩
  · have effect := System.respond_effect isAnswer
    have valid := effect.valid faithful.valid
    have stored := effect.keyed faithful.keyed
    refine ⟨stored, valid, listed, ?_, ?_, visits⟩
    · intro other free
      by_cases same : other = worker
      · subst same
        simp only [Function.update_self] at free
        cases free
      · simp only [Function.update_of_ne same] at free
        exact (effect.undisturbed faithful.valid other).held.trans (faithful.idle other free)
    · intro other found stays
      rcases update_eq_some stays with ⟨rfl, ⟨⟩⟩ | ⟨same, stays⟩
      · obtain ⟨ref, item, turn⟩ := faithful.turn other execution inside
        exact ⟨ref, item, turn.called (effect.undisturbed faithful.valid other) calls
          (respond_keyed faithful.keyed isAnswer) (Function.update_self _ _ _)⟩
      · obtain ⟨ref, item, turn⟩ := faithful.turn other found stays
        refine ⟨ref, item, turn.undisturbed (effect.undisturbed faithful.valid other) ?_⟩
        exact Function.update_of_ne same _ _

private theorem faithful_controller (faithful : journal.Faithful config) {key : NamespacedName}
    {outcome : Outcome}
    (taken : journal.step config (.operator (.controller key outcome)) = some next) :
    next.Faithful config := by
  have listed := step_system_listed faithful.listed taken
  have visits := faithful.visits taken
  obtain ⟨execution, _inside, effect⟩ := step_controller config taken
  rcases effect with ⟨result, _isDone, rfl⟩ | ⟨request, rest, answered, _calls, isAnswer, rfl⟩
  · refine ⟨faithful.keyed, faithful.valid, listed, faithful.idle, ?_, visits⟩
    intro worker found stays
    obtain ⟨ref, item, turn⟩ := faithful.turn worker found stays
    exact ⟨ref, item, turn.undisturbed (undisturbed_refl _ _) rfl⟩
  · have effect := System.respond_effect isAnswer
    have valid := effect.valid faithful.valid
    have stored := effect.keyed faithful.keyed
    refine ⟨stored, valid, listed, ?_, ?_, visits⟩
    · intro worker free
      dsimp only at free
      rw [effect.frame.workers] at free
      exact (effect.undisturbed faithful.valid worker).held.trans (faithful.idle worker free)
    · intro worker found stays
      dsimp only at stays
      rw [effect.frame.workers] at stays
      obtain ⟨ref, item, turn⟩ := faithful.turn worker found stays
      exact ⟨ref, item, turn.undisturbed (effect.undisturbed faithful.valid worker) rfl⟩

private theorem faithful_dequeue (faithful : journal.Faithful config) {worker : Nat}
    (taken : journal.step config (.operator (.dequeue worker)) = some next) :
    next.Faithful config := by
  have listed := step_system_listed faithful.listed taken
  obtain ⟨session, ref, _free, dequeued, _hands, holds, rfl⟩ := step_dequeue config taken
  refine ⟨faithful.keyed, Queue.Session.step_valid _ _ _ faithful.valid dequeued, listed, ?_, ?_,
    faithful.visit⟩
  · intro other free
    by_cases same : other = worker
    · subst same
      simp only [System.take, Function.update_self] at free
      cases free
    · simp only [System.take, Function.update_of_ne same] at free
      exact (undisturbed_dequeue dequeued same).held.trans (faithful.idle other free)
  intro other found stays
  rcases update_eq_some stays with ⟨rfl, ⟨⟩⟩ | ⟨same, stays⟩
  · refine ⟨ref, session.queue.memory ref, holds, rfl, rfl, rfl, ?_, ?_⟩
    · dsimp only
      rw [Function.update_self]
      exact .nil _
    · dsimp only
      rw [Function.update_self]
      intro exchange member
      cases member
  · obtain ⟨held, item, turn⟩ := faithful.turn other found stays
    refine ⟨held, item, turn.undisturbed (undisturbed_dequeue dequeued same) ?_⟩
    exact Function.update_of_ne same _ _

private theorem faithful_deliver (faithful : journal.Faithful config) {key : NamespacedName}
    (taken : journal.step config (.operator (.deliver key)) = some next) :
    next.Faithful config := by
  have listed := step_system_listed faithful.listed taken
  have visits := faithful.visits taken
  obtain ⟨_free, rfl⟩ := step_deliver config taken
  refine ⟨faithful.keyed, faithful.valid, listed, faithful.idle, ?_, visits⟩
  intro worker found stays
  obtain ⟨ref, item, turn⟩ := faithful.turn worker found stays
  exact ⟨ref, item, turn.undisturbed (undisturbed_refl _ _) rfl⟩

theorem step_faithful (journal : Journal) (event : Event) (next : Journal)
    (faithful : journal.Faithful config) (taken : journal.step config event = some next) :
    next.Faithful config := by
  cases event with
  | expire key =>
      obtain ⟨_waits, rfl⟩ := step_expire config taken
      refine ⟨faithful.keyed, faithful.valid, ⟨faithful.listed.workers, faithful.listed.reconciles⟩,
        faithful.idle, ?_, faithful.visit⟩
      intro worker execution inside
      obtain ⟨ref, item, turn⟩ := faithful.turn worker execution inside
      exact ⟨ref, item, turn.undisturbed (undisturbed_refl _ _) rfl⟩
  | operator label =>
      cases label with
      | worker worker outcome => exact faithful_worker faithful taken
      | controller key outcome => exact faithful_controller faithful taken
      | dequeue worker => exact faithful_dequeue faithful taken
      | deliver key => exact faithful_deliver faithful taken
      | _ =>
          exact faithful.aside (step_users config rfl taken) (step_keyed taken faithful.keyed)
            (step_system_listed faithful.listed taken)

theorem run_faithful {maxRetries initialDelay maxDelay maxCycles : Int}
    {policies : String → Except GoError KubeTemplatePolicy} {events : List Event}
    {final : Journal}
    (isRun : run (step config)
      (start (Queue.Session.start maxRetries initialDelay maxDelay maxCycles) policies) events =
        some final) : final.Faithful config :=
  (throughout_of_preserved (step config) (Faithful config) step_faithful _ events
    (start_faithful config _ _ _ _ _)).last isRun

section

variable (faithful : journal.Faithful config)
include faithful

variable {execution : Execution Worker.Disposition}

theorem turn_permitted {worker : Nat} {request : Call}
    {rest : request.Answer → Program client Worker.Disposition}
    (inside : journal.system.workers worker = some execution)
    (calls : execution.program = .call request rest) :
    (tending execution.key turnPhase).permitted (owes (journal.turns worker)) request := by
  obtain ⟨ref, item, turn⟩ := faithful.turn worker execution inside
  have leaves := turn.leaves
  rw [calls] at leaves
  rw [← turn.own]
  exact ((handleItem_tending config.platform _ _ item).leaves leaves
    (fun exchange member _ => turn.answered exchange member)).1

theorem turn_done {worker : Nat} (inside : journal.system.workers worker = some execution)
    (isDone : execution.program = .done .done) :
    owes (journal.turns worker) = false ∨
      Abandons config.platform config.operatorNamespace
        journal.system.session.queue.maxRetryCycles execution.key (journal.turns worker) := by
  obtain ⟨ref, item, turn⟩ := faithful.turn worker execution inside
  have leaves := turn.leaves
  rw [isDone] at leaves
  rw [← turn.own]
  exact handleItem_done config.platform _ _ item _ turn.answered leaves.executes

/-- A worker hands back its item: it is queued again, and nothing else changes. -/
theorem turn_requeue {worker : Nat} {err : GoError} {session : Queue.Session}
    (inside : journal.system.workers worker = some execution)
    (isDone : execution.program = .done (.requeue err))
    (ends : System.endTurn journal.system.session worker journal.system.clock (.requeue err) =
      some session) (key : NamespacedName) :
    Queued session key ↔ key = execution.key ∨ Queued journal.system.session key := by
  obtain ⟨ref, item, turn⟩ := faithful.turn worker execution inside
  have leaves := turn.leaves
  rw [isDone] at leaves
  have left := handleItem_requeue config.platform _ _ item _ err leaves.executes
  rw [turn.cycle] at left
  obtain ⟨held, isHeld, rfl⟩ := Queue.Session.step_requeue ends
  rw [turn.held] at isHeld
  cases isHeld
  rw [System.queued_requeue (System.retries_of_cycles _ left), turn.key]

theorem visit_permitted {key : NamespacedName} {execution : Execution Controller.ReconcileResult}
    {request : Call} {rest : request.Answer → Program client Controller.ReconcileResult}
    (inside : journal.system.reconciles key = some execution)
    (calls : execution.program = .call request rest) :
    (visiting key).permitted (visitAfter (journal.visits key)) request := by
  obtain ⟨leaves, answered⟩ := faithful.visit key execution inside
  rw [calls] at leaves
  exact (((reconcile_visiting config.platform).leaves leaves
    (fun exchange member _ => answered exchange member)).1 :)

theorem visit_ends {key : NamespacedName} {execution : Execution Controller.ReconcileResult}
    {result : Controller.ReconcileResult}
    (inside : journal.system.reconciles key = some execution)
    (isDone : execution.program = .done result) :
    Visit.ends config.interval (visitAfter (journal.visits key)) result := by
  obtain ⟨leaves, answered⟩ := faithful.visit key execution inside
  rw [isDone] at leaves
  exact (reconcile_visiting config.platform).leaves leaves
    (fun exchange member _ => answered exchange member)

end

end Journal

end KubeTemplater.Operator
