/-
In whose hands a KubeTemplate is.

A KubeTemplate is worked on while an item of it is queued or a worker has its
duty, and requested while an event, a timer or an execution of `Reconcile` will
look at it.  The steps that end either are few.
-/

import KubeTemplater.Operator.Faithful

namespace KubeTemplater.Operator

open Library Library.Program

namespace Journal

variable {config : Config} {journal next : Journal}

def Worked (journal : Journal) (duty : List (Exchange client) → Bool) (key : NamespacedName) :
    Prop :=
  Queued journal.system.session key ∨
    ∃ worker execution, journal.system.workers worker = some execution ∧ execution.key = key ∧
      duty (journal.turns worker) = true

/-- A worker on the KubeTemplate loses its duty in the step: by a call, or by
calling `Done`. -/
def TurnOver (journal : Journal) (duty : List (Exchange client) → Bool) (key : NamespacedName)
    (event : Event) : Prop :=
  ∃ worker outcome execution, event = .operator (.worker worker outcome) ∧
    journal.system.workers worker = some execution ∧ execution.key = key ∧
    duty (journal.turns worker) = true ∧
    (execution.program = .done .done ∨
      ∃ request rest answered, execution.program = .call request rest ∧
        journal.system.respond request outcome = some answered ∧
        duty (journal.turns worker ++ [⟨request, answered.1⟩]) = false)

section Worked

variable {duty : List (Exchange client) → Bool} {key : NamespacedName}

private theorem queued_effect {system after : System} {request : Call}
    (valid : system.session.Valid)
    (effect : System.Effect system request after) (queued : Queued system.session key) :
    Queued after.session key := by
  cases effect with
  | none => exact queued
  | status template stored isUpdate isStored version => exact queued
  | enqueued wanted priority isEnqueue =>
      exact (queued_enqueue valid wanted key priority _).mpr (.inr queued)

theorem Worked.worker (faithful : journal.Faithful config) {worker : Nat} {outcome : Outcome}
    (worked : journal.Worked duty key)
    (taken : journal.step config (.operator (.worker worker outcome)) = some next) :
    next.Worked duty key ∨ journal.TurnOver duty key (.operator (.worker worker outcome)) := by
  obtain ⟨execution, inside, effect⟩ := step_worker config taken
  rcases effect with ⟨disposition, session, isDone, ends, rfl⟩ |
    ⟨request, rest, answered, calls, isAnswer, rfl⟩
  · cases disposition with
    | requeue err =>
        have queued := turn_requeue faithful inside isDone ends key
        rcases worked with before | ⟨other, found, insideOther, own, has⟩
        · exact .inl (.inl (queued.mpr (.inr before)))
        · by_cases same : other = worker
          · subst same
            rw [inside] at insideOther
            cases insideOther
            exact .inl (.inl (queued.mpr (.inl own.symm)))
          · exact .inl (.inr ⟨other, found, (Function.update_of_ne same _ _).trans insideOther, own,
              has⟩)
    | done =>
        rcases worked with before | ⟨other, found, insideOther, own, has⟩
        · rw [Queue.Session.step_done ends]
          exact .inl (.inl before)
        · by_cases same : other = worker
          · subst same
            rw [inside] at insideOther
            cases insideOther
            exact .inr ⟨other, outcome, execution, rfl, inside, own, has, .inl isDone⟩
          · exact .inl (.inr ⟨other, found, (Function.update_of_ne same _ _).trans insideOther, own,
              has⟩)
  · rcases worked with before | ⟨other, found, insideOther, own, has⟩
    · have queued := queued_effect faithful.valid (System.respond_effect isAnswer) before
      exact .inl (.inl queued)
    · by_cases same : other = worker
      · subst same
        rw [inside] at insideOther
        cases insideOther
        cases still : duty (journal.turns other ++ [⟨request, answered.1⟩]) with
        | true =>
            refine .inl (.inr ⟨other, _, Function.update_self _ _ _, own, ?_⟩)
            dsimp only
            rw [Function.update_self]
            exact still
        | false =>
            exact .inr ⟨other, outcome, execution, rfl, inside, own, has,
              .inr ⟨request, rest, answered, calls, isAnswer, still⟩⟩
      · refine .inl (.inr ⟨other, found, (Function.update_of_ne same _ _).trans insideOther, own,
          ?_⟩)
        dsimp only
        rw [Function.update_of_ne same]
        exact has

theorem worked_of_call {worker : Nat} {outcome : Outcome}
    {execution : Execution Worker.Disposition} {request : Call}
    {rest : request.Answer → Program client Worker.Disposition}
    {answered : request.Answer × System}
    (taken : journal.step config (.operator (.worker worker outcome)) = some next)
    (inside : journal.system.workers worker = some execution)
    (calls : execution.program = .call request rest)
    (isAnswer : journal.system.respond request outcome = some answered)
    (own : execution.key = key)
    (has : duty (journal.turns worker ++ [⟨request, answered.1⟩]) = true) :
    next.Worked duty key := by
  rw [step_worker_call config taken inside calls isAnswer]
  refine .inr ⟨worker, _, Function.update_self _ _ _, own, ?_⟩
  dsimp only
  rw [Function.update_self]
  exact has

theorem Worked.dequeue {worker : Nat} (starts : duty [] = true)
    (worked : journal.Worked duty key)
    (taken : journal.step config (.operator (.dequeue worker)) = some next) :
    next.Worked duty key := by
  obtain ⟨session, ref, free, _dequeued, hands, _holds, rfl⟩ := step_dequeue config taken
  rcases worked with queued | ⟨other, found, insideOther, own, has⟩
  · by_cases same : journal.system.session.queue.key ref = key
    · refine .inr ⟨worker, _, Function.update_self _ _ _, (hands.keys ref).trans same, ?_⟩
      dsimp only
      rw [Function.update_self]
      exact starts
    · exact .inl ((System.queued_dequeue_other hands same).mpr queued)
  · have different : other ≠ worker := by
      rintro rfl
      rw [free] at insideOther
      cases insideOther
    refine .inr ⟨other, found, (Function.update_of_ne different _ _).trans insideOther, own, ?_⟩
    dsimp only
    rw [Function.update_of_ne different]
    exact has

/-- A KubeTemplate stays worked on until a worker loses its duty. -/
theorem Worked.step (faithful : journal.Faithful config) (starts : duty [] = true) {event : Event}
    (worked : journal.Worked duty key) (taken : journal.step config event = some next) :
    next.Worked duty key ∨ journal.TurnOver duty key event := by
  cases event with
  | expire wanted =>
      obtain ⟨_waits, rfl⟩ := step_expire config taken
      exact .inl worked
  | operator label =>
      cases label with
      | worker worker outcome => exact worked.worker faithful taken
      | dequeue worker => exact .inl (worked.dequeue starts taken)
      | deliver wanted =>
          obtain ⟨_free, rfl⟩ := step_deliver config taken
          exact .inl worked
      | controller wanted outcome =>
          obtain ⟨execution, _inside, effect⟩ := step_controller config taken
          rcases effect with ⟨result, _isDone, rfl⟩ |
            ⟨request, rest, answered, _calls, isAnswer, rfl⟩
          · exact .inl worked
          · have effect := System.respond_effect isAnswer
            rcases worked with queued | ⟨worker, found, inside, own, has⟩
            · have still := queued_effect faithful.valid effect queued
              exact .inl (.inl still)
            · refine .inl (.inr ⟨worker, found, ?_, own, has⟩)
              dsimp only
              rw [effect.frame.workers]
              exact inside
      | _ =>
          have aside := step_users config rfl taken
          refine .inl ?_
          unfold Worked
          rw [aside.session, aside.workers, aside.turns]
          exact worked

end Worked

/-- `Reconcile` will look at the KubeTemplate: for an event, for a timer, or in an
execution that still has the duty. -/
def Requested (journal : Journal) (duty : Visit → Bool) (key : NamespacedName) : Prop :=
  journal.system.pending key = true ∨ journal.scheduled key = true ∨
    ∃ execution, journal.system.reconciles key = some execution ∧
      duty (visitAfter (journal.visits key)) = true

/-- The execution of `Reconcile` loses its duty in the step: by a call, or by ending
without asking for another one. -/
def VisitOver (journal : Journal) (duty : Visit → Bool) (key : NamespacedName)
    (event : Event) : Prop :=
  ∃ outcome execution, event = .operator (.controller key outcome) ∧
    journal.system.reconciles key = some execution ∧
    duty (visitAfter (journal.visits key)) = true ∧
    ((∃ result, execution.program = .done result ∧ asksAgain result = false) ∨
      ∃ request rest answered, execution.program = .call request rest ∧
        journal.system.respond request outcome = some answered ∧
        duty (visitAfter (journal.visits key ++ [⟨request, answered.1⟩])) = false)

section Requested

variable {duty : Visit → Bool} {key : NamespacedName}

theorem Requested.controller {wanted : NamespacedName} {outcome : Outcome}
    (requested : journal.Requested duty key)
    (taken : journal.step config (.operator (.controller wanted outcome)) = some next) :
    next.Requested duty key ∨
      journal.VisitOver duty key (.operator (.controller wanted outcome)) := by
  obtain ⟨execution, inside, effect⟩ := step_controller config taken
  rcases effect with ⟨result, isDone, rfl⟩ | ⟨request, rest, answered, calls, isAnswer, rfl⟩
  · rcases requested with pending | waits | ⟨found, isFound, has⟩
    · exact .inl (.inl pending)
    · refine .inl (.inr (.inl ?_))
      by_cases same : key = wanted
      · subst same
        simp only [Function.update_self, waits, Bool.or_true]
      · exact (Function.update_of_ne same _ _).trans waits
    · by_cases same : key = wanted
      · subst same
        rw [inside] at isFound
        cases isFound
        cases again : asksAgain result with
        | true =>
            refine .inl (.inr (.inl ?_))
            simp only [Function.update_self, Bool.true_or]
        | false =>
            exact .inr ⟨outcome, execution, rfl, inside, has, .inl ⟨result, isDone, again⟩⟩
      · exact .inl (.inr (.inr ⟨found, (Function.update_of_ne same _ _).trans isFound, has⟩))
  · have frame := (System.respond_effect isAnswer).frame
    rcases requested with pending | waits | ⟨found, isFound, has⟩
    · refine .inl (.inl ?_)
      dsimp only
      rw [frame.pending]
      exact pending
    · exact .inl (.inr (.inl waits))
    · by_cases same : key = wanted
      · subst same
        rw [inside] at isFound
        cases isFound
        cases still : duty (visitAfter (journal.visits key ++ [⟨request, answered.1⟩])) with
        | true =>
            refine .inl (.inr (.inr ⟨_, Function.update_self _ _ _, ?_⟩))
            dsimp only
            rw [Function.update_self]
            exact still
        | false =>
            exact .inr ⟨outcome, execution, rfl, inside, has,
              .inr ⟨request, rest, answered, calls, isAnswer, still⟩⟩
      · refine .inl (.inr (.inr ⟨found, (Function.update_of_ne same _ _).trans isFound, ?_⟩))
        dsimp only
        rw [Function.update_of_ne same]
        exact has

theorem requested_of_call {outcome : Outcome} {execution : Execution Controller.ReconcileResult}
    {request : Call} {rest : request.Answer → Program client Controller.ReconcileResult}
    {answered : request.Answer × System}
    (taken : journal.step config (.operator (.controller key outcome)) = some next)
    (inside : journal.system.reconciles key = some execution)
    (calls : execution.program = .call request rest)
    (isAnswer : journal.system.respond request outcome = some answered)
    (has : duty (visitAfter (journal.visits key ++ [⟨request, answered.1⟩])) = true) :
    next.Requested duty key := by
  rw [step_controller_call config taken inside calls isAnswer]
  refine .inr (.inr ⟨_, Function.update_self _ _ _, ?_⟩)
  dsimp only
  rw [Function.update_self]
  exact has

/-- A KubeTemplate stays requested until the execution of `Reconcile` loses its duty. -/
theorem Requested.step (starts : duty .waiting = true) {event : Event}
    (requested : journal.Requested duty key) (taken : journal.step config event = some next) :
    next.Requested duty key ∨ journal.VisitOver duty key event := by
  cases event with
  | expire wanted =>
      obtain ⟨_waits, rfl⟩ := step_expire config taken
      refine .inl ?_
      rcases requested with pending | waits | visited
      · exact .inl (notify_pending _ wanted key pending)
      · by_cases same : key = wanted
        · rw [same]
          exact .inl (Function.update_self _ _ _)
        · exact .inr (.inl ((Function.update_of_ne same _ _).trans waits))
      · exact .inr (.inr visited)
  | operator label =>
      cases label with
      | controller wanted outcome => exact requested.controller taken
      | worker worker outcome =>
          obtain ⟨execution, _inside, effect⟩ := step_worker config taken
          rcases effect with ⟨disposition, session, _isDone, _ends, rfl⟩ |
            ⟨request, rest, answered, _calls, isAnswer, rfl⟩
          · exact .inl requested
          · have frame := (System.respond_effect isAnswer).frame
            refine .inl ?_
            unfold Requested
            dsimp only
            rw [frame.pending, frame.reconciles]
            exact requested
      | dequeue worker =>
          obtain ⟨session, ref, _free, _dequeued, _hands, _holds, rfl⟩ := step_dequeue config taken
          exact .inl requested
      | deliver wanted =>
          obtain ⟨free, rfl⟩ := step_deliver config taken
          by_cases same : key = wanted
          · subst same
            refine .inl (.inr (.inr ⟨_, Function.update_self _ _ _, ?_⟩))
            dsimp only
            rw [Function.update_self]
            exact starts
          · refine .inl ?_
            unfold Requested System.deliverTo
            simp only [Function.update_of_ne same]
            exact requested
      | _ =>
          have aside := step_users config rfl taken
          refine .inl ?_
          unfold Requested
          rw [aside.scheduled, aside.reconciles, aside.visits]
          exact requested.imp (aside.pending key) id

/-- A KubeTemplate that exists is not reported missing to `Reconcile`, which reads
what is stored. -/
def Sighted (journal : Journal) (key : NamespacedName) (outcome : Outcome) : Prop :=
  ∀ execution, journal.system.reconciles key = some execution →
    TrueMissing journal.system execution.program outcome ∧ ∀ template, outcome ≠ .stale template

/-- The execution of `Reconcile` loses its duty by queueing the KubeTemplate, or by
finding it in a phase that gives it none. -/
theorem VisitOver.left (faithful : journal.Faithful config) {event : Event}
    (sighted : ∀ outcome, event = .operator (.controller key outcome) →
      journal.Sighted key outcome)
    (visitOver : journal.VisitOver duty key event)
    (ends : ∀ visit result, Visit.ends config.interval visit result → duty visit = true →
      asksAgain result = true)
    (writes : ∀ phase requeues more, duty (.found phase requeues) = true →
      duty (.found phase (requeues || more)) = true)
    (refused : duty .refused = true)
    (taken : journal.step config event = some next) {current : KubeTemplate}
    (isStored : next.system.templates key = some current) :
    Queued next.system.session key ∨
      duty (.found current.status.processingPhase false) = false := by
  obtain ⟨outcome, execution, rfl, inside, has, ended⟩ := visitOver
  obtain ⟨truthful, fresh⟩ := sighted outcome rfl execution inside
  rcases ended with ⟨result, isDone, silent⟩ | ⟨request, rest, answered, calls, isAnswer, lost⟩
  · rw [ends _ _ (visit_ends faithful inside isDone) has] at silent
    cases silent
  · have permitted := visit_permitted faithful inside calls
    have isNext := step_controller_call config taken inside calls isAnswer
    rw [visitAfter_snoc] at lost
    have moves := Visit.after_moves (visitAfter (journal.visits key)) request answered.1
    generalize (visitAfter (journal.visits key)).after request answered.1 = after at moves lost
    generalize visitAfter (journal.visits key) = visit at moves permitted has
    obtain ⟨answer, system⟩ := answered
    cases moves with
    | stays =>
        rw [has] at lost
        cases lost
    | writes phase requeues template answer =>
        rw [writes phase requeues _ has] at lost
        cases lost
    | enqueues phase requeues wanted priority =>
        have same : wanted = key := permitted
        rw [isNext, respond_enqueue isAnswer]
        exact .inl ((queued_enqueue faithful.valid wanted key priority _).mpr (.inl same.symm))
    | reads wanted answer =>
        have same : wanted = key := permitted
        subst same
        rw [isNext] at isStored
        dsimp only at isStored
        rw [show system = journal.system from read_templates isAnswer] at isStored
        cases answer with
        | error err =>
            cases missing : err.isNotFound with
            | true =>
                rw [absent_of_missing truthful calls isAnswer rfl missing] at isStored
                cases isStored
            | false =>
                simp only [Visit.read, missing, Bool.false_eq_true, if_false] at lost
                rw [refused] at lost
                cases lost
        | ok template =>
            rw [stored_of_read fresh isAnswer rfl] at isStored
            cases isStored
            exact .inr lost

end Requested

end Journal

end KubeTemplater.Operator
