/-
Where what is stored and what is queued come from.

A step leaves a KubeTemplate alone, creates it, edits it, or writes a status that an
execution for it has made; and an item is in the queue because it was there, because
`Reconcile` has enqueued it or because a worker has handed it back.
-/

import KubeTemplater.Operator.Faithful

namespace KubeTemplater.Operator

open Library Library.Program

namespace Journal

variable {config : Config} {journal next : Journal}

inductive TemplateFrom (journal next : Journal) (event : Event) (key : NamespacedName)
    (current : KubeTemplate) : Prop where
  | kept (isStored : journal.system.templates key = some current)
  | created (absent : journal.system.templates key = none) (isNew : current.status = .initial)
      (pending : next.system.pending key = true)
  | edited (old : KubeTemplate) (spec : KubeTemplateSpec)
      (labels annotations : List (String × String))
      (isEvent : event = .operator (.update key spec labels annotations))
      (wasStored : journal.system.templates key = some old)
      (same : current = journal.system.stamp (System.edited old spec labels annotations))
  | worker (worker : Nat) (outcome : Outcome) (execution : Execution Worker.Disposition)
      (template stored : KubeTemplate)
      (rest : Except GoError Nat → Program client Worker.Disposition)
      (answered : Except GoError Nat × System)
      (isEvent : event = .operator (.worker worker outcome))
      (inside : journal.system.workers worker = some execution) (own : execution.key = key)
      (calls : execution.program = .call (.updateStatus template) rest)
      (isAnswer : journal.system.respond (.updateStatus template) outcome = some answered)
      (wasStored : journal.system.templates key = some stored)
      (same : current = journal.system.stamp { stored with status := template.status })
  | controller (outcome : Outcome) (execution : Execution Controller.ReconcileResult)
      (template stored : KubeTemplate)
      (rest : Except GoError Nat → Program client Controller.ReconcileResult)
      (answered : Except GoError Nat × System)
      (isEvent : event = .operator (.controller key outcome))
      (inside : journal.system.reconciles key = some execution)
      (calls : execution.program = .call (.updateStatus template) rest)
      (isAnswer : journal.system.respond (.updateStatus template) outcome = some answered)
      (wasStored : journal.system.templates key = some stored)
      (same : current = journal.system.stamp { stored with status := template.status })

inductive StatusFrom (journal next : Journal) (event : Event) (key : NamespacedName)
    (status : KubeTemplateStatus) : Prop where
  | kept (current : KubeTemplate) (isStored : journal.system.templates key = some current)
      (same : status = current.status)
  | created (absent : journal.system.templates key = none) (isNew : status = .initial)
      (pending : next.system.pending key = true)
  | worker (worker : Nat) (outcome : Outcome) (execution : Execution Worker.Disposition)
      (template : KubeTemplate)
      (rest : Except GoError Nat → Program client Worker.Disposition)
      (answered : Except GoError Nat × System)
      (isEvent : event = .operator (.worker worker outcome))
      (inside : journal.system.workers worker = some execution) (own : execution.key = key)
      (calls : execution.program = .call (.updateStatus template) rest)
      (isAnswer : journal.system.respond (.updateStatus template) outcome = some answered)
      (same : status = template.status)
  | controller (outcome : Outcome) (execution : Execution Controller.ReconcileResult)
      (template : KubeTemplate)
      (rest : Except GoError Nat → Program client Controller.ReconcileResult)
      (answered : Except GoError Nat × System)
      (isEvent : event = .operator (.controller key outcome))
      (inside : journal.system.reconciles key = some execution)
      (calls : execution.program = .call (.updateStatus template) rest)
      (isAnswer : journal.system.respond (.updateStatus template) outcome = some answered)
      (same : status = template.status)

section Status

variable {key : NamespacedName} {current : KubeTemplate}

private theorem effect_template {system after : System} {request : Call} (keyed : system.Keyed)
    (effect : System.Effect system request after)
    (isStored : after.templates key = some current) :
    system.templates key = some current ∨
      ∃ template stored, request = .updateStatus template ∧ template.key = key ∧
        system.templates key = some stored ∧
        current = system.stamp { stored with status := template.status } := by
  cases effect with
  | none => exact .inl isStored
  | enqueued wanted priority isEnqueue => exact .inl isStored
  | status template stored isUpdate wasStored version =>
      have own : ({ stored with status := template.status } : KubeTemplate).key = template.key :=
        keyed template.key stored wasStored
      by_cases same : key = template.key
      · rw [same, ← own, put_templates_self] at isStored
        cases isStored
        rw [same]
        exact .inr ⟨template, stored, isUpdate, rfl, wasStored, rfl⟩
      · rw [put_templates_other _ _ _ (fun equal => same (equal.trans own))] at isStored
        exact .inl isStored

private theorem users_template {label : Label} (keyed : journal.system.Keyed)
    (users : isUsers label = true) (taken : journal.step config (.operator label) = some next)
    (isStored : next.system.templates key = some current) :
    TemplateFrom journal next (.operator label) key current := by
  obtain ⟨system, stepped, rfl⟩ := step_operator config taken
  cases label with
  | create template =>
      obtain ⟨free, rfl⟩ := System.step_create config stepped
      by_cases same : key = template.key
      · subst same
        have stored := put_templates_self journal.system { template with status := .initial }
        have equal := isStored.symm.trans stored
        cases equal
        exact .created free rfl (Function.update_self _ _ _)
      · exact .kept ((put_templates_other journal.system { template with status := .initial } key
          same).symm.trans isStored)
  | update wanted spec labels annotations =>
      obtain ⟨old, stored, effect⟩ := System.step_update config stepped
      have own : (System.edited old spec labels annotations).key = wanted :=
        keyed wanted old stored
      have templates : system.templates =
          (journal.system.put (System.edited old spec labels annotations)).templates := by
        rcases effect with ⟨_, rfl⟩ | ⟨_, rfl⟩ <;> rfl
      have isPut := (congrFun templates key).symm.trans isStored
      by_cases same : key = wanted
      · subst same
        rw [← own, put_templates_self] at isPut
        exact .edited old spec labels annotations rfl stored (Option.some.inj isPut).symm
      · rw [put_templates_other _ _ _ (fun equal => same (equal.trans own))] at isPut
        exact .kept isPut
  | remove wanted =>
      rw [System.step_remove config stepped] at isStored
      change Function.update journal.system.templates wanted none key = some current at isStored
      exact .kept (update_none_eq_some isStored).2
  | setPolicy source answer =>
      cases stepped
      exact .kept isStored
  | pass elapsed =>
      cases stepped
      exact .kept isStored
  | deliver wanted => cases users
  | controller wanted outcome => cases users
  | dequeue worker => cases users
  | worker worker outcome => cases users

theorem step_template (faithful : journal.Faithful config) {event : Event}
    (taken : journal.step config event = some next)
    (isStored : next.system.templates key = some current) :
    TemplateFrom journal next event key current := by
  cases event with
  | expire wanted =>
      obtain ⟨_waits, rfl⟩ := step_expire config taken
      exact .kept isStored
  | operator label =>
      cases label with
      | worker worker outcome =>
          obtain ⟨execution, inside, effect⟩ := step_worker config taken
          rcases effect with ⟨disposition, session, _isDone, _ends, rfl⟩ |
            ⟨request, rest, answered, calls, isAnswer, rfl⟩
          · exact .kept isStored
          · rcases effect_template faithful.keyed (System.respond_effect isAnswer) isStored with
              before | ⟨template, stored, rfl, isKey, wasStored, same⟩
            · exact .kept before
            · have permitted := turn_permitted faithful inside calls
              exact .worker worker outcome execution template stored rest answered rfl inside
                (permitted.1.symm.trans isKey) calls isAnswer wasStored same
      | controller wanted outcome =>
          obtain ⟨execution, inside, effect⟩ := step_controller config taken
          rcases effect with ⟨result, _isDone, rfl⟩ |
            ⟨request, rest, answered, calls, isAnswer, rfl⟩
          · exact .kept isStored
          · rcases effect_template faithful.keyed (System.respond_effect isAnswer) isStored with
              before | ⟨template, stored, rfl, isKey, wasStored, same⟩
            · exact .kept before
            · have permitted := visit_permitted faithful inside calls
              have isWanted : wanted = key := permitted.1.symm.trans isKey
              subst isWanted
              exact .controller outcome execution template stored rest answered rfl inside calls
                isAnswer wasStored same
      | dequeue worker =>
          obtain ⟨session, ref, _free, _dequeued, _hands, _holds, rfl⟩ := step_dequeue config taken
          exact .kept isStored
      | deliver wanted =>
          obtain ⟨_free, rfl⟩ := step_deliver config taken
          exact .kept isStored
      | _ => exact users_template faithful.keyed rfl taken isStored

theorem step_status (faithful : journal.Faithful config) {event : Event}
    (taken : journal.step config event = some next)
    (isStored : next.system.templates key = some current) :
    StatusFrom journal next event key current.status := by
  cases step_template faithful taken isStored with
  | kept before => exact .kept current before rfl
  | created absent isNew pending => exact .created absent isNew pending
  | edited old spec labels annotations isEvent wasStored same =>
      subst same
      exact .kept old wasStored rfl
  | worker worker outcome execution template stored rest answered isEvent inside own calls isAnswer
      wasStored same =>
      subst same
      exact .worker worker outcome execution template rest answered isEvent inside own calls
        isAnswer rfl
  | controller outcome execution template stored rest answered isEvent inside calls isAnswer
      wasStored same =>
      subst same
      exact .controller outcome execution template rest answered isEvent inside calls isAnswer rfl

end Status

/-- An item of the KubeTemplate is queued after a step: as before, by `Reconcile`, or
by a worker that hands it back. -/
inductive QueuedFrom (journal : Journal) (event : Event) (key : NamespacedName) : Prop where
  | kept (queued : Queued journal.system.session key)
  | enqueued (outcome : Outcome) (execution : Execution Controller.ReconcileResult)
      (priority : Int) (rest : Unit → Program client Controller.ReconcileResult)
      (isEvent : event = .operator (.controller key outcome))
      (inside : journal.system.reconciles key = some execution)
      (calls : execution.program = .call (.enqueue key priority) rest)
  | requeued (worker : Nat) (outcome : Outcome) (execution : Execution Worker.Disposition)
      (err : GoError) (isEvent : event = .operator (.worker worker outcome))
      (inside : journal.system.workers worker = some execution) (own : execution.key = key)
      (isDone : execution.program = .done (.requeue err))

private theorem effect_queued {system after : System} {request : Call} {key : NamespacedName}
    (valid : system.session.Valid) (effect : System.Effect system request after)
    (queued : Queued after.session key) :
    Queued system.session key ∨ ∃ priority, request = .enqueue key priority := by
  cases effect with
  | none => exact .inl queued
  | status template stored isUpdate isStored version => exact .inl queued
  | enqueued wanted priority isEnqueue =>
      rcases (queued_enqueue valid wanted key priority _).mp queued with same | before
      · rw [same]
        exact .inr ⟨priority, isEnqueue⟩
      · exact .inl before

theorem step_queued {key : NamespacedName} (faithful : journal.Faithful config) {event : Event}
    (taken : journal.step config event = some next) (queued : Queued next.system.session key) :
    QueuedFrom journal event key := by
  cases event with
  | expire wanted =>
      obtain ⟨_waits, rfl⟩ := step_expire config taken
      exact .kept queued
  | operator label =>
      cases label with
      | worker worker outcome =>
          obtain ⟨execution, inside, effect⟩ := step_worker config taken
          rcases effect with ⟨disposition, session, isDone, ends, rfl⟩ |
            ⟨request, rest, answered, calls, isAnswer, rfl⟩
          · cases disposition with
            | done =>
                rw [Queue.Session.step_done ends] at queued
                exact .kept queued
            | requeue err =>
                rcases (turn_requeue faithful inside isDone ends key).mp queued with same | before
                · exact .requeued worker outcome execution err rfl inside same.symm isDone
                · exact .kept before
          · rcases effect_queued faithful.valid (System.respond_effect isAnswer) queued with
              before | ⟨priority, rfl⟩
            · exact .kept before
            · exact (turn_permitted faithful inside calls).elim
      | controller wanted outcome =>
          obtain ⟨execution, inside, effect⟩ := step_controller config taken
          rcases effect with ⟨result, _isDone, rfl⟩ |
            ⟨request, rest, answered, calls, isAnswer, rfl⟩
          · exact .kept queued
          · rcases effect_queued faithful.valid (System.respond_effect isAnswer) queued with
              before | ⟨priority, rfl⟩
            · exact .kept before
            · have same : key = wanted := visit_permitted faithful inside calls
              subst same
              exact .enqueued outcome execution priority rest rfl inside calls
      | dequeue worker =>
          obtain ⟨session, ref, _free, _dequeued, hands, _holds, rfl⟩ := step_dequeue config taken
          obtain ⟨found, member, isKey⟩ := queued
          exact .kept ⟨found, hands.items.mem_iff.mp (List.mem_cons_of_mem ref member),
            (hands.keys found).symm.trans isKey⟩
      | deliver wanted =>
          obtain ⟨_free, rfl⟩ := step_deliver config taken
          exact .kept queued
      | _ =>
          have aside := step_users config rfl taken
          rw [aside.session] at queued
          exact .kept queued

end Journal

end KubeTemplater.Operator
