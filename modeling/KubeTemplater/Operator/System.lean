/-
The operator at work: KubeTemplates, the work queue, any number of workers and
the executions of `Reconcile`.

A worker or an execution of `Reconcile` advances by one call at a time, and
every call has any of its outcomes.  The controller works on a KubeTemplate in
at most one execution at a time, as its own work queue sees to; it may start one
at any time, for an event or for a timer.
-/

import KubeTemplater.Controller.KubeTemplateReconciler
import KubeTemplater.Queue.Session
import KubeTemplater.Worker.TemplateProcessor
import KubeTemplater.Library.Table

namespace KubeTemplater.Operator

open Library Library.Program

structure Config where
  platform : Platform
  operatorNamespace : String
  /-- `PeriodicReconcileInterval`. -/
  interval : Time

structure Execution (α : Type) where
  key : NamespacedName
  -- what it has read last
  read : Option KubeTemplate
  program : Program client α

inductive Party where
  | worker (id : Nat)
  | controller
  deriving DecidableEq

structure Write where
  key : NamespacedName
  read : Option KubeTemplate
  /-- What `PolicyCache.Get` answered for the namespace of the KubeTemplate then. -/
  policy : Except GoError KubeTemplatePolicy
  deletes : Bool
  object : Unstructured
  succeeded : Bool

structure System where
  templates : NamespacedName → Option KubeTemplate
  /-- Every version that has been stored, for reads that lag behind. -/
  history : List KubeTemplate
  revision : Nat
  policies : String → Except GoError KubeTemplatePolicy
  session : Queue.Session
  workers : Nat → Option (Execution Worker.Disposition)
  reconciles : NamespacedName → Option (Execution Controller.ReconcileResult)
  active : List (Party × NamespacedName)
  /-- An event that passes the filter has not been delivered. -/
  pending : NamespacedName → Bool
  clock : Time
  /-- The latest first. -/
  writes : List Write

/-- What comes of a call.  A read of a KubeTemplate may be `stale`; a call whose
answer is `lost` has been carried out. -/
inductive Outcome where
  | succeeds
  | returns (object : Unstructured)
  | stale (template : KubeTemplate)
  | fails (err : GoError)
  | lost (err : GoError)

inductive Label where
  | create (template : KubeTemplate)
  | update (key : NamespacedName) (spec : KubeTemplateSpec)
      (labels annotations : List (String × String))
  | remove (key : NamespacedName)
  | setPolicy (sourceNamespace : String) (answer : Except GoError KubeTemplatePolicy)
  | pass (elapsed : Nat)
  | deliver (key : NamespacedName)
  | controller (key : NamespacedName) (outcome : Outcome)
  | dequeue (worker : Nat)
  | worker (worker : Nat) (outcome : Outcome)

def writeOf : Call → Option (Bool × Unstructured)
  | .patch object _ false => some (false, object)
  | .delete object => some (true, object)
  | _ => none

def Outcome.effective : Outcome → Bool
  | .fails _ => false
  | _ => true

def readAfter (read : Option KubeTemplate) : (request : Call) → request.Answer →
    Option KubeTemplate
  | .getTemplate _, .ok template => some template
  | _, _ => read

def Execution.advance {α : Type} (execution : Execution α) (request : Call)
    (next : request.Answer → Program client α) (answer : request.Answer) : Execution α :=
  { execution with
    read := readAfter execution.read request answer
    program := next answer }

namespace System

def start (session : Queue.Session)
    (policies : String → Except GoError KubeTemplatePolicy) : System :=
  { templates := fun _ => none
    history := []
    revision := 0
    policies := policies
    session := session
    workers := fun _ => none
    reconciles := fun _ => none
    active := []
    pending := fun _ => false
    clock := 0
    writes := [] }

def stamp (system : System) (template : KubeTemplate) : KubeTemplate :=
  { template with
    metadata := { template.metadata with resourceVersion := system.revision + 1 } }

def put (system : System) (template : KubeTemplate) : System :=
  { system with
    templates := Function.update system.templates template.key (some (system.stamp template))
    history := system.stamp template :: system.history
    revision := system.revision + 1 }

def edited (old : KubeTemplate) (spec : KubeTemplateSpec)
    (labels annotations : List (String × String)) : KubeTemplate :=
  { old with
    metadata := { old.metadata with labels := labels, annotations := annotations }
    spec := spec }

def notify (system : System) (key : NamespacedName) : System :=
  { system with pending := Function.update system.pending key true }

def found (system : System) (key : NamespacedName) : Except GoError KubeTemplate :=
  match system.templates key with
  | some template => .ok template
  | none => .error (notFound key.name)

/-- An update of the status subresource goes through when the version is the
stored one; it changes nothing but the status. -/
def putStatus (system : System) (template : KubeTemplate) : Option System :=
  match system.templates template.key with
  | none => none
  | some stored =>
      if stored.metadata.resourceVersion = template.metadata.resourceVersion then
        some (system.put { stored with status := template.status })
      else none

def respond (system : System) : (request : Call) → Outcome → Option (request.Answer × System)
  | .getTemplate key, .succeeds => some (system.found key, system)
  | .getTemplate key, .stale template =>
      if template ∈ system.history ∧ template.key = key then some (.ok template, system)
      else none
  | .getTemplate _, .fails err => some (.error err, system)
  | .updateStatus template, .succeeds =>
      (system.putStatus template).map (fun next => (.ok next.revision, next))
  | .updateStatus template, .lost err =>
      (system.putStatus template).map (fun next => (.error err, next))
  | .updateStatus _, .fails err => some (.error err, system)
  | .policyCacheGet source _, .succeeds => some (system.policies source, system)
  | .policyCacheGet _ _, .fails err => some (.error err, system)
  | .getResource _ _ _, .returns object => some (.ok object, system)
  | .getResource _ _ _, .fails err => some (.error err, system)
  | .patch _ _ _, .returns object => some (.ok object, system)
  | .patch _ _ _, .fails err => some (.error err, system)
  | .patch _ _ _, .lost err => some (.error err, system)
  | .delete _, .succeeds => some (.ok (), system)
  | .delete _, .fails err => some (.error err, system)
  | .delete _, .lost err => some (.error err, system)
  | .enqueue key priority, .succeeds =>
      some ((), { system with
        session := { system.session with
          queue := system.session.queue.enqueue key priority system.clock } })
  | .queueContains key, .succeeds => some (system.session.queue.contains key, system)
  | .recordEvent _ _ _, .succeeds => some ((), system)
  | .now, .succeeds => some (system.clock, system)
  | _, _ => none

def logged (system : System) (key : NamespacedName) (read : Option KubeTemplate)
    (request : Call) (outcome : Outcome) : List Write :=
  match writeOf request with
  | none => system.writes
  | some (deletes, object) =>
      { key := key
        read := read
        policy := system.policies key.ns
        deletes := deletes
        object := object
        succeeded := outcome.effective } :: system.writes

def begin (system : System) (party : Party) (key : NamespacedName) : System :=
  { system with active := (party, key) :: system.active }

def finish (system : System) (party : Party) (key : NamespacedName) : System :=
  { system with active := system.active.filter (fun entry => entry ≠ (party, key)) }

def endTurn (session : Queue.Session) (worker : Nat) (now : Time) :
    Worker.Disposition → Option Queue.Session
  | .done => session.step (.done worker)
  | .requeue _ => session.step (.requeue worker now)

variable (config : Config)

def deliverTo (system : System) (key : NamespacedName) : System :=
  { system.begin .controller key with
    pending := Function.update system.pending key false
    reconciles := Function.update system.reconciles key
      (some
        { key := key, read := none
          program := Controller.reconcile config.platform config.interval key }) }

def take (system : System) (worker : Nat) (session : Queue.Session) (item : Queue.WorkItem) :
    System :=
  { system.begin (.worker worker) item.namespacedName with
    session := session
    workers := Function.update system.workers worker
      (some
        { key := item.namespacedName, read := none
          program := Worker.handleItem config.platform config.operatorNamespace
            session.queue.maxRetryCycles item }) }

def step (system : System) : Label → Option System
  | .create template =>
      match system.templates template.key with
      | some _ => none
      | none => some ((system.put { template with status := .initial }).notify template.key)
  | .update key spec labels annotations =>
      match system.templates key with
      | none => none
      | some old =>
          let new := edited old spec labels annotations
          some (if Controller.updateFunc old new then (system.put new).notify key
            else system.put new)
  | .remove key =>
      match system.templates key with
      | none => none
      | some _ =>
          some ({ system with templates := Function.update system.templates key none }.notify key)
  | .setPolicy source answer =>
      some { system with policies := Function.update system.policies source answer }
  | .pass elapsed => some { system with clock := system.clock + elapsed }
  | .deliver key =>
      match system.reconciles key with
      | some _ => none
      | none => some (system.deliverTo config key)
  | .controller key outcome =>
      match system.reconciles key with
      | none => none
      | some execution =>
          match execution.program with
          | .done _ =>
              some { system.finish .controller key with
                reconciles := Function.update system.reconciles key none }
          | .call request next =>
              (system.respond request outcome).map (fun answered =>
                { answered.2 with
                  reconciles := Function.update system.reconciles key
                    (some (execution.advance request next answered.1))
                  writes := system.logged key execution.read request outcome })
  | .dequeue worker =>
      match system.workers worker with
      | some _ => none
      | none =>
          (system.session.step (.dequeue worker system.clock)).bind (fun session =>
            (session.held worker).map (fun ref =>
              system.take config worker session (session.queue.memory ref)))
  | .worker worker outcome =>
      match system.workers worker with
      | none => none
      | some execution =>
          match execution.program with
          | .done disposition =>
              (endTurn system.session worker system.clock disposition).map (fun session =>
                { system.finish (.worker worker) execution.key with
                  session := session
                  workers := Function.update system.workers worker none })
          | .call request next =>
              (system.respond request outcome).map (fun answered =>
                { answered.2 with
                  workers := Function.update system.workers worker
                    (some (execution.advance request next answered.1))
                  writes := system.logged execution.key execution.read request outcome })

variable {outcome : Outcome} {system next : System} {key : NamespacedName}

theorem step_controller (taken : system.step config (.controller key outcome) = some next) :
    ∃ execution, system.reconciles key = some execution ∧
      ((∃ result, execution.program = .done result ∧
        next = { system.finish .controller key with
          reconciles := Function.update system.reconciles key none }) ∨
      ∃ request rest answered, execution.program = .call request rest ∧
        system.respond request outcome = some answered ∧
        next = { answered.2 with
          reconciles := Function.update system.reconciles key
            (some (execution.advance request rest answered.1))
          writes := system.logged key execution.read request outcome }) := by
  simp only [step] at taken
  cases inside : system.reconciles key with
  | none =>
      rw [inside] at taken
      cases taken
  | some execution =>
      rw [inside] at taken
      dsimp only at taken
      refine ⟨execution, rfl, ?_⟩
      cases program : execution.program with
      | done result =>
          rw [program] at taken
          cases taken
          exact .inl ⟨result, rfl, rfl⟩
      | call request rest =>
          rw [program] at taken
          obtain ⟨answered, isAnswer, equal⟩ := Option.map_eq_some_iff.mp taken
          exact .inr ⟨request, rest, answered, rfl, isAnswer, equal.symm⟩

theorem step_worker {worker : Nat}
    (taken : system.step config (.worker worker outcome) = some next) :
    ∃ execution, system.workers worker = some execution ∧
      ((∃ disposition session, execution.program = .done disposition ∧
        endTurn system.session worker system.clock disposition = some session ∧
        next = { system.finish (.worker worker) execution.key with
          session := session
          workers := Function.update system.workers worker none }) ∨
      ∃ request rest answered, execution.program = .call request rest ∧
        system.respond request outcome = some answered ∧
        next = { answered.2 with
          workers := Function.update system.workers worker
            (some (execution.advance request rest answered.1))
          writes := system.logged execution.key execution.read request outcome }) := by
  simp only [step] at taken
  cases inside : system.workers worker with
  | none =>
      rw [inside] at taken
      cases taken
  | some execution =>
      rw [inside] at taken
      dsimp only at taken
      refine ⟨execution, rfl, ?_⟩
      cases program : execution.program with
      | done disposition =>
          rw [program] at taken
          obtain ⟨session, ends, equal⟩ := Option.map_eq_some_iff.mp taken
          exact .inl ⟨disposition, session, rfl, ends, equal.symm⟩
      | call request rest =>
          rw [program] at taken
          obtain ⟨answered, isAnswer, equal⟩ := Option.map_eq_some_iff.mp taken
          exact .inr ⟨request, rest, answered, rfl, isAnswer, equal.symm⟩

theorem step_dequeue {worker : Nat} (taken : system.step config (.dequeue worker) = some next) :
    ∃ session ref, system.workers worker = none ∧
      system.session.step (.dequeue worker system.clock) = some session ∧
      session.held worker = some ref ∧
      next = system.take config worker session (session.queue.memory ref) := by
  simp only [step] at taken
  split at taken
  · cases taken
  · rename_i free
    obtain ⟨session, dequeued, held⟩ := Option.bind_eq_some_iff.mp taken
    obtain ⟨ref, holds, equal⟩ := Option.map_eq_some_iff.mp held
    exact ⟨session, ref, free, dequeued, holds, equal.symm⟩

theorem step_create {template : KubeTemplate}
    (taken : system.step config (.create template) = some next) :
    system.templates template.key = none ∧
      next = (system.put { template with status := .initial }).notify template.key := by
  simp only [step] at taken
  split at taken
  · cases taken
  · rename_i free
    cases taken
    exact ⟨free, rfl⟩

theorem step_update {spec : KubeTemplateSpec} {labels annotations : List (String × String)}
    (taken : system.step config (.update key spec labels annotations) = some next) :
    ∃ old, system.templates key = some old ∧
      ((Controller.updateFunc old (edited old spec labels annotations) = true ∧
          next = (system.put (edited old spec labels annotations)).notify key) ∨
        (Controller.updateFunc old (edited old spec labels annotations) = false ∧
          next = system.put (edited old spec labels annotations))) := by
  simp only [step] at taken
  split at taken
  · cases taken
  · rename_i old stored
    refine ⟨old, stored, ?_⟩
    cases passes : Controller.updateFunc old (edited old spec labels annotations) with
    | true =>
        rw [if_pos passes] at taken
        cases taken
        exact .inl ⟨rfl, rfl⟩
    | false =>
        rw [if_neg (Bool.eq_false_iff.mp passes)] at taken
        cases taken
        exact .inr ⟨rfl, rfl⟩

theorem step_remove (taken : system.step config (.remove key) = some next) :
    next = { system with templates := Function.update system.templates key none }.notify key := by
  simp only [step] at taken
  split at taken
  · cases taken
  · cases taken
    rfl

theorem step_deliver (taken : system.step config (.deliver key) = some next) :
    system.reconciles key = none ∧ next = system.deliverTo config key := by
  simp only [step] at taken
  split at taken
  · cases taken
  · rename_i free
    cases taken
    exact ⟨free, rfl⟩

/-- A call leaves everything but the KubeTemplates and the queue as it is. -/
structure Frame (before after : System) : Prop where
  policies : after.policies = before.policies
  workers : after.workers = before.workers
  reconciles : after.reconciles = before.reconciles
  active : after.active = before.active
  pending : after.pending = before.pending

inductive Effect (system : System) (request : Call) : System → Prop where
  | none : Effect system request system
  | status (template stored : KubeTemplate) (isUpdate : request = .updateStatus template)
      (isStored : system.templates template.key = some stored)
      (version : stored.metadata.resourceVersion = template.metadata.resourceVersion) :
      Effect system request (system.put { stored with status := template.status })
  | enqueued (key : NamespacedName) (priority : Int) (isEnqueue : request = .enqueue key priority) :
      Effect system request { system with
        session := { system.session with
          queue := system.session.queue.enqueue key priority system.clock } }

private theorem putStatus_effect {template : KubeTemplate}
    (stored : system.putStatus template = some next) :
    Effect system (.updateStatus template) next := by
  unfold putStatus at stored
  split at stored
  · cases stored
  · rename_i current isStored
    split at stored
    · rename_i version
      cases stored
      exact .status template current rfl isStored version
    · cases stored

theorem respond_effect {request : Call} {answered : request.Answer × System}
    (isAnswer : system.respond request outcome = some answered) :
    Effect system request answered.2 := by
  cases request with
  | updateStatus template =>
      cases outcome with
      | fails err =>
          cases isAnswer
          exact .none
      | returns object => cases isAnswer
      | stale template => cases isAnswer
      | _ =>
          obtain ⟨next, stored, same⟩ := Option.map_eq_some_iff.mp isAnswer
          cases same
          exact putStatus_effect stored
  | getTemplate key =>
      cases outcome with
      | stale template =>
          simp only [respond] at isAnswer
          split at isAnswer
          · cases isAnswer
            exact .none
          · cases isAnswer
      | succeeds => cases isAnswer; exact .none
      | fails err => cases isAnswer; exact .none
      | returns object => cases isAnswer
      | lost err => cases isAnswer
  | enqueue key priority =>
      cases outcome <;> cases isAnswer
      exact .enqueued key priority rfl
  | _ => cases outcome <;> cases isAnswer <;> exact .none

theorem Effect.frame {request : Call} (effect : Effect system request next) :
    Frame system next := by
  cases effect with
  | _ => exact ⟨rfl, rfl, rfl, rfl, rfl⟩

def Keyed (system : System) : Prop :=
  ∀ key template, system.templates key = some template → template.key = key

theorem put_keyed (keyed : system.Keyed) (template : KubeTemplate) :
    (system.put template).Keyed := by
  intro key other stored
  rcases update_eq_some stored with ⟨rfl, ⟨⟩⟩ | ⟨_, stored⟩
  · rfl
  · exact keyed key other stored

theorem remove_keyed (keyed : system.Keyed) (key : NamespacedName) :
    ({ system with templates := Function.update system.templates key none }.notify key).Keyed := by
  intro other template stored
  obtain ⟨_, stored⟩ := update_none_eq_some stored
  exact keyed other template stored

theorem Effect.keyed {request : Call} (keyed : system.Keyed) (effect : Effect system request next) :
    next.Keyed := by
  cases effect with
  | none => exact keyed
  | status template stored isUpdate isStored version => exact put_keyed keyed _
  | enqueued key priority isEnqueue => exact keyed

/-- The list of active parties has everyone who is inside an execution. -/
structure Listed (system : System) : Prop where
  workers : ∀ worker execution, system.workers worker = some execution →
    (.worker worker, execution.key) ∈ system.active
  reconciles : ∀ key execution, system.reconciles key = some execution →
    (.controller, key) ∈ system.active

theorem start_listed (session : Queue.Session)
    (policies : String → Except GoError KubeTemplatePolicy) :
    (start session policies).Listed where
  workers := by intro worker execution inside; cases inside
  reconciles := by intro key execution inside; cases inside

private theorem listed_worker {worker : Nat} (listed : system.Listed)
    (taken : system.step config (.worker worker outcome) = some next) : next.Listed := by
  obtain ⟨execution, inside, effect⟩ := step_worker config taken
  rcases effect with ⟨disposition, session, _isDone, _ends, rfl⟩ |
    ⟨request, rest, answered, _calls, isAnswer, rfl⟩
  · constructor
    · intro other found stays
      obtain ⟨same, stays⟩ := update_none_eq_some stays
      apply List.mem_filter.mpr
      refine ⟨listed.workers other found stays, decide_eq_true ?_⟩
      intro equal
      exact same (Party.worker.inj (Prod.mk.inj equal).1)
    · intro key found stays
      apply List.mem_filter.mpr
      refine ⟨listed.reconciles key found stays, decide_eq_true ?_⟩
      intro equal
      cases (Prod.mk.inj equal).1
  · have frame := (respond_effect isAnswer).frame
    constructor
    · intro other found stays
      dsimp only at stays ⊢
      rw [frame.active]
      rcases update_eq_some stays with ⟨rfl, ⟨⟩⟩ | ⟨_, stays⟩
      · exact listed.workers other execution inside
      · exact listed.workers other found stays
    · intro key found stays
      dsimp only at stays ⊢
      rw [frame.reconciles] at stays
      rw [frame.active]
      exact listed.reconciles key found stays

private theorem listed_controller (listed : system.Listed)
    (taken : system.step config (.controller key outcome) = some next) : next.Listed := by
  obtain ⟨execution, inside, effect⟩ := step_controller config taken
  rcases effect with ⟨result, _isDone, rfl⟩ | ⟨request, rest, answered, _calls, isAnswer, rfl⟩
  · constructor
    · intro worker found stays
      apply List.mem_filter.mpr
      refine ⟨listed.workers worker found stays, decide_eq_true ?_⟩
      intro equal
      cases (Prod.mk.inj equal).1
    · intro other found stays
      obtain ⟨same, stays⟩ := update_none_eq_some stays
      apply List.mem_filter.mpr
      refine ⟨listed.reconciles other found stays, decide_eq_true ?_⟩
      intro equal
      exact same (Prod.mk.inj equal).2
  · have frame := (respond_effect isAnswer).frame
    constructor
    · intro worker found stays
      dsimp only at stays ⊢
      rw [frame.workers] at stays
      rw [frame.active]
      exact listed.workers worker found stays
    · intro other found stays
      dsimp only at stays ⊢
      rw [frame.active]
      by_cases same : other = key
      · subst same
        exact listed.reconciles other execution inside
      · rw [Function.update_of_ne same] at stays
        exact listed.reconciles other found stays

theorem step_listed (system : System) (label : Label) (next : System) (listed : system.Listed)
    (taken : system.step config label = some next) : next.Listed := by
  cases label with
  | create template =>
      obtain ⟨_free, rfl⟩ := step_create config taken
      exact ⟨listed.workers, listed.reconciles⟩
  | update key spec labels annotations =>
      obtain ⟨old, _stored, ⟨_, rfl⟩ | ⟨_, rfl⟩⟩ := step_update config taken
      · exact ⟨listed.workers, listed.reconciles⟩
      · exact ⟨listed.workers, listed.reconciles⟩
  | remove key =>
      rw [step_remove config taken]
      exact ⟨listed.workers, listed.reconciles⟩
  | deliver key =>
      obtain ⟨_free, rfl⟩ := step_deliver config taken
      constructor
      · intro worker found stays
        exact List.mem_cons_of_mem _ (listed.workers worker found stays)
      · intro other found stays
        by_cases same : other = key
        · subst same
          exact List.mem_cons_self
        · simp only [deliverTo, Function.update_of_ne same] at stays
          exact List.mem_cons_of_mem _ (listed.reconciles other found stays)
  | controller key outcome => exact listed_controller config listed taken
  | dequeue worker =>
      obtain ⟨session, ref, _free, _dequeued, _holds, rfl⟩ := step_dequeue config taken
      constructor
      · intro other found stays
        rcases update_eq_some stays with ⟨rfl, ⟨⟩⟩ | ⟨_, stays⟩
        · exact List.mem_cons_self
        · exact List.mem_cons_of_mem _ (listed.workers other found stays)
      · intro key found stays
        exact List.mem_cons_of_mem _ (listed.reconciles key found stays)
  | worker worker outcome => exact listed_worker config listed taken
  | _ =>
      cases taken
      exact ⟨listed.workers, listed.reconciles⟩

end System

end KubeTemplater.Operator
