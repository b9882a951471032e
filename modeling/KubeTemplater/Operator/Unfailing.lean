/-
Runs of the operator without failures of the API.

Every call succeeds, and what is read of a KubeTemplate is what is stored; only a
resource may be missing.  Such a run is dependable: a pause branch then writes
Paused, or has found the KubeTemplate gone.
-/

import KubeTemplater.Operator.NoneLost

namespace KubeTemplater.Operator.Journal

open Library Library.Program

variable {config : Config} {journal : Journal} {key : NamespacedName}

def Passes {α : Type} (program : Program client α) (outcome : Outcome) : Prop :=
  outcome.isSuccess = true ∨
    ∃ err gvk ns name rest, outcome = .fails err ∧
      program = .call (.getResource gvk ns name) rest

def Unfailing (journal : Journal) : Event → Prop
  | .operator (.worker worker outcome) =>
      ∀ execution, journal.system.workers worker = some execution →
        Passes execution.program outcome
  | .operator (.controller key outcome) =>
      ∀ execution, journal.system.reconciles key = some execution →
        Passes execution.program outcome
  | _ => True

theorem Passes.success {α : Type} {program : Program client α} {outcome : Outcome}
    (passes : Passes program outcome) {request : Call}
    {rest : request.Answer → Program client α} (calls : program = .call request rest)
    (other : ∀ gvk ns name, request ≠ .getResource gvk ns name) : outcome.isSuccess = true := by
  rcases passes with success | ⟨_err, gvk, ns, name, _rest, _fails, isRead⟩
  · exact success
  · rw [calls] at isRead
    cases isRead
    exact absurd rfl (other gvk ns name)

theorem Passes.fresh {α : Type} {program : Program client α} {outcome : Outcome}
    (passes : Passes program outcome) (template : KubeTemplate) : outcome ≠ .stale template := by
  rintro rfl
  rcases passes with success | ⟨_, _, _, _, _, impossible, _⟩
  · cases success
  · cases impossible

theorem Passes.trueMissing {α : Type} {system : System} {program : Program client α}
    {outcome : Outcome} (passes : Passes program outcome) :
    TrueMissing system program outcome := by
  rintro wanted rest err calls rfl _missing
  cases passes.success calls (fun _ _ _ impossible => by cases impossible)

def unfailed : Exchange client → Bool
  | ⟨.getTemplate _, answer⟩ =>
      match (answer : Except GoError KubeTemplate) with
      | .error err => err.isNotFound
      | .ok _ => true
  | ⟨.updateStatus _, answer⟩ => (answer : Except GoError Nat).isOk
  | _ => true

theorem Passes.unfailed {α : Type} {system : System} {program : Program client α}
    {outcome : Outcome} (passes : Passes program outcome) {request : Call}
    {rest : request.Answer → Program client α} (calls : program = .call request rest)
    {answered : request.Answer × System}
    (isAnswer : system.respond request outcome = some answered) :
    unfailed ⟨request, answered.1⟩ = true := by
  cases request with
  | getTemplate wanted =>
      have success := passes.success calls (fun _ _ _ impossible => by cases impossible)
      rw [respond_read success isAnswer]
      unfold System.found
      cases system.templates wanted with
      | none => rfl
      | some template => rfl
  | updateStatus template =>
      have success := passes.success calls (fun _ _ _ impossible => by cases impossible)
      obtain ⟨stored, _isStored, _version, rfl⟩ := respond_updateStatus success isAnswer
      rfl
  | _ => rfl

/-- An update without failures writes its phase or finds the KubeTemplate missing. -/
theorem updateStatusTurns_settles {update : KubeTemplateStatus → KubeTemplateStatus}
    (sets : ∀ status, settled (update status).processingPhase = true) {turns : Nat}
    {kubeTemplate : KubeTemplate} {trace : List (Exchange client)}
    {result : KubeTemplate × Option GoError}
    (updates : Executes (Worker.updateStatusTurns update (turns + 1) kubeTemplate) trace result)
    (succeeds : ∀ exchange, exchange ∈ trace → unfailed exchange = true) :
    ∃ exchange, exchange ∈ trace ∧ settles exchange = true := by
  simp only [Worker.updateStatusTurns, getTemplate, updateStatus, call_bind, done_bind] at updates
  obtain ⟨answer, afterRead, rfl, writing⟩ := (executes_call_iff _ _ _ _).mp updates
  cases answer with
  | error err => exact ⟨_, List.mem_cons_self, (succeeds _ List.mem_cons_self :)⟩
  | ok latest =>
      obtain ⟨stored, afterStored, rfl, _⟩ := (executes_call_iff _ _ _ _).mp writing
      have member {exchange : Exchange client} :
          exchange ∈ ⟨.getTemplate kubeTemplate.key, .ok latest⟩ :: exchange :: afterStored :=
        List.mem_cons_of_mem _ List.mem_cons_self
      cases stored with
      | error err => cases succeeds _ member
      | ok revision => exact ⟨_, member, sets latest.status⟩

/-- A pause branch without failures writes Paused or finds the KubeTemplate missing. -/
theorem pauseTemplate_settles {maxRetryCycles : Int} {err : GoError}
    {trace : List (Exchange client)}
    (pauses : Executes (Worker.pauseTemplate maxRetryCycles key err) trace ())
    (succeeds : ∀ exchange, exchange ∈ trace → unfailed exchange = true) :
    ∃ exchange, exchange ∈ trace ∧ settles exchange = true := by
  simp only [Worker.pauseTemplate, getTemplate, timeNow, call_bind, done_bind] at pauses
  obtain ⟨answer, afterRead, rfl, pausing⟩ := (executes_call_iff _ _ _ _).mp pauses
  cases answer with
  | error failure => exact ⟨_, List.mem_cons_self, (succeeds _ List.mem_cons_self :)⟩
  | ok kubeTemplate =>
      obtain ⟨now, afterNow, rfl, marking⟩ := (executes_call_iff _ _ _ _).mp pausing
      obtain ⟨front, back, result, rfl, updates, _⟩ := (executes_bind_iff _ _ _ _).mp marking
      have inside {exchange : Exchange client} (member : exchange ∈ front) :
          exchange ∈ ⟨.getTemplate key, .ok kubeTemplate⟩ :: ⟨.now, now⟩ :: (front ++ back) :=
        List.mem_cons_of_mem _ (List.mem_cons_of_mem _ (List.mem_append_left back member))
      obtain ⟨exchange, member, isSettled⟩ := updateStatusTurns_settles (fun _ => rfl) updates
        (fun exchange member => succeeds exchange (inside member))
      exact ⟨exchange, inside member, isSettled⟩

structure Serene (config : Config) (journal : Journal) : Prop where
  faithful : journal.Faithful config
  turns : ∀ worker execution, journal.system.workers worker = some execution →
    ∀ exchange, exchange ∈ journal.turns worker → unfailed exchange = true

private theorem step_serene (journal : Journal) (event : Event) (next : Journal)
    (serene : journal.Serene config) (unfailing : journal.Unfailing event)
    (taken : journal.step config event = some next) : next.Serene config := by
  refine ⟨step_faithful journal event next serene.faithful taken, ?_⟩
  intro worker execution inside exchange member
  cases step_turn config taken inside with
  | kept before turns =>
      rw [turns] at member
      exact serene.turns worker execution before exchange member
  | started isEvent queued turns =>
      rw [turns] at member
      cases member
  | called outcome caller request rest answered isEvent before calls isAnswer isNext turns =>
      subst isEvent
      rw [turns] at member
      rcases List.mem_append.mp member with early | last
      · exact serene.turns worker caller before exchange early
      · rw [List.mem_singleton.mp last]
        exact (unfailing caller before).unfailed calls isAnswer

private theorem dependable_of_unfailing (event : Event) (serene : journal.Serene config)
    (unfailing : journal.Unfailing event) : journal.Dependable config event := by
  cases event with
  | expire wanted => trivial
  | operator label =>
      cases label with
      | worker worker outcome =>
          intro execution inside
          refine ⟨(unfailing execution inside).trueMissing, ?_⟩
          rintro _isDone ⟨front, back, err, isTurn, _processed, pauses, unsettled⟩
          obtain ⟨exchange, member, isSettled⟩ := pauseTemplate_settles pauses
            (fun exchange member => serene.turns worker execution inside exchange
              (isTurn ▸ List.mem_append_right front member))
          rw [unsettled exchange member] at isSettled
          cases isSettled
      | controller wanted outcome =>
          intro execution inside
          exact ⟨(unfailing execution inside).trueMissing, (unfailing execution inside).fresh⟩
      | _ => trivial

/-- A run without failures is dependable. -/
theorem along_dependable (config : Config) (maxRetries initialDelay maxDelay maxCycles : Int)
    (policies : String → Except GoError KubeTemplatePolicy) (events : List Event)
    (along : Along (step config) Unfailing
      (start (Queue.Session.start maxRetries initialDelay maxDelay maxCycles) policies) events) :
    Along (step config) (Dependable config)
      (start (Queue.Session.start maxRetries initialDelay maxDelay maxCycles) policies)
      events := by
  have serene := throughout_of_along (step config) Unfailing (Serene config) step_serene _ events
    ⟨start_faithful config _ _ _ _ _, fun _ _ inside => by cases inside⟩ along
  exact serene.along_both along (fun _ => dependable_of_unfailing)

def succeeds : Event → Bool
  | .operator (.worker _ outcome) => outcome.isSuccess
  | .operator (.controller _ outcome) => outcome.isSuccess
  | _ => true

theorem unfailing_of_succeeds (journal : Journal) (event : Event)
    (success : succeeds event = true) : journal.Unfailing event := by
  cases event with
  | expire wanted => trivial
  | operator label =>
      cases label with
      | worker worker outcome => exact fun _ _ => .inl success
      | controller wanted outcome => exact fun _ _ => .inl success
      | _ => trivial

end KubeTemplater.Operator.Journal
