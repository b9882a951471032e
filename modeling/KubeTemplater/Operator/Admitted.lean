/-
What the webhook has admitted never fails.

Every spec is admitted under the policy of its namespace, the workers get that policy, and
the server takes every Patch of a worker.  Everything else may go wrong: reads may be stale
or fail, status updates may be refused or lost, workers may overtake each other.  Still no
version of a KubeTemplate says Failed.
-/

import KubeTemplater.Agreement.Admission
import KubeTemplater.Operator.DriftDetection
import KubeTemplater.Operator.Stages
import KubeTemplater.Operator.StatusUpdates

namespace KubeTemplater.Operator

open Library Library.Program

section

variable (platform : Platform) (policies : String → Except GoError KubeTemplatePolicy)

def Welcome (template : KubeTemplate) : Prop :=
  ∃ policy, policies template.metadata.ns = .ok policy ∧ PolicyAccepts platform policy template

def Admits (operatorNamespace : String) (template : KubeTemplate) : Prop :=
  ∃ policy cache, policies template.metadata.ns = .ok policy ∧
    Agreement.Accepts platform operatorNamespace policy template cache

private theorem welcome_of_admits {operatorNamespace : String} {template : KubeTemplate}
    (admits : Admits platform policies operatorNamespace template) :
    Welcome platform policies template := by
  obtain ⟨policy, cache, isPolicy, accepts⟩ := admits
  have validated :=
    (Agreement.accepts_iff platform operatorNamespace policy template cache).mp accepts
  have allowed :=
    ((Webhook.validateWithPolicy_ok_iff platform policy template cache).mp validated).2
  refine ⟨policy, isPolicy, ?_⟩
  intro element member decoded decodes
  obtain ⟨found, rule, checked⟩ :=
    Agreement.checked_of_accepted platform (allowed element member)
  cases checked.decodes.symm.trans decodes
  exact ⟨rule, checked.passes⟩

def getsThrough : (request : Call) → request.Answer → Bool
  | .policyCacheGet source _, answer => decide (answer = policies source)
  | .patch _ _ _, answer => answer.isOk
  | _, _ => true

def Benign : (request : Call) → request.Answer → Prop
  | .getTemplate _, answer => ∀ template, answer = .ok template → Welcome platform policies template
  | request, answer => getsThrough policies request answer = true

def sparing : Protocol client Unit :=
  .stateless (Benign platform policies) (fun request =>
    match request with
    | .updateStatus template => template.status.processingPhase ≠ .failed
    | _ => True)

theorem updateStatusTurns_sparing {update : KubeTemplateStatus → KubeTemplateStatus}
    (spares : ∀ status, (update status).processingPhase ≠ .failed) (turns : Nat)
    (kubeTemplate : KubeTemplate) (welcome : Welcome platform policies kubeTemplate) :
    Guarantees (sparing platform policies)
      (fun _ result => Welcome platform policies result.1) ()
      (Worker.updateStatusTurns update turns kubeTemplate) := by
  induction turns generalizing kubeTemplate with
  | zero => exact welcome
  | succ turns ih =>
      simp only [Worker.updateStatusTurns, getTemplate, updateStatus, call_bind, done_bind]
      refine ⟨trivial, ?_⟩
      intro answer benign
      cases answer with
      | error err => exact welcome
      | ok latest =>
          have found : Welcome platform policies latest := benign latest rfl
          refine ⟨spares latest.status, ?_⟩
          intro stored _benign
          cases stored with
          | ok revision => exact found
          | error err =>
              dsimp only
              split
              · exact ih _ found
              · exact found

private theorem processTemplates_sparing {policy : KubeTemplatePolicy} (kubeTemplate : KubeTemplate)
    (templates : List Template)
    (accepts : ∀ template ∈ templates, ∀ decoded,
      platform.unmarshal template.object.raw = .ok decoded →
      ∃ rule, Worker.checkPolicy platform policy
        (defaultNamespace platform kubeTemplate.metadata.ns decoded) = .ok rule) :
    Guarantees (sparing platform policies) (fun _ result => result = (kubeTemplate, none)) ()
      (Worker.processTemplates platform policy templates kubeTemplate) := by
  induction templates with
  | nil => rfl
  | cons template rest ih =>
      obtain ⟨here, later⟩ := List.forall_mem_cons.mp accepts
      apply guarantees_bind (fun _ result => result = (kubeTemplate, none))
      · unfold Worker.processTemplate
        cases decodes : platform.unmarshal template.object.raw with
        | error text => rfl
        | ok decoded =>
            obtain ⟨rule, passes⟩ := here decoded decodes
            simp only [passes, Worker.applyObject, patch, call_bind, done_bind]
            refine ⟨trivial, ?_⟩
            intro answer benign
            cases answer with
            | error err => cases benign
            | ok stored => rfl
      · rintro _ _ rfl
        exact ih later

private theorem processFetched_sparing (operatorNamespace : String) (kubeTemplate : KubeTemplate)
    (welcome : Welcome platform policies kubeTemplate) :
    Guarantees (sparing platform policies) (fun _ _ => True) ()
      (Worker.processFetched platform operatorNamespace kubeTemplate) := by
  apply guarantees_bind _ (updateStatusTurns_sparing platform policies
    (fun _ failed => by cases failed) 3 kubeTemplate welcome)
  rintro _ ⟨latest, _failure⟩ ⟨policy, isPolicy, accepts⟩
  simp only [policyCacheGet, call_bind, done_bind]
  refine ⟨trivial, ?_⟩
  intro answer benign
  have isAnswer : answer = .ok policy := (of_decide_eq_true benign).trans isPolicy
  subst isAnswer
  apply guarantees_bind _ (processTemplates_sparing platform policies latest _ accepts)
  rintro _ _ rfl
  simp only [Worker.completeTemplate, timeNow, call_bind, done_bind]
  refine ⟨trivial, ?_⟩
  intro now _benign
  apply guarantees_bind _ (updateStatusTurns_sparing platform policies
    (fun _ failed => by cases failed) 3 latest ⟨policy, isPolicy, accepts⟩)
  intro _ _ _
  trivial

private theorem pauseTemplate_sparing (maxRetryCycles : Int) (key : NamespacedName)
    (err : GoError) :
    Guarantees (sparing platform policies) (fun _ _ => True) ()
      (Worker.pauseTemplate maxRetryCycles key err) := by
  simp only [Worker.pauseTemplate, getTemplate, timeNow, call_bind, done_bind]
  refine ⟨trivial, ?_⟩
  intro answer benign
  cases answer with
  | error failure => trivial
  | ok kubeTemplate =>
      refine ⟨trivial, ?_⟩
      intro now _benign
      apply guarantees_bind _ (updateStatusTurns_sparing platform policies
        (fun _ failed => by cases failed) 3 kubeTemplate (benign kubeTemplate rfl))
      rintro _ ⟨latest, failure⟩ _welcome
      cases failure with
      | some err => trivial
      | none => exact ⟨trivial, fun _ _ => trivial⟩

private theorem handleItem_sparing (operatorNamespace : String) (maxRetryCycles : Int)
    (item : Queue.WorkItem) :
    Guarantees (sparing platform policies) (fun _ _ => True) ()
      (Worker.handleItem platform operatorNamespace maxRetryCycles item) := by
  apply guarantees_bind (fun _ _ => True)
  · simp only [Worker.processItem, getTemplate, call_bind, done_bind]
    refine ⟨trivial, ?_⟩
    intro answer benign
    cases answer with
    | error err =>
        dsimp only
        split
        · trivial
        · trivial
    | ok kubeTemplate =>
        exact processFetched_sparing platform policies operatorNamespace kubeTemplate
          (benign kubeTemplate rfl)
  · intro _ result _ended
    cases result with
    | none => trivial
    | some err =>
        dsimp only
        split
        · apply guarantees_bind _ (pauseTemplate_sparing platform policies maxRetryCycles _ err)
          intro _ _ _
          trivial
        · trivial

end

namespace Journal

variable (config : Config) (policies : String → Except GoError KubeTemplatePolicy)

def Lenient (journal : Journal) : Event → Prop
  | .operator (.create template) =>
      Admits config.platform policies config.operatorNamespace template
  | .operator (.update key spec labels annotations) =>
      ∀ old, journal.system.templates key = some old →
        Admits config.platform policies config.operatorNamespace
          (System.edited old spec labels annotations)
  | .operator (.worker worker outcome) =>
      ∀ execution request rest answered, journal.system.workers worker = some execution →
        execution.program = .call request rest →
        journal.system.respond request outcome = some answered →
        getsThrough policies request answered.1 = true
  | _ => True

def Unfailed (template : KubeTemplate) : Prop :=
  Welcome config.platform policies template ∧ template.status.processingPhase ≠ .failed

structure Spared (journal : Journal) : Prop where
  faithful : journal.Faithful config
  versioned : journal.system.Versioned
  history : ∀ template ∈ journal.system.history, Unfailed config policies template
  turns : ∀ worker execution, journal.system.workers worker = some execution →
    ∀ exchange ∈ journal.turns worker,
      Benign config.platform policies exchange.request exchange.answer

variable {config} {policies} {journal next : Journal}

theorem Spared.calling (spared : journal.Spared config policies) {label : Label}
    {read : Option KubeTemplate} {template : KubeTemplate}
    (calls : journal.system.calling label = some (read, .updateStatus template)) :
    template.status.processingPhase ≠ .failed := by
  cases label with
  | worker worker outcome =>
      obtain ⟨execution, inside, called⟩ := Option.bind_eq_some_iff.mp calls
      obtain ⟨ref, item, turn⟩ := spared.faithful.turn worker execution inside
      have guarantee := (handleItem_sparing config.platform policies config.operatorNamespace _
        item).leaves turn.leaves
          (fun exchange member _ => spared.turns worker execution inside exchange member)
      unfold Execution.calling at called
      split at called
      · cases called
      · rename_i request rest isProgram
        cases called
        rw [isProgram] at guarantee
        exact guarantee.1
  | controller key outcome =>
      obtain ⟨execution, inside, called⟩ := Option.bind_eq_some_iff.mp calls
      unfold Execution.calling at called
      split at called
      · cases called
      · rename_i request rest isProgram
        cases called
        intro failed
        rcases (visit_permitted spared.faithful inside isProgram).2 with writes | writes
        · cases failed.symm.trans writes.1
        · cases failed.symm.trans writes.1
  | _ => cases calls

theorem Spared.step_history (spared : journal.Spared config policies) {label : Label}
    {system : System} (lenient : journal.Lenient config policies (.operator label))
    (stepped : journal.system.step config label = some system) :
    ∀ template ∈ system.history, Unfailed config policies template := by
  have grown {new : KubeTemplate} (fresh : Unfailed config policies new) :
      ∀ template ∈ (journal.system.put new).history, Unfailed config policies template := by
    intro template member
    rcases List.mem_cons.mp member with rfl | old
    · exact fresh
    · exact spared.history template old
  cases System.step_stores config stepped with
  | kept same =>
      rw [same.history]
      exact spared.history
  | created template isLabel free same =>
      subst isLabel
      rw [same.history]
      refine grown ⟨welcome_of_admits config.platform policies lenient, ?_⟩
      intro failed
      cases failed
  | edited key spec labels annotations old isLabel isStored same =>
      subst isLabel
      rw [same.history]
      have was := spared.history old (spared.versioned.stored key old isStored)
      exact grown ⟨welcome_of_admits config.platform policies (lenient old isStored), was.2⟩
  | removed key isLabel same =>
      rw [same.history]
      exact spared.history
  | updated read template stored calls isStored version same =>
      rw [same.history]
      have was := spared.history stored (spared.versioned.stored _ stored isStored)
      have spares := spared.calling calls
      exact grown ⟨was.1, spares⟩

theorem Spared.benign (spared : journal.Spared config policies) {worker : Nat} {outcome : Outcome}
    {execution : Execution Worker.Disposition} {request : Call}
    {rest : request.Answer → Program client Worker.Disposition}
    {answered : request.Answer × System}
    (lenient : journal.Lenient config policies (.operator (.worker worker outcome)))
    (inside : journal.system.workers worker = some execution)
    (calls : execution.program = .call request rest)
    (isAnswer : journal.system.respond request outcome = some answered) :
    Benign config.platform policies request answered.1 := by
  cases request with
  | getTemplate wanted =>
      intro template isOk
      exact (spared.history template (spared.versioned.read isAnswer isOk)).1
  | _ => exact lenient execution _ rest answered inside calls isAnswer

private theorem step_spared (journal : Journal) (event : Event) (next : Journal)
    (spared : journal.Spared config policies) (lenient : journal.Lenient config policies event)
    (taken : journal.step config event = some next) : next.Spared config policies := by
  have faithful := step_faithful journal event next spared.faithful taken
  have turns : ∀ worker execution, next.system.workers worker = some execution →
      ∀ exchange ∈ next.turns worker,
        Benign config.platform policies exchange.request exchange.answer := by
    intro worker execution inside
    cases step_turn config taken inside with
    | kept before turns =>
        rw [turns]
        exact spared.turns worker execution before
    | started isEvent queued turns =>
        rw [turns]
        intro exchange member
        cases member
    | called outcome caller request rest answered isEvent before calls isAnswer isNext turns =>
        subst isEvent
        rw [turns]
        intro exchange member
        rcases List.mem_append.mp member with earlier | last
        · exact spared.turns worker caller before exchange earlier
        · rw [List.mem_singleton.mp last]
          exact spared.benign lenient before calls isAnswer
  cases event with
  | expire key =>
      obtain ⟨_waits, rfl⟩ := step_expire config taken
      exact ⟨faithful, spared.versioned.same ⟨rfl, rfl, rfl⟩, spared.history, turns⟩
  | operator label =>
      obtain ⟨system, stepped, rfl⟩ := step_operator config taken
      have versioned := (System.step_stores config stepped).versioned spared.versioned
      have history := spared.step_history lenient stepped
      rw [← record_system journal system label] at versioned history
      exact ⟨faithful, versioned, history, turns⟩

/-- In a run in which users go through the webhook and the workers get their policies and
their Patches through, no version ever says Failed. -/
theorem admitted_never_fails (config : Config) (maxRetries initialDelay maxDelay maxCycles : Int)
    (initial policies : String → Except GoError KubeTemplatePolicy) (events : List Event)
    (lenient : Along (step config) (Lenient config policies)
      (start (Queue.Session.start maxRetries initialDelay maxDelay maxCycles) initial) events) :
    Throughout (step config)
      (fun journal => ∀ template ∈ journal.system.history,
        template.status.processingPhase ≠ .failed)
      (start (Queue.Session.start maxRetries initialDelay maxDelay maxCycles) initial) events := by
  have spared : (start (Queue.Session.start maxRetries initialDelay maxDelay maxCycles)
      initial).Spared config policies := by
    refine ⟨start_faithful config _ _ _ _ _, System.start_versioned _ _, ?_, ?_⟩
    · intro template member
      cases member
    · intro worker execution inside
      cases inside
  have invariant := throughout_of_along (step config) (Lenient config policies)
    (Spared config policies) step_spared _ events spared lenient
  exact invariant.mono (fun _ holds template member => (holds.history template member).2)

/-- A check of what a lenient step needs, where users only create. -/
def grants (config : Config) (policies : String → Except GoError KubeTemplatePolicy)
    (journal : Journal) : Event → Bool
  | .operator (.create template) =>
      match policies template.metadata.ns with
      | .ok policy => (Webhook.validateWithPolicy config.platform policy template
          (Webhook.RegexCache.empty _)).1.err.isNone
      | .error _ => false
  | .operator (.update _ _ _ _) => false
  | .operator (.worker worker outcome) =>
      (journal.system.workers worker).all (fun execution =>
        match execution.program with
        | .done _ => true
        | .call request _ =>
            (journal.system.respond request outcome).all (fun answered =>
              getsThrough policies request answered.1))
  | _ => true

private theorem lenient_of_grants (config : Config)
    (policies : String → Except GoError KubeTemplatePolicy)
    (journal : Journal) (event : Event) (checked : journal.grants config policies event = true) :
    journal.Lenient config policies event := by
  cases event with
  | expire key => trivial
  | operator label =>
      cases label with
      | create template =>
          simp only [grants] at checked
          split at checked
          · rename_i policy isPolicy
            exact ⟨policy, _, isPolicy, (Agreement.accepts_iff _ _ _ _ _).mpr
              (Option.isNone_iff_eq_none.mp checked)⟩
          · cases checked
      | update key spec labels annotations => cases checked
      | worker worker outcome =>
          intro execution request rest answered inside calls isAnswer
          simp only [grants, inside, Option.all_some, calls, isAnswer] at checked
          exact checked
      | _ => trivial

/-- The answer to the first status update is lost: the worker takes it for a conflict with
another writer, reads again and goes on. -/
def disturbed : List Event :=
  List.map .operator (.create System.webTemplate :: System.queuing ++
    [.dequeue 0, .worker 0 .succeeds, .worker 0 .succeeds,
      .worker 0 (.lost { reason := .conflict, message := "the object has been modified" }),
      .worker 0 .succeeds, .worker 0 .succeeds, .worker 0 .succeeds,
      .worker 0 (.returns (Reference.configMap "settings" "fast"))] ++
    List.replicate 4 (.worker 0 .succeeds))

theorem disturbed_never_fails :
    ((run (step System.settingsConfig) smallStart disturbed).bind (fun final =>
        final.system.templates System.webKey)).map (fun template =>
          template.status.processingPhase) = some .completed ∧
      Throughout (step System.settingsConfig)
        (fun journal => ∀ template ∈ journal.system.history,
          template.status.processingPhase ≠ .failed) smallStart disturbed :=
  ⟨by decide, admitted_never_fails System.settingsConfig _ _ _ _ _
    (fun _ => .ok (Reference.configMapPolicy [])) disturbed
    (along_of_checkAlong (lenient_of_grants System.settingsConfig _) (by decide))⟩

end Journal

end KubeTemplater.Operator
