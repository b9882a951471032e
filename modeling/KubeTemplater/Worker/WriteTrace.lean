/-
The resource calls of one `processItem` execution.

For each template in order that decodes and passes the checks there is one Patch,
with a Delete and a second Patch behind it where the server calls the object
invalid and the template asks for a replacement.  Nothing is called for the other
templates, and the first Patch that fails in any other way is the last call.
-/

import KubeTemplater.Worker.Completion

namespace KubeTemplater.Worker

open Library Library.Program

def isResourceCall : Exchange client → Bool
  | ⟨.getResource _ _ _, _⟩ => true
  | ⟨.patch _ _ _, _⟩ => true
  | ⟨.delete _, _⟩ => true
  | _ => false

def resourceCalls (trace : List (Exchange client)) : List (Exchange client) :=
  trace.filter isResourceCall

theorem resourceCalls_append (front back : List (Exchange client)) :
    resourceCalls (front ++ back) = resourceCalls front ++ resourceCalls back :=
  List.filter_append front back

private theorem isResourceCall_onTemplate (exchange : Exchange client)
    (onTemplate : exchange.request.onTemplate) : isResourceCall exchange = false := by
  obtain ⟨request, answer⟩ := exchange
  cases request <;> first | rfl | cases onTemplate

private theorem isResourceCall_policyGet (exchange : Exchange client)
    (asks : notPolicyGet exchange = false) : isResourceCall exchange = false := by
  obtain ⟨request, answer⟩ := exchange
  cases request <;> first | rfl | cases asks

theorem resourceCalls_quiet (trace : List (Exchange client))
    (quiet : ∀ exchange, exchange ∈ trace →
      exchange.request.onTemplate ∨ notPolicyGet exchange = false) :
    resourceCalls trace = [] := by
  unfold resourceCalls
  rw [List.filter_eq_nil_iff]
  intro exchange member
  rcases quiet exchange member with onTemplate | asks
  · rw [isResourceCall_onTemplate exchange onTemplate]
    exact Bool.false_ne_true
  · rw [isResourceCall_policyGet exchange asks]
    exact Bool.false_ne_true

theorem resourceCalls_onTemplate (trace : List (Exchange client))
    (onTemplate : ∀ exchange, exchange ∈ trace → exchange.request.onTemplate) :
    resourceCalls trace = [] :=
  resourceCalls_quiet trace (fun exchange member => .inl (onTemplate exchange member))

inductive ObjectCalls (object : Unstructured) (replace : Bool) :
    List (Exchange client) → Prop where
  | applied (stored : Unstructured) :
      ObjectCalls object replace [⟨.patch object false false, .ok stored⟩]
  | undeleted (err refused : GoError) (invalid : err.isInvalid = true) (wanted : replace = true) :
      ObjectCalls object replace
        [⟨.patch object false false, .error err⟩, ⟨.delete object, .error refused⟩]
  | replaced (err : GoError) (again : Except GoError Unstructured)
      (invalid : err.isInvalid = true) (wanted : replace = true) :
      ObjectCalls object replace
        [⟨.patch object false false, .error err⟩, ⟨.delete object, .ok ()⟩,
          ⟨.patch object false false, again⟩]

theorem ObjectCalls.resourceCalls_eq {object : Unstructured} {replace : Bool}
    {trace : List (Exchange client)} (calls : ObjectCalls object replace trace) :
    resourceCalls trace = trace := by
  cases calls with
  | _ => rfl

def EndsFailed (trace : List (Exchange client)) : Prop :=
  ∃ front now back kubeTemplate text after written, trace = front ++ ⟨.now, now⟩ :: back ∧
    Executes (updateStatusWithRetry kubeTemplate (failedStatus text now)) back
      (after, written) ∧
    (written = none → lastPhase trace = some .failed)

theorem endsFailed_append {trace : List (Exchange client)} (front : List (Exchange client))
    (ends : EndsFailed trace) : EndsFailed (front ++ trace) := by
  obtain ⟨before, now, back, kubeTemplate, text, after, written, rfl, updates, phase⟩ := ends
  refine ⟨front ++ before, now, back, kubeTemplate, text, after, written,
    (List.append_assoc _ _ _).symm, updates, ?_⟩
  intro stored
  rw [lastPhase_append, phase stored]
  rfl

section

variable (platform : Platform)

def Admitted (policy : KubeTemplatePolicy) (kubeTemplate : KubeTemplate) (template : Template)
    (object : Unstructured) : Prop :=
  ∃ decoded rule, platform.unmarshal template.object.raw = .ok decoded ∧
    firstMatchingRule policy (platform.groupVersionKind
      (defaultNamespace platform kubeTemplate.metadata.ns decoded)) = some rule ∧
    RuleAdmits platform platform.cel rule
      (defaultNamespace platform kubeTemplate.metadata.ns decoded) ∧
    object = appliedObject platform kubeTemplate.metadata template
      (defaultNamespace platform kubeTemplate.metadata.ns decoded)

inductive Turn (policy : KubeTemplatePolicy) (kubeTemplate : KubeTemplate)
    (template : Template) : List (Exchange client) → KubeTemplate → Option GoError → Prop where
  | skipped (trace : List (Exchange client)) (after : KubeTemplate)
      (fails : ∀ object, ¬ Admitted platform policy kubeTemplate template object)
      (onTemplate : ∀ exchange, exchange ∈ trace → exchange.request.onTemplate)
      (read : after.unversioned = ((lastRead trace).getD kubeTemplate).unversioned) :
      Turn policy kubeTemplate template trace after none
  | applied (object : Unstructured) (trace : List (Exchange client))
      (admitted : Admitted platform policy kubeTemplate template object)
      (calls : ObjectCalls object template.replace trace) :
      Turn policy kubeTemplate template trace kubeTemplate none
  | stopped (object : Unstructured) (failure : GoError) (rest : List (Exchange client))
      (after : KubeTemplate)
      (admitted : Admitted platform policy kubeTemplate template object)
      (fatal : ¬ (failure.isInvalid = true ∧ template.replace = true))
      (onTemplate : ∀ exchange, exchange ∈ rest → exchange.request.onTemplate)
      (ends : EndsFailed rest) :
      Turn policy kubeTemplate template (⟨.patch object false false, .error failure⟩ :: rest)
        after (some failure)

variable {kubeTemplate : KubeTemplate}

private theorem failed_update {after : KubeTemplate} {text : String} {now : Time}
    {trace : List (Exchange client)} {written : Option GoError}
    (updates : Executes (updateStatusWithRetry kubeTemplate (failedStatus text now)) trace
      (after, written)) :
    EndsFailed (⟨.now, now⟩ :: trace) := by
  refine ⟨[], now, trace, kubeTemplate, text, after, written, rfl, updates, ?_⟩
  rintro rfl
  have phase := updateStatusTurns_phase _ .failed (fun _ => rfl) 3 _ _ _ updates
  exact (lastPhase_append [⟨.now, now⟩] trace).trans (by rw [phase]; rfl)

private theorem applyObject_turn (policy : KubeTemplatePolicy) (kubeTemplate after : KubeTemplate)
    (template : Template) (gvk : GroupVersionKind) (object : Unstructured)
    (trace : List (Exchange client)) (err : Option GoError)
    (admitted : Admitted platform policy kubeTemplate template object)
    (execution : Executes (applyObject platform kubeTemplate template gvk object) trace
      (after, err)) :
    Turn platform policy kubeTemplate template trace after err := by
  simp only [applyObject, patch, deleteResource, timeNow, call_bind, done_bind] at execution
  obtain ⟨answer, later, rfl, applied⟩ := (executes_call_iff _ _ _ _).mp execution
  cases answer with
  | ok stored =>
      obtain ⟨rfl, same⟩ := (executes_done_iff _ _ _).mp applied
      cases same
      exact .applied object _ admitted (.applied stored)
  | error failure =>
      dsimp only at applied
      split at applied
      · rename_i both
        obtain ⟨invalid, wanted⟩ := Bool.and_eq_true_iff.mp both
        obtain ⟨deleted, later, rfl, recreated⟩ := (executes_call_iff _ _ _ _).mp applied
        cases deleted with
        | error refused =>
            obtain ⟨rfl, same⟩ := (executes_done_iff _ _ _).mp recreated
            cases same
            exact .applied object _ admitted (.undeleted failure refused invalid wanted)
        | ok nothing =>
            obtain ⟨again, later, rfl, ended⟩ := (executes_call_iff _ _ _ _).mp recreated
            obtain ⟨rfl, same⟩ := (executes_done_iff _ _ _).mp ended
            cases same
            exact .applied object _ admitted (.replaced failure again invalid wanted)
      · rename_i fatal
        obtain ⟨now, later, rfl, written⟩ := (executes_call_iff _ _ _ _).mp applied
        obtain ⟨front, back, ⟨latest, stored⟩, rfl, updates, last⟩ :=
          (executes_bind_iff _ _ _ _).mp written
        obtain ⟨rfl, same⟩ := (executes_done_iff _ _ _).mp last
        cases same
        rw [List.append_nil]
        exact .stopped object failure _ latest admitted
          (fun both => fatal (Bool.and_eq_true_iff.mpr both))
          (onTemplate_cons_update _ trivial updates) (failed_update updates)

theorem processTemplate_turn (policy : KubeTemplatePolicy) (kubeTemplate after : KubeTemplate)
    (template : Template) (trace : List (Exchange client)) (err : Option GoError)
    (execution : Executes (processTemplate platform policy kubeTemplate template) trace
      (after, err)) :
    Turn platform policy kubeTemplate template trace after err := by
  unfold processTemplate at execution
  split at execution
  · rename_i text undecoded
    obtain ⟨rfl, same⟩ := (executes_done_iff _ _ _).mp execution
    cases same
    refine .skipped [] kubeTemplate ?_ ?_ rfl
    · rintro object ⟨decoded, rule, decodes, _⟩
      rw [undecoded] at decodes
      cases decodes
    · intro exchange member
      cases member
  · rename_i decoded decodes
    dsimp only at execution
    split at execution
    · rename_i text refused
      simp only [timeNow, call_bind, done_bind] at execution
      obtain ⟨now, later, rfl, written⟩ := (executes_call_iff _ _ _ _).mp execution
      obtain ⟨front, back, ⟨latest, stored⟩, rfl, updates, last⟩ :=
        (executes_bind_iff _ _ _ _).mp written
      obtain ⟨rfl, same⟩ := (executes_done_iff _ _ _).mp last
      cases same
      rw [List.append_nil]
      refine .skipped _ latest ?_ (onTemplate_cons_update _ trivial updates)
        (updateStatusTurns_template _ 3 _ _ _ updates)
      rintro object ⟨other, rule, alsoDecodes, first, admits, _⟩
      rw [decodes] at alsoDecodes
      cases alsoDecodes
      rw [(checkPolicy_ok_iff platform policy _ rule).mpr ⟨first, admits⟩] at refused
      cases refused
    · rename_i rule passes
      obtain ⟨first, admits⟩ := (checkPolicy_ok_iff platform policy _ rule).mp passes
      exact applyObject_turn platform policy kubeTemplate after template _ _ trace err
        ⟨decoded, rule, decodes, first, admits, rfl⟩ execution

/-- The calls for a list of templates, each with the KubeTemplate that is in hand at its
turn, and the error that ends them early. -/
inductive LoopCalls (policy : KubeTemplatePolicy) :
    List (KubeTemplate × Template) → List (Exchange client) → Option GoError → Prop where
  | finished : LoopCalls policy [] [] none
  | skipped (kubeTemplate : KubeTemplate) (template : Template)
      (rest : List (KubeTemplate × Template)) (calls : List (Exchange client))
      (err : Option GoError)
      (fails : ∀ object, ¬ Admitted platform policy kubeTemplate template object)
      (later : LoopCalls policy rest calls err) :
      LoopCalls policy ((kubeTemplate, template) :: rest) calls err
  | applied (kubeTemplate : KubeTemplate) (template : Template)
      (rest : List (KubeTemplate × Template)) (object : Unstructured)
      (front calls : List (Exchange client)) (err : Option GoError)
      (admitted : Admitted platform policy kubeTemplate template object)
      (own : ObjectCalls object template.replace front)
      (later : LoopCalls policy rest calls err) :
      LoopCalls policy ((kubeTemplate, template) :: rest) (front ++ calls) err
  | stopped (kubeTemplate : KubeTemplate) (template : Template)
      (rest : List (KubeTemplate × Template)) (object : Unstructured) (failure : GoError)
      (admitted : Admitted platform policy kubeTemplate template object)
      (fatal : ¬ (failure.isInvalid = true ∧ template.replace = true)) :
      LoopCalls policy ((kubeTemplate, template) :: rest)
        [⟨.patch object false false, .error failure⟩] (some failure)

def InHand (start : KubeTemplate) (trace : List (Exchange client)) (kubeTemplate : KubeTemplate) :
    Prop :=
  kubeTemplate.unversioned = start.unversioned ∨
    ∃ read, read ∈ trace.filterMap readTemplate ∧ kubeTemplate.unversioned = read.unversioned

theorem InHand.later {start after : KubeTemplate} {front back : List (Exchange client)}
    (read : after.unversioned = ((lastRead front).getD start).unversioned)
    (inHand : InHand after back kubeTemplate) : InHand start (front ++ back) kubeTemplate := by
  unfold InHand
  rw [List.filterMap_append]
  rcases inHand with same | ⟨later, member, same⟩
  · cases found : lastRead front with
    | none =>
        rw [found] at read
        exact .inl (same.trans read)
    | some newer =>
        rw [found] at read
        exact .inr ⟨newer, List.mem_append_left _ (List.mem_of_getLast? found), same.trans read⟩
  · exact .inr ⟨later, List.mem_append_right _ member, same⟩

/-- The loop makes the calls of its templates and, stopped by an error, sets the status. -/
structure Loops (policy : KubeTemplatePolicy) (templates : List Template)
    (kubeTemplate : KubeTemplate) (trace : List (Exchange client)) (err : Option GoError) :
    Prop where
  calls : ∃ turns, turns.map Prod.snd = templates ∧
    (∀ turn, turn ∈ turns → InHand kubeTemplate trace turn.1) ∧
    LoopCalls platform policy turns (resourceCalls trace) err
  ends : err ≠ none → EndsFailed trace

/-- The templates after the one that stops the loop are not reached. -/
theorem inHand_rest (kubeTemplate : KubeTemplate) (trace : List (Exchange client))
    (templates : List Template) :
    (templates.map (Prod.mk kubeTemplate)).map Prod.snd = templates ∧
      ∀ turn, turn ∈ templates.map (Prod.mk kubeTemplate) →
        InHand kubeTemplate trace turn.1 := by
  constructor
  · rw [List.map_map]
    exact List.map_id templates
  · intro turn member
    obtain ⟨template, _isTemplate, rfl⟩ := List.mem_map.mp member
    exact .inl rfl

theorem processTemplates_loops (policy : KubeTemplatePolicy) (templates : List Template)
    (kubeTemplate after : KubeTemplate) (trace : List (Exchange client)) (err : Option GoError)
    (execution : Executes (processTemplates platform policy templates kubeTemplate) trace
      (after, err)) :
    Loops platform policy templates kubeTemplate trace err := by
  induction templates generalizing kubeTemplate trace with
  | nil =>
      obtain ⟨rfl, same⟩ := (executes_done_iff _ _ _).mp execution
      cases same
      refine ⟨⟨[], rfl, ?_, .finished⟩, fun stopped => absurd rfl stopped⟩
      intro turn member
      cases member
  | cons template rest ih =>
      obtain ⟨front, back, ⟨middle, ended⟩, rfl, first, second⟩ :=
        (executes_bind_iff _ _ _ _).mp execution
      have turned := processTemplate_turn platform policy kubeTemplate middle template front ended
        first
      cases turned with
      | skipped _ _ fails onTemplate read =>
          obtain ⟨⟨turns, isRest, inHand, calls⟩, ends⟩ := ih middle back second
          refine ⟨⟨(kubeTemplate, template) :: turns, ?_, ?_, ?_⟩,
            fun stopped => endsFailed_append front (ends stopped)⟩
          · rw [List.map_cons, isRest]
          · exact List.forall_mem_cons.mpr
              ⟨.inl rfl, fun turn member => (inHand turn member).later read⟩
          · rw [resourceCalls_append, resourceCalls_onTemplate front onTemplate, List.nil_append]
            exact .skipped _ _ _ _ _ fails calls
      | applied object _ admitted own =>
          obtain ⟨⟨turns, isRest, inHand, calls⟩, ends⟩ := ih kubeTemplate back second
          have read : kubeTemplate.unversioned =
              ((lastRead front).getD kubeTemplate).unversioned := by
            cases own <;> rfl
          refine ⟨⟨(kubeTemplate, template) :: turns, ?_, ?_, ?_⟩,
            fun stopped => endsFailed_append front (ends stopped)⟩
          · rw [List.map_cons, isRest]
          · exact List.forall_mem_cons.mpr
              ⟨.inl rfl, fun turn member => (inHand turn member).later read⟩
          · rw [resourceCalls_append, own.resourceCalls_eq]
            exact .applied _ _ _ _ _ _ _ admitted own calls
      | stopped object failure status _ admitted fatal onTemplate ends =>
          obtain ⟨rfl, same⟩ := (executes_done_iff _ _ _).mp second
          cases same
          rw [List.append_nil]
          obtain ⟨isRest, inHand⟩ := inHand_rest kubeTemplate
            (⟨.patch object false false, .error failure⟩ :: status) rest
          refine ⟨⟨(kubeTemplate, template) :: rest.map (Prod.mk kubeTemplate), ?_, ?_, ?_⟩,
            fun _ => endsFailed_append [_] ends⟩
          · rw [List.map_cons, isRest]
          · exact List.forall_mem_cons.mpr ⟨.inl rfl, inHand⟩
          · have own : resourceCalls (⟨.patch object false false, .error failure⟩ :: status) =
                [⟨.patch object false false, .error failure⟩] :=
              congrArg (List.cons _) (resourceCalls_onTemplate status onTemplate)
            rw [own]
            exact .stopped _ _ _ _ _ admitted fatal

/-- The resource calls of an execution are those of the loop over the template it read
last before it asked for the policy; without a policy there are none. -/
structure WritesInOrder (trace : List (Exchange client)) (result : Option GoError) : Prop where
  unpolicied : loopPolicy trace = none → resourceCalls trace = []
  looped : ∀ policy, loopPolicy trace = some policy →
    ∃ kubeTemplate turns err, loopTemplate trace = some kubeTemplate ∧
      turns.map Prod.snd = kubeTemplate.spec.templates ∧
      (∀ turn, turn ∈ turns → ∃ read, read ∈ trace.filterMap readTemplate ∧
        turn.1.unversioned = read.unversioned) ∧
      LoopCalls platform policy turns (resourceCalls trace) err ∧
      ∀ failure, err = some failure → result = some failure ∧ EndsFailed trace

theorem LoopRun.resourceCalls_eq {policy : KubeTemplatePolicy} {trace : List (Exchange client)}
    {result : Option GoError} (run : LoopRun platform policy kubeTemplate trace result) :
    resourceCalls trace = resourceCalls run.loop := by
  have finalOnly : ∀ exchange, exchange ∈ run.final → exchange.request.onTemplate := by
    have finishes := run.finishes
    split at finishes
    · rw [finishes.1]
      intro exchange member
      cases member
    · exact (completeTemplate_makes platform run.ended).executes finishes
  have asked : resourceCalls [run.ask] = [] :=
    resourceCalls_quiet [run.ask] (fun exchange member =>
      .inr (by rw [List.mem_singleton.mp member]; exact run.asks))
  refine (congrArg resourceCalls run.parts).trans ?_
  rw [resourceCalls_append, ← List.singleton_append, resourceCalls_append, resourceCalls_append,
    resourceCalls_onTemplate run.reads run.readsOnly, asked,
    resourceCalls_onTemplate run.final finalOnly, List.append_nil, List.nil_append,
    List.nil_append]

theorem LoopRun.writesInOrder {policy : KubeTemplatePolicy} {trace : List (Exchange client)}
    {result : Option GoError} (run : LoopRun platform policy kubeTemplate trace result) :
    ∃ turns err, turns.map Prod.snd = kubeTemplate.spec.templates ∧
      (∀ turn, turn ∈ turns → ∃ read, read ∈ trace.filterMap readTemplate ∧
        turn.1.unversioned = read.unversioned) ∧
      LoopCalls platform policy turns (resourceCalls trace) err ∧
      ∀ failure, err = some failure → result = some failure ∧ EndsFailed trace := by
  have onlyLoop := run.resourceCalls_eq
  obtain ⟨reads, ask, loop, final, rfl, readsOnly, asks, isLast, started, same, ended, err, loops,
    finishes⟩ := run
  obtain ⟨⟨turns, isTemplates, inHand, calls⟩, ends⟩ :=
    processTemplates_loops platform policy _ started ended loop err loops
  have spec : started.spec = kubeTemplate.spec := by
    change started.unversioned.spec = kubeTemplate.unversioned.spec
    rw [same]
  refine ⟨turns, err, isTemplates.trans (congrArg KubeTemplateSpec.templates spec), ?_, ?_, ?_⟩
  · intro turn member
    rw [List.filterMap_append, ← List.singleton_append, List.filterMap_append,
      List.filterMap_append]
    rcases inHand turn member with atStart | ⟨read, isRead, sameRead⟩
    · exact ⟨kubeTemplate, List.mem_append_left _ (List.mem_of_getLast? isLast),
        atStart.trans same⟩
    · exact ⟨read, List.mem_append_right _ (List.mem_append_right _
        (List.mem_append_left _ isRead)), sameRead⟩
  · rw [onlyLoop]
    exact calls
  · rintro failure rfl
    obtain ⟨rfl, isResult⟩ := finishes
    refine ⟨isResult, ?_⟩
    rw [List.append_nil, ← List.singleton_append, ← List.append_assoc]
    exact endsFailed_append _ (ends (Option.some_ne_none failure))

/-- In every execution of `processItem` the resource calls are those the templates, the
policy and the answers ask for, and an early end returns its error with the phase Failed. -/
theorem processItem_writesInOrder (operatorNamespace : String) (key : NamespacedName)
    (trace : List (Exchange client)) (result : Option GoError)
    (execution : Executes (processItem platform operatorNamespace key) trace result) :
    WritesInOrder platform trace result := by
  cases processItem_run platform operatorNamespace key trace result execution with
  | unpolicied none quiet =>
      refine ⟨fun _ => resourceCalls_quiet trace quiet, ?_⟩
      intro policy governs
      rw [none] at governs
      cases governs
  | looped policy kubeTemplate ranges governs run =>
      constructor
      · intro none
        rw [governs] at none
        cases none
      · intro other isOther
        rw [governs] at isOther
        cases isOther
        obtain ⟨turns, err, isTemplates, read, calls, ends⟩ := run.writesInOrder
        exact ⟨kubeTemplate, turns, err, ranges, isTemplates, read, calls, ends⟩

end

def refusing (policy : KubeTemplatePolicy) : (request : Call) →
    KubeTemplate × List (Option GoError) → request.Answer × KubeTemplate × List (Option GoError)
  | .patch object _ _, (stored, refusal :: rest) =>
      match refusal with
      | some err => (.error err, stored, rest)
      | none => (.ok object, stored, rest)
  | request, (stored, refusals) =>
      ((Reference.answering policy request stored).1,
        (Reference.answering policy request stored).2, refusals)

/-- A template of `team-a` that asks for the replacement of its ConfigMap. -/
def replacedTemplate : KubeTemplate :=
  Reference.kubeTemplate [{ Reference.settingsTemplate with replace := true }]

def immutable : GoError :=
  { reason := .invalid, message := "field is immutable when immutable is set" }

def replacement (refusals : List (Option GoError)) : List (Exchange client) :=
  traceWith (refusing (Reference.configMapPolicy []))
    (processItem Reference.settingsPlatform "kubetemplater-system" ⟨"team-a", "web"⟩)
    (replacedTemplate, refusals)

theorem replacement_executes (refusals : List (Option GoError)) :
    Executes (processItem Reference.settingsPlatform "kubetemplater-system" ⟨"team-a", "web"⟩)
      (replacement refusals)
      (runWith (refusing (Reference.configMapPolicy []))
        (processItem Reference.settingsPlatform "kubetemplater-system" ⟨"team-a", "web"⟩)
        (replacedTemplate, refusals)).1 :=
  executes_runWith _ _ _

/-- The server calls the first Patch invalid, so the ConfigMap is deleted and applied
again. -/
theorem processItem_writesInOrder_replaced :
    (resourceCalls (replacement [some immutable])).length = 3 ∧
      WritesInOrder Reference.settingsPlatform (replacement [some immutable]) none :=
  ⟨rfl, processItem_writesInOrder Reference.settingsPlatform "kubetemplater-system"
    ⟨"team-a", "web"⟩ (replacement [some immutable]) none (replacement_executes [some immutable])⟩

end KubeTemplater.Worker
