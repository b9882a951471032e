/-
What becomes of a resource that is replaced.

`processItem` deletes a resource the server calls invalid and applies it again at
once.  A failure of the second apply is only logged, so the resource stays deleted
and the template is completed all the same, unless a later template brings the
resource back or a later call fails.
-/

import KubeTemplater.Worker.WriteTrace

namespace KubeTemplater.Worker

open Library Library.Program

def successfulDelete : Exchange client → Option Unstructured
  | ⟨.delete object, answer⟩ =>
      match (answer : Except GoError Unit) with
      | .ok _ => some object
      | .error _ => none
  | _ => none

def isFailedPatch : Exchange client → Bool
  | ⟨.patch _ _ _, answer⟩ => !(answer : Except GoError Unstructured).isOk
  | _ => false

/-- The last of the resource calls is a Patch that fails, other than one behind a Delete. -/
def breaksOff : List (Exchange client) → Bool
  | [] => false
  | [last] => isFailedPatch last
  | first :: next :: rest =>
      if (successfulDelete first).isSome then breaksOff rest else breaksOff (next :: rest)

def isFailedStatusCall : Exchange client → Bool
  | ⟨.getTemplate _, answer⟩ => !(answer : Except GoError KubeTemplate).isOk
  | ⟨.updateStatus _, answer⟩ => !(answer : Except GoError Nat).isOk
  | _ => false

/-- The last call of all, a read or an update of the KubeTemplate, fails. -/
def failsLast (trace : List (Exchange client)) : Bool :=
  trace.getLast?.any isFailedStatusCall

def DeletesFollowed : List (Exchange client) → Prop
  | [] => True
  | first :: rest =>
      (∀ object, successfulDelete first = some object →
        ∃ answer later, rest = ⟨.patch object false false, answer⟩ :: later) ∧
      DeletesFollowed rest

theorem DeletesFollowed.at_delete {front back : List (Exchange client)} {object : Unstructured}
    (followed : DeletesFollowed (front ++ ⟨.delete object, .ok ()⟩ :: back)) :
    ∃ answer later, back = ⟨.patch object false false, answer⟩ :: later := by
  induction front with
  | nil => exact followed.1 object rfl
  | cons first front ih => exact ih followed.2

section

variable (platform : Platform)

theorem LoopCalls.deletesFollowed {policy : KubeTemplatePolicy}
    {turns : List (KubeTemplate × Template)} {calls : List (Exchange client)}
    {err : Option GoError} (loop : LoopCalls platform policy turns calls err) :
    DeletesFollowed calls := by
  induction loop with
  | finished => trivial
  | skipped kubeTemplate template rest calls err fails later ih => exact ih
  | applied kubeTemplate template rest object front calls err admitted own later ih =>
      cases own with
      | applied stored =>
          refine ⟨?_, ih⟩
          intro other deleted
          cases deleted
      | undeleted failure refused invalid wanted =>
          refine ⟨?_, ?_, ih⟩
          · intro other deleted
            cases deleted
          · intro other deleted
            cases deleted
      | replaced failure again invalid wanted =>
          refine ⟨?_, ?_, ?_, ih⟩
          · intro other deleted
            cases deleted
          · intro other deleted
            cases deleted
            exact ⟨again, calls, rfl⟩
          · intro other deleted
            cases deleted
  | stopped kubeTemplate template rest object failure admitted fatal =>
      refine ⟨?_, trivial⟩
      intro other deleted
      cases deleted

/-- The resource calls tell whether the loop was ended by an error. -/
theorem LoopCalls.breaksOff_eq {policy : KubeTemplatePolicy}
    {turns : List (KubeTemplate × Template)} {calls : List (Exchange client)}
    {err : Option GoError} (loop : LoopCalls platform policy turns calls err) :
    breaksOff calls = err.isSome := by
  induction loop with
  | finished => rfl
  | skipped kubeTemplate template rest calls err fails later ih => exact ih
  | applied kubeTemplate template rest object front calls err admitted own later ih =>
      rw [← ih]
      cases own with
      | applied stored => cases calls <;> rfl
      | undeleted failure refused invalid wanted => cases calls <;> rfl
      | replaced failure again invalid wanted => rfl
  | stopped kubeTemplate template rest object failure admitted fatal => rfl

theorem failsLast_cons (first : Exchange client) {trace : List (Exchange client)}
    (some : trace ≠ []) : failsLast (first :: trace) = failsLast trace := by
  unfold failsLast
  rw [List.getLast?_cons_of_ne_nil some]

private theorem failsLast_append (front : List (Exchange client)) {back : List (Exchange client)}
    (some : back ≠ []) : failsLast (front ++ back) = failsLast back := by
  induction front with
  | nil => rfl
  | cons first front ih =>
      rw [List.cons_append, failsLast_cons first (List.append_ne_nil_of_right_ne_nil front some),
        ih]

/-- A status update returns an error exactly when its last call fails. -/
theorem updateStatusTurns_failsLast (update : KubeTemplateStatus → KubeTemplateStatus)
    (turns : Nat) (kubeTemplate after : KubeTemplate) (trace : List (Exchange client))
    (err : Option GoError)
    (execution : Executes (updateStatusTurns update (turns + 1) kubeTemplate) trace
      (after, err)) :
    trace ≠ [] ∧ failsLast trace = err.isSome := by
  induction turns generalizing kubeTemplate trace with
  | zero =>
      simp only [updateStatusTurns, getTemplate, updateStatus, call_bind, done_bind,
        Nat.lt_irrefl, decide_false, Bool.and_false, Bool.false_eq_true, if_false] at execution
      obtain ⟨answer, later, rfl, written⟩ := (executes_call_iff _ _ _ _).mp execution
      cases answer with
      | error failure =>
          obtain ⟨rfl, same⟩ := (executes_done_iff _ _ _).mp written
          cases same
          exact ⟨List.cons_ne_nil _ _, rfl⟩
      | ok latest =>
          obtain ⟨stored, later, rfl, ended⟩ := (executes_call_iff _ _ _ _).mp written
          cases stored with
          | _ =>
              obtain ⟨rfl, same⟩ := (executes_done_iff _ _ _).mp ended
              cases same
              exact ⟨List.cons_ne_nil _ _, rfl⟩
  | succ turns ih =>
      rw [updateStatusTurns] at execution
      simp only [getTemplate, updateStatus, call_bind, done_bind] at execution
      obtain ⟨answer, later, rfl, written⟩ := (executes_call_iff _ _ _ _).mp execution
      cases answer with
      | error failure =>
          obtain ⟨rfl, same⟩ := (executes_done_iff _ _ _).mp written
          cases same
          exact ⟨List.cons_ne_nil _ _, rfl⟩
      | ok latest =>
          obtain ⟨stored, later, rfl, retried⟩ := (executes_call_iff _ _ _ _).mp written
          refine ⟨List.cons_ne_nil _ _, ?_⟩
          cases stored with
          | ok revision =>
              obtain ⟨rfl, same⟩ := (executes_done_iff _ _ _).mp retried
              cases same
              rfl
          | error failure =>
              dsimp only at retried
              split at retried
              · obtain ⟨some, last⟩ := ih _ _ retried
                rw [failsLast_cons _ (List.cons_ne_nil _ _), failsLast_cons _ some, last]
              · obtain ⟨rfl, same⟩ := (executes_done_iff _ _ _).mp retried
                cases same
                rfl

private theorem completeTemplate_failsLast (kubeTemplate : KubeTemplate)
    (trace : List (Exchange client))
    (result : Option GoError)
    (execution : Executes (completeTemplate platform kubeTemplate) trace result) :
    trace ≠ [] ∧ failsLast trace = result.isSome := by
  simp only [completeTemplate, timeNow, call_bind, done_bind] at execution
  obtain ⟨now, later, rfl, written⟩ := (executes_call_iff _ _ _ _).mp execution
  obtain ⟨front, back, ⟨after, err⟩, rfl, updates, last⟩ := (executes_bind_iff _ _ _ _).mp written
  obtain ⟨rfl, same⟩ := (executes_done_iff _ _ _).mp last
  cases same
  obtain ⟨some, fails⟩ := updateStatusTurns_failsLast _ 2 _ _ _ _ updates
  rw [List.append_nil]
  exact ⟨List.cons_ne_nil _ _, (failsLast_cons _ some).trans fails⟩

section

variable {policy : KubeTemplatePolicy} {kubeTemplate : KubeTemplate}
  {trace : List (Exchange client)} {result : Option GoError}
  (run : LoopRun platform policy kubeTemplate trace result)
include run

theorem LoopRun.loopCalls : ∃ turns,
    LoopCalls platform policy turns (resourceCalls trace) run.err := by
  obtain ⟨⟨turns, _, _, calls⟩, _⟩ :=
    processTemplates_loops platform policy _ run.started run.ended run.loop run.err run.loops
  rw [run.resourceCalls_eq]
  exact ⟨turns, calls⟩

/-- After a loop an error is returned for a Patch that ends it and for an update of the status
that fails. -/
theorem LoopRun.fails_iff :
    result ≠ none ↔ breaksOff (resourceCalls trace) = true ∨ failsLast trace = true := by
  obtain ⟨turns, calls⟩ := run.loopCalls
  rw [calls.breaksOff_eq]
  have finishes := run.finishes
  split at finishes
  · rename_i failure _ stopped _
    rw [stopped, finishes.2]
    exact ⟨fun _ => Or.inl rfl, fun _ => Option.some_ne_none failure⟩
  · rename_i _ finished _
    obtain ⟨some, last⟩ := completeTemplate_failsLast platform _ _ result finishes
    have ends : failsLast trace = result.isSome := by
      refine (congrArg failsLast run.parts).trans ?_
      rw [← List.cons_append, ← List.append_assoc, failsLast_append _ some, last]
    rw [finished, ends, Option.isSome_none, Option.isSome_iff_ne_none]
    exact ⟨Or.inr, fun failed => failed.resolve_left Bool.false_ne_true⟩

end

def resourceOf (object : Unstructured) : GroupVersionKind × String × String :=
  (platform.groupVersionKind object, platform.getNamespace object, platform.getName object)

/-- The resource of the object is patched successfully. -/
def Recreated (object : Unstructured) (trace : List (Exchange client)) : Prop :=
  ∃ exchange patched, exchange ∈ trace ∧ successfulPatch exchange = some patched ∧
    resourceOf platform patched = resourceOf platform object

/-- Every resource that has been deleted has been applied again, or an error is returned. -/
def NothingLost (trace : List (Exchange client)) (result : Option GoError) : Prop :=
  ∀ front back object, trace = front ++ ⟨.delete object, .ok ()⟩ :: back →
    result ≠ none ∨ Recreated platform object back

/-- Where the Patch behind a Delete fails, a later one brings the resource back, or a later
call ends the execution with an error. -/
def Recovers (trace : List (Exchange client)) : Prop :=
  ∀ front object err back, resourceCalls trace =
      front ++ ⟨.delete object, .ok ()⟩ :: ⟨.patch object false false, .error err⟩ :: back →
    Recreated platform object back ∨ breaksOff (resourceCalls trace) = true ∨
      failsLast trace = true

private theorem recreated_resourceCalls (object : Unstructured) (trace : List (Exchange client)) :
    Recreated platform object (resourceCalls trace) ↔ Recreated platform object trace := by
  constructor
  · rintro ⟨exchange, patched, member, success, same⟩
    exact ⟨exchange, patched, (List.mem_filter.mp member).1, success, same⟩
  · rintro ⟨exchange, patched, member, success, same⟩
    refine ⟨exchange, patched, List.mem_filter.mpr ⟨member, ?_⟩, success, same⟩
    obtain ⟨request, answer⟩ := exchange
    cases request <;> first | rfl | cases success

/-- Only the resource calls matter to what is lost. -/
theorem nothingLost_iff (trace : List (Exchange client)) (result : Option GoError) :
    NothingLost platform trace result ↔
      ∀ front back object, resourceCalls trace = front ++ ⟨.delete object, .ok ()⟩ :: back →
        result ≠ none ∨ Recreated platform object back := by
  constructor
  · intro kept front back object split
    obtain ⟨before, rest, rfl, _, later⟩ := List.filter_eq_append_iff.mp split
    obtain ⟨others, after, rfl, _, _, isBack⟩ := List.filter_eq_cons_iff.mp later
    have found := kept (before ++ others) after object (List.append_assoc _ _ _).symm
    rw [← recreated_resourceCalls] at found
    exact isBack ▸ found
  · rintro kept front back object rfl
    have split : resourceCalls (front ++ ⟨.delete object, .ok ()⟩ :: back) =
        resourceCalls front ++ ⟨.delete object, .ok ()⟩ :: resourceCalls back :=
      resourceCalls_append front _
    rw [← recreated_resourceCalls]
    exact kept _ _ object split

/-- Nothing is lost exactly in the executions that recover from every failed second apply. -/
theorem replace_loses_nothing_iff (operatorNamespace : String) (key : NamespacedName)
    (trace : List (Exchange client)) (result : Option GoError)
    (execution : Executes (processItem platform operatorNamespace key) trace result) :
    NothingLost platform trace result ↔ Recovers platform trace := by
  rw [nothingLost_iff]
  cases processItem_run platform operatorNamespace key trace result execution with
  | unpolicied none quiet =>
      unfold Recovers
      rw [resourceCalls_quiet trace quiet]
      constructor
      · intro _ front object err back split
        exact absurd split.symm (List.append_ne_nil_of_right_ne_nil _ (List.cons_ne_nil _ _))
      · intro _ front back object split
        exact absurd split.symm (List.append_ne_nil_of_right_ne_nil _ (List.cons_ne_nil _ _))
  | looped policy kubeTemplate ranges governs run =>
      have fails := run.fails_iff
      obtain ⟨turns, calls⟩ := run.loopCalls
      have followed := calls.deletesFollowed
      constructor
      · intro kept front object err back split
        rcases kept front _ object split with failed | ⟨exchange, patched, member, success, same⟩
        · exact Or.inr (fails.mp failed)
        · rcases List.mem_cons.mp member with rfl | later
          · cases success
          · exact Or.inl ⟨exchange, patched, later, success, same⟩
      · intro recovers front back object split
        rw [split] at followed
        obtain ⟨answer, later, rfl⟩ := followed.at_delete
        cases answer with
        | ok stored => exact Or.inr ⟨_, object, List.mem_cons_self, rfl, rfl⟩
        | error err =>
            rcases recovers front object err later split with
              ⟨exchange, patched, member, success, same⟩ | ends
            · exact Or.inr ⟨exchange, patched, List.mem_cons_of_mem _ member, success, same⟩
            · exact Or.inl (fails.mpr ends)

end

/-- Two templates for one ConfigMap that is to be replaced. -/
def replacedTwice (refusals : List (Option GoError)) : List (Exchange client) :=
  traceWith (refusing (Reference.configMapPolicy []))
    (processItem Reference.settingsPlatform "kubetemplater-system" ⟨"team-a", "web"⟩)
    (Reference.kubeTemplate [{ Reference.settingsTemplate with replace := true },
      { Reference.settingsTemplate with replace := true }], refusals)

def replacedSettings : Unstructured :=
  appliedObject Reference.settingsPlatform replacedTemplate.metadata Reference.settingsTemplate
    (defaultNamespace Reference.settingsPlatform "team-a" (Reference.configMap "settings" "fast"))

/-- The first Patch is refused and the second succeeds, or the second is refused too and the
next template applies the ConfigMap again. -/
theorem replace_loses_nothing_immutable :
    (((replacement [some immutable]).filterMap successfulDelete).length = 1 ∧
      NothingLost Reference.settingsPlatform (replacement [some immutable]) none) ∧
    ((replacedTwice [some immutable, some immutable]).filterMap successfulDelete).length = 1 ∧
      NothingLost Reference.settingsPlatform (replacedTwice [some immutable, some immutable])
        none := by
  refine ⟨⟨rfl, ?_⟩, rfl, ?_⟩
  · refine (replace_loses_nothing_iff Reference.settingsPlatform _ _ _ _
      (replacement_executes [some immutable])).mpr ?_
    intro front object err back split
    have calls : resourceCalls (replacement [some immutable]) =
        [⟨.patch replacedSettings false false, .error immutable⟩,
          ⟨.delete replacedSettings, .ok ()⟩,
          ⟨.patch replacedSettings false false, .ok replacedSettings⟩] := rfl
    rw [calls] at split
    rcases front with _ | ⟨_, _ | ⟨_, _ | ⟨_, _ | ⟨_, _⟩⟩⟩⟩ <;> cases split
  · refine (replace_loses_nothing_iff Reference.settingsPlatform _ _ _ _
      (executes_runWith _ _ _)).mpr ?_
    intro front object err back split
    have calls : resourceCalls (replacedTwice [some immutable, some immutable]) =
        [⟨.patch replacedSettings false false, .error immutable⟩,
          ⟨.delete replacedSettings, .ok ()⟩,
          ⟨.patch replacedSettings false false, .error immutable⟩,
          ⟨.patch replacedSettings false false, .ok replacedSettings⟩] := rfl
    change resourceCalls (replacedTwice [some immutable, some immutable]) = _ at split
    rw [calls] at split
    rcases front with _ | ⟨_, _ | ⟨_, _ | ⟨_, _ | ⟨_, _ | ⟨_, _⟩⟩⟩⟩⟩ <;> cases split
    exact Or.inl ⟨_, replacedSettings, List.mem_singleton_self _, rfl, rfl⟩

/-- The second Patch is refused too: the ConfigMap has been deleted, no Patch has succeeded,
and `processItem` returns nil. -/
theorem replace_loses_resource :
    ∃ trace, Executes (processItem Reference.settingsPlatform "kubetemplater-system"
        ⟨"team-a", "web"⟩) trace none ∧
      ¬ NothingLost Reference.settingsPlatform trace none := by
  refine ⟨_, replacement_executes [some immutable, some immutable], ?_⟩
  intro kept
  have none : (replacement [some immutable, some immutable]).filterMap successfulPatch = [] := rfl
  rcases kept ((replacement [some immutable, some immutable]).take 5)
    ((replacement [some immutable, some immutable]).drop 6) _ rfl with
    failed | ⟨exchange, patched, member, isPatch, _same⟩
  · exact failed rfl
  · have among := List.mem_filterMap.mpr ⟨exchange, List.mem_of_mem_drop member, isPatch⟩
    rw [none] at among
    cases among

end KubeTemplater.Worker
