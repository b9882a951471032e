/-
What one drift pass counts.

A template leaves the loop of `applyTemplateResources` in one of eight ways.  The
flag behind `DriftDetectionCount` is set before the Patch that corrects the drift, so
the count also grows in a pass in which every such Patch failed.
-/

import KubeTemplater.Controller.DriftComparison
import KubeTemplater.Worker.Executions

namespace KubeTemplater.Controller

open Library Library.Program

inductive Exit where
  | undecoded
  | dryRunFailed
  | unreadable
  | inSync
  | corrected
  | uncorrected
  | created
  | uncreated
  deriving DecidableEq, Repr

/-- The resource was found without drift or was patched. -/
@[simp]
def Exit.isSynced : Exit → Bool
  | .inSync | .corrected | .created => true
  | _ => false

/-- An existing resource was found drifted. -/
@[simp]
def Exit.isDrifted : Exit → Bool
  | .corrected | .uncorrected => true
  | _ => false

/-- An existing resource was found drifted and was patched. -/
@[simp]
def Exit.isCorrected : Exit → Bool
  | .corrected => true
  | _ => false

section

variable (platform : Platform)

def getOf (object : Unstructured) : Call :=
  .getResource (platform.groupVersionKind object) (platform.getNamespace object)
    (platform.getName object)

/-- One turn of the loop: its calls, their answers and its way out. -/
inductive Visit (template : Template) : List (Exchange client) → Exit → Prop where
  | undecoded (text : String) (fails : platform.unmarshal template.object.raw = .error text) :
      Visit template [] .undecoded
  | dryRunFailed (object : Unstructured) (found : Except GoError Unstructured)
      (failure : GoError) (decodes : platform.unmarshal template.object.raw = .ok object) :
      Visit template
        [⟨getOf platform object, found⟩, ⟨.patch object true true, .error failure⟩] .dryRunFailed
  | unreadable (object dryRun : Unstructured) (failure : GoError)
      (decodes : platform.unmarshal template.object.raw = .ok object)
      (other : failure.isNotFound = false) :
      Visit template
        [⟨getOf platform object, .error failure⟩, ⟨.patch object true true, .ok dryRun⟩]
        .unreadable
  | inSync (object current dryRun : Unstructured)
      (decodes : platform.unmarshal template.object.raw = .ok object)
      (same : hasDrift platform current dryRun = false) :
      Visit template
        [⟨getOf platform object, .ok current⟩, ⟨.patch object true true, .ok dryRun⟩] .inSync
  | corrected (object current dryRun stored : Unstructured)
      (decodes : platform.unmarshal template.object.raw = .ok object)
      (drifted : hasDrift platform current dryRun = true) :
      Visit template
        [⟨getOf platform object, .ok current⟩, ⟨.patch object true true, .ok dryRun⟩,
          ⟨.patch object true false, .ok stored⟩] .corrected
  | uncorrected (object current dryRun : Unstructured) (failure : GoError)
      (decodes : platform.unmarshal template.object.raw = .ok object)
      (drifted : hasDrift platform current dryRun = true) :
      Visit template
        [⟨getOf platform object, .ok current⟩, ⟨.patch object true true, .ok dryRun⟩,
          ⟨.patch object true false, .error failure⟩] .uncorrected
  | created (object dryRun stored : Unstructured) (missing : GoError)
      (decodes : platform.unmarshal template.object.raw = .ok object)
      (notFound : missing.isNotFound = true) :
      Visit template
        [⟨getOf platform object, .error missing⟩, ⟨.patch object true true, .ok dryRun⟩,
          ⟨.patch object true false, .ok stored⟩] .created
  | uncreated (object dryRun : Unstructured) (missing failure : GoError)
      (decodes : platform.unmarshal template.object.raw = .ok object)
      (notFound : missing.isNotFound = true) :
      Visit template
        [⟨getOf platform object, .error missing⟩, ⟨.patch object true true, .ok dryRun⟩,
          ⟨.patch object true false, .error failure⟩] .uncreated

inductive Visits : List Template → List (Exchange client) → List Exit → Prop where
  | nil : Visits [] [] []
  | cons (template : Template) (rest : List Template) (front back : List (Exchange client))
      (exit : Exit) (exits : List Exit) (first : Visit platform template front exit)
      (later : Visits rest back exits) :
      Visits (template :: rest) (front ++ back) (exit :: exits)

def DriftTally.count (tally : DriftTally) (exit : Exit) : DriftTally :=
  { syncedResources := tally.syncedResources + (if exit.isSynced then 1 else 0)
    driftDetected := tally.driftDetected || exit.isDrifted }

private theorem applyDrifted_cases (object : Unstructured) (tally after : DriftTally)
    (trace : List (Exchange client))
    (execution : Executes (applyDrifted object tally) trace after) :
    (∃ stored, trace = [⟨.patch object true false, .ok stored⟩] ∧
        after = { tally with syncedResources := tally.syncedResources + 1 }) ∨
      ∃ failure, trace = [⟨.patch object true false, .error failure⟩] ∧ after = tally := by
  simp only [applyDrifted, patch, call_bind, done_bind] at execution
  obtain ⟨answer, later, rfl, ended⟩ := (executes_call_iff _ _ _ _).mp execution
  cases answer with
  | ok stored =>
      obtain ⟨rfl, rfl⟩ := (executes_done_iff _ _ _).mp ended
      exact .inl ⟨stored, rfl, rfl⟩
  | error failure =>
      obtain ⟨rfl, rfl⟩ := (executes_done_iff _ _ _).mp ended
      exact .inr ⟨failure, rfl, rfl⟩

private theorem applyTemplateResource_visit (template : Template) (tally after : DriftTally)
    (trace : List (Exchange client))
    (execution : Executes (applyTemplateResource platform template tally) trace after) :
    ∃ exit, Visit platform template trace exit ∧ after = tally.count exit := by
  unfold applyTemplateResource at execution
  split at execution
  · rename_i text fails
    obtain ⟨rfl, rfl⟩ := (executes_done_iff _ _ _).mp execution
    exact ⟨.undecoded, .undecoded text fails, by simp [DriftTally.count]⟩
  · rename_i object decodes
    simp only [getResource, patch, call_bind, done_bind] at execution
    obtain ⟨found, later, rfl, dryRuns⟩ := (executes_call_iff _ _ _ _).mp execution
    obtain ⟨dryRun, later, rfl, compared⟩ := (executes_call_iff _ _ _ _).mp dryRuns
    cases dryRun with
    | error failure =>
        obtain ⟨rfl, rfl⟩ := (executes_done_iff _ _ _).mp compared
        exact ⟨.dryRunFailed, .dryRunFailed object found failure decodes,
          by simp [DriftTally.count]⟩
    | ok dryRun =>
        cases found with
        | ok current =>
            dsimp only at compared
            split at compared
            · rename_i drifted
              rcases applyDrifted_cases object _ after later compared with
                ⟨stored, rfl, rfl⟩ | ⟨failure, rfl, rfl⟩
              · exact ⟨.corrected, .corrected object current dryRun stored decodes drifted,
                  by simp [DriftTally.count]⟩
              · exact ⟨.uncorrected, .uncorrected object current dryRun failure decodes drifted,
                  by simp [DriftTally.count]⟩
            · rename_i same
              obtain ⟨rfl, rfl⟩ := (executes_done_iff _ _ _).mp compared
              exact ⟨.inSync, .inSync object current dryRun decodes (Bool.eq_false_iff.mpr same),
                by simp [DriftTally.count]⟩
        | error err =>
            dsimp only at compared
            split at compared
            · rename_i notFound
              rcases applyDrifted_cases object _ after later compared with
                ⟨stored, rfl, rfl⟩ | ⟨failure, rfl, rfl⟩
              · exact ⟨.created, .created object dryRun stored err decodes notFound,
                  by simp [DriftTally.count]⟩
              · exact ⟨.uncreated, .uncreated object dryRun err failure decodes notFound,
                  by simp [DriftTally.count]⟩
            · rename_i other
              obtain ⟨rfl, rfl⟩ := (executes_done_iff _ _ _).mp compared
              exact ⟨.unreadable, .unreadable object dryRun err decodes
                (Bool.eq_false_iff.mpr other),
                by simp [DriftTally.count]⟩

private theorem applyTemplateResourceLoop_visits (templates : List Template)
    (tally after : DriftTally)
    (trace : List (Exchange client))
    (execution : Executes (applyTemplateResourceLoop platform templates tally) trace after) :
    ∃ exits, Visits platform templates trace exits ∧
      after = exits.foldl DriftTally.count tally := by
  induction templates generalizing tally trace with
  | nil =>
      obtain ⟨rfl, rfl⟩ := (executes_done_iff _ _ _).mp execution
      exact ⟨[], .nil, rfl⟩
  | cons template rest ih =>
      obtain ⟨front, back, middle, rfl, first, second⟩ := (executes_bind_iff _ _ _ _).mp execution
      obtain ⟨exit, visit, rfl⟩ :=
        applyTemplateResource_visit platform template tally middle front first
      obtain ⟨exits, visits, rfl⟩ := ih (tally.count exit) back second
      exact ⟨exit :: exits, .cons template rest front back exit exits visit visits, rfl⟩

private theorem foldl_count (exits : List Exit) (tally : DriftTally) :
    exits.foldl DriftTally.count tally =
      { syncedResources := tally.syncedResources + exits.countP Exit.isSynced
        driftDetected := tally.driftDetected || exits.any Exit.isDrifted } := by
  induction exits generalizing tally with
  | nil => simp
  | cons exit rest ih =>
      rw [List.foldl_cons, ih, List.countP_cons, List.any_cons]
      simp only [DriftTally.count, Bool.or_assoc, Int.natCast_add, DriftTally.mk.injEq, and_true]
      cases exit.isSynced with
      | true =>
          simp only [if_true, Int.natCast_one]
          omega
      | false => simp

end

def sentStatus : Exchange client → Option KubeTemplateStatus
  | ⟨.updateStatus template, _⟩ => some template.status
  | _ => none

def Passes (platform : Platform) (kubeTemplate : KubeTemplate) (trace : List (Exchange client))
    (exits : List Exit) : Prop :=
  ∃ visits now writes, trace = visits ++ ⟨.now, now⟩ :: writes ∧
    Visits platform kubeTemplate.spec.templates visits exits ∧
    if exits.any Exit.isDrifted = true ∨ kubeTemplate.status.lastReconcileTime = none then
      ∃ answer, writes = [⟨.updateStatus { kubeTemplate with
        status := reconciledStatus kubeTemplate.spec.templates.length
          { syncedResources := exits.countP Exit.isSynced
            driftDetected := exits.any Exit.isDrifted } now kubeTemplate.status }, answer⟩]
    else writes = []

theorem applyTemplateResources_passes (platform : Platform) (kubeTemplate : KubeTemplate)
    (trace : List (Exchange client)) (result : Option GoError)
    (execution : Executes (applyTemplateResources platform kubeTemplate) trace result) :
    ∃ exits, Passes platform kubeTemplate trace exits := by
  obtain ⟨visits, back, tally, rfl, loops, ending⟩ := (executes_bind_iff _ _ _ _).mp execution
  obtain ⟨exits, visited, counted⟩ :=
    applyTemplateResourceLoop_visits platform kubeTemplate.spec.templates _ tally visits loops
  rw [foldl_count, Bool.false_or, Int.zero_add] at counted
  simp only [timeNow, updateStatus, call_bind, done_bind] at ending
  obtain ⟨now, writes, rfl, written⟩ := (executes_call_iff _ _ _ _).mp ending
  refine ⟨exits, visits, now, writes, rfl, visited, ?_⟩
  rw [counted] at written
  split at written
  · rename_i needed
    rw [if_pos (by simpa using needed)]
    obtain ⟨answer, later, rfl, ended⟩ := (executes_call_iff _ _ _ _).mp written
    cases answer with
    | _ =>
        obtain ⟨rfl, _same⟩ := (executes_done_iff _ _ _).mp ended
        exact ⟨_, rfl⟩
  · rename_i skipped
    rw [if_neg (by simpa using skipped)]
    exact ((executes_done_iff _ _ _).mp written).1

theorem Visit.sends_nothing {platform : Platform} {template : Template}
    {trace : List (Exchange client)} {exit : Exit} (visit : Visit platform template trace exit) :
    trace.filterMap sentStatus = [] := by
  cases visit <;> rfl

theorem Visits.sends_nothing {platform : Platform} {templates : List Template}
    {trace : List (Exchange client)} {exits : List Exit}
    (visits : Visits platform templates trace exits) : trace.filterMap sentStatus = [] := by
  induction visits with
  | nil => rfl
  | cons template rest front back exit exits first later ih =>
      rw [List.filterMap_append, first.sends_nothing, ih, List.append_nil]

private theorem drifted_of_corrected {exits : List Exit}
    (corrected : exits.any Exit.isCorrected = true) :
    exits.any Exit.isDrifted = true := by
  obtain ⟨exit, member, isCorrected⟩ := List.any_eq_true.mp corrected
  refine List.any_eq_true.mpr ⟨exit, member, ?_⟩
  cases exit <;> first | rfl | cases isCorrected

/-- The flag says what was found, the count is to say what was corrected. -/
theorem count_right_iff (count : Int) (exits : List Exit) :
    count + (if exits.any Exit.isDrifted = true then 1 else 0) =
        count + (if exits.any Exit.isCorrected = true then 1 else 0) ↔
      (exits.any Exit.isDrifted = true → exits.any Exit.isCorrected = true) := by
  by_cases corrected : exits.any Exit.isCorrected = true
  · rw [if_pos (drifted_of_corrected corrected), if_pos corrected]
    exact ⟨fun _ _ => corrected, fun _ => rfl⟩
  · rw [if_neg corrected]
    by_cases drifted : exits.any Exit.isDrifted = true
    · rw [if_pos drifted]
      constructor
      · intro equal
        omega
      · intro right
        exact absurd (right drifted) corrected
    · rw [if_neg drifted]
      exact ⟨fun _ found => absurd found drifted, fun _ => rfl⟩

/-- The status has the numbers of the turns.  The drift count is right exactly when drift
that was found was also corrected somewhere. -/
def Accounted (platform : Platform) (kubeTemplate : KubeTemplate)
    (trace : List (Exchange client)) (status : KubeTemplateStatus) : Prop :=
  ∃ visits rest exits, trace = visits ++ rest ∧
    (∀ exchange, exchange ∈ rest → exchange.request.onTemplate) ∧
    Visits platform kubeTemplate.spec.templates visits exits ∧
    status.resourcesTotal = kubeTemplate.spec.templates.length ∧
    status.resourcesSynced = exits.countP Exit.isSynced ∧
    (status.driftDetectionCount = kubeTemplate.status.driftDetectionCount +
        (if exits.any Exit.isCorrected = true then 1 else 0) ↔
      (exits.any Exit.isDrifted = true → exits.any Exit.isCorrected = true))

theorem reconciledStatus_counts (total : Int) (tally : DriftTally) (now : Time)
    (status : KubeTemplateStatus) :
    (reconciledStatus total tally now status).resourcesTotal = total ∧
      (reconciledStatus total tally now status).resourcesSynced = tally.syncedResources ∧
      (reconciledStatus total tally now status).driftDetectionCount =
        status.driftDetectionCount + (if tally.driftDetected = true then 1 else 0) := by
  unfold reconciledStatus
  dsimp only
  split
  · exact ⟨rfl, rfl, rfl⟩
  · exact ⟨rfl, rfl, (Int.add_zero _).symm⟩

/-- Every pass of `applyTemplateResources` that writes the status. -/
theorem drift_accounted (platform : Platform) (kubeTemplate : KubeTemplate)
    (trace : List (Exchange client)) (result : Option GoError)
    (execution : Executes (applyTemplateResources platform kubeTemplate) trace result)
    (status : KubeTemplateStatus) (writes : status ∈ trace.filterMap sentStatus) :
    Accounted platform kubeTemplate trace status := by
  obtain ⟨exits, visits, now, updates, rfl, visited, ending⟩ :=
    applyTemplateResources_passes platform kubeTemplate trace result execution
  rw [List.filterMap_append, visited.sends_nothing, List.nil_append] at writes
  split at ending
  · obtain ⟨answer, rfl⟩ := ending
    have isStatus := List.mem_singleton.mp writes
    dsimp only at isStatus
    obtain ⟨total, synced, count⟩ := reconciledStatus_counts kubeTemplate.spec.templates.length
      { syncedResources := exits.countP Exit.isSynced
        driftDetected := exits.any Exit.isDrifted } now kubeTemplate.status
    rw [← isStatus] at total synced count
    refine ⟨visits, _, exits, rfl, ?_, visited, total, synced, ?_⟩
    · intro exchange member
      simp only [List.mem_cons, List.not_mem_nil, or_false] at member
      rcases member with rfl | rfl
      · trivial
      · trivial
    · rw [count]
      exact count_right_iff kubeTemplate.status.driftDetectionCount exits
  · rw [ending] at writes
    cases writes

/-- The cluster has the other mode, and a real Patch gets the given answer. -/
def driftedServer (corrected : Except GoError Unstructured) :
    (request : Call) → Unit → request.Answer × Unit
  | .getResource _ _ _, _ => (.ok (Reference.configMap "settings" "slow"), ())
  | .patch _ _ false, _ => (corrected, ())
  | request, _ => (Reference.bareAnswer request, ())

def driftedTemplate : KubeTemplate :=
  Reference.kubeTemplate [Reference.settingsTemplate]

def driftPass (corrected : Except GoError Unstructured) : List (Exchange client) :=
  traceWith (driftedServer corrected) (applyTemplateResources comparingPlatform driftedTemplate) ()

def correctedStatus : KubeTemplateStatus :=
  reconciledStatus 1 { syncedResources := 1, driftDetected := true } 0 driftedTemplate.status

theorem drift_accounted_corrected :
    correctedStatus.driftDetectionCount = 1 ∧
      Accounted comparingPlatform driftedTemplate
        (driftPass (.ok (Reference.configMap "settings" "fast"))) correctedStatus := by
  refine ⟨rfl, drift_accounted comparingPlatform driftedTemplate
    (driftPass (.ok (Reference.configMap "settings" "fast"))) _ (executes_runWith _ _ _)
    correctedStatus ?_⟩
  have written : (driftPass (.ok (Reference.configMap "settings" "fast"))).filterMap sentStatus =
      [correctedStatus] := rfl
  rw [written]
  exact List.mem_singleton_self _

theorem refused_correction_counted :
    driftedTemplate.status.driftDetectionCount = 0 ∧
      (driftPass (.error ⟨.other, "forbidden"⟩)).filterMap issuedPatch =
        [Reference.configMap "settings" "fast"] ∧
      (driftPass (.error ⟨.other, "forbidden"⟩)).filterMap successfulPatch = [] ∧
      ((driftPass (.error ⟨.other, "forbidden"⟩)).filterMap sentStatus).map
        KubeTemplateStatus.driftDetectionCount = [1] :=
  ⟨rfl, rfl, rfl, rfl⟩

end KubeTemplater.Controller
