/-
The new CA is not lost before it expires.

The Secret of the new CA is deleted only after the same data has been stored under the
name of the old one, and a Secret under that name is deleted only when its certificate
has expired.
-/

import KubeTemplater.Cert.Frames

namespace KubeTemplater.Cert

open Library Library.Program

variable (m : Manager)

def HoldsCA (cluster : Cluster) (pair : Certificate × PrivateKey) : Prop :=
  ∃ secret, (cluster.secrets m.caSecret = some secret ∨
    cluster.secrets m.caSecretNew = some secret) ∧ parseCAFromSecret secret = .ok pair

variable {before after : Cluster}

theorem promoted_data {newSecret : Secret}
    (creation : Effect (.createSecret (promotedSecret m newSecret)) before after) :
    ∃ current, after.secrets m.caSecret = some current ∧ current.data = newSecret.data := by
  obtain ⟨version, secrets⟩ := creation.2.secrets
  refine ⟨{ promotedSecret m newSecret with resourceVersion := version }, ?_, rfl⟩
  rw [secrets]
  exact Function.update_self _ _ _

variable {pair : Certificate × PrivateKey}

/-- A promotion keeps the new CA, and the old one unless it has expired. -/
theorem Promotion.holds {newSecret oldSecret : Secret} {old : Certificate × PrivateKey}
    (promotion : Promotion m newSecret before after)
    (isNew : before.secrets m.caSecretNew = some newSecret)
    (isOld : before.secrets m.caSecret = some oldSecret)
    (parsesOld : parseCAFromSecret oldSecret = .ok old) (different : pair ≠ old)
    (holds : HoldsCA m before pair) : HoldsCA m after pair := by
  -- the pair is that of the new Secret
  have parsesNew : parseCAFromSecret newSecret = .ok pair := by
    obtain ⟨secret, current | new, parses⟩ := holds
    · rw [isOld] at current
      cases current
      rw [parsesOld] at parses
      cases parses
      exact absurd rfl different
    · rw [isNew] at new
      cases new
      exact parses
  have kept {middle : Cluster} (removal : Removed m.caSecret before middle) :
      middle.secrets m.caSecretNew = some newSecret := by
    rw [removal.secrets, Function.update_of_ne m.caSecret_ne_caSecretNew.symm]
    exact isNew
  cases promotion with
  | none quiet => exact ⟨newSecret, .inr (quiet.secrets ▸ isNew), parsesNew⟩
  | removed removal => exact ⟨newSecret, .inr (kept removal), parsesNew⟩
  | created middle removal creation =>
      obtain ⟨version, secrets⟩ := creation.2.secrets
      refine ⟨newSecret, .inr ?_, parsesNew⟩
      have away : m.caSecretNew ≠ (promotedSecret m newSecret).key :=
        m.caSecret_ne_caSecretNew.symm
      rw [secrets, Function.update_of_ne away]
      exact kept removal
  | completed first second removal creation cleanup =>
      obtain ⟨current, isCurrent, same⟩ := promoted_data m creation
      refine ⟨current, .inl ?_, ?_⟩
      · rw [cleanup.secrets, Function.update_of_ne m.caSecret_ne_caSecretNew]
        exact isCurrent
      · rw [← parsesNew]
        exact parseCAFromSecret_data same

/-- A Secret that is created where there was none takes nothing away. -/
theorem HoldsCA.created {secret : Secret} (holds : HoldsCA m before pair)
    (creation : Effect (.createSecret secret) before after) : HoldsCA m after pair := by
  have still {key : NamespacedName} {found : Secret} (isStored : before.secrets key = some found) :
      after.secrets key = some found := by
    have away : key ≠ secret.key := by
      rintro rfl
      cases creation.1.symm.trans isStored
    rw [created_others creation away]
    exact isStored
  obtain ⟨found, current | new, parses⟩ := holds
  · exact ⟨found, .inl (still current), parses⟩
  · exact ⟨found, .inr (still new), parses⟩

theorem CAEffect.holds (effect : CAEffect m before after) (holds : HoldsCA m before pair)
    (unexpired : after.clock ≤ pair.1.notAfter) : HoldsCA m after pair := by
  cases effect with
  | none quiet =>
      unfold HoldsCA
      rw [quiet.secrets]
      exact holds
  | generated caCert caKey fresh effect => exact holds.created m effect
  | renewed secret current caCert caKey isStored parses checked near fresh effect =>
      exact holds.created m effect
  | promoting newSecret oldSecret new old isNew parsesNew isOld parsesOld expired promotion =>
      refine promotion.holds m isNew isOld parsesOld ?_ holds
      rintro rfl
      exact absurd expired (Int.not_lt.mpr unexpired)

private theorem step_holds {cluster next : Cluster} {run : Run} (keyed : Keyed cluster)
    (taken : cluster.step m run = some next) (holds : HoldsCA m cluster pair)
    (unexpired : next.clock ≤ pair.1.notAfter) :
    HoldsCA m next pair := by
  obtain ⟨middle, effect⟩ := step_effect m keyed taken
  have begun : HoldsCA m (cluster.begin run.wait) pair := holds
  have late := Int.le_trans (effect.server.clock m) unexpired
  obtain ⟨secret, place, parses⟩ := effect.ca.holds m begun late
  refine ⟨secret, ?_, parses⟩
  rw [effect.server.others m m.caSecret_ne_serverSecret,
    effect.server.others m m.caSecretNew_ne_serverSecret]
  exact place

def Promotes (before after : Cluster) : Prop :=
  .deleteSecret m.caSecretNew ∈ after.written ∨
    ∃ old current, before.secrets m.caSecret = some old ∧
      after.secrets m.caSecret = some current ∧ current ≠ old

def PromotesExactly (cluster : Cluster) (run : Run) : Prop :=
  ∀ next, cluster.step m run = some next → Promotes m cluster next →
    ∃ newSecret current, cluster.secrets m.caSecretNew = some newSecret ∧
      next.secrets m.caSecret = some current ∧ current.data = newSecret.data

theorem Promotes.deleted (promotes : Promotes m before after)
    (same : before.secrets m.caSecret ≠ none →
      after.secrets m.caSecret = before.secrets m.caSecret) :
    .deleteSecret m.caSecretNew ∈ after.written := by
  rcases promotes with deleted | ⟨old, current, isOld, isCurrent, replaced⟩
  · exact deleted
  · have present : before.secrets m.caSecret ≠ none := by
      rw [isOld]
      exact Option.some_ne_none old
    rw [same present, isOld] at isCurrent
    cases isCurrent
    exact absurd rfl replaced

theorem Promotion.exact {newSecret : Secret} (promotion : Promotion m newSecret before after)
    (begun : before.written = []) (promotes : Promotes m before after) :
    ∃ current, after.secrets m.caSecret = some current ∧ current.data = newSecret.data := by
  cases promotion with
  | none quiet =>
      have deleted := promotes.deleted m (fun _ => by rw [quiet.secrets])
      rw [quiet.written, begun] at deleted
      cases deleted
  | removed removal =>
      rcases promotes with deleted | ⟨old, current, isOld, isCurrent, replaced⟩
      · rw [removal.written, begun, List.mem_singleton, CertCall.deleteSecret.injEq] at deleted
        exact absurd deleted.symm m.caSecret_ne_caSecretNew
      · rw [removal.secrets, Function.update_self] at isCurrent
        cases isCurrent
  | created middle removal creation => exact promoted_data m creation
  | completed first second removal creation cleanup =>
      obtain ⟨current, isCurrent, same⟩ := promoted_data m creation
      refine ⟨current, ?_, same⟩
      rw [cleanup.secrets, Function.update_of_ne m.caSecret_ne_caSecretNew]
      exact isCurrent

theorem CAEffect.exact (effect : CAEffect m before after) (begun : before.written = [])
    (promotes : Promotes m before after) :
    ∃ newSecret current, before.secrets m.caSecretNew = some newSecret ∧
      after.secrets m.caSecret = some current ∧ current.data = newSecret.data := by
  -- a Secret created where there was none is no promotion
  have uncreated {secret : Secret} (made : Effect (.createSecret secret) before after) : False := by
    have deleted := promotes.deleted m (fun present => created_others made (fun isKey =>
      present (isKey ▸ made.1)))
    rw [made.2.written, begun] at deleted
    simp only [List.mem_cons, reduceCtorEq, List.not_mem_nil, or_self] at deleted
  cases effect with
  | none quiet =>
      have deleted := promotes.deleted m (fun _ => by rw [quiet.secrets])
      rw [quiet.written, begun] at deleted
      cases deleted
  | generated caCert caKey fresh effect => exact (uncreated effect).elim
  | renewed secret current caCert caKey isStored parses checked near fresh effect =>
      exact (uncreated effect).elim
  | promoting newSecret oldSecret new old isNew parsesNew isOld parsesOld expired promotion =>
      obtain ⟨current, isCurrent, same⟩ := promotion.exact m begun promotes
      exact ⟨newSecret, current, isNew, isCurrent, same⟩

private theorem step_promotes {cluster : Cluster} (keyed : Keyed cluster) (run : Run) :
    PromotesExactly m cluster run := by
  intro next taken promotes
  obtain ⟨middle, effect⟩ := step_effect m keyed taken
  have sameCurrent : next.secrets m.caSecret = middle.secrets m.caSecret :=
    effect.server.others m m.caSecret_ne_serverSecret
  have byCA : Promotes m (cluster.begin run.wait) middle := by
    rcases promotes with deleted | ⟨old, current, isOld, isCurrent, replaced⟩
    · exact .inl ((effect.server.deleted_iff m).mp deleted)
    · exact .inr ⟨old, current, isOld, sameCurrent ▸ isCurrent, replaced⟩
  obtain ⟨newSecret, current, isNew, isCurrent, same⟩ := effect.ca.exact m rfl byCA
  refine ⟨newSecret, current, isNew, ?_, same⟩
  rw [sameCurrent]
  exact isCurrent

/-- Whatever fails and wherever runs are stopped: a new CA once stored is there as long as
it has not expired, and a promotion gives the current CA exactly its data. -/
theorem successor_never_lost (start : Cluster) (keyed : Keyed start) (runs : List Run) :
    Throughout (Cluster.step m)
      (fun cluster => ∀ secret pair, cluster.secrets m.caSecretNew = some secret →
        parseCAFromSecret secret = .ok pair → ∀ later,
          Throughout (Cluster.step m)
            (fun final => final.clock ≤ pair.1.notAfter → HoldsCA m final pair) cluster later)
      start runs ∧
    Along (Cluster.step m) (PromotesExactly m) start runs := by
  have reached := throughout_of_preserved (Cluster.step m) Keyed
    (fun _ _ _ here taken => step_keyed m here taken) start runs keyed
  refine ⟨reached.mono ?_, reached.along (fun _ run here => step_promotes m here run)⟩
  intro cluster here secret pair isNew parses later
  have stays := throughout_of_preserved (Cluster.step m)
    (fun final => Keyed final ∧ (final.clock ≤ pair.1.notAfter → HoldsCA m final pair)) ?_
    cluster later ⟨here, fun _ => ⟨secret, .inr isNew, parses⟩⟩
  · exact stays.mono (fun _ both => both.2)
  · rintro before run after ⟨keyed, holds⟩ taken
    refine ⟨step_keyed m keyed taken, ?_⟩
    intro unexpired
    exact step_holds m keyed taken
      (holds (Int.le_trans (step_clock m keyed taken) unexpired)) unexpired

/-- The CA is made, ten years later its successor, and the promotion is stopped before the
old name is free; the next run completes it. -/
def successionRuns : List Run :=
  [smoothRun 0, smoothRun 315360000000000000,
    { wait := dayWait
      replies := [.smooth, .smooth, .smooth, { elapsed := 0, fate := .fails (errorf "timeout") }] },
    smoothRun dayWait]

theorem successor_never_lost_chart :
    (run (Cluster.step chartManager) (Cluster.installed chartConfiguration 0)
      successionRuns).any (fun final =>
        final.written.any (fun write => write == .deleteSecret chartManager.caSecretNew)) = true ∧
    Throughout (Cluster.step chartManager)
      (fun cluster => ∀ secret pair, cluster.secrets chartManager.caSecretNew = some secret →
        parseCAFromSecret secret = .ok pair → ∀ later,
          Throughout (Cluster.step chartManager)
            (fun final => final.clock ≤ pair.1.notAfter → HoldsCA chartManager final pair)
            cluster later)
      (Cluster.installed chartConfiguration 0) successionRuns ∧
    Along (Cluster.step chartManager) (PromotesExactly chartManager)
      (Cluster.installed chartConfiguration 0) successionRuns :=
  ⟨by decide +kernel, successor_never_lost chartManager _ (keyed_installed _ _) successionRuns⟩

end KubeTemplater.Cert
