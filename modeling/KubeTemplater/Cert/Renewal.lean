/-
The CA that `ensureCA` returns has not expired.

A new CA is used without a look at its own end, in the trust that it takes the name of
the old one when that expires.  It does when the promotion completes; a promotion that
has deleted the old CA and is not completed is never taken up again.
-/

import KubeTemplater.Cert.Rotation

namespace KubeTemplater.Cert

open Library Library.Program

variable (m : Manager)

/-- A run of a history that is asked about at the time: a run begins at most a day after
the last one, and those that end in the preceding year have no failure. -/
structure Admissible (time : Time) (cluster : Cluster) (run : Run) : Prop where
  soon : (run.wait : Time) ≤ checkInterval
  smooth : ∀ next, cluster.step m run = some next → time - 365 * day ≤ next.clock →
    Smooth m cluster run

def Completes (cluster : Cluster) (run : Run) : Prop :=
  ∀ next, cluster.step m run = some next → .deleteSecret m.caSecret ∈ next.written →
    .deleteSecret m.caSecretNew ∈ next.written

inductive Lineage (cluster : Cluster) : Prop where
  | absent (noCurrent : cluster.secrets m.caSecret = none)
      (noNew : cluster.secrets m.caSecretNew = none)
  | single (current : Certificate × PrivateKey) (isCurrent : HasCA cluster m.caSecret current)
      (noNew : cluster.secrets m.caSecretNew = none)
  | pair (old new : Certificate × PrivateKey) (isOld : HasCA cluster m.caSecret old)
      (isNew : HasCA cluster m.caSecretNew new)
      (younger : old.1.notAfter + caValidityDuration - caRenewThreshold - second ≤ new.1.notAfter)

variable {cluster before : Cluster}

theorem Lineage.congr {after : Cluster} (lineage : Lineage m before)
    (current : after.secrets m.caSecret = before.secrets m.caSecret)
    (new : after.secrets m.caSecretNew = before.secrets m.caSecretNew) : Lineage m after := by
  cases lineage with
  | absent noCurrent noNew => exact .absent (current.trans noCurrent) (new.trans noNew)
  | single ca isCurrent noNew => exact .single ca (isCurrent.congr current) (new.trans noNew)
  | pair old young isOld isNew younger =>
      exact .pair old young (isOld.congr current) (isNew.congr new) younger

private theorem hasCA_created {key : NamespacedName} {caCert : Certificate} {caKey : PrivateKey}
    {begun : Time} {after : Cluster} (fresh : Fresh begun caCert caKey)
    (made : Effect (.createSecret (newCASecret key caCert caKey)) before after) :
    HasCA after key (caCert, caKey) := by
  obtain ⟨version, secrets⟩ := made.2.secrets
  refine ⟨⟨{ newCASecret key caCert caKey with resourceVersion := version }, ?_, ?_⟩,
    fresh.publicKey⟩
  · rw [secrets]
    exact Function.update_self _ _ _
  · exact parseCAFromSecret_new key caCert caKey

theorem HasCA.present {key : NamespacedName} {pair : Certificate × PrivateKey}
    (has : HasCA cluster key pair) :
    cluster.secrets key ≠ none := by
  obtain ⟨⟨secret, isStored, _⟩, _⟩ := has
  rw [isStored]
  exact Option.some_ne_none secret

theorem Promotion.lineage {newSecret : Secret} {after : Cluster}
    (promotion : Promotion m newSecret before after) (lineage : Lineage m before)
    (isNew : before.secrets m.caSecretNew = some newSecret) (begun : before.written = [])
    (completes : .deleteSecret m.caSecret ∈ after.written →
      .deleteSecret m.caSecretNew ∈ after.written) : Lineage m after := by
  have untouched := m.caSecret_ne_caSecretNew
  cases promotion with
  | none quiet => exact lineage.congr m (congrFun quiet.secrets _) (congrFun quiet.secrets _)
  | removed removal =>
      rw [removal.written, begun] at completes
      have deleted := completes List.mem_cons_self
      rw [List.mem_singleton, CertCall.deleteSecret.injEq] at deleted
      exact absurd deleted.symm untouched
  | created middle removal creation =>
      rw [creation.2.written, removal.written, begun] at completes
      have deleted := completes (List.mem_cons_of_mem _ List.mem_cons_self)
      simp only [List.mem_cons, reduceCtorEq, CertCall.deleteSecret.injEq, List.not_mem_nil,
        or_false, false_or] at deleted
      exact absurd deleted.symm untouched
  | completed first second removal creation cleanup =>
      cases lineage with
      | absent noCurrent noNew => cases noNew.symm.trans isNew
      | single current isCurrent noNew => cases noNew.symm.trans isNew
      | pair old new isOld isNewCA younger =>
          obtain ⟨⟨found, isFound, parses⟩, own⟩ := isNewCA
          cases isNew.symm.trans isFound
          obtain ⟨current, isCurrent, same⟩ := promoted_data m creation
          refine .single new ⟨⟨current, ?_, (parseCAFromSecret_data same).trans parses⟩, own⟩ ?_
          · rw [cleanup.secrets, Function.update_of_ne untouched]
            exact isCurrent
          · rw [cleanup.secrets]
            exact Function.update_self _ _ _

/-- What `ensureCA` does to them when a promotion it begins completes. -/
theorem CAEffect.lineage {after : Cluster} (effect : CAEffect m before after)
    (lineage : Lineage m before) (begun : before.written = [])
    (completes : .deleteSecret m.caSecret ∈ after.written →
      .deleteSecret m.caSecretNew ∈ after.written) : Lineage m after := by
  cases effect with
  | none quiet =>
      exact lineage.congr m (congrFun quiet.secrets _) (congrFun quiet.secrets _)
  | generated caCert caKey fresh effect =>
      have absent : before.secrets m.caSecret = Option.none := effect.1
      cases lineage with
      | absent noCurrent noNew =>
          refine .single _ (hasCA_created fresh effect) ?_
          rw [created_others effect m.caSecret_ne_caSecretNew.symm]
          exact noNew
      | single current isCurrent noNew => exact absurd absent isCurrent.present
      | pair old new isOld isNew younger => exact absurd absent isOld.present
  | renewed secret current caCert caKey isStored parses checked near fresh effect =>
      have absent : before.secrets m.caSecretNew = Option.none := effect.1
      have still := created_others effect m.caSecret_ne_caSecretNew
      cases lineage with
      | absent noCurrent noNew => cases noCurrent.symm.trans isStored
      | single old isCurrent noNew =>
          obtain ⟨⟨found, isFound, parsesFound⟩, own⟩ := isCurrent
          cases isStored.symm.trans isFound
          cases parses.symm.trans parsesFound
          refine .pair current _ ⟨⟨secret, still.trans isStored, parses⟩, own⟩
            (hasCA_created fresh effect) ?_
          obtain ⟨now, early, isEnd⟩ := fresh.notAfter
          have rounded := lt_wholeSeconds (now + caValidityDuration)
          show _ ≤ caCert.notAfter
          lia
      | pair old new isOld isNew younger => exact absurd absent isNew.present
  | promoting newSecret oldSecret new old isNew parsesNew isOld parsesOld expired promotion =>
      exact promotion.lineage m lineage isNew begun completes

private theorem step_lineage {next : Cluster} {run : Run} (keyed : Keyed cluster)
    (lineage : Lineage m cluster) (completes : Completes m cluster run)
    (taken : cluster.step m run = some next) : Lineage m next := by
  obtain ⟨middle, effect⟩ := step_effect m keyed taken
  have begun : Lineage m (cluster.begin run.wait) := lineage.congr m rfl rfl
  have throughCA := effect.ca.lineage m begun rfl ?_
  · exact throughCA.congr m (effect.server.others m m.caSecret_ne_serverSecret)
      (effect.server.others m m.caSecretNew_ne_serverSecret)
  · intro deleted
    have completed := completes next taken ((effect.server.deleted_iff m).mpr deleted)
    exact (effect.server.deleted_iff m).mp completed

def Lasting (cluster : Cluster) : Prop :=
  ∀ new, HasCA cluster m.caSecretNew new → cluster.clock + checkInterval ≤ new.1.notAfter

theorem HasCA.unique {key : NamespacedName} {first second : Certificate × PrivateKey}
    (one : HasCA cluster key first) (other : HasCA cluster key second) : first = second := by
  obtain ⟨⟨secret, isStored, parses⟩, _⟩ := one
  obtain ⟨⟨found, isFound, parsesFound⟩, _⟩ := other
  cases isStored.symm.trans isFound
  cases parses.symm.trans parsesFound
  rfl

/-- `ensureCA` without a failure leaves such a state behind. -/
theorem ensureCA_lasting (lineage : Lineage m cluster) :
    Lasting m (runWith Cluster.serve (ensureCA m) cluster).2 := by
  have clock := runWith_clock (ensureCA m) cluster
  have alone {after : Cluster} (noNew : after.secrets m.caSecretNew = none) : Lasting m after :=
    fun new isNew => absurd noNew isNew.present
  cases lineage with
  | absent noCurrent noNew =>
      rw [ensureCA_absent m noNew noCurrent]
      refine alone ?_
      rw [withCA_others cluster m.caSecret_ne_caSecretNew.symm]
      exact noNew
  | single current isCurrent noNew =>
      obtain ⟨⟨secret, isStored, parses⟩, own⟩ := isCurrent
      rw [ensureCA_current m noNew isStored parses] at clock ⊢
      split at clock <;> rename_i near
      · rw [if_pos near]
        intro new isNew
        cases (hasCA_withCA cluster m.caSecretNew).unique isNew
        have lasting := freshCA_lasting cluster
        simp only [checkInterval, caValidityDuration, day, second] at *
        lia
      · rw [if_neg near]
        exact alone noNew
  | pair old young isOld isNew younger =>
      obtain ⟨⟨oldSecret, storedOld, parsesOld⟩, ownOld⟩ := isOld
      obtain ⟨⟨newSecret, storedNew, parsesNew⟩, ownNew⟩ := isNew
      rw [ensureCA_new m storedNew parsesNew storedOld parsesOld]
      split
      · exact alone (Function.update_self _ _ _)
      · rename_i unexpired
        intro new isNew
        have same := HasCA.unique ⟨⟨newSecret, storedNew, parsesNew⟩, ownNew⟩ isNew
        cases same
        have unexpired := Int.not_lt.mp unexpired
        simp only [checkInterval, caValidityDuration, caRenewThreshold, day, second] at *
        lia

private theorem step_lasting {next : Cluster} {run : Run} (keyed : Keyed cluster)
    (lineage : Lineage m cluster) (smooth : Smooth m cluster run)
    (taken : cluster.step m run = some next) : Lasting m next := by
  have begun : Keyed (cluster.begin run.wait) := ⟨keyed.secrets, keyed.configurations⟩
  have lasting := ensureCA_lasting m (lineage.congr m rfl rfl : Lineage m (cluster.begin run.wait))
  have same := ensureCertificate_others m begun m.caSecretNew_ne_serverSecret
  have clock := runWith_clock (ensureCertificate m) (cluster.begin run.wait)
  rw [← runWith_clock (ensureCA m) (cluster.begin run.wait)] at clock
  rw [← step_smooth m smooth taken] at same clock
  intro new isNew
  unfold HasCA at isNew
  rw [same] at isNew
  rw [clock]
  exact lasting new isNew

/-- The CA `ensureCA` returns within a day of a run that has left such a state. -/
theorem ensureCA_unexpired (lineage : Lineage m cluster) (lasting : Lasting m cluster) {wait : Nat}
    (soon : (wait : Time) ≤ checkInterval) :
    ∃ ca after, runWith Cluster.serve (ensureCA m) (cluster.begin wait) = (.ok ca, after) ∧
      ca.1.expired (cluster.clock + wait) = false := by
  have fresh : (cluster.begin wait).freshCA.1.expired (cluster.clock + wait) = false := by
    have rounded := freshCA_lasting (cluster.begin wait)
    have clock : (cluster.begin wait).clock = cluster.clock + wait := rfl
    refine decide_eq_false ?_
    simp only [caValidityDuration, day, second] at *
    lia
  cases lineage with
  | absent noCurrent noNew =>
      exact ⟨_, _, @ensureCA_absent m (cluster.begin wait) noNew noCurrent, fresh⟩
  | single current isCurrent noNew =>
      obtain ⟨⟨secret, isStored, parses⟩, own⟩ := isCurrent
      have ensured := @ensureCA_current m (cluster.begin wait) _ _ noNew isStored parses
      split at ensured <;> rename_i near
      · exact ⟨_, _, ensured, fresh⟩
      · refine ⟨_, _, ensured, decide_eq_false ?_⟩
        have clock : (cluster.begin wait).clock = cluster.clock + wait := rfl
        have positive : 0 ≤ caRenewThreshold := by decide
        lia
  | pair old new isOld isNew younger =>
      have enough := lasting new isNew
      obtain ⟨⟨oldSecret, storedOld, parsesOld⟩, ownOld⟩ := isOld
      obtain ⟨⟨newSecret, storedNew, parsesNew⟩, ownNew⟩ := isNew
      have ensured := @ensureCA_new m (cluster.begin wait) _ _ _ _ storedNew parsesNew storedOld
        parsesOld
      refine ⟨_, _, ensured, decide_eq_false ?_⟩
      lia

/-- What is known in the states of a history that is asked about at the time. -/
structure Renewing (time : Time) (cluster : Cluster) : Prop where
  keyed : Keyed cluster
  lineage : Lineage m cluster
  lasting : time - 365 * day ≤ cluster.clock → Lasting m cluster

private theorem step_renewing {time : Time} {next : Cluster} {run : Run}
    (renewing : Renewing m time cluster) (admissible : Admissible m time cluster run)
    (completes : Completes m cluster run) (taken : cluster.step m run = some next) :
    Renewing m time next := by
  refine ⟨step_keyed m renewing.keyed taken,
    step_lineage m renewing.keyed renewing.lineage completes taken, ?_⟩
  intro recent
  exact step_lasting m renewing.keyed renewing.lineage (admissible.smooth next taken recent) taken

/-- When every promotion that is begun completes, a year without failures is enough. -/
theorem ca_renewal (start final : Cluster) (keyed : Keyed start)
    (noCurrent : start.secrets m.caSecret = none) (noNew : start.secrets m.caSecretNew = none)
    (runs : List Run) (ran : run (Cluster.step m) start runs = some final) (wait : Nat)
    (soon : (wait : Time) ≤ checkInterval)
    (history : Along (Cluster.step m) (Admissible m (final.clock + wait)) start runs)
    (completes : Along (Cluster.step m) (Completes m) start runs) :
    ∃ ca after, runWith Cluster.serve (ensureCA m) (final.begin wait) = (.ok ca, after) ∧
      ca.1.expired (final.clock + wait) = false := by
  have begun : Renewing m (final.clock + wait) start :=
    ⟨keyed, .absent noCurrent noNew, fun _ new isNew => absurd noNew isNew.present⟩
  have renewing := throughout_of_along (Cluster.step m)
    (fun cluster run => Admissible m (final.clock + wait) cluster run ∧ Completes m cluster run)
    (Renewing m (final.clock + wait))
    (fun _ _ _ here condition taken => step_renewing m here condition.1 condition.2 taken)
    start runs begun (along_and history completes)
  have last := renewing.last ran
  refine ensureCA_unexpired m last.lineage (last.lasting ?_) soon
  simp only [checkInterval, day, second] at *
  lia

theorem Daily.admissible {run : Run} (daily : Daily m cluster run) (time : Time) :
    Admissible m time cluster run :=
  ⟨daily.soon, fun _ _ _ => daily.smooth⟩

/-- Without a failure `ensureCA` completes the promotion it begins. -/
theorem ensureCA_completes (lineage : Lineage m cluster) (begun : cluster.written = []) :
    ∃ ca after, runWith Cluster.serve (ensureCA m) cluster = (.ok ca, after) ∧
      (.deleteSecret m.caSecret ∈ after.written → .deleteSecret m.caSecretNew ∈ after.written) := by
  have none {after : Cluster} (same : after.written = cluster.written) {key : NamespacedName} :
      .deleteSecret key ∉ after.written := by
    rw [same, begun]
    exact List.not_mem_nil
  have made (key : NamespacedName) {removed : NamespacedName} :
      .deleteSecret removed ∉ (cluster.withCA key).written := by
    show .deleteSecret removed ∉ _ :: cluster.written
    rw [begun, List.mem_singleton]
    exact nofun
  cases lineage with
  | absent noCurrent noNew =>
      exact ⟨_, _, ensureCA_absent m noNew noCurrent, fun deleted => absurd deleted (made _)⟩
  | single current isCurrent noNew =>
      obtain ⟨⟨secret, isStored, parses⟩, _⟩ := isCurrent
      have ensured := ensureCA_current m noNew isStored parses
      split at ensured
      · exact ⟨_, _, ensured, fun deleted => absurd deleted (made _)⟩
      · exact ⟨_, _, ensured, fun deleted => absurd deleted (none rfl)⟩
  | pair old new isOld isNew younger =>
      obtain ⟨⟨oldSecret, storedOld, parsesOld⟩, _⟩ := isOld
      obtain ⟨⟨newSecret, storedNew, parsesNew⟩, _⟩ := isNew
      have ensured := ensureCA_new m storedNew parsesNew storedOld parsesOld
      split at ensured
      · exact ⟨_, _, ensured, fun _ => List.mem_cons_self⟩
      · exact ⟨_, _, ensured, fun deleted => absurd deleted (none rfl)⟩

theorem Smooth.completes {run : Run} (smooth : Smooth m cluster run) (keyed : Keyed cluster)
    (lineage : Lineage m cluster) : Completes m cluster run := by
  intro next taken
  have begun : Keyed (cluster.begin run.wait) := ⟨keyed.secrets, keyed.configurations⟩
  obtain ⟨ca, middle, served, completed⟩ := ensureCA_completes m
    (lineage.congr m rfl rfl : Lineage m (cluster.begin run.wait)) rfl
  have effect := ensureCA_served m (cluster.begin run.wait)
  rw [served] at effect
  have server := @ensureServerCert_served m middle ca.1 ca.2 (effect.keyed m begun)
  rw [step_smooth m smooth taken, ensureCertificate_served m served, server.deleted_iff m,
    server.deleted_iff m]
  exact completed

private theorem completes_along {runs : List Run} (keyed : Keyed cluster)
    (lineage : Lineage m cluster)
    (schedule : Along (Cluster.step m) (Daily m) cluster runs) :
    Along (Cluster.step m) (Completes m) cluster runs := by
  have invariant := throughout_of_along (Cluster.step m) (Daily m)
    (fun cluster => Keyed cluster ∧ Lineage m cluster) ?_ cluster runs ⟨keyed, lineage⟩ schedule
  · refine invariant.along_both schedule ?_
    intro cluster run here daily
    exact daily.smooth.completes m here.1 here.2
  · intro cluster run next here daily taken
    have completes := daily.smooth.completes m here.1 here.2
    exact ⟨step_keyed m here.1 taken, step_lineage m here.1 here.2 completes taken⟩

/-- Ten years of daily runs, the last of which gives the name of the old CA to the new one. -/
theorem ca_renewal_chart :
    ∃ runs final new,
      run (Cluster.step chartManager) (Cluster.installed chartConfiguration 0) runs = some final ∧
      HasCA final chartManager.caSecret new ∧ final.secrets chartManager.caSecretNew = none ∧
      new.1.notAfter = 6937 * day ∧
      ∃ ca after, runWith Cluster.serve (ensureCA chartManager) (final.begin dayWait) =
          (.ok ca, after) ∧
        ca.1.expired (final.clock + dayWait) = false := by
  obtain ⟨initial, first, old, daily, taken, keyed, clock, isOld, noNew, endOld⟩ :=
    exists_first chartManager chartConfiguration
  obtain ⟨final, new, reaches, isNew, alone, endNew⟩ :=
    exists_promoted chartManager keyed clock isOld noNew endOld
  obtain ⟨runs, ran, schedule⟩ := (reaches_step chartManager daily taken).trans _ reaches
  refine ⟨runs, final, new, ran, isNew, alone, endNew, ?_⟩
  refine ca_renewal chartManager (Cluster.installed chartConfiguration 0) final
    (keyed_installed _ _) rfl rfl runs ran dayWait (by decide) ?_ ?_
  · exact schedule.mono (fun _ _ daily => daily.admissible chartManager _)
  · exact completes_along chartManager (keyed_installed _ _) (.absent rfl rfl) schedule

def Instant (run : Run) : Prop := ∀ reply ∈ run.replies, reply.elapsed = 0

private theorem respond_clock {reply : Reply} (instant : reply.elapsed = 0) (request : CertCall)
    (cluster : Cluster) : (respond reply request cluster).2.clock = cluster.clock := by
  have now : (cluster.later reply.elapsed).clock = cluster.clock := by
    rw [instant]
    exact Int.add_zero cluster.clock
  rcases respond_cases reply request cluster with served | ⟨_, _, _, _, same⟩
  · rw [served, served_clock]
    exact now
  · rcases same with same | same
    · rw [same]
      exact now
    · rw [same, served_clock]
      exact now

private theorem follow_clock {α : Type} (program : Program certApi α) {replies : List Reply}
    (instant : ∀ reply ∈ replies, reply.elapsed = 0) (cluster : Cluster) :
    (program.follow respond replies cluster).2.clock = cluster.clock := by
  induction program generalizing replies cluster with
  | done result => rfl
  | call request next ih =>
      cases replies with
      | nil => rfl
      | cons reply rest =>
          obtain ⟨here, later⟩ := List.forall_mem_cons.mp instant
          simp only [Program.follow]
          rw [ih _ later]
          exact respond_clock here request cluster

private theorem step_instant {next : Cluster} {run : Run} (instant : Instant run)
    (taken : cluster.step m run = some next) : next.clock = cluster.clock + run.wait := by
  cases taken
  exact follow_clock (ensureCertificate m) instant (cluster.begin run.wait)

/-- The old CA is deleted, and the call that gives its name to the new one fails. -/
def unpromotedRun : Run :=
  { wait := dayWait
    replies := [.smooth, .smooth, .smooth, .smooth,
      { elapsed := 0, fate := .fails (errorf "timeout") }] ++ List.replicate 20 .smooth }

theorem follow_served {α : Type} {request : CertCall} {answer : request.Answer}
    {next : request.Answer → Program certApi α} {after : Cluster} {replies : List Reply}
    (served : before.serve request = (answer, after)) :
    (@Program.call certApi α request next).follow respond (.smooth :: replies) before =
      (next answer).follow respond replies after := by
  simp only [Program.follow, respond_smooth, served]

private theorem unpromoted {old new : Certificate × PrivateKey} (keyed : Keyed cluster)
    (isOld : HasCA cluster m.caSecret old) (isNew : HasCA cluster m.caSecretNew new)
    (expired : old.1.notAfter < (cluster.begin dayWait).clock) :
    (cluster.perform m unpromotedRun).2.secrets m.caSecret = none ∧
      HasCA (cluster.perform m unpromotedRun).2 m.caSecretNew new := by
  obtain ⟨⟨oldSecret, storedOld, parsesOld⟩, ownOld⟩ := isOld
  obtain ⟨⟨newSecret, storedNew, parsesNew⟩, ownNew⟩ := isNew
  have begun : Keyed (cluster.begin dayWait) := ⟨keyed.secrets, keyed.configurations⟩
  have removal : Removed m.caSecret (cluster.begin dayWait)
      ((cluster.begin dayWait).removeSecret m.caSecret) := ⟨rfl, rfl, rfl, Int.le_refl _⟩
  have removed := (begun.removed removal).quiet (quiet_later _ 0)
  -- the replies up to the failed call are used by `ensureCA`, the others by what follows it
  have reached : (cluster.perform m unpromotedRun).2 =
      ((ensureServerCert m new.1 new.2).follow respond (List.replicate 20 .smooth)
        (((cluster.begin dayWait).removeSecret m.caSecret).later 0)).2 := by
    simp only [Cluster.perform, unpromotedRun, ensureCertificate, ensureCA, ensureNewCA, getSecret,
      timeNow, call_bind, done_bind, List.cons_append, List.nil_append]
    rw [follow_served (@served_getSecret (cluster.begin dayWait) _ _ storedNew)]
    simp only [parsesNew, call_bind]
    rw [follow_served (@served_getSecret (cluster.begin dayWait) _ _ storedOld)]
    simp only [parsesOld, call_bind]
    rw [follow_served (served_now _), if_pos expired]
    simp only [promoteCA, deleteSecret, createSecret, call_bind, done_bind]
    rw [follow_served (@served_deleteSecret (cluster.begin dayWait) _ _ storedOld)]
    rfl
  have effect := ((ensureServerCert_sustains m new.1 new.2 removed).follow
    (List.replicate 20 .smooth)).1
  rw [← reached] at effect
  have current := effect.others m m.caSecret_ne_serverSecret
  have still := effect.others m m.caSecretNew_ne_serverSecret
  refine ⟨current.trans (Function.update_self _ _ _), ⟨newSecret, still.trans ?_, parsesNew⟩,
    ownNew⟩
  exact (Function.update_of_ne m.caSecret_ne_caSecretNew.symm _ _).trans storedNew

/-- Runs that take no time, of a history that is asked about at the time. -/
def AtOnce (time : Time) (cluster : Cluster) (run : Run) : Prop :=
  Instant run ∧ Admissible m time cluster run

theorem Daily.reaches {first last : Cluster} (reaches : Reaches m (Daily m) first last)
    (time : Time) : Reaches m (AtOnce m time) first last := by
  obtain ⟨runs, ran, schedule⟩ := reaches
  refine ⟨runs, ran, schedule.mono ?_⟩
  intro cluster run daily
  refine ⟨?_, daily.admissible m time⟩
  intro reply member
  rw [daily.smooth.replies reply member]
  rfl

/-- The first day on which the old CA has expired: it is deleted, and nothing takes its
place. -/
theorem exists_orphan (time : Time) (configuration : ValidatingWebhookConfiguration)
    (late : 3652 * day < time - 365 * day) :
    ∃ cluster new, Reaches m (AtOnce m time) (Cluster.installed configuration 0) cluster ∧
      Keyed cluster ∧ cluster.clock = 3652 * day ∧ cluster.secrets m.caSecret = none ∧
      HasCA cluster m.caSecretNew new ∧ new.1.notAfter = 6937 * day := by
  obtain ⟨initial, first, old, daily, taken, keyed, clock, isOld, noNew, endOld⟩ :=
    exists_first m configuration
  obtain ⟨last, new, reaches, keyedLast, clockLast, isOld, isNew, endNew⟩ :=
    exists_lastDay m keyed clock isOld noNew endOld
  have reachesLast := (reaches_step m daily taken).trans m reaches
  have clockBegun : last.clock + day = 3652 * day := by
    rw [clockLast]
    rfl
  have instant : Instant unpromotedRun := by
    have all : unpromotedRun.replies.all (fun reply => reply.elapsed == 0) = true := by decide
    intro reply member
    exact eq_of_beq (List.all_eq_true.mp all reply member)
  have admissible : Admissible m time last unpromotedRun := by
    refine ⟨by decide, ?_⟩
    intro next taken recent
    have same : next.clock = 3652 * day := (step_instant m instant taken).trans clockBegun
    lia
  obtain ⟨noCurrent, isNew⟩ := unpromoted m keyedLast isOld isNew (by
    show _ < last.clock + day
    rw [clockBegun, endOld]
    decide)
  refine ⟨_, new, (Daily.reaches m reachesLast time).trans m
    (reaches_step m ⟨instant, admissible⟩ rfl), step_keyed m keyedLast rfl, ?_, noCurrent, isNew,
    endNew⟩
  rw [step_instant m instant rfl]
  exact clockBegun

/-- One failed call, and ten years later `ensureCA` returns an expired CA although every
call since has succeeded. -/
theorem ca_renewal_stuck :
    ∃ runs final,
      run (Cluster.step chartManager) (Cluster.installed chartConfiguration 0) runs = some final ∧
      Along (Cluster.step chartManager) (AtOnce chartManager (final.clock + day))
        (Cluster.installed chartConfiguration 0) runs ∧
      ∃ ca after, runWith Cluster.serve (ensureCA chartManager) (final.begin dayWait) =
          (.ok ca, after) ∧
        ca.1.expired (final.clock + day) = true := by
  obtain ⟨first, new, reaches, keyed, clock, noCurrent, ⟨⟨secret, isStored, parses⟩, _⟩, isEnd⟩ :=
    exists_orphan chartManager (6938 * day) chartConfiguration (by decide)
  obtain ⟨last, reachesLast, _keyed, clockLast, sameCurrent, sameNew⟩ :=
    exists_days chartManager (6937 * day) keyed
      (fun now sameCurrent sameNew _ => congrArg Prod.snd (ensureCA_orphan chartManager
        (sameNew.trans isStored) parses (sameCurrent.trans noCurrent))) 3285
      (by rw [clock]; decide)
  have time : last.clock + day = 6938 * day := by
    rw [clockLast, clock]
    rfl
  obtain ⟨runs, ran, along⟩ := reaches.trans _ (Daily.reaches _ reachesLast (6938 * day))
  refine ⟨runs, last, ran, ?_, new, _, @ensureCA_orphan chartManager (last.begin dayWait)
    _ _ (sameNew.trans isStored) parses (sameCurrent.trans noCurrent), ?_⟩
  · rw [time]
    exact along
  · rw [time]
    refine decide_eq_true ?_
    rw [isEnd]
    decide

end KubeTemplater.Cert
