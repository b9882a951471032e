/-
Rotation without a gap.

As long as runs are at most a day apart and nothing fails, there is a CA with a year left
or two CAs of which the old one has not expired, and the server certificate is signed by
one of them and has a month left.
-/

import KubeTemplater.Cert.Succession
import KubeTemplater.Cert.Unfailing

namespace KubeTemplater.Cert

open Library Library.Program

private theorem wholeSeconds_le (time : Time) : wholeSeconds time ≤ time := by
  unfold wholeSeconds second
  lia

theorem lt_wholeSeconds (time : Time) : time < wholeSeconds time + second := by
  unfold wholeSeconds second
  lia

variable (m : Manager)

def HasCA (cluster : Cluster) (key : NamespacedName) (pair : Certificate × PrivateKey) : Prop :=
  (∃ secret, cluster.secrets key = some secret ∧ parseCAFromSecret secret = .ok pair) ∧
    pair.1.publicKey = pair.2.publicKey

inductive Phase (cluster : Cluster) : Prop where
  | single (current : Certificate × PrivateKey) (isCurrent : HasCA cluster m.caSecret current)
      (noNew : cluster.secrets m.caSecretNew = none)
      (far : cluster.clock + caRenewThreshold ≤ current.1.notAfter)
  | transition (old new : Certificate × PrivateKey) (isOld : HasCA cluster m.caSecret old)
      (isNew : HasCA cluster m.caSecretNew new) (unexpired : cluster.clock ≤ old.1.notAfter)
      (younger : old.1.notAfter + caValidityDuration - caRenewThreshold - second ≤ new.1.notAfter)

structure Ensured (before after : Cluster) (ca : Certificate × PrivateKey) : Prop where
  phase : Phase m after
  own : ca.1.publicKey = ca.2.publicKey
  held : HoldsCA m after ca
  /-- It outlives a server certificate made now. -/
  lasting : before.clock + certValidityDuration ≤ ca.1.notAfter
  /-- A CA that was held is still trusted, unless it has expired. -/
  trusted : ∀ signer, HoldsCA m before signer → before.clock ≤ signer.1.notAfter →
    HoldsCA m after signer ∧ (signer.1 = ca.1 ∨
      ∃ secret old, after.secrets m.caSecret = some secret ∧
        parseCAFromSecret secret = .ok old ∧ old.1 = signer.1)

theorem freshCA_lasting (cluster : Cluster) :
    cluster.clock + caValidityDuration - second < cluster.freshCA.1.notAfter := by
  have rounded := lt_wholeSeconds (cluster.clock + caValidityDuration)
  show _ < wholeSeconds (cluster.clock + caValidityDuration)
  lia

theorem hasCA_withCA (cluster : Cluster) (key : NamespacedName) :
    HasCA (cluster.withCA key) key cluster.freshCA :=
  ⟨⟨_, Function.update_self _ _ _, parseCAFromSecret_new key _ _⟩, rfl⟩

private theorem hasCA_promote {cluster : Cluster} {newSecret : Secret}
    {new : Certificate × PrivateKey}
    (parses : parseCAFromSecret newSecret = .ok new) (own : new.1.publicKey = new.2.publicKey) :
    HasCA (cluster.promote m newSecret) m.caSecret new := by
  refine ⟨⟨{ promotedSecret m newSecret with resourceVersion := cluster.revision + 1 + 1 }, ?_, ?_⟩,
    own⟩
  · show Function.update (Function.update (cluster.removeSecret m.caSecret).secrets m.caSecret _)
      m.caSecretNew none m.caSecret = _
    rw [Function.update_of_ne m.caSecret_ne_caSecretNew, Function.update_self]
    rfl
  · rw [← parses]
    exact parseCAFromSecret_data rfl

theorem withCA_others (cluster : Cluster) {key other : NamespacedName} (different : other ≠ key) :
    (cluster.withCA key).secrets other = cluster.secrets other :=
  Function.update_of_ne different _ _

variable {cluster : Cluster}

theorem holdsCA_iff {pair : Certificate × PrivateKey} :
    HoldsCA m cluster pair ↔
      (∃ secret, cluster.secrets m.caSecret = some secret ∧ parseCAFromSecret secret = .ok pair) ∨
      ∃ secret, cluster.secrets m.caSecretNew = some secret ∧
        parseCAFromSecret secret = .ok pair := by
  simp only [HoldsCA, or_and_right, exists_or]

private theorem ensured_first (noCurrent : cluster.secrets m.caSecret = none)
    (noNew : cluster.secrets m.caSecretNew = none) :
    ∃ ca after, runWith Cluster.serve (ensureCA m) cluster = (.ok ca, after) ∧
      Ensured m cluster after ca := by
  have lasting := freshCA_lasting cluster
  have made := hasCA_withCA cluster m.caSecret
  have stillNone : (cluster.withCA m.caSecret).secrets m.caSecretNew = none := by
    rw [withCA_others cluster m.caSecret_ne_caSecretNew.symm]
    exact noNew
  refine ⟨_, _, ensureCA_absent m noNew noCurrent, .single _ made stillNone ?_, rfl,
    (holdsCA_iff m).mpr (.inl made.1), ?_, ?_⟩
  · show cluster.clock + caRenewThreshold ≤ _
    simp only [caValidityDuration, caRenewThreshold, day, second] at *
    lia
  · simp only [caValidityDuration, certValidityDuration, day, second] at *
    lia
  · rintro signer ⟨secret, current | new, parses⟩
    · cases noCurrent.symm.trans current
    · cases noNew.symm.trans new

/-- A CA that has come within a year of its end gets a successor. -/
theorem ensured_single {current : Certificate × PrivateKey}
    (isCurrent : HasCA cluster m.caSecret current) (noNew : cluster.secrets m.caSecretNew = none)
    (far : cluster.clock + caRenewThreshold ≤ current.1.notAfter + checkInterval) :
    ∃ ca after, runWith Cluster.serve (ensureCA m) cluster = (.ok ca, after) ∧
      Ensured m cluster after ca := by
  obtain ⟨⟨secret, isStored, parses⟩, own⟩ := isCurrent
  have ensured := ensureCA_current m noNew isStored parses
  have only {signer : Certificate × PrivateKey} (holds : HoldsCA m cluster signer) :
      signer = current := by
    rcases (holdsCA_iff m).mp holds with ⟨found, isFound, parsesFound⟩ | ⟨found, isFound, _⟩
    · cases isStored.symm.trans isFound
      cases parses.symm.trans parsesFound
      rfl
    · cases noNew.symm.trans isFound
  split at ensured
  · rename_i near
    have lasting := freshCA_lasting cluster
    have made := hasCA_withCA cluster m.caSecretNew
    have still : (cluster.withCA m.caSecretNew).secrets m.caSecret = some secret := by
      rw [withCA_others cluster m.caSecret_ne_caSecretNew]
      exact isStored
    refine ⟨_, _, ensured, .transition current _ ⟨⟨secret, still, parses⟩, own⟩ made ?_ ?_, rfl,
      (holdsCA_iff m).mpr (.inr made.1), ?_, ?_⟩
    · show cluster.clock ≤ _
      simp only [checkInterval, caRenewThreshold, day, second] at *
      lia
    · lia
    · simp only [caValidityDuration, certValidityDuration, day, second] at *
      lia
    · intro signer holds _unexpired
      cases only holds
      exact ⟨⟨secret, .inl still, parses⟩, .inr ⟨secret, current, still, parses, rfl⟩⟩
  · rename_i enough
    have enough := Int.not_lt.mp enough
    refine ⟨_, _, ensured, .single current ⟨⟨secret, isStored, parses⟩, own⟩ noNew enough, own,
      ⟨secret, .inl isStored, parses⟩, enough, ?_⟩
    intro signer holds _unexpired
    cases only holds
    exact ⟨holds, .inl rfl⟩

private theorem ensured_transition {old new : Certificate × PrivateKey}
    (isOld : HasCA cluster m.caSecret old) (isNew : HasCA cluster m.caSecretNew new)
    (recent : cluster.clock ≤ old.1.notAfter + checkInterval)
    (younger : old.1.notAfter + caValidityDuration - caRenewThreshold - second ≤ new.1.notAfter) :
    ∃ ca after, runWith Cluster.serve (ensureCA m) cluster = (.ok ca, after) ∧
      Ensured m cluster after ca := by
  obtain ⟨⟨oldSecret, storedOld, parsesOld⟩, ownOld⟩ := isOld
  obtain ⟨⟨newSecret, storedNew, parsesNew⟩, ownNew⟩ := isNew
  have ensured := ensureCA_new m storedNew parsesNew storedOld parsesOld
  have lasting : cluster.clock + caRenewThreshold ≤ new.1.notAfter := by
    simp only [checkInterval, caValidityDuration, caRenewThreshold, day, second] at *
    lia
  have either {signer : Certificate × PrivateKey} (holds : HoldsCA m cluster signer) :
      signer = old ∨ signer = new := by
    rcases (holdsCA_iff m).mp holds with ⟨found, isFound, parses⟩ | ⟨found, isFound, parses⟩
    · cases storedOld.symm.trans isFound
      cases parsesOld.symm.trans parses
      exact .inl rfl
    · cases storedNew.symm.trans isFound
      cases parsesNew.symm.trans parses
      exact .inr rfl
  split at ensured
  · rename_i expired
    -- the old CA has expired: the new one is alone under its name
    have promoted : HasCA (cluster.promote m newSecret) m.caSecret new :=
      hasCA_promote m parsesNew ownNew
    have held := (holdsCA_iff m).mpr (.inl promoted.1)
    refine ⟨_, _, ensured, .single new promoted (Function.update_self _ _ _) lasting, ownNew, held,
      lasting, ?_⟩
    intro signer holds unexpired
    rcases either holds with rfl | rfl
    · exact absurd expired (Int.not_lt.mpr unexpired)
    · exact ⟨held, .inl rfl⟩
  · rename_i unexpired
    refine ⟨_, _, ensured, .transition old new ⟨⟨oldSecret, storedOld, parsesOld⟩, ownOld⟩
      ⟨⟨newSecret, storedNew, parsesNew⟩, ownNew⟩ (Int.not_lt.mp unexpired) younger, ownNew,
      ⟨newSecret, .inr storedNew, parsesNew⟩, lasting, ?_⟩
    intro signer holds _unexpired
    refine ⟨holds, ?_⟩
    rcases either holds with rfl | rfl
    · exact .inr ⟨oldSecret, _, storedOld, parsesOld, rfl⟩
    · exact .inl rfl

/-- A run within a day of the last one. -/
theorem ensured_next (phase : Phase m cluster) {wait : Nat} (soon : (wait : Time) ≤ checkInterval) :
    ∃ ca after, runWith Cluster.serve (ensureCA m) (cluster.begin wait) = (.ok ca, after) ∧
      Ensured m (cluster.begin wait) after ca := by
  have clock : (cluster.begin wait).clock = cluster.clock + wait := rfl
  cases phase with
  | single current isCurrent noNew far =>
      have later : (cluster.begin wait).clock + caRenewThreshold ≤
          current.1.notAfter + checkInterval := by lia
      exact ensured_single m isCurrent noNew later
  | transition old new isOld isNew unexpired younger =>
      have later : (cluster.begin wait).clock ≤ old.1.notAfter + checkInterval := by lia
      exact ensured_transition m isOld isNew later younger

structure Certified (cluster : Cluster) (cert : Certificate) (signer : Certificate × PrivateKey) :
    Prop where
  isCert : cluster.serverCert m = some cert
  held : HoldsCA m cluster signer
  signed : cert.signedBy = signer.1.publicKey
  within : cert.notAfter ≤ signer.1.notAfter
  bundle : ∃ configuration, cluster.configurations m.webhookConfigName = some configuration ∧
    ∀ webhook ∈ configuration.webhooks, webhook.caBundle = encodeCertificate signer.1

structure Rotating (cluster : Cluster) : Prop where
  keyed : Keyed cluster
  phase : Phase m cluster
  certified : ∃ cert signer, Certified m cluster cert signer ∧
    cluster.clock + renewThreshold ≤ cert.notAfter

theorem HasCA.congr {now : Cluster} {key : NamespacedName} {pair : Certificate × PrivateKey}
    (has : HasCA cluster key pair) (same : now.secrets key = cluster.secrets key) :
    HasCA now key pair := by
  unfold HasCA
  rw [same]
  exact has

theorem Phase.congr {before after : Cluster} (phase : Phase m before)
    (current : after.secrets m.caSecret = before.secrets m.caSecret)
    (new : after.secrets m.caSecretNew = before.secrets m.caSecretNew)
    (clock : after.clock = before.clock) : Phase m after := by
  cases phase with
  | single ca isCurrent noNew far =>
      rw [← clock] at far
      exact .single ca (isCurrent.congr current) (new.trans noNew) far
  | transition old young isOld isNew unexpired younger =>
      rw [← clock] at unexpired
      exact .transition old young (isOld.congr current) (isNew.congr new) unexpired younger

private theorem rotating_renewed {before middle after : Cluster} {ca : Certificate × PrivateKey}
    (ensured : Ensured m before middle ca) (renewed : Renewed m ca.1 ca.2 middle after)
    (sameClock : middle.clock = before.clock) (keyed : Keyed after)
    (clock : after.clock = middle.clock) : Rotating m after := by
  have current := renewed.secrets _ m.caSecret_ne_serverSecret
  have new := renewed.secrets _ m.caSecretNew_ne_serverSecret
  have notAfter : (middle.freshServerCert m ca.2).notAfter =
      wholeSeconds (middle.clock + certValidityDuration) := rfl
  have early := wholeSeconds_le (middle.clock + certValidityDuration)
  have late := lt_wholeSeconds (middle.clock + certValidityDuration)
  refine ⟨keyed, ensured.phase.congr m current new clock, middle.freshServerCert m ca.2, ca,
    ⟨renewed.serverCert, ?_, ensured.own.symm, ?_, renewed.bundle⟩, ?_⟩
  · unfold HoldsCA
    rw [current, new]
    exact ensured.held
  · have lasting := ensured.lasting
    lia
  · simp only [renewThreshold, certValidityDuration, day, second] at *
    lia

section Run

variable {cluster middle : Cluster} {ca : Certificate × PrivateKey} (keyed : Keyed cluster)
  (served : runWith Cluster.serve (ensureCA m) cluster = (.ok ca, middle))
  (ensured : Ensured m cluster middle ca)

include keyed served ensured

private theorem rotating_needed {configuration : ValidatingWebhookConfiguration}
    (isStored : cluster.configurations m.webhookConfigName = some configuration)
    (needed : runWith Cluster.serve (needsServerCertGeneration m ca.1) middle =
      (.ok true, middle)) :
    Rotating m (runWith Cluster.serve (ensureCertificate m) cluster).2 := by
  have effect := ensureCA_served m cluster
  have clock := runWith_clock (ensureCA m) cluster
  rw [served] at effect clock
  have keyedMiddle := effect.keyed m keyed
  have after := (@ensureServerCert_served m middle ca.1 ca.2 keyedMiddle).keyed m keyedMiddle
  have afterClock := runWith_clock (ensureServerCert m ca.1 ca.2) middle
  rw [← effect.configurations] at isStored
  rw [ensureCertificate_served m served]
  rw [ensureServerCert_needed m needed] at after afterClock ⊢
  exact rotating_renewed m ensured (renewServerCert_served m keyedMiddle ensured.own isStored)
    clock after afterClock

private theorem rotating_first {configuration : ValidatingWebhookConfiguration}
    (absent : cluster.secrets m.serverSecret = none)
    (isStored : cluster.configurations m.webhookConfigName = some configuration) :
    Rotating m (runWith Cluster.serve (ensureCertificate m) cluster).2 := by
  have effect := ensureCA_served m cluster
  rw [served] at effect
  have server := effect.others m m.caSecret_ne_serverSecret.symm m.caSecretNew_ne_serverSecret.symm
  exact rotating_needed m keyed served ensured isStored
    (needsServerCertGeneration_absent m ca.1 (server.trans absent))

private theorem rotating_certified {cert : Certificate} {signer : Certificate × PrivateKey}
    (certified : Certified m cluster cert signer) (begun : cluster.written = []) :
    Rotating m (runWith Cluster.serve (ensureCertificate m) cluster).2 ∧
      ((runWith Cluster.serve (ensureCertificate m) cluster).2.storesServerCert m = true →
        cert.notAfter < cluster.clock + renewThreshold) := by
  have effect := ensureCA_served m cluster
  have clock := runWith_clock (ensureCA m) cluster
  rw [served] at effect clock
  have server := effect.others m m.caSecret_ne_serverSecret.symm m.caSecretNew_ne_serverSecret.symm
  obtain ⟨secret, isSecret, parses⟩ := Option.bind_eq_some_iff.mp certified.isCert
  obtain ⟨configuration, isStored, isBundle⟩ := certified.bundle
  rw [← server] at isSecret
  by_cases near : cert.notAfter < middle.clock + renewThreshold
  · refine ⟨?_, fun _ => clock ▸ near⟩
    exact rotating_needed m keyed served ensured isStored
      (needsServerCertGeneration_near m ca.1 isSecret parses near)
  · have enough := Int.not_lt.mp near
    have positive : 0 ≤ renewThreshold := by decide
    have within := certified.within
    have unexpired : cluster.clock ≤ signer.1.notAfter := by lia
    obtain ⟨held, isSigner⟩ := ensured.trusted signer certified.held unexpired
    have kept := needsServerCertGeneration_trusted m isSecret parses near isSigner
      certified.signed (clock ▸ unexpired)
    rw [ensureCertificate_served m served, ensureServerCert_kept m kept]
    have isCert : middle.serverCert m = some cert := by
      unfold Cluster.serverCert
      rw [isSecret]
      exact parses
    have unstored := storesServerCert_false m (effect.writes m (by
      rw [begun]
      exact fun _ impossible => absurd impossible List.not_mem_nil))
    refine ⟨⟨effect.keyed m keyed, ensured.phase, cert, signer, ⟨isCert, held, certified.signed,
      within, configuration, ?_, isBundle⟩, enough⟩, ?_⟩
    · rw [effect.configurations]
      exact isStored
    · intro stores
      exact absurd stores (Bool.eq_false_iff.mp unstored)

end Run

def Serving (cluster : Cluster) (time : Time) : Prop :=
  ∃ cert signer, Certified m cluster cert signer ∧ cert.expired time = false ∧
    signer.1.expired time = false

/-- The run stores a server certificate only when there is none or it has less than a
month left. -/
def RenewsWhenDue (cluster : Cluster) (run : Run) : Prop :=
  ∀ next, cluster.step m run = some next → next.storesServerCert m = true →
    ∀ cert, cluster.serverCert m = some cert →
      cert.notAfter < cluster.clock + run.wait + renewThreshold

theorem Rotating.serving (rotating : Rotating m cluster) {time : Time}
    (soon : time ≤ cluster.clock + checkInterval) : Serving m cluster time := by
  obtain ⟨cert, signer, certified, lasting⟩ := rotating.certified
  have within := certified.within
  have shorter : checkInterval ≤ renewThreshold := by decide
  refine ⟨cert, signer, certified, ?_, ?_⟩
  · refine decide_eq_false (Int.not_lt.mpr ?_)
    lia
  · refine decide_eq_false (Int.not_lt.mpr ?_)
    lia

theorem step_smooth {next : Cluster} {run : Run} (smooth : Smooth m cluster run)
    (taken : cluster.step m run = some next) :
    next = (runWith Cluster.serve (ensureCertificate m) (cluster.begin run.wait)).2 := by
  cases taken
  exact smooth.perform m

private theorem step_rotating {next : Cluster} {run : Run} (rotating : Rotating m cluster)
    (smooth : Smooth m cluster run) (soon : (run.wait : Time) ≤ checkInterval)
    (taken : cluster.step m run = some next) :
    Rotating m next ∧ (next.storesServerCert m = true → ∀ cert, cluster.serverCert m = some cert →
      cert.notAfter < cluster.clock + run.wait + renewThreshold) := by
  have keyed : Keyed (cluster.begin run.wait) :=
    ⟨rotating.keyed.secrets, rotating.keyed.configurations⟩
  obtain ⟨ca, middle, served, ensured⟩ := ensured_next m rotating.phase soon
  obtain ⟨cert, signer, certified, _lasting⟩ := rotating.certified
  have begun : Certified m (cluster.begin run.wait) cert signer :=
    ⟨certified.isCert, certified.held, certified.signed, certified.within, certified.bundle⟩
  obtain ⟨rotates, due⟩ := rotating_certified m keyed served ensured begun rfl
  rw [step_smooth m smooth taken]
  refine ⟨rotates, ?_⟩
  intro stores other isCert
  cases certified.isCert.symm.trans isCert
  exact due stores

private theorem step_first {next : Cluster} {run : Run} (keyed : Keyed cluster)
    (noCurrent : cluster.secrets m.caSecret = none) (noNew : cluster.secrets m.caSecretNew = none)
    (noServer : cluster.secrets m.serverSecret = none)
    {configuration : ValidatingWebhookConfiguration}
    (isStored : cluster.configurations m.webhookConfigName = some configuration)
    (smooth : Smooth m cluster run) (taken : cluster.step m run = some next) :
    Rotating m next := by
  have begun : Keyed (cluster.begin run.wait) := ⟨keyed.secrets, keyed.configurations⟩
  obtain ⟨ca, middle, served, ensured⟩ := @ensured_first m (cluster.begin run.wait) noCurrent noNew
  rw [step_smooth m smooth taken]
  exact rotating_first m begun served ensured noServer isStored

/-- A run without a failure, at most a day after the last one. -/
structure Daily (cluster : Cluster) (run : Run) : Prop where
  smooth : Smooth m cluster run
  soon : (run.wait : Time) ≤ checkInterval

/-- From the end of the first run until a day after the last one the webhook can be called,
and no server certificate is replaced early. -/
theorem zero_downtime (start first : Cluster) (keyed : Keyed start)
    (noCurrent : start.secrets m.caSecret = none) (noNew : start.secrets m.caSecretNew = none)
    (noServer : start.secrets m.serverSecret = none)
    (configuration : ValidatingWebhookConfiguration)
    (isStored : start.configurations m.webhookConfigName = some configuration)
    (run : Run) (smooth : Smooth m start run) (taken : start.step m run = some first)
    (runs : List Run)
    (schedule : Along (Cluster.step m) (Daily m) first runs) :
    Throughout (Cluster.step m)
      (fun cluster => ∀ time, cluster.clock ≤ time → time ≤ cluster.clock + checkInterval →
        Serving m cluster time) first runs ∧
    Along (Cluster.step m) (RenewsWhenDue m) first runs := by
  have begun := step_first m keyed noCurrent noNew noServer isStored smooth taken
  have rotating := throughout_of_along (Cluster.step m) (Daily m) (Rotating m)
    (fun _ _ _ here daily step => (step_rotating m here daily.smooth daily.soon step).1)
    first runs begun schedule
  constructor
  · refine rotating.mono ?_
    intro cluster here time _begun soon
    exact here.serving m soon
  · refine rotating.along_both schedule ?_
    intro cluster run here daily next step
    exact (step_rotating m here daily.smooth daily.soon step).2

def Reaches (condition : Cluster → Run → Prop) (first last : Cluster) : Prop :=
  ∃ runs, run (Cluster.step m) first runs = some last ∧
    Along (Cluster.step m) condition first runs

theorem Reaches.trans {condition : Cluster → Run → Prop} {first middle last : Cluster}
    (early : Reaches m condition first middle) (late : Reaches m condition middle last) :
    Reaches m condition first last := by
  obtain ⟨front, ranFront, alongFront⟩ := early
  obtain ⟨back, ranBack, alongBack⟩ := late
  exact ⟨front ++ back, run_append ranFront ranBack, along_append ranFront alongFront alongBack⟩

theorem reaches_step {condition : Cluster → Run → Prop} {next : Cluster} {run : Run}
    (meets : condition cluster run) (taken : cluster.step m run = some next) :
    Reaches m condition cluster next := by
  cases taken
  exact ⟨[run], rfl, meets, fun _ _ => trivial⟩

/-- A day later, without a failure. -/
theorem exists_nextDay (keyed : Keyed cluster) :
    ∃ run next, Daily m cluster run ∧ cluster.step m run = some next ∧ Keyed next ∧
      next.clock = cluster.clock + day ∧
      ∀ key, key ≠ m.serverSecret → next.secrets key =
        (runWith Cluster.serve (ensureCA m) (cluster.begin dayWait)).2.secrets key := by
  obtain ⟨run, isWait, smooth⟩ := exists_smooth m cluster dayWait
  have begun : Keyed (cluster.begin run.wait) := ⟨keyed.secrets, keyed.configurations⟩
  refine ⟨run, _, ⟨smooth, ?_⟩, rfl, step_keyed m keyed rfl, ?_, ?_⟩
  · rw [isWait]
    decide
  · rw [smooth.perform, runWith_clock, isWait]
    rfl
  · intro key different
    rw [smooth.perform, ensureCertificate_others m begun different, isWait]

/-- Days in which the CAs need nothing. -/
theorem exists_days (limit : Time) (keyed : Keyed cluster)
    (idle : ∀ now : Cluster, now.secrets m.caSecret = cluster.secrets m.caSecret →
      now.secrets m.caSecretNew = cluster.secrets m.caSecretNew → now.clock ≤ limit →
      (runWith Cluster.serve (ensureCA m) now).2 = now) (count : Nat)
    (within : cluster.clock + count * day ≤ limit) :
    ∃ last, Reaches m (Daily m) cluster last ∧ Keyed last ∧
      last.clock = cluster.clock + count * day ∧
      last.secrets m.caSecret = cluster.secrets m.caSecret ∧
      last.secrets m.caSecretNew = cluster.secrets m.caSecretNew := by
  induction count with
  | zero =>
      refine ⟨cluster, ⟨[], rfl, trivial⟩, keyed, ?_, rfl, rfl⟩
      lia
  | succ count ih =>
      have positive : 0 ≤ day := by decide
      have sum : ((count + 1 : Nat) : Int) * day = count * day + day := by
        rw [Int.natCast_add, Int.add_mul]
        lia
      rw [sum] at within ⊢
      obtain ⟨last, reaches, keyedLast, clock, current, new⟩ := ih (by lia)
      obtain ⟨run, next, daily, taken, keyedNext, clockNext, secrets⟩ := exists_nextDay m keyedLast
      have late : (last.begin dayWait).clock ≤ limit := by
        have begun : (last.begin dayWait).clock = last.clock + day := rfl
        lia
      have unchanged := idle (last.begin dayWait) current new late
      rw [unchanged] at secrets
      refine ⟨next, reaches.trans m (reaches_step m daily taken), keyedNext, ?_, ?_, ?_⟩
      · lia
      · exact (secrets _ m.caSecret_ne_serverSecret).trans current
      · exact (secrets _ m.caSecretNew_ne_serverSecret).trans new

theorem exists_first (configuration : ValidatingWebhookConfiguration) :
    ∃ run first current, Daily m (Cluster.installed configuration 0) run ∧
      (Cluster.installed configuration 0).step m run = some first ∧ Keyed first ∧
      first.clock = day ∧ HasCA first m.caSecret current ∧
      first.secrets m.caSecretNew = none ∧ current.1.notAfter = 3651 * day := by
  obtain ⟨run, next, daily, taken, keyed, clock, secrets⟩ :=
    exists_nextDay m (keyed_installed configuration 0)
  rw [@ensureCA_absent m ((Cluster.installed configuration 0).begin dayWait) rfl rfl]
    at secrets
  refine ⟨run, next, _, daily, taken, keyed, ?_, (hasCA_withCA _ m.caSecret).congr
    (secrets _ m.caSecret_ne_serverSecret), ?_, ?_⟩
  · rw [clock]
    exact Int.zero_add day
  · rw [secrets _ m.caSecretNew_ne_serverSecret, withCA_others _ m.caSecret_ne_caSecretNew.symm]
    rfl
  · show wholeSeconds (0 + (dayWait : Nat) + caValidityDuration) = _
    decide

section Decade

variable {first : Cluster} {old : Certificate × PrivateKey} (keyed : Keyed first)
  (clock : first.clock = day) (isOld : HasCA first m.caSecret old)
  (noNew : first.secrets m.caSecretNew = none) (endOld : old.1.notAfter = 3651 * day)

include keyed clock isOld noNew endOld

/-- The first day on which less than a year is left: the new CA. -/
theorem exists_pair :
    ∃ cluster new, Reaches m (Daily m) first cluster ∧ Keyed cluster ∧
      cluster.clock = 3287 * day ∧ HasCA cluster m.caSecret old ∧
      HasCA cluster m.caSecretNew new ∧ new.1.notAfter = 6937 * day := by
  have here := isOld
  obtain ⟨⟨secret, isStored, parses⟩, own⟩ := here
  obtain ⟨last, reaches, keyedLast, clockLast, sameOld, sameNew⟩ :=
    exists_days m (3286 * day) keyed (fun now sameOld sameNew early => by
      rw [ensureCA_current m (sameNew.trans noNew) (sameOld.trans isStored) parses]
      rw [if_neg]
      rw [endOld]
      simp only [caRenewThreshold, day, second] at *
      lia) 3285 (by rw [clock]; decide)
  obtain ⟨run, next, daily, taken, keyedNext, clockNext, secrets⟩ := exists_nextDay m keyedLast
  have clockBegun : (last.begin dayWait).clock = 3287 * day := by
    show last.clock + day = _
    rw [clockLast, clock]
    rfl
  rw [@ensureCA_current m (last.begin dayWait) _ _ (sameNew.trans noNew)
    (sameOld.trans isStored) parses, if_pos (by rw [endOld, clockBegun]; decide)] at secrets
  refine ⟨next, _, reaches.trans m (reaches_step m daily taken), keyedNext, ?_, ?_,
    (hasCA_withCA _ m.caSecretNew).congr (secrets _ m.caSecretNew_ne_serverSecret), ?_⟩
  · rw [clockNext, clockLast, clock]
    rfl
  · refine isOld.congr ?_
    rw [secrets _ m.caSecret_ne_serverSecret, withCA_others _ m.caSecret_ne_caSecretNew]
    exact sameOld
  · show wholeSeconds ((last.begin dayWait).clock + caValidityDuration) = _
    rw [clockBegun]
    decide

/-- The last day of the old CA. -/
theorem exists_lastDay :
    ∃ last new, Reaches m (Daily m) first last ∧ Keyed last ∧ last.clock = 3651 * day ∧
      HasCA last m.caSecret old ∧ HasCA last m.caSecretNew new ∧
      new.1.notAfter = 6937 * day := by
  obtain ⟨middle, new, reaches, keyedMiddle, clockMiddle, isOld, isNew, endNew⟩ :=
    exists_pair m keyed clock isOld noNew endOld
  have hereOld := isOld
  have hereNew := isNew
  obtain ⟨⟨oldSecret, storedOld, parsesOld⟩, _⟩ := hereOld
  obtain ⟨⟨newSecret, storedNew, parsesNew⟩, _⟩ := hereNew
  obtain ⟨last, reachesLast, keyedLast, clockLast, sameOld, sameNew⟩ :=
    exists_days m (3651 * day) keyedMiddle (fun now sameOld sameNew early => by
      rw [ensureCA_new m (sameNew.trans storedNew) parsesNew (sameOld.trans storedOld) parsesOld]
      rw [if_neg]
      rw [endOld]
      exact Int.not_lt.mpr early) 364 (by rw [clockMiddle]; decide)
  refine ⟨last, new, reaches.trans m reachesLast, keyedLast, ?_, isOld.congr sameOld,
    isNew.congr sameNew, endNew⟩
  rw [clockLast, clockMiddle]
  rfl

/-- The day after: the new CA has taken the name of the old one. -/
theorem exists_promoted :
    ∃ final new, Reaches m (Daily m) first final ∧ HasCA final m.caSecret new ∧
      final.secrets m.caSecretNew = none ∧ new.1.notAfter = 6937 * day := by
  obtain ⟨last, new, reaches, keyedLast, clockLast, isOld, isNew, endNew⟩ :=
    exists_lastDay m keyed clock isOld noNew endOld
  obtain ⟨⟨oldSecret, storedOld, parsesOld⟩, _⟩ := isOld
  obtain ⟨⟨newSecret, storedNew, parsesNew⟩, ownNew⟩ := isNew
  obtain ⟨run, next, daily, taken, _, _, secrets⟩ := exists_nextDay m keyedLast
  have clockBegun : (last.begin dayWait).clock = 3652 * day := by
    show last.clock + day = _
    rw [clockLast]
    rfl
  rw [@ensureCA_new m (last.begin dayWait) _ _ _ _ storedNew parsesNew storedOld parsesOld,
    if_pos (by rw [endOld, clockBegun]; decide)] at secrets
  refine ⟨next, new, reaches.trans m (reaches_step m daily taken),
    (hasCA_promote m parsesNew ownNew).congr (secrets _ m.caSecret_ne_serverSecret), ?_, endNew⟩
  rw [secrets _ m.caSecretNew_ne_serverSecret]
  exact Function.update_self _ _ _

end Decade

/-- Ten years of daily runs, in which the CA is renewed and the new one takes its name. -/
theorem zero_downtime_chart :
    ∃ initial first runs final old new,
      (Cluster.installed chartConfiguration 0).step chartManager initial = some first ∧
      run (Cluster.step chartManager) first runs = some final ∧
      HasCA first chartManager.caSecret old ∧ HasCA final chartManager.caSecret new ∧
      old.1.notAfter < new.1.notAfter ∧
      Throughout (Cluster.step chartManager)
        (fun cluster => ∀ time, cluster.clock ≤ time → time ≤ cluster.clock + checkInterval →
          Serving chartManager cluster time) first runs ∧
      Along (Cluster.step chartManager) (RenewsWhenDue chartManager) first runs := by
  obtain ⟨initial, first, old, daily, taken, keyed, clock, isOld, noNew, endOld⟩ :=
    exists_first chartManager chartConfiguration
  obtain ⟨final, new, ⟨runs, ran, along⟩, isNew, _, endNew⟩ :=
    exists_promoted chartManager keyed clock isOld noNew endOld
  refine ⟨initial, first, runs, final, old, new, taken, ran, isOld, isNew, ?_, ?_⟩
  · rw [endOld, endNew]
    decide
  · exact zero_downtime chartManager (Cluster.installed chartConfiguration 0) first
      (keyed_installed _ _) rfl rfl rfl chartConfiguration (by decide +kernel) initial
      daily.smooth taken runs along

end KubeTemplater.Cert
