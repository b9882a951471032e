/-
The CA bundle of the webhook configuration and the server certificate.

The bundle is written only by the run that has just stored a server certificate, and its
error is dropped, so it follows the certificate only as long as that write succeeds.
-/

import KubeTemplater.Cert.Frames

namespace KubeTemplater.Cert

open Library Library.Program

def Pem.certifies (bundle : Pem) (key : Nat) : Bool :=
  bundle.decode.any (fun block =>
    match block.certificate with
    | .ok caCert => caCert.publicKey == key
    | .error _ => false)

private theorem certifies_encodeCertificate (caCert : Certificate) :
    (encodeCertificate caCert).certifies caCert.publicKey = true := by
  simp only [Pem.certifies, encodeCertificate, Pem.decode, Option.any_some, beq_self_eq_true]

namespace Cluster

variable (m : Manager) (cluster : Cluster)

def serverCert : Option Certificate :=
  (cluster.secrets m.serverSecret).bind serverCertificate

def trusts : Bool :=
  (cluster.serverCert m).all (fun cert =>
    (cluster.configurations m.webhookConfigName).any (fun configuration =>
      configuration.webhooks.all (fun webhook => webhook.caBundle.certifies cert.signedBy)))

def storesServerCert : Bool :=
  cluster.written.any (fun write =>
    match write with
    | .createSecret secret => secret.key == m.serverSecret
    | .updateSecret secret => secret.key == m.serverSecret
    | _ => false)

def storesBundle : Bool :=
  cluster.written.any (fun write =>
    match write with
    | .updateConfiguration _ => true
    | _ => false)

end Cluster

variable (m : Manager)

theorem storesServerCert_false {cluster : Cluster}
    (writes : ∀ write ∈ cluster.written, CAWrite m write) :
    cluster.storesServerCert m = false := by
  refine List.any_eq_false.mpr ?_
  intro write member
  have isCA := writes write member
  cases write with
  | createSecret secret =>
      have other : secret.key ≠ m.serverSecret := by
        rcases isCA with isCurrent | isNew
        · rw [isCurrent]
          exact m.caSecret_ne_serverSecret
        · rw [isNew]
          exact m.caSecretNew_ne_serverSecret
      simpa only [beq_iff_eq] using other
  | updateSecret secret => exact isCA.elim
  | _ => exact Bool.false_ne_true

private theorem storesBundle_false {cluster : Cluster}
    (writes : ∀ write ∈ cluster.written, CAWrite m write) : cluster.storesBundle = false := by
  refine List.any_eq_false.mpr ?_
  intro write member
  have isCA := writes write member
  cases write with
  | updateConfiguration configuration => exact isCA.elim
  | _ => exact Bool.false_ne_true

theorem ServerStored.records {caCert cert : Certificate} {secret : Secret}
    {before after : Cluster} (stored : ServerStored m caCert secret cert before after)
    (writes : ∀ write ∈ before.written, CAWrite m write) :
    after.storesServerCert m = true ∧ after.storesBundle = false := by
  have unbundled := storesBundle_false m writes
  unfold Cluster.storesServerCert Cluster.storesBundle at *
  rcases stored.put with put | put
  · simp only [put.written, List.any_cons, stored.own, beq_self_eq_true, Bool.true_or, unbundled,
      Bool.or_false, and_self]
  · simp only [put.written, List.any_cons, stored.own, beq_self_eq_true, Bool.true_or, unbundled,
      Bool.or_false, and_self]

theorem ServerStored.serverCert {caCert cert : Certificate} {secret : Secret}
    {before after : Cluster} (stored : ServerStored m caCert secret cert before after) :
    after.serverCert m = some cert := by
  have isCert (version : Nat) :
      serverCertificate { secret with resourceVersion := version } = some cert := stored.isCert
  unfold Cluster.serverCert
  rw [← stored.own]
  rcases stored.put with put | put
  · obtain ⟨version, secrets⟩ := put.secrets
    rw [secrets, Function.update_self]
    exact isCert version
  · obtain ⟨version, secrets⟩ := put.secrets
    rw [secrets, Function.update_self]
    exact isCert version

/-- The certificate and the bundle written after it belong together. -/
theorem trusts_patched {caCert cert : Certificate} {secret : Secret} {before middle after : Cluster}
    {configuration : ValidatingWebhookConfiguration} (keyed : Keyed middle)
    (stored : ServerStored m caCert secret cert before middle)
    (isStored : middle.configurations m.webhookConfigName = some configuration)
    (patch : Configured (withCABundle caCert configuration) middle after) :
    after.trusts m = true := by
  have isCert : after.serverCert m = some cert := by
    unfold Cluster.serverCert
    rw [patch.secrets]
    exact stored.serverCert m
  obtain ⟨version, configurations⟩ := patch.configurations
  have isName : m.webhookConfigName = (withCABundle caCert configuration).name :=
    (keyed.configurations _ _ isStored).symm
  unfold Cluster.trusts
  rw [isCert, configurations, isName, Function.update_self]
  simp only [Option.all_some, Option.any_some, withCABundle, List.all_map, List.all_eq_true,
    Function.comp_apply, stored.signed, certifies_encodeCertificate, implies_true]

/-- A run that has stored a certificate and a bundle leaves them in agreement, and one
that has stored neither keeps the agreement. -/
theorem step_trusts {cluster next : Cluster} {run : Run} (keyed : Keyed cluster)
    (taken : cluster.step m run = some next)
    (follows : next.storesServerCert m = true → next.storesBundle = true)
    (before : cluster.trusts m = true ∨ next.storesServerCert m = true) :
    next.trusts m = true := by
  obtain ⟨middle, effect⟩ := step_effect m keyed taken
  have begun : Keyed (cluster.begin run.wait) := ⟨keyed.secrets, keyed.configurations⟩
  have writes := effect.ca.writes m (fun _ impossible => absurd impossible List.not_mem_nil)
  cases effect.server with
  | none quiet =>
      have unstored : next.storesServerCert m = false := by
        refine storesServerCert_false m ?_
        rw [quiet.written]
        exact writes
      have trusted := before.resolve_right (Bool.eq_false_iff.mp unstored)
      unfold Cluster.trusts Cluster.serverCert
      rw [quiet.secrets, quiet.configurations, effect.ca.configurations,
        effect.ca.others m m.caSecret_ne_serverSecret.symm m.caSecretNew_ne_serverSecret.symm]
      exact trusted
  | stored caCert secret cert stored =>
      have records := stored.records m writes
      rw [follows records.1] at records
      cases records.2
  | patched caCert secret cert late configuration stored isStored patch =>
      exact trusts_patched m (stored.keyed m (effect.ca.keyed m begun)) stored isStored patch

/-- If the run stores a server certificate, it stores the bundle too. -/
def Bundles (cluster : Cluster) (run : Run) : Prop :=
  ∀ next, cluster.step m run = some next → next.storesServerCert m = true →
    next.storesBundle = true

private theorem trusts_along {cluster : Cluster} {runs : List Run} (keyed : Keyed cluster)
    (trusted : cluster.trusts m = true)
    (follows : Along (Cluster.step m) (Bundles m) cluster runs) :
    Throughout (Cluster.step m) (fun cluster => cluster.trusts m = true) cluster runs := by
  have both := throughout_of_along (Cluster.step m) (Bundles m)
    (fun cluster => Keyed cluster ∧ cluster.trusts m = true) ?_ cluster runs ⟨keyed, trusted⟩
    follows
  · exact both.mono (fun _ here => here.2)
  · intro before run after here follows step
    exact ⟨step_keyed m here.1 step, step_trusts m here.1 step (follows after step) (.inl here.2)⟩

/-- As long as every run that stores a server certificate stores its bundle too, the bundle
has the CA of the certificate: from an installation on, and, whatever came before, after
the first such run. -/
theorem trust_after_renewal (cluster : Cluster) (keyed : Keyed cluster) (runs : List Run)
    (follows : Along (Cluster.step m) (Bundles m) cluster runs) :
    (cluster.secrets m.serverSecret = none →
      Throughout (Cluster.step m) (fun cluster => cluster.trusts m = true) cluster runs) ∧
    ∀ renewal later next, runs = renewal :: later → cluster.step m renewal = some next →
      next.storesServerCert m = true →
      Throughout (Cluster.step m) (fun cluster => cluster.trusts m = true) next later := by
  constructor
  · intro absent
    have trusted : cluster.trusts m = true := by
      unfold Cluster.trusts Cluster.serverCert
      rw [absent]
      rfl
    exact trusts_along m keyed trusted follows
  · rintro renewal later next rfl taken stores
    have trusted := step_trusts m keyed taken (follows.1 next taken) (.inr stores)
    exact trusts_along m (step_keyed m keyed taken) trusted (follows.2 next taken)

theorem trust_after_renewal_chart :
    ∃ next, (Cluster.installed chartConfiguration 0).step chartManager (smoothRun 0) = some next ∧
      (next.serverCert chartManager).isSome = true ∧
      Throughout (Cluster.step chartManager) (fun cluster => cluster.trusts chartManager = true)
        (Cluster.installed chartConfiguration 0)
        [smoothRun 0, { wait := dayWait, replies := [] }, smoothRun dayWait] ∧
      Throughout (Cluster.step chartManager) (fun cluster => cluster.trusts chartManager = true)
        next [{ wait := dayWait, replies := [] }, smoothRun dayWait] := by
  have trusted := trust_after_renewal chartManager (Cluster.installed chartConfiguration 0)
    (keyed_installed _ _) [smoothRun 0, { wait := dayWait, replies := [] }, smoothRun dayWait] ?_
  · refine ⟨_, rfl, ?_, trusted.1 rfl, trusted.2 _ _ _ rfl rfl ?_⟩
    · decide +kernel
    · decide +kernel
  · refine ⟨?_, fun first taken => ?_⟩
    · intro first taken
      cases taken
      decide +kernel
    · cases taken
      refine ⟨?_, fun second taken => ?_⟩
      · intro second taken
        cases taken
        decide +kernel
      · cases taken
        refine ⟨?_, fun _ _ => trivial⟩
        intro last taken
        cases taken
        decide +kernel

def unpatchedRun : Run :=
  { wait := 0
    replies := List.replicate 15 .smooth ++
      [{ elapsed := 0, fate := .fails (errorf "timeout") }] }

/-- The certificate is valid, so the next run does not come back to the bundle. -/
theorem trust_not_restored :
    ∃ cluster final,
      run (Cluster.step chartManager) (Cluster.installed chartConfiguration 0) [unpatchedRun] =
        some cluster ∧
      Smooth chartManager cluster (smoothRun dayWait) ∧
      cluster.step chartManager (smoothRun dayWait) = some final ∧
      (final.serverCert chartManager).isSome = true ∧ final.trusts chartManager = false := by
  refine ⟨_, _, rfl, ⟨fun _ => List.eq_of_mem_replicate, ?_⟩, rfl, ?_, ?_⟩
  · decide +kernel
  · decide +kernel
  · decide +kernel

end KubeTemplater.Cert
