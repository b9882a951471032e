/-
What the functions of the manager do when every call succeeds.
-/

import KubeTemplater.Cert.Trust

namespace KubeTemplater.Cert

open Library Library.Program

section Served

variable {cluster : Cluster}

theorem served_getSecret {key : NamespacedName} {secret : Secret}
    (isStored : cluster.secrets key = some secret) :
    cluster.serve (.getSecret key) = (.ok secret, cluster) := by
  simp only [Cluster.serve, isStored]

theorem served_getSecret_none {key : NamespacedName} (absent : cluster.secrets key = none) :
    cluster.serve (.getSecret key) = (.error (notFound key.name), cluster) := by
  simp only [Cluster.serve, absent]

theorem served_createSecret {secret : Secret} (unset : secret.resourceVersion = 0)
    (absent : cluster.secrets secret.key = none) :
    cluster.serve (.createSecret secret) =
      (.ok (), cluster.putSecret (.createSecret secret) secret) := by
  simp only [Cluster.serve, unset, absent, ne_eq, not_true_eq_false, if_false]

private theorem served_updateSecret {secret stored : Secret}
    (isStored : cluster.secrets secret.key = some stored)
    (current : stored.resourceVersion = secret.resourceVersion) :
    cluster.serve (.updateSecret secret) =
      (.ok (), cluster.putSecret (.updateSecret secret) secret) := by
  simp only [Cluster.serve, isStored, current, if_true]

theorem served_deleteSecret {key : NamespacedName} {secret : Secret}
    (isStored : cluster.secrets key = some secret) :
    cluster.serve (.deleteSecret key) = (.ok (), cluster.removeSecret key) := by
  simp only [Cluster.serve, isStored]

theorem served_now (cluster : Cluster) : cluster.serve .now = (cluster.clock, cluster) := rfl

private theorem served_getConfiguration {name : String}
    {configuration : ValidatingWebhookConfiguration}
    (isStored : cluster.configurations name = some configuration) :
    cluster.serve (.getConfiguration name) = (.ok configuration, cluster) := by
  simp only [Cluster.serve, isStored]

private theorem served_updateConfiguration {configuration stored : ValidatingWebhookConfiguration}
    (isStored : cluster.configurations configuration.name = some stored)
    (current : stored.resourceVersion = configuration.resourceVersion) :
    cluster.serve (.updateConfiguration configuration) =
      (.ok (), cluster.putConfiguration configuration) := by
  simp only [Cluster.serve, isStored, current, if_true]

private theorem served_generateKey (cluster : Cluster) :
    cluster.serve .generateKey =
      (.ok ⟨cluster.drawn⟩, { cluster with drawn := cluster.drawn + 1 }) := rfl

private theorem served_serialNumber (cluster : Cluster) :
    cluster.serve .serialNumber =
      (.ok cluster.drawn, { cluster with drawn := cluster.drawn + 1 }) := rfl

theorem served_clock (request : CertCall) (cluster : Cluster) :
    (cluster.serve request).2.clock = cluster.clock := by
  cases request <;> simp only [Cluster.serve] <;> repeat' split
  all_goals rfl

end Served

theorem runWith_served {α : Type} {request : CertCall} {answer : request.Answer}
    {next : request.Answer → Program certApi α} {before after : Cluster}
    (served : before.serve request = (answer, after)) :
    runWith Cluster.serve (@Program.call certApi α request next) before =
      runWith Cluster.serve (next answer) after := by
  simp only [runWith, served]

theorem runWith_clock {α : Type} (program : Program certApi α) (cluster : Cluster) :
    (runWith Cluster.serve program cluster).2.clock = cluster.clock := by
  induction program generalizing cluster with
  | done result => rfl
  | call request next ih =>
      simp only [runWith]
      rw [ih]
      exact served_clock request cluster

namespace Cluster

def freshCA (cluster : Cluster) : Certificate × PrivateKey :=
  ({ caTemplate (cluster.drawn + 1) cluster.clock cluster.clock with
      notBefore := wholeSeconds cluster.clock
      notAfter := wholeSeconds (cluster.clock + caValidityDuration)
      publicKey := cluster.drawn
      signedBy := cluster.drawn },
    ⟨cluster.drawn⟩)

def draw (cluster : Cluster) : Cluster := { cluster with drawn := cluster.drawn + 2 }

def withCA (cluster : Cluster) (key : NamespacedName) : Cluster :=
  let secret := newCASecret key cluster.freshCA.1 cluster.freshCA.2
  cluster.draw.putSecret (.createSecret secret) secret

def promote (m : Manager) (cluster : Cluster) (newSecret : Secret) : Cluster :=
  ((cluster.removeSecret m.caSecret).putSecret (.createSecret (promotedSecret m newSecret))
    (promotedSecret m newSecret)).removeSecret m.caSecretNew

end Cluster

theorem parseCAFromSecret_new (key : NamespacedName) (caCert : Certificate) (caKey : PrivateKey) :
    parseCAFromSecret (newCASecret key caCert caKey) = .ok (caCert, caKey) := by
  rfl

private theorem generateCA_served {cluster : Cluster} {key : NamespacedName}
    (absent : cluster.secrets key = none) :
    runWith Cluster.serve (generateCA key) cluster =
      (.ok cluster.freshCA, cluster.withCA key) := by
  have created := @served_createSecret cluster.draw
    (newCASecret key cluster.freshCA.1 cluster.freshCA.2) rfl absent
  simp only [generateCA, generateKey, randomSerial, timeNow, createSecret, call_bind, done_bind]
  rw [runWith_served (served_generateKey cluster), runWith_served (served_serialNumber _),
    runWith_served (served_now _), runWith_served (served_now _)]
  exact runWith_served created

section

variable (m : Manager) {cluster : Cluster}

theorem ensureCA_absent (noNew : cluster.secrets m.caSecretNew = none)
    (noCurrent : cluster.secrets m.caSecret = none) :
    runWith Cluster.serve (ensureCA m) cluster =
      (.ok cluster.freshCA, cluster.withCA m.caSecret) := by
  simp only [ensureCA, ensureCurrentCA, getSecret, call_bind, done_bind, runWith,
    served_getSecret_none noNew, served_getSecret_none noCurrent]
  exact generateCA_served noCurrent

/-- Without a new CA: the current one, or a new one when less than a year is left. -/
theorem ensureCA_current {secret : Secret} {current : Certificate × PrivateKey}
    (noNew : cluster.secrets m.caSecretNew = none)
    (isCurrent : cluster.secrets m.caSecret = some secret)
    (parses : parseCAFromSecret secret = .ok current) :
    runWith Cluster.serve (ensureCA m) cluster =
      if current.1.notAfter < cluster.clock + caRenewThreshold then
        (.ok cluster.freshCA, cluster.withCA m.caSecretNew)
      else (.ok current, cluster) := by
  simp only [ensureCA, ensureCurrentCA, getSecret, timeNow, call_bind, done_bind]
  rw [runWith_served (served_getSecret_none noNew), runWith_served (served_getSecret isCurrent)]
  simp only [parses]
  rw [runWith_served (served_now cluster)]
  split
  · rw [runWith_bind, generateCA_served noNew]
    rfl
  · rfl

theorem ensureCA_new {newSecret oldSecret : Secret} {new old : Certificate × PrivateKey}
    (isNew : cluster.secrets m.caSecretNew = some newSecret)
    (parsesNew : parseCAFromSecret newSecret = .ok new)
    (isOld : cluster.secrets m.caSecret = some oldSecret)
    (parsesOld : parseCAFromSecret oldSecret = .ok old) :
    runWith Cluster.serve (ensureCA m) cluster =
      (.ok new,
        if old.1.notAfter < cluster.clock then cluster.promote m newSecret else cluster) := by
  have created := @served_createSecret (cluster.removeSecret m.caSecret)
    (promotedSecret m newSecret) rfl (Function.update_self _ _ _)
  have still : ((cluster.removeSecret m.caSecret).putSecret
      (.createSecret (promotedSecret m newSecret)) (promotedSecret m newSecret)).secrets
        m.caSecretNew = some newSecret := by
    have away := m.caSecret_ne_caSecretNew.symm
    show Function.update (Function.update cluster.secrets m.caSecret none) m.caSecret _
      m.caSecretNew = _
    rw [Function.update_of_ne away, Function.update_of_ne away]
    exact isNew
  simp only [ensureCA, ensureNewCA, getSecret, timeNow, call_bind, done_bind]
  rw [runWith_served (served_getSecret isNew)]
  simp only [parsesNew]
  rw [runWith_served (served_getSecret isOld)]
  simp only [parsesOld, call_bind]
  rw [runWith_served (served_now cluster), runWith_bind]
  split
  · simp only [promoteCA, deleteSecret, createSecret, call_bind, done_bind]
    rw [runWith_served (served_deleteSecret isOld), runWith_served created,
      runWith_served (served_deleteSecret still)]
    rfl
  · rfl

theorem ensureCA_orphan {newSecret : Secret} {new : Certificate × PrivateKey}
    (isNew : cluster.secrets m.caSecretNew = some newSecret)
    (parsesNew : parseCAFromSecret newSecret = .ok new)
    (noCurrent : cluster.secrets m.caSecret = none) :
    runWith Cluster.serve (ensureCA m) cluster = (.ok new, cluster) := by
  simp only [ensureCA, ensureNewCA, getSecret, call_bind, done_bind, runWith,
    served_getSecret isNew, served_getSecret_none noCurrent, parsesNew]
  rfl

end

def Cluster.freshServerCert (m : Manager) (cluster : Cluster) (caKey : PrivateKey) : Certificate :=
  { serverTemplate m (cluster.drawn + 1) cluster.clock cluster.clock with
    notBefore := wholeSeconds cluster.clock
    notAfter := wholeSeconds (cluster.clock + certValidityDuration)
    publicKey := cluster.drawn
    signedBy := caKey.publicKey }

section

variable (m : Manager) {cluster : Cluster}

private theorem storeServerCert_served (keyed : Keyed cluster) (cert : Certificate)
    (key : PrivateKey) :
    ∃ request secret,
      runWith Cluster.serve (storeServerCert m cert key) cluster =
        (none, cluster.putSecret request secret) ∧
      secret.key = m.serverSecret ∧ serverCertificate secret = some cert := by
  simp only [storeServerCert, getSecret, createSecret, updateSecret, call_bind, done_bind]
  cases isStored : cluster.secrets m.serverSecret with
  | none =>
      let secret : Secret :=
        { key := m.serverSecret, resourceVersion := 0, secretType := .secretTypeTLS
          data := serverData cert key }
      refine ⟨.createSecret secret, secret, ?_, rfl, rfl⟩
      rw [runWith_served (served_getSecret_none isStored)]
      exact runWith_served (served_createSecret rfl isStored)
  | some secret =>
      have isKey := keyed.secrets _ _ isStored
      let updated : Secret := { secret with data := serverData cert key }
      refine ⟨.updateSecret updated, updated, ?_, isKey, rfl⟩
      rw [runWith_served (served_getSecret isStored)]
      rw [← isKey] at isStored
      exact runWith_served (@served_updateSecret _ updated secret isStored rfl)

variable {caCert : Certificate} {caKey : PrivateKey}

private theorem generateServerCert_served (keyed : Keyed cluster)
    (own : caCert.publicKey = caKey.publicKey) :
    ∃ request secret,
      runWith Cluster.serve (generateServerCert m caCert caKey) cluster =
        (none, cluster.draw.putSecret request secret) ∧
      secret.key = m.serverSecret ∧
      serverCertificate secret = some (cluster.freshServerCert m caKey) := by
  have created : createCertificate (serverTemplate m (cluster.drawn + 1) cluster.clock
      cluster.clock) (some caCert.publicKey) cluster.drawn caKey =
        .ok (cluster.freshServerCert m caKey) := by
    simp only [createCertificate, own, Option.any_some, bne_self_eq_false, Bool.false_eq_true,
      if_false, Cluster.freshServerCert, serverTemplate]
  have drawn : Keyed cluster.draw := ⟨keyed.secrets, keyed.configurations⟩
  obtain ⟨request, secret, stored, isKey, isCert⟩ := storeServerCert_served m drawn
    (cluster.freshServerCert m caKey) ⟨cluster.drawn⟩
  refine ⟨request, secret, ?_, isKey, isCert⟩
  simp only [generateServerCert, generateKey, randomSerial, timeNow, call_bind, done_bind]
  rw [runWith_served (served_generateKey cluster), runWith_served (served_serialNumber _),
    runWith_served (served_now _), runWith_served (served_now _)]
  simp only [created]
  exact stored

private theorem patchWebhookConfiguration_served (keyed : Keyed cluster) (caCert : Certificate)
    {configuration : ValidatingWebhookConfiguration}
    (isStored : cluster.configurations m.webhookConfigName = some configuration) :
    runWith Cluster.serve (patchWebhookConfiguration m caCert) cluster =
      (none, cluster.putConfiguration (withCABundle caCert configuration)) := by
  simp only [patchWebhookConfiguration, getConfiguration, updateConfiguration, call_bind, done_bind]
  rw [runWith_served (served_getConfiguration isStored)]
  rw [← keyed.configurations _ _ isStored] at isStored
  exact runWith_served (@served_updateConfiguration _ (withCABundle caCert configuration) _
    isStored rfl)

structure Renewed (caCert : Certificate) (caKey : PrivateKey) (before after : Cluster) : Prop where
  serverCert : after.serverCert m = some (before.freshServerCert m caKey)
  secrets : ∀ key, key ≠ m.serverSecret → after.secrets key = before.secrets key
  bundle : ∃ configuration, after.configurations m.webhookConfigName = some configuration ∧
    ∀ webhook ∈ configuration.webhooks, webhook.caBundle = encodeCertificate caCert

theorem renewServerCert_served (keyed : Keyed cluster) (own : caCert.publicKey = caKey.publicKey)
    {configuration : ValidatingWebhookConfiguration}
    (isStored : cluster.configurations m.webhookConfigName = some configuration) :
    Renewed m caCert caKey cluster
      (runWith Cluster.serve (renewServerCert m caCert caKey) cluster).2 := by
  obtain ⟨request, secret, stored, isKey, isCert⟩ := generateServerCert_served m keyed own
  have drawn : Keyed cluster.draw := ⟨keyed.secrets, keyed.configurations⟩
  have keyedPut : Keyed (cluster.draw.putSecret request secret) :=
    drawn.put ⟨⟨_, rfl⟩, rfl, rfl, Int.le_refl _⟩
  have isName := keyed.configurations _ _ isStored
  have ends : (runWith Cluster.serve (renewServerCert m caCert caKey) cluster).2 =
      (cluster.draw.putSecret request secret).putConfiguration
        (withCABundle caCert configuration) := by
    rw [renewServerCert, runWith_bind, stored, runWith_bind,
      patchWebhookConfiguration_served m keyedPut caCert isStored]
    rfl
  rw [ends]
  refine ⟨?_, ?_, ?_⟩
  · have here : Function.update cluster.secrets secret.key
        (some { secret with resourceVersion := cluster.revision + 1 }) m.serverSecret =
          some { secret with resourceVersion := cluster.revision + 1 } := by
      rw [isKey, Function.update_self]
    exact (congrArg (fun found => Option.bind found serverCertificate) here).trans isCert
  · intro key away
    rw [← isKey] at away
    exact Function.update_of_ne away _ _
  · refine ⟨{ withCABundle caCert configuration with
      resourceVersion := (cluster.draw.putSecret request secret).revision + 1 }, ?_, ?_⟩
    · rw [← isName]
      exact Function.update_self _ _ _
    · intro webhook member
      obtain ⟨original, _member, rfl⟩ := List.mem_map.mp member
      rfl

theorem needsServerCertGeneration_absent (caCert : Certificate)
    (absent : cluster.secrets m.serverSecret = none) :
    runWith Cluster.serve (needsServerCertGeneration m caCert) cluster = (.ok true, cluster) := by
  simp only [needsServerCertGeneration, getSecret, call_bind, done_bind]
  rw [runWith_served (served_getSecret_none absent)]
  rfl

theorem needsServerCertGeneration_near (caCert : Certificate) {secret : Secret}
    {cert : Certificate} (isStored : cluster.secrets m.serverSecret = some secret)
    (isCert : serverCertificate secret = some cert)
    (near : cert.notAfter < cluster.clock + renewThreshold) :
    runWith Cluster.serve (needsServerCertGeneration m caCert) cluster = (.ok true, cluster) := by
  simp only [needsServerCertGeneration, getSecret, timeNow, call_bind, done_bind]
  rw [runWith_served (served_getSecret isStored)]
  simp only [isCert]
  rw [runWith_served (served_now cluster), if_pos near]
  rfl

private theorem trustedRoots_served (caCert : Certificate) :
    ∃ roots, runWith Cluster.serve (trustedRoots m caCert) cluster = (roots, cluster) ∧
      caCert ∈ roots ∧
      ∀ secret old, cluster.secrets m.caSecret = some secret →
        parseCAFromSecret secret = .ok old → old.1 ∈ roots := by
  simp only [trustedRoots, getSecret, call_bind, done_bind]
  cases isStored : cluster.secrets m.caSecret with
  | none =>
      rw [runWith_served (served_getSecret_none isStored)]
      exact ⟨[caCert], rfl, List.mem_singleton_self _, fun _ _ impossible => by cases impossible⟩
  | some secret =>
      rw [runWith_served (served_getSecret isStored)]
      cases parses : parseCAFromSecret secret with
      | error err =>
          refine ⟨[caCert], by simp only [parses]; rfl, List.mem_singleton_self _, ?_⟩
          rintro _ old ⟨⟩ impossible
          cases parses.symm.trans impossible
      | ok found =>
          refine ⟨if found.1 = caCert then [caCert] else [caCert, found.1],
            by simp only [parses]; rfl, ?_, ?_⟩
          · split <;> exact List.mem_cons_self
          · rintro _ old ⟨⟩ isOld
            cases parses.symm.trans isOld
            split
            · rename_i same
              exact same ▸ List.mem_cons_self
            · exact List.mem_cons_of_mem _ (List.mem_singleton_self _)

/-- A certificate that is far from its end is kept while its CA is one of the two in use
and has not expired. -/
theorem needsServerCertGeneration_trusted {signer : Certificate} {secret : Secret}
    {cert : Certificate} (isStored : cluster.secrets m.serverSecret = some secret)
    (isCert : serverCertificate secret = some cert)
    (far : ¬ cert.notAfter < cluster.clock + renewThreshold)
    (isSigner : signer = caCert ∨ ∃ secret old, cluster.secrets m.caSecret = some secret ∧
      parseCAFromSecret secret = .ok old ∧ old.1 = signer)
    (signed : cert.signedBy = signer.publicKey) (unexpired : cluster.clock ≤ signer.notAfter) :
    runWith Cluster.serve (needsServerCertGeneration m caCert) cluster = (.ok false, cluster) := by
  obtain ⟨roots, found, hasCA, hasOld⟩ := @trustedRoots_served m cluster caCert
  have member : signer ∈ roots := by
    rcases isSigner with rfl | ⟨oldSecret, old, isOld, parses, rfl⟩
    · exact hasCA
    · exact hasOld oldSecret old isOld parses
  have positive : 0 ≤ renewThreshold := by decide
  have verified : cert.verify roots cluster.clock = true := by
    have certLives : ¬ cert.notAfter < cluster.clock := by lia
    have signerLives : ¬ signer.notAfter < cluster.clock := Int.not_lt.mpr unexpired
    simp only [Certificate.verify, Certificate.expired, certLives, decide_false, Bool.not_false,
      Bool.true_and, List.any_eq_true]
    refine ⟨signer, member, ?_⟩
    simp only [signed, beq_self_eq_true, signerLives, decide_false, Bool.not_false, Bool.and_self]
  simp only [needsServerCertGeneration, getSecret, timeNow, call_bind, done_bind]
  rw [runWith_served (served_getSecret isStored)]
  simp only [isCert]
  rw [runWith_served (served_now cluster), if_neg far, runWith_bind, found,
    runWith_served (served_now cluster), verified]
  rfl

theorem ensureCA_served (cluster : Cluster) :
    CAEffect m cluster (runWith Cluster.serve (ensureCA m) cluster).2 := by
  obtain ⟨count, ends⟩ := exists_follow respond_smooth (ensureCA m) cluster
  have effect := ((ensureCA_sustains m cluster).follow (List.replicate count .smooth)).1
  rw [ends] at effect
  exact effect

theorem ensureServerCert_served (keyed : Keyed cluster) :
    ServerEffect m cluster
      (runWith Cluster.serve (ensureServerCert m caCert caKey) cluster).2 := by
  obtain ⟨count, ends⟩ := exists_follow respond_smooth (ensureServerCert m caCert caKey) cluster
  have effect := ((ensureServerCert_sustains m caCert caKey keyed).follow
    (List.replicate count .smooth)).1
  rw [ends] at effect
  exact effect

theorem ensureCertificate_served {ca : Certificate × PrivateKey} {middle : Cluster}
    (ensured : runWith Cluster.serve (ensureCA m) cluster = (.ok ca, middle)) :
    runWith Cluster.serve (ensureCertificate m) cluster =
      runWith Cluster.serve (ensureServerCert m ca.1 ca.2) middle := by
  rw [ensureCertificate, runWith_bind, ensured]

theorem ensureCertificate_others (keyed : Keyed cluster) {key : NamespacedName}
    (different : key ≠ m.serverSecret) :
    (runWith Cluster.serve (ensureCertificate m) cluster).2.secrets key =
      (runWith Cluster.serve (ensureCA m) cluster).2.secrets key := by
  have after := (ensureCA_served m cluster).keyed m keyed
  rw [ensureCertificate, runWith_bind]
  cases (runWith Cluster.serve (ensureCA m) cluster).1 with
  | error err => rfl
  | ok ca => exact (@ensureServerCert_served m _ ca.1 ca.2 after).others m different

theorem ensureServerCert_needed
    (needed : runWith Cluster.serve (needsServerCertGeneration m caCert) cluster =
      (.ok true, cluster)) :
    runWith Cluster.serve (ensureServerCert m caCert caKey) cluster =
      runWith Cluster.serve (renewServerCert m caCert caKey) cluster := by
  rw [ensureServerCert, runWith_bind, needed]

theorem ensureServerCert_kept
    (kept : runWith Cluster.serve (needsServerCertGeneration m caCert) cluster =
      (.ok false, cluster)) :
    runWith Cluster.serve (ensureServerCert m caCert caKey) cluster = (none, cluster) := by
  rw [ensureServerCert, runWith_bind, kept]
  rfl

end

end KubeTemplater.Cert
