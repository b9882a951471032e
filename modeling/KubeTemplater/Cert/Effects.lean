/-
What a run of `ensureCertificate` can do to the cluster, whatever the replies and
wherever it is stopped.

Everything else about histories of runs is read off these effects.
-/

import KubeTemplater.Cert.Calls

namespace KubeTemplater.Cert

open Library Library.Program

structure Fresh (begun : Time) (caCert : Certificate) (caKey : PrivateKey) : Prop where
  publicKey : caCert.publicKey = caKey.publicKey
  notAfter : ∃ now, begun ≤ now ∧ caCert.notAfter = wholeSeconds (now + caValidityDuration)

inductive Generation (key : NamespacedName) (before after : Cluster) : Prop where
  | none (quiet : Quiet before after)
  | stored (caCert : Certificate) (caKey : PrivateKey)
      (fresh : Fresh before.clock caCert caKey)
      (effect : Effect (.createSecret (newCASecret key caCert caKey)) before after)

theorem Generation.after_quiet {key : NamespacedName} {first second third : Cluster}
    (quiet : Quiet first second) (generation : Generation key second third) :
    Generation key first third := by
  cases generation with
  | none later => exact .none (quiet.trans later)
  | stored caCert caKey fresh effect =>
      obtain ⟨now, early, isEnd⟩ := fresh.notAfter
      exact .stored caCert caKey ⟨fresh.publicKey, now, Int.le_trans quiet.clock early, isEnd⟩
        (quiet.effect effect)

private theorem generateCA_sustains (key : NamespacedName) (cluster : Cluster) :
    Sustains respond (Generation key cluster) (fun _ _ => True) (generateCA key) cluster := by
  simp only [generateCA, generateKey, randomSerial, timeNow, createSecret, call_bind, done_bind]
  refine sustains_quiet rfl (.none (quiet_refl cluster)) ?_
  intro key₁ after₁ quiet₁
  cases key₁ with
  | error err => exact ⟨.none quiet₁, trivial⟩
  | ok caKey =>
      refine sustains_quiet rfl (.none quiet₁) ?_
      intro serial after₂ quiet₂
      have drawn := quiet₁.trans quiet₂
      cases serial with
      | error err => exact ⟨.none drawn, trivial⟩
      | ok serial =>
          refine sustains_now (.none drawn) ?_
          intro after₃ quiet₃
          refine sustains_now (.none (drawn.trans quiet₃)) ?_
          intro after₄ quiet₄
          have dated := (drawn.trans quiet₃).trans quiet₄
          refine sustains_write (.none dated) ?_
          intro answer after₅ effect _certain
          have generation : Generation key cluster after₅ := by
            rcases effect with made | quiet
            · exact .stored _ caKey ⟨rfl, after₄.clock, dated.clock, rfl⟩ (dated.effect made)
            · exact .none (dated.trans quiet)
          cases answer with
          | error err => exact ⟨generation, trivial⟩
          | ok _ => exact ⟨generation, trivial⟩

section

variable (m : Manager)

inductive Promotion (newSecret : Secret) (before after : Cluster) : Prop where
  | none (quiet : Quiet before after)
  | removed (removal : Removed m.caSecret before after)
  | created (middle : Cluster) (removal : Removed m.caSecret before middle)
      (creation : Effect (.createSecret (promotedSecret m newSecret)) middle after)
  | completed (first second : Cluster) (removal : Removed m.caSecret before first)
      (creation : Effect (.createSecret (promotedSecret m newSecret)) first second)
      (cleanup : Removed m.caSecretNew second after)

variable {before : Cluster}

theorem Promotion.clock {newSecret : Secret} {after : Cluster}
    (promotion : Promotion m newSecret before after) : before.clock ≤ after.clock := by
  cases promotion with
  | none quiet => exact quiet.clock
  | removed removal => exact removal.clock
  | created middle removal creation => exact Int.le_trans removal.clock creation.clock
  | completed first second removal creation cleanup =>
      exact Int.le_trans removal.clock (Int.le_trans creation.clock cleanup.clock)

theorem Promotion.after_quiet {newSecret : Secret} {first second third : Cluster}
    (quiet : Quiet first second) (promotion : Promotion m newSecret second third) :
    Promotion m newSecret first third := by
  have removes {after : Cluster} (removal : Removed m.caSecret second after) :
      Removed m.caSecret first after :=
    @Quiet.effect (.deleteSecret m.caSecret) _ _ _ quiet removal
  cases promotion with
  | none later => exact .none (quiet.trans later)
  | removed removal => exact .removed (removes removal)
  | created middle removal creation => exact .created middle (removes removal) creation
  | completed early late removal creation cleanup =>
      exact .completed early late (removes removal) creation cleanup

private theorem promoteCA_sustains (newSecret : Secret) (cluster : Cluster) (old : Secret)
    (isStored : cluster.secrets m.caSecret = some old) :
    Sustains respond (Promotion m newSecret cluster) (fun _ _ => True) (promoteCA m newSecret)
      cluster := by
  simp only [promoteCA, deleteSecret, createSecret, call_bind, done_bind]
  refine sustains_write (.none (quiet_refl cluster)) ?_
  intro _answer after₁ deletion _certain
  rcases deletion with removal | quiet
  · refine sustains_write (.removed removal) ?_
    intro answer after₂ creation certain
    cases answer with
    | error err =>
        refine ⟨?_, trivial⟩
        rcases creation with made | quiet
        · exact .created after₁ removal made
        · exact .removed (@Effect.quiet (.deleteSecret m.caSecret) _ _ _ removal quiet)
    | ok _ =>
        have made := certain rfl
        refine sustains_write (.created after₁ removal made) ?_
        intro _answer after₃ cleanup _certain
        refine ⟨?_, trivial⟩
        rcases cleanup with removedNew | quiet
        · exact .completed after₁ after₂ removal made removedNew
        · exact .created after₁ removal (Effect.quiet made quiet)
  · -- the old Secret is still there, so nothing can be created in its place
    have still : after₁.secrets m.caSecret = some old := by
      rw [quiet.secrets]
      exact isStored
    refine sustains_write (.none quiet) ?_
    intro answer after₂ creation certain
    rcases creation with ⟨absent, _⟩ | quiet₂
    · cases still.symm.trans absent
    · cases answer with
      | error err => exact ⟨.none (quiet.trans quiet₂), trivial⟩
      | ok _ =>
          obtain ⟨absent, _⟩ := certain rfl
          cases still.symm.trans absent

inductive CAEffect (before after : Cluster) : Prop where
  | none (quiet : Quiet before after)
  | generated (caCert : Certificate) (caKey : PrivateKey)
      (fresh : Fresh before.clock caCert caKey)
      (effect : Effect (.createSecret (newCASecret m.caSecret caCert caKey)) before after)
  | renewed (secret : Secret) (current : Certificate × PrivateKey) (caCert : Certificate)
      (caKey : PrivateKey) (isStored : before.secrets m.caSecret = some secret)
      (parses : parseCAFromSecret secret = .ok current)
      (checked : Time) (near : current.1.notAfter < checked + caRenewThreshold)
      (fresh : Fresh checked caCert caKey)
      (effect : Effect (.createSecret (newCASecret m.caSecretNew caCert caKey)) before after)
  | promoting (newSecret oldSecret : Secret) (new old : Certificate × PrivateKey)
      (isNew : before.secrets m.caSecretNew = some newSecret)
      (parsesNew : parseCAFromSecret newSecret = .ok new)
      (isOld : before.secrets m.caSecret = some oldSecret)
      (parsesOld : parseCAFromSecret oldSecret = .ok old)
      (expired : old.1.notAfter < after.clock)
      (promotion : Promotion m newSecret before after)

variable {cluster : Cluster}

private theorem ensureNewCA_sustains {newSecret : Secret} {new : Certificate × PrivateKey}
    (quiet : Quiet before cluster) (isNew : before.secrets m.caSecretNew = some newSecret)
    (parsesNew : parseCAFromSecret newSecret = .ok new) :
    Sustains respond (CAEffect m before) (fun _ _ => True) (ensureNewCA m newSecret) cluster := by
  simp only [ensureNewCA, getSecret, timeNow, call_bind, done_bind]
  refine sustains_getSecret (.none quiet) ?_ ?_
  · intro oldSecret after₁ isOld quiet₁
    have read := quiet.trans quiet₁
    dsimp only
    cases parsesOld : parseCAFromSecret oldSecret with
    | error err => exact ⟨.none read, trivial⟩
    | ok old =>
        refine sustains_now (.none read) ?_
        intro after₂ quiet₂
        have timed := read.trans quiet₂
        rw [quiet.secrets] at isOld
        have still : after₂.secrets m.caSecret = some oldSecret := by
          rw [timed.secrets]
          exact isOld
        split
        · rename_i expired
          refine (promoteCA_sustains m newSecret after₂ oldSecret still).weaken ?_
          intro after promotion
          exact .promoting newSecret oldSecret new old isNew parsesNew isOld parsesOld
            (Int.lt_of_lt_of_le expired (promotion.clock m)) (promotion.after_quiet m timed)
        · exact ⟨.none timed, trivial⟩
  · intro err after₁ _missing quiet₁
    exact ⟨.none (quiet.trans quiet₁), trivial⟩

private theorem ensureCurrentCA_sustains (quiet : Quiet before cluster) :
    Sustains respond (CAEffect m before) (fun _ _ => True) (ensureCurrentCA m) cluster := by
  simp only [ensureCurrentCA, getSecret, timeNow, call_bind, done_bind]
  refine sustains_getSecret (.none quiet) ?_ ?_
  · intro secret after₁ isStored quiet₁
    have read := quiet.trans quiet₁
    rw [quiet.secrets] at isStored
    dsimp only
    cases parses : parseCAFromSecret secret with
    | error err => exact ⟨.none read, trivial⟩
    | ok current =>
        refine sustains_now (.none read) ?_
        intro after₂ quiet₂
        have timed := read.trans quiet₂
        split
        · rename_i near
          refine sustains_bind (fun _ _ => True)
            ((generateCA_sustains m.caSecretNew after₂).weaken ?_) ?_
          · intro after generation
            cases generation with
            | none quiet => exact .none (timed.trans quiet)
            | stored caCert caKey fresh effect =>
                exact .renewed secret current caCert caKey isStored parses after₂.clock near fresh
                  (timed.effect effect)
          · intro result after effect _
            cases result with
            | error err => exact ⟨effect, trivial⟩
            | ok fresh => exact ⟨effect, trivial⟩
        · exact ⟨.none timed, trivial⟩
  · intro err after₁ _missing quiet₁
    have read := quiet.trans quiet₁
    dsimp only
    split
    · refine (generateCA_sustains m.caSecret after₁).weaken ?_
      intro after generation
      cases generation.after_quiet read with
      | none quiet => exact .none quiet
      | stored caCert caKey fresh effect => exact .generated caCert caKey fresh effect
    · exact ⟨.none read, trivial⟩

theorem ensureCA_sustains (cluster : Cluster) :
    Sustains respond (CAEffect m cluster) (fun _ _ => True) (ensureCA m) cluster := by
  simp only [ensureCA, getSecret, call_bind, done_bind]
  refine sustains_getSecret (.none (quiet_refl cluster)) ?_ ?_
  · intro newSecret after₁ isNew quiet₁
    dsimp only
    cases parsesNew : parseCAFromSecret newSecret with
    | error err => exact ensureCurrentCA_sustains m quiet₁
    | ok new =>
        refine sustains_bind (fun _ _ => True) (ensureNewCA_sustains m quiet₁ isNew parsesNew) ?_
        intro _done after effect _
        exact ⟨effect, trivial⟩
  · intro err after₁ _missing quiet₁
    exact ensureCurrentCA_sustains m quiet₁

structure ServerStored (caCert : Certificate) (secret : Secret) (cert : Certificate)
    (before after : Cluster) : Prop where
  own : secret.key = m.serverSecret
  isCert : serverCertificate secret = some cert
  signed : cert.signedBy = caCert.publicKey
  put : Put (.createSecret secret) secret before after ∨
    Put (.updateSecret secret) secret before after

inductive ServerEffect (before after : Cluster) : Prop where
  | none (quiet : Quiet before after)
  | stored (caCert : Certificate) (secret : Secret) (cert : Certificate)
      (effect : ServerStored m caCert secret cert before after)
  | patched (caCert : Certificate) (secret : Secret) (cert : Certificate) (middle : Cluster)
      (configuration : ValidatingWebhookConfiguration)
      (effect : ServerStored m caCert secret cert before middle)
      (isStored : middle.configurations m.webhookConfigName = some configuration)
      (patch : Configured (withCABundle caCert configuration) middle after)

variable {cert caCert : Certificate}

theorem ServerStored.after_quiet {secret : Secret} {first second third : Cluster}
    (quiet : Quiet first second) (stored : ServerStored m caCert secret cert second third) :
    ServerStored m caCert secret cert first third :=
  ⟨stored.own, stored.isCert, stored.signed, stored.put.imp quiet.put quiet.put⟩

theorem ServerStored.quiet {secret : Secret} {first second third : Cluster}
    (stored : ServerStored m caCert secret cert first second) (quiet : Quiet second third) :
    ServerStored m caCert secret cert first third :=
  ⟨stored.own, stored.isCert, stored.signed, stored.put.imp (·.quiet quiet) (·.quiet quiet)⟩

private theorem needsServerCertGeneration_reads (caCert : Certificate) :
    Makes (fun request => Effect request = Quiet) (needsServerCertGeneration m caCert) := by
  simp only [needsServerCertGeneration, trustedRoots, getSecret, timeNow, call_bind, done_bind]
  refine makes_call rfl ?_
  intro answer
  cases answer with
  | error err =>
      dsimp only
      split <;> exact makes_done _ _
  | ok secret =>
      dsimp only
      cases serverCertificate secret with
      | none => exact makes_done _ _
      | some cert =>
          refine makes_call rfl ?_
          intro now
          split
          · exact makes_done _ _
          · refine makes_call rfl ?_
            intro old
            refine makes_bind ?_ (fun _ => makes_call rfl (fun _ => makes_done _ _))
            cases old with
            | error err => exact makes_done _ _
            | ok oldCASecret =>
                dsimp only
                cases parseCAFromSecret oldCASecret with
                | error err => exact makes_done _ _
                | ok old => exact makes_done _ _

private theorem serverCertificate_serverData (cert : Certificate) (key : PrivateKey)
    (secret : Secret)
    (isData : secret.data = serverData cert key) : serverCertificate secret = some cert := by
  unfold serverCertificate
  rw [isData]
  rfl

/-- The Secret is stored, or nothing has happened and an error is returned. -/
theorem storeServerCert_sustains {key : PrivateKey} (signed : cert.signedBy = caCert.publicKey)
    (keyed : Keyed before) (quiet : Quiet before cluster) :
    Sustains respond
      (fun after => Quiet before after ∨ ∃ secret, ServerStored m caCert secret cert before after)
      (fun result after => result = none →
        ∃ secret, ServerStored m caCert secret cert before after)
      (storeServerCert m cert key) cluster := by
  simp only [storeServerCert, getSecret, createSecret, updateSecret, call_bind, done_bind]
  refine sustains_getSecret (.inl quiet) ?_ ?_
  · intro secret after₁ isStored quiet₁
    have read := quiet.trans quiet₁
    rw [quiet.secrets] at isStored
    refine sustains_write (.inl read) ?_
    intro answer after₂ effect certain
    have made (put : Effect (.updateSecret { secret with data := serverData cert key }) after₁
        after₂) : ∃ secret, ServerStored m caCert secret cert before after₂ :=
      ⟨{ secret with data := serverData cert key },
        ServerStored.after_quiet m read ⟨keyed.secrets _ secret isStored,
          serverCertificate_serverData cert key _ rfl, signed, .inr put⟩⟩
    have always : Quiet before after₂ ∨
        ∃ secret, ServerStored m caCert secret cert before after₂ := by
      rcases effect with put | quiet₂
      · exact .inr (made put)
      · exact .inl (read.trans quiet₂)
    cases answer with
    | error err => exact ⟨always, fun impossible => by cases impossible⟩
    | ok _ => exact ⟨always, fun _ => made (certain rfl)⟩
  · intro err after₁ _missing quiet₁
    have read := quiet.trans quiet₁
    dsimp only
    split
    · refine sustains_write (.inl read) ?_
      intro answer after₂ effect certain
      have made (put : Effect (.createSecret
          { key := m.serverSecret, resourceVersion := 0, secretType := .secretTypeTLS
            data := serverData cert key }) after₁ after₂) :
          ∃ secret, ServerStored m caCert secret cert before after₂ :=
        ⟨_, ServerStored.after_quiet m read ⟨rfl, serverCertificate_serverData cert key _ rfl,
          signed, .inl put.2⟩⟩
      have always : Quiet before after₂ ∨
          ∃ secret, ServerStored m caCert secret cert before after₂ := by
        rcases effect with put | quiet₂
        · exact .inr (made put)
        · exact .inl (read.trans quiet₂)
      cases answer with
      | error err => exact ⟨always, fun impossible => by cases impossible⟩
      | ok _ => exact ⟨always, fun _ => made (certain rfl)⟩
    · exact ⟨.inl read, fun impossible => by cases impossible⟩

private theorem createCertificate_signed {template : CertificateTemplate}
    {parentKey publicKey : Nat}
    {key : PrivateKey}
    (created : createCertificate template (some parentKey) publicKey key = .ok cert) :
    cert.signedBy = parentKey := by
  unfold createCertificate at created
  split at created
  · cases created
  · rename_i matching
    cases created
    simp only [Option.any_some, bne_iff_ne, ne_eq, Decidable.not_not] at matching
    exact matching.symm

private theorem generateServerCert_sustains {caKey : PrivateKey} (keyed : Keyed before)
    (quiet : Quiet before cluster) :
    Sustains respond
      (fun after => Quiet before after ∨
        ∃ secret cert, ServerStored m caCert secret cert before after)
      (fun result after => result = none →
        ∃ secret cert, ServerStored m caCert secret cert before after)
      (generateServerCert m caCert caKey) cluster := by
  simp only [generateServerCert, generateKey, randomSerial, timeNow, call_bind, done_bind]
  refine sustains_quiet rfl (.inl quiet) ?_
  intro answer after₁ quiet₁
  have drawn := quiet.trans quiet₁
  cases answer with
  | error err => exact ⟨.inl drawn, fun impossible => by cases impossible⟩
  | ok serverKey =>
      refine sustains_quiet rfl (.inl drawn) ?_
      intro answer after₂ quiet₂
      have numbered := drawn.trans quiet₂
      cases answer with
      | error err => exact ⟨.inl numbered, fun impossible => by cases impossible⟩
      | ok serial =>
          refine sustains_now (.inl numbered) ?_
          intro after₃ quiet₃
          refine sustains_now (.inl (numbered.trans quiet₃)) ?_
          intro after₄ quiet₄
          have dated := (numbered.trans quiet₃).trans quiet₄
          cases created : createCertificate (serverTemplate m serial after₃.clock after₄.clock)
              (some caCert.publicKey) serverKey.publicKey caKey with
          | error err => exact ⟨.inl dated, fun impossible => by cases impossible⟩
          | ok cert =>
              refine ((storeServerCert_sustains m (createCertificate_signed created) keyed
                dated).weaken ?_).mono ?_
              · rintro after (unwritten | ⟨secret, stored⟩)
                · exact .inl unwritten
                · exact .inr ⟨secret, cert, stored⟩
              · intro result after stored isNone
                obtain ⟨secret, isStored⟩ := stored isNone
                exact ⟨secret, cert, isStored⟩

private theorem patchWebhookConfiguration_sustains {secret : Secret}
    (stored : ServerStored m caCert secret cert before cluster) :
    Sustains respond (ServerEffect m before) (fun _ _ => True)
      (patchWebhookConfiguration m caCert) cluster := by
  simp only [patchWebhookConfiguration, getConfiguration, updateConfiguration, call_bind, done_bind]
  refine sustains_getConfiguration (.stored caCert secret cert stored) ?_ ?_
  · intro configuration after₁ isStored quiet₁
    have still := stored.quiet m quiet₁
    rw [← quiet₁.configurations] at isStored
    refine sustains_write (.stored caCert secret cert still) ?_
    intro answer after₂ effect _certain
    have always : ServerEffect m before after₂ := by
      rcases effect with patch | quiet₂
      · exact .patched caCert secret cert after₁ configuration still isStored patch
      · exact .stored caCert secret cert (still.quiet m quiet₂)
    cases answer with
    | error err => exact ⟨always, trivial⟩
    | ok _ => exact ⟨always, trivial⟩
  · intro err after₁ quiet₁
    exact ⟨.stored caCert secret cert (stored.quiet m quiet₁), trivial⟩

private theorem renewServerCert_sustains {caKey : PrivateKey} (keyed : Keyed before)
    (quiet : Quiet before cluster) :
    Sustains respond (ServerEffect m before) (fun _ _ => True)
      (renewServerCert m caCert caKey) cluster := by
  refine sustains_bind _ ((generateServerCert_sustains m keyed quiet).weaken ?_) ?_
  · rintro after (unwritten | ⟨secret, cert, stored⟩)
    · exact .none unwritten
    · exact .stored caCert secret cert stored
  · intro result after effect stored
    cases result with
    | some err => exact ⟨effect, trivial⟩
    | none =>
        obtain ⟨secret, cert, isStored⟩ := stored rfl
        refine sustains_bind (fun _ _ => True) (patchWebhookConfiguration_sustains m isStored) ?_
        intro _result after patched _
        exact ⟨patched, trivial⟩

theorem ensureServerCert_sustains (caCert : Certificate) (caKey : PrivateKey)
    (keyed : Keyed cluster) :
    Sustains respond (ServerEffect m cluster) (fun _ _ => True)
      (ensureServerCert m caCert caKey) cluster := by
  have reads := sustains_reads (needsServerCertGeneration_reads m caCert) (quiet_refl cluster)
  refine sustains_bind _ (reads.weaken (fun _ => .none)) ?_
  intro result after effect quiet
  cases result with
  | error err => exact ⟨effect, trivial⟩
  | ok needed =>
      cases needed with
      | false => exact ⟨effect, trivial⟩
      | true => exact renewServerCert_sustains m keyed quiet

theorem Promotion.keyed {newSecret : Secret} {after : Cluster} (keyed : Keyed before)
    (promotion : Promotion m newSecret before after) : Keyed after := by
  cases promotion with
  | none quiet => exact keyed.quiet quiet
  | removed removal => exact keyed.removed removal
  | created middle removal creation => exact (keyed.removed removal).put creation.2
  | completed first second removal creation cleanup =>
      exact ((keyed.removed removal).put creation.2).removed cleanup

theorem CAEffect.keyed {after : Cluster} (keyed : Keyed before) (effect : CAEffect m before after) :
    Keyed after := by
  cases effect with
  | none quiet => exact keyed.quiet quiet
  | generated caCert caKey fresh effect => exact keyed.put effect.2
  | renewed secret current caCert caKey isStored parses checked near fresh effect =>
      exact keyed.put effect.2
  | promoting newSecret oldSecret new old isNew parsesNew isOld parsesOld expired promotion =>
      exact promotion.keyed m keyed

theorem ServerStored.keyed {secret : Secret} {after : Cluster} (keyed : Keyed before)
    (stored : ServerStored m caCert secret cert before after) :
    Keyed after := by
  rcases stored.put with put | put
  · exact keyed.put put
  · exact keyed.put put

theorem ServerEffect.keyed {after : Cluster} (keyed : Keyed before)
    (effect : ServerEffect m before after) : Keyed after := by
  cases effect with
  | none quiet => exact keyed.quiet quiet
  | stored caCert secret cert stored => exact stored.keyed m keyed
  | patched caCert secret cert middle configuration stored isStored patch =>
      exact (stored.keyed m keyed).configured patch

structure RunEffect (before middle after : Cluster) : Prop where
  ca : CAEffect m before middle
  server : ServerEffect m middle after

private theorem ensureCertificate_sustains (keyed : Keyed cluster) :
    Sustains respond (fun after => ∃ middle, RunEffect m cluster middle after)
      (fun _ _ => True) (ensureCertificate m) cluster := by
  refine sustains_bind _ ((ensureCA_sustains m cluster).ends.weaken ?_) ?_
  · intro middle ca
    exact ⟨middle, ca, .none (quiet_refl middle)⟩
  · intro result middle _always ca
    cases result with
    | error err => exact ⟨⟨middle, ca, .none (quiet_refl middle)⟩, trivial⟩
    | ok pair =>
        refine (ensureServerCert_sustains m _ _ (ca.keyed m keyed)).weaken ?_
        intro after server
        exact ⟨middle, ca, server⟩

theorem step_effect {next : Cluster} {run : Run} (keyed : Keyed cluster)
    (taken : cluster.step m run = some next) :
    ∃ middle, RunEffect m (cluster.begin run.wait) middle next := by
  cases taken
  have begun : Keyed (cluster.begin run.wait) := ⟨keyed.secrets, keyed.configurations⟩
  exact ((ensureCertificate_sustains m begun).follow run.replies).1

end

end KubeTemplater.Cert
