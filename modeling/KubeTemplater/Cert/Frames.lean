/-
What a run does not touch.

The CA's part of a run and the server's part write different Secrets, so each of them is
a frame for what is known of the other.
-/

import KubeTemplater.Cert.Effects

namespace KubeTemplater.Cert

open Library Library.Program

namespace Manager

variable (m : Manager)

theorem caSecret_ne_caSecretNew : m.caSecret ≠ m.caSecretNew := by
  intro same
  have lengths := congrArg String.length (congrArg NamespacedName.name same)
  simp only [caSecret, caSecretNew, String.length_append] at lengths
  have positive : ("-new" : String).length = 4 := by decide
  omega

theorem caSecret_ne_serverSecret : m.caSecret ≠ m.serverSecret := by
  intro same
  have lengths := congrArg String.length (congrArg NamespacedName.name same)
  simp only [caSecret, serverSecret, String.length_append] at lengths
  have positive : ("-ca" : String).length = 3 := by decide
  omega

theorem caSecretNew_ne_serverSecret : m.caSecretNew ≠ m.serverSecret := by
  intro same
  have lengths := congrArg String.length (congrArg NamespacedName.name same)
  simp only [caSecretNew, serverSecret, String.length_append] at lengths
  have positive : ("-new" : String).length = 4 := by decide
  omega

end Manager

theorem parseCAFromSecret_data {first second : Secret} (same : first.data = second.data) :
    parseCAFromSecret first = parseCAFromSecret second := by
  unfold parseCAFromSecret
  rw [same]

variable (m : Manager)

variable {caCert : Certificate} {before after : Cluster} {key : NamespacedName}

/-- The server's part of a run leaves the other Secrets alone. -/
theorem ServerStored.others {cert : Certificate} {secret : Secret}
    (stored : ServerStored m caCert secret cert before after) (different : key ≠ m.serverSecret) :
    after.secrets key = before.secrets key := by
  have away : key ≠ secret.key := by
    rw [stored.own]
    exact different
  rcases stored.put with put | put
  · obtain ⟨version, secrets⟩ := put.secrets
    rw [secrets, Function.update_of_ne away]
  · obtain ⟨version, secrets⟩ := put.secrets
    rw [secrets, Function.update_of_ne away]

theorem ServerStored.clock {cert : Certificate} {secret : Secret}
    (stored : ServerStored m caCert secret cert before after) : before.clock ≤ after.clock := by
  rcases stored.put with put | put
  · exact put.clock
  · exact put.clock

theorem ServerEffect.others (effect : ServerEffect m before after)
    (different : key ≠ m.serverSecret) : after.secrets key = before.secrets key := by
  cases effect with
  | none quiet => rw [quiet.secrets]
  | stored caCert secret cert stored => exact stored.others m different
  | patched caCert secret cert middle configuration stored isStored patch =>
      rw [patch.secrets]
      exact stored.others m different

theorem ServerEffect.clock (effect : ServerEffect m before after) :
    before.clock ≤ after.clock := by
  cases effect with
  | none quiet => exact quiet.clock
  | stored caCert secret cert stored => exact stored.clock m
  | patched caCert secret cert middle configuration stored isStored patch =>
      exact Int.le_trans (stored.clock m) patch.clock

theorem created_others {secret : Secret} (made : Effect (.createSecret secret) before after)
    (away : key ≠ secret.key) :
    after.secrets key = before.secrets key := by
  obtain ⟨version, secrets⟩ := made.2.secrets
  rw [secrets, Function.update_of_ne away]

/-- The CA's part leaves the other Secrets alone. -/
theorem CAEffect.others (effect : CAEffect m before after) (notCurrent : key ≠ m.caSecret)
    (notNew : key ≠ m.caSecretNew) :
    after.secrets key = before.secrets key := by
  have removed {before after : Cluster} (removal : Removed m.caSecret before after) :
      after.secrets key = before.secrets key := by
    rw [removal.secrets, Function.update_of_ne notCurrent]
  cases effect with
  | none quiet => rw [quiet.secrets]
  | generated caCert caKey fresh effect => exact created_others effect notCurrent
  | renewed secret current caCert caKey isStored parses checked near fresh effect =>
      exact created_others effect notNew
  | promoting newSecret oldSecret new old isNew parsesNew isOld parsesOld expired promotion =>
      cases promotion with
      | none quiet => rw [quiet.secrets]
      | removed removal => exact removed removal
      | created middle removal creation => rw [created_others creation notCurrent, removed removal]
      | completed first second removal creation cleanup =>
          rw [cleanup.secrets, Function.update_of_ne notNew, created_others creation notCurrent,
            removed removal]

theorem CAEffect.configurations (effect : CAEffect m before after) :
    after.configurations = before.configurations := by
  cases effect with
  | none quiet => exact quiet.configurations
  | generated caCert caKey fresh effect => exact effect.2.configurations
  | renewed secret current caCert caKey isStored parses checked near fresh effect =>
      exact effect.2.configurations
  | promoting newSecret oldSecret new old isNew parsesNew isOld parsesOld expired promotion =>
      cases promotion with
      | none quiet => exact quiet.configurations
      | removed removal => exact removal.configurations
      | created middle removal creation =>
          exact creation.2.configurations.trans removal.configurations
      | completed first second removal creation cleanup =>
          exact (cleanup.configurations.trans creation.2.configurations).trans
            removal.configurations

theorem CAEffect.clock (effect : CAEffect m before after) :
    before.clock ≤ after.clock := by
  cases effect with
  | none quiet => exact quiet.clock
  | generated caCert caKey fresh effect => exact effect.clock
  | renewed secret current caCert caKey isStored parses checked near fresh effect =>
      exact effect.clock
  | promoting newSecret oldSecret new old isNew parsesNew isOld parsesOld expired promotion =>
      exact promotion.clock m

theorem step_keyed {cluster next : Cluster} {run : Run} (keyed : Keyed cluster)
    (taken : cluster.step m run = some next) : Keyed next := by
  obtain ⟨middle, effect⟩ := step_effect m keyed taken
  have begun : Keyed (cluster.begin run.wait) := ⟨keyed.secrets, keyed.configurations⟩
  exact effect.server.keyed m (effect.ca.keyed m begun)

theorem step_clock {cluster next : Cluster} {run : Run} (keyed : Keyed cluster)
    (taken : cluster.step m run = some next) : cluster.clock ≤ next.clock := by
  obtain ⟨middle, effect⟩ := step_effect m keyed taken
  have waited : cluster.clock ≤ (cluster.begin run.wait).clock :=
    Int.le_add_of_nonneg_right (Int.natCast_nonneg run.wait)
  exact Int.le_trans waited (Int.le_trans (effect.ca.clock m) (effect.server.clock m))

def CAWrite : CertCall → Prop
  | .createSecret secret => secret.key = m.caSecret ∨ secret.key = m.caSecretNew
  | .deleteSecret key => key = m.caSecret ∨ key = m.caSecretNew
  | _ => False

def ServerWrite : CertCall → Prop
  | .createSecret secret => secret.key = m.serverSecret
  | .updateSecret secret => secret.key = m.serverSecret
  | .updateConfiguration _ => True
  | _ => False

theorem caWrites_cons {write : CertCall} (written : after.written = write :: before.written)
    (isCA : CAWrite m write) (earlier : ∀ write ∈ before.written, CAWrite m write) :
    ∀ write ∈ after.written, CAWrite m write := by
  rw [written]
  exact List.forall_mem_cons.mpr ⟨isCA, earlier⟩

theorem CAEffect.writes (effect : CAEffect m before after)
    (begun : ∀ write ∈ before.written, CAWrite m write) :
    ∀ write ∈ after.written, CAWrite m write := by
  cases effect with
  | none quiet =>
      rw [quiet.written]
      exact begun
  | generated caCert caKey fresh effect =>
      exact caWrites_cons m effect.2.written (.inl rfl) begun
  | renewed secret current caCert caKey isStored parses checked near fresh effect =>
      exact caWrites_cons m effect.2.written (.inr rfl) begun
  | promoting newSecret oldSecret new old isNew parsesNew isOld parsesOld expired promotion =>
      cases promotion with
      | none quiet =>
          rw [quiet.written]
          exact begun
      | removed removal => exact caWrites_cons m removal.written (.inl rfl) begun
      | created middle removal creation =>
          have first := caWrites_cons m removal.written (.inl rfl) begun
          exact caWrites_cons m creation.2.written (.inl rfl) first
      | completed early late removal creation cleanup =>
          have first := caWrites_cons m removal.written (.inl rfl) begun
          have second := caWrites_cons m creation.2.written (.inl rfl) first
          exact caWrites_cons m cleanup.written (.inr rfl) second

theorem ServerStored.writes {cert : Certificate} {secret : Secret}
    (stored : ServerStored m caCert secret cert before after) :
    ∃ write, ServerWrite m write ∧ after.written = write :: before.written := by
  rcases stored.put with put | put
  · exact ⟨.createSecret secret, stored.own, put.written⟩
  · exact ⟨.updateSecret secret, stored.own, put.written⟩

theorem ServerEffect.writes (effect : ServerEffect m before after) :
    ∀ write ∈ after.written, write ∈ before.written ∨ ServerWrite m write := by
  intro write member
  cases effect with
  | none quiet =>
      rw [quiet.written] at member
      exact .inl member
  | stored caCert secret cert stored =>
      obtain ⟨first, isServer, written⟩ := stored.writes m
      rw [written] at member
      rcases List.mem_cons.mp member with rfl | earlier
      · exact .inr isServer
      · exact .inl earlier
  | patched caCert secret cert middle configuration stored isStored patch =>
      obtain ⟨first, isServer, written⟩ := stored.writes m
      rw [patch.written, written] at member
      rcases List.mem_cons.mp member with rfl | member
      · exact .inr trivial
      · rcases List.mem_cons.mp member with rfl | earlier
        · exact .inr isServer
        · exact .inl earlier

theorem ServerEffect.keeps (effect : ServerEffect m before after) {write : CertCall}
    (member : write ∈ before.written) : write ∈ after.written := by
  cases effect with
  | none quiet =>
      rw [quiet.written]
      exact member
  | stored caCert secret cert stored =>
      obtain ⟨first, _isServer, written⟩ := stored.writes m
      rw [written]
      exact List.mem_cons_of_mem _ member
  | patched caCert secret cert middle configuration stored isStored patch =>
      obtain ⟨first, _isServer, written⟩ := stored.writes m
      rw [patch.written, written]
      exact List.mem_cons_of_mem _ (List.mem_cons_of_mem _ member)

theorem ServerEffect.deleted_iff (effect : ServerEffect m before after) :
    .deleteSecret key ∈ after.written ↔ .deleteSecret key ∈ before.written := by
  refine ⟨?_, effect.keeps m⟩
  intro deleted
  rcases effect.writes m _ deleted with earlier | isServer
  · exact earlier
  · exact isServer.elim

end KubeTemplater.Cert
