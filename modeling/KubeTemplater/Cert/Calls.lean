/-
What each call of the certificate manager can do, whatever its reply.

A read answers with what is stored or fails.  A write that is confirmed has been
made; one that fails may have been made.
-/

import KubeTemplater.Cert.Cluster
import KubeTemplater.Library.Table

namespace KubeTemplater.Cert

open Library Library.Program

structure Quiet (before after : Cluster) : Prop where
  secrets : after.secrets = before.secrets
  configurations : after.configurations = before.configurations
  written : after.written = before.written
  clock : before.clock ≤ after.clock

structure Put (request : CertCall) (secret : Secret) (before after : Cluster) : Prop where
  secrets : ∃ version, after.secrets = Function.update before.secrets secret.key
    (some { secret with resourceVersion := version })
  configurations : after.configurations = before.configurations
  written : after.written = request :: before.written
  clock : before.clock ≤ after.clock

structure Removed (key : NamespacedName) (before after : Cluster) : Prop where
  secrets : after.secrets = Function.update before.secrets key none
  configurations : after.configurations = before.configurations
  written : after.written = .deleteSecret key :: before.written
  clock : before.clock ≤ after.clock

structure Configured (configuration : ValidatingWebhookConfiguration) (before after : Cluster) :
    Prop where
  secrets : after.secrets = before.secrets
  configurations : ∃ version, after.configurations =
    Function.update before.configurations configuration.name
      (some { configuration with resourceVersion := version })
  written : after.written = .updateConfiguration configuration :: before.written
  clock : before.clock ≤ after.clock

def Effect : CertCall → Cluster → Cluster → Prop
  | .createSecret secret => fun before after =>
      before.secrets secret.key = none ∧ Put (.createSecret secret) secret before after
  | .updateSecret secret => Put (.updateSecret secret) secret
  | .deleteSecret key => Removed key
  | .updateConfiguration configuration => Configured configuration
  | _ => Quiet

def confirmed : (request : CertCall) → request.Answer → Bool
  | .createSecret _, answer => (answer : Except GoError Unit).isOk
  | .updateSecret _, answer => (answer : Except GoError Unit).isOk
  | .deleteSecret _, answer => (answer : Except GoError Unit).isOk
  | .updateConfiguration _, answer => (answer : Except GoError Unit).isOk
  | _, _ => true

theorem quiet_refl (cluster : Cluster) : Quiet cluster cluster :=
  ⟨rfl, rfl, rfl, Int.le_refl _⟩

theorem Quiet.trans {first second third : Cluster} (early : Quiet first second)
    (late : Quiet second third) : Quiet first third :=
  ⟨late.secrets.trans early.secrets, late.configurations.trans early.configurations,
    late.written.trans early.written, Int.le_trans early.clock late.clock⟩

variable {request : CertCall}

theorem Quiet.put {secret : Secret} {first second third : Cluster} (quiet : Quiet first second)
    (put : Put request secret second third) : Put request secret first third :=
  ⟨quiet.secrets ▸ put.secrets, put.configurations.trans quiet.configurations,
    quiet.written ▸ put.written, Int.le_trans quiet.clock put.clock⟩

theorem Put.quiet {secret : Secret} {first second third : Cluster}
    (put : Put request secret first second) (quiet : Quiet second third) :
    Put request secret first third :=
  ⟨quiet.secrets ▸ put.secrets, quiet.configurations.trans put.configurations,
    quiet.written.trans put.written, Int.le_trans put.clock quiet.clock⟩

theorem Quiet.effect {first second third : Cluster} (quiet : Quiet first second)
    (effect : Effect request second third) :
    Effect request first third := by
  have here := quiet
  obtain ⟨secrets, configurations, written, clock⟩ := here
  cases request with
  | createSecret secret => exact ⟨secrets ▸ effect.1, quiet.put effect.2⟩
  | updateSecret secret => exact quiet.put effect
  | deleteSecret key =>
      exact ⟨secrets ▸ effect.secrets, configurations ▸ effect.configurations,
        written ▸ effect.written, Int.le_trans clock effect.clock⟩
  | updateConfiguration configuration =>
      exact ⟨secrets ▸ effect.secrets, configurations ▸ effect.configurations,
        written ▸ effect.written, Int.le_trans clock effect.clock⟩
  | _ => exact quiet.trans effect

theorem Effect.quiet {first second third : Cluster} (effect : Effect request first second)
    (quiet : Quiet second third) :
    Effect request first third := by
  have after := quiet
  obtain ⟨secrets, configurations, written, clock⟩ := after
  cases request with
  | createSecret secret => exact ⟨effect.1, effect.2.quiet quiet⟩
  | updateSecret secret => exact Put.quiet effect quiet
  | deleteSecret key =>
      exact ⟨secrets ▸ effect.secrets, configurations ▸ effect.configurations,
        written ▸ effect.written, Int.le_trans effect.clock clock⟩
  | updateConfiguration configuration =>
      exact ⟨secrets ▸ effect.secrets, configurations ▸ effect.configurations,
        written ▸ effect.written, Int.le_trans effect.clock clock⟩
  | _ => exact Quiet.trans effect quiet

variable {before : Cluster}

theorem Effect.clock {after : Cluster} (effect : Effect request before after) :
    before.clock ≤ after.clock := by
  cases request with
  | createSecret secret => exact effect.2.clock
  | updateSecret secret => exact Put.clock effect
  | deleteSecret key => exact Removed.clock effect
  | updateConfiguration configuration => exact Configured.clock effect
  | _ => exact Quiet.clock effect

theorem quiet_later (cluster : Cluster) (elapsed : Nat) : Quiet cluster (cluster.later elapsed) :=
  ⟨rfl, rfl, rfl, Int.le_add_of_nonneg_right (Int.natCast_nonneg elapsed)⟩

structure Keyed (cluster : Cluster) : Prop where
  secrets : ∀ key secret, cluster.secrets key = some secret → secret.key = key
  configurations : ∀ name configuration, cluster.configurations name = some configuration →
    configuration.name = name

theorem keyed_installed (configuration : ValidatingWebhookConfiguration) (clock : Time) :
    Keyed (Cluster.installed configuration clock) := by
  refine ⟨fun _ _ impossible => absurd impossible (Option.some_ne_none _).symm, ?_⟩
  intro name found isStored
  dsimp only [Cluster.installed] at isStored
  rcases update_eq_some isStored with ⟨same, ⟨⟩⟩ | ⟨_, isStored⟩
  · exact same.symm
  · cases isStored

theorem Keyed.quiet {after : Cluster} (keyed : Keyed before) (quiet : Quiet before after) :
    Keyed after :=
  ⟨quiet.secrets ▸ keyed.secrets, quiet.configurations ▸ keyed.configurations⟩

theorem Keyed.put {secret : Secret} {after : Cluster} (keyed : Keyed before)
    (put : Put request secret before after) : Keyed after := by
  refine ⟨?_, put.configurations ▸ keyed.configurations⟩
  obtain ⟨version, secrets⟩ := put.secrets
  intro key found isStored
  rw [secrets] at isStored
  rcases update_eq_some isStored with ⟨same, ⟨⟩⟩ | ⟨_, isStored⟩
  · exact same.symm
  · exact keyed.secrets key found isStored

theorem Keyed.removed {removedKey : NamespacedName} {after : Cluster} (keyed : Keyed before)
    (removal : Removed removedKey before after) : Keyed after := by
  refine ⟨?_, removal.configurations ▸ keyed.configurations⟩
  intro key found isStored
  rw [removal.secrets] at isStored
  obtain ⟨_, isStored⟩ := update_none_eq_some isStored
  exact keyed.secrets key found isStored

theorem Keyed.configured {configuration : ValidatingWebhookConfiguration} {after : Cluster}
    (keyed : Keyed before) (configured : Configured configuration before after) :
    Keyed after := by
  refine ⟨configured.secrets ▸ keyed.secrets, ?_⟩
  obtain ⟨version, configurations⟩ := configured.configurations
  intro name found isStored
  rw [configurations] at isStored
  rcases update_eq_some isStored with ⟨same, ⟨⟩⟩ | ⟨_, isStored⟩
  · exact same.symm
  · exact keyed.configurations name found isStored

/-- A reply lets the server work off the call, or gives an error of its own. -/
theorem respond_cases (reply : Reply) (request : CertCall) (cluster : Cluster) :
    respond reply request cluster = (cluster.later reply.elapsed).serve request ∨
      ∃ err answer, refuse request err = some answer ∧
        (respond reply request cluster).1 = answer ∧
        ((respond reply request cluster).2 = cluster.later reply.elapsed ∨
          (respond reply request cluster).2 = ((cluster.later reply.elapsed).serve request).2) := by
  unfold respond
  cases reply.fate with
  | succeeds => exact .inl rfl
  | fails err =>
      dsimp only
      cases refused : refuse request err with
      | none => exact .inl rfl
      | some answer => exact .inr ⟨err, answer, refused, rfl, .inl rfl⟩
  | lost err =>
      dsimp only
      cases refused : refuse request err with
      | none => exact .inl rfl
      | some answer => exact .inr ⟨err, answer, refused, rfl, .inr rfl⟩

private theorem serve_effect (request : CertCall) (cluster : Cluster) :
    Effect request cluster (cluster.serve request).2 ∨
      (cluster.serve request).2 = cluster ∧
        confirmed request (cluster.serve request).1 = false := by
  cases request with
  | createSecret secret =>
      simp only [Cluster.serve]
      split
      · exact .inr ⟨rfl, rfl⟩
      · split
        · exact .inr ⟨rfl, rfl⟩
        · rename_i missing
          exact .inl ⟨missing, ⟨_, rfl⟩, rfl, rfl, Int.le_refl _⟩
  | updateSecret secret =>
      simp only [Cluster.serve]
      split
      · exact .inr ⟨rfl, rfl⟩
      · split
        · exact .inl ⟨⟨_, rfl⟩, rfl, rfl, Int.le_refl _⟩
        · exact .inr ⟨rfl, rfl⟩
  | deleteSecret key =>
      simp only [Cluster.serve]
      split
      · exact .inr ⟨rfl, rfl⟩
      · exact .inl ⟨rfl, rfl, rfl, Int.le_refl _⟩
  | updateConfiguration configuration =>
      simp only [Cluster.serve]
      split
      · exact .inr ⟨rfl, rfl⟩
      · split
        · exact .inl ⟨rfl, ⟨_, rfl⟩, rfl, Int.le_refl _⟩
        · exact .inr ⟨rfl, rfl⟩
  | now => exact .inl (quiet_refl _)
  | generateKey => exact .inl ⟨rfl, rfl, rfl, Int.le_refl _⟩
  | serialNumber => exact .inl ⟨rfl, rfl, rfl, Int.le_refl _⟩
  | _ =>
      simp only [Cluster.serve]
      split <;> exact .inl (quiet_refl _)

private theorem refuse_unconfirmed {err : GoError} {answer : request.Answer}
    (refused : refuse request err = some answer) :
    confirmed request answer = false ∨ Effect request = Quiet := by
  cases request with
  | createSecret secret => cases refused; exact .inl rfl
  | updateSecret secret => cases refused; exact .inl rfl
  | deleteSecret key => cases refused; exact .inl rfl
  | updateConfiguration configuration => cases refused; exact .inl rfl
  | _ => exact .inr rfl

/-- A call has been worked off, or it has done nothing and its answer does not confirm
it. -/
theorem respond_effect (reply : Reply) (request : CertCall) (cluster : Cluster) :
    (Effect request cluster (respond reply request cluster).2 ∨
        Quiet cluster (respond reply request cluster).2) ∧
      (confirmed request (respond reply request cluster).1 = true →
        Effect request cluster (respond reply request cluster).2) := by
  have later := quiet_later cluster reply.elapsed
  have served := serve_effect request (cluster.later reply.elapsed)
  rcases respond_cases reply request cluster with same | ⟨err, answer, refused, isAnswer, state⟩
  · rw [same]
    rcases served with effect | ⟨unchanged, unconfirmed⟩
    · exact ⟨.inl ((quiet_later _ _).effect effect), fun _ => (quiet_later _ _).effect effect⟩
    · rw [unchanged, unconfirmed]
      exact ⟨.inr later, fun impossible => by cases impossible⟩
  · have done : Effect request cluster (respond reply request cluster).2 ∨
        Quiet cluster (respond reply request cluster).2 := by
      rcases state with unserved | isServed
      · rw [unserved]
        exact .inr later
      · rw [isServed]
        rcases served with effect | ⟨unchanged, _⟩
        · exact .inl ((quiet_later _ _).effect effect)
        · rw [unchanged]
          exact .inr later
    refine ⟨done, ?_⟩
    rw [isAnswer]
    rcases refuse_unconfirmed refused with unconfirmed | reads
    · rw [unconfirmed]
      intro impossible
      cases impossible
    · rw [reads, or_self] at done
      rw [reads]
      exact fun _ => done

private theorem serve_getSecret (key : NamespacedName) (cluster : Cluster) :
    (cluster.serve (.getSecret key)).2 = cluster ∧
      ((∃ secret, cluster.secrets key = some secret ∧
          (cluster.serve (.getSecret key)).1 = .ok secret) ∨
        cluster.secrets key = none ∧
          (cluster.serve (.getSecret key)).1 = .error (notFound key.name)) := by
  simp only [Cluster.serve]
  cases cluster.secrets key with
  | none => exact ⟨rfl, .inr ⟨rfl, rfl⟩⟩
  | some secret => exact ⟨rfl, .inl ⟨secret, rfl, rfl⟩⟩

private theorem respond_getSecret (reply : Reply) (key : NamespacedName) (cluster : Cluster) :
    Quiet cluster (respond reply (.getSecret key) cluster).2 ∧
      ((∃ secret, cluster.secrets key = some secret ∧
          (respond reply (.getSecret key) cluster).1 = .ok secret) ∨
        ∃ err, (err.isNotFound = true → cluster.secrets key = none) ∧
          (respond reply (.getSecret key) cluster).1 = .error err) := by
  have later := quiet_later cluster reply.elapsed
  obtain ⟨same, answered⟩ := serve_getSecret key (cluster.later reply.elapsed)
  rcases respond_cases reply (.getSecret key) cluster with served |
    ⟨err, answer, refused, isAnswer, state⟩
  · rw [served, same]
    refine ⟨later, ?_⟩
    rcases answered with found | ⟨missing, isMissing⟩
    · exact .inl found
    · exact .inr ⟨_, fun _ => missing, isMissing⟩
  · rw [same, or_self] at state
    rw [state, isAnswer]
    refine ⟨later, .inr ⟨err, ?_⟩⟩
    simp only [refuse] at refused
    split at refused
    · cases refused
    · rename_i present
      cases refused
      exact ⟨fun absent => absurd absent present, rfl⟩

private theorem respond_getConfiguration (reply : Reply) (name : String) (cluster : Cluster)
    (configuration : ValidatingWebhookConfiguration)
    (isAnswer : (respond reply (.getConfiguration name) cluster).1 = .ok configuration) :
    cluster.configurations name = some configuration := by
  rcases respond_cases reply (.getConfiguration name) cluster with served |
    ⟨err, answer, refused, sameAnswer, _⟩
  · rw [served] at isAnswer
    simp only [Cluster.serve] at isAnswer
    split at isAnswer
    · cases isAnswer
    · rename_i found isStored
      cases isAnswer
      exact isStored
  · rw [isAnswer] at sameAnswer
    subst sameAnswer
    simp only [refuse] at refused
    split at refused
    · cases refused
    · cases refused

theorem respond_now (reply : Reply) (cluster : Cluster) :
    Quiet cluster (respond reply .now cluster).2 ∧
      (respond reply .now cluster).1 = (respond reply .now cluster).2.clock := by
  rcases respond_cases reply .now cluster with served | ⟨err, answer, refused, _⟩
  · rw [served]
    exact ⟨quiet_later cluster reply.elapsed, rfl⟩
  · cases refused

section Rules

variable {α : Type} {always : Cluster → Prop} {ensures : α → Cluster → Prop} {cluster : Cluster}

theorem sustains_getSecret {key : NamespacedName}
    {next : Except GoError Secret → Program certApi α} (here : always cluster)
    (found : ∀ secret after, cluster.secrets key = some secret → Quiet cluster after →
      Sustains respond always ensures (next (.ok secret)) after)
    (failed : ∀ err after, (err.isNotFound = true → cluster.secrets key = none) →
      Quiet cluster after → Sustains respond always ensures (next (.error err)) after) :
    Sustains respond always ensures (@Program.call certApi α (.getSecret key) next) cluster := by
  refine ⟨here, ?_⟩
  intro reply
  obtain ⟨quiet, answered⟩ := respond_getSecret reply key cluster
  rcases answered with ⟨secret, isStored, isAnswer⟩ | ⟨err, missing, isAnswer⟩
  · rw [isAnswer]
    exact found secret _ isStored quiet
  · rw [isAnswer]
    exact failed err _ missing quiet

theorem sustains_now {next : Time → Program certApi α} (here : always cluster)
    (goesOn : ∀ after, Quiet cluster after →
      Sustains respond always ensures (next after.clock) after) :
    Sustains respond always ensures (@Program.call certApi α .now next) cluster := by
  refine ⟨here, ?_⟩
  intro reply
  obtain ⟨quiet, isAnswer⟩ := respond_now reply cluster
  rw [isAnswer]
  exact goesOn _ quiet

/-- A call that writes nothing, when its answer does not matter. -/
theorem sustains_quiet {request : CertCall} {next : request.Answer → Program certApi α}
    (reads : Effect request = Quiet) (here : always cluster)
    (goesOn : ∀ answer after, Quiet cluster after →
      Sustains respond always ensures (next answer) after) :
    Sustains respond always ensures (@Program.call certApi α request next) cluster := by
  refine ⟨here, ?_⟩
  intro reply
  have effect := (respond_effect reply request cluster).1
  rw [reads, or_self] at effect
  exact goesOn _ _ effect

theorem sustains_getConfiguration {name : String}
    {next : Except GoError ValidatingWebhookConfiguration → Program certApi α}
    (here : always cluster)
    (found : ∀ configuration after, cluster.configurations name = some configuration →
      Quiet cluster after → Sustains respond always ensures (next (.ok configuration)) after)
    (failed : ∀ err after, Quiet cluster after →
      Sustains respond always ensures (next (.error err)) after) :
    Sustains respond always ensures (@Program.call certApi α (.getConfiguration name) next)
      cluster := by
  refine ⟨here, ?_⟩
  intro reply
  have quiet := (respond_effect reply (.getConfiguration name) cluster).1
  rw [show Effect (.getConfiguration name) = Quiet from rfl, or_self] at quiet
  have isStored := respond_getConfiguration reply name cluster
  generalize respond reply (.getConfiguration name) cluster = answered at quiet isStored
  obtain ⟨answer, after⟩ := answered
  cases answer with
  | error err => exact failed err after quiet
  | ok configuration => exact found configuration after (isStored configuration rfl) quiet

theorem sustains_reads {program : Program certApi α}
    (reads : Makes (fun request => Effect request = Quiet) program) {before : Cluster}
    (quiet : Quiet before cluster) :
    Sustains respond (Quiet before) (fun _ after => Quiet before after) program cluster := by
  induction program generalizing cluster with
  | done result => exact ⟨quiet, quiet⟩
  | call request next ih =>
      refine sustains_quiet reads.1 quiet ?_
      intro answer after later
      exact ih answer (reads.2 answer trivial) (quiet.trans later)

/-- A write, when it is not known whether it has been made. -/
theorem sustains_write {request : CertCall} {next : request.Answer → Program certApi α}
    (here : always cluster)
    (goesOn : ∀ answer after, Effect request cluster after ∨ Quiet cluster after →
      (confirmed request answer = true → Effect request cluster after) →
      Sustains respond always ensures (next answer) after) :
    Sustains respond always ensures (@Program.call certApi α request next) cluster := by
  refine ⟨here, ?_⟩
  intro reply
  obtain ⟨effect, certain⟩ := respond_effect reply request cluster
  exact goesOn _ _ effect certain

end Rules

end KubeTemplater.Cert
