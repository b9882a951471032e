/-
The API server as the certificate manager sees it, and runs of `ensureCertificate`
against it.

A call is served, refused, or served with its answer lost.  A run may end before its
program does; what it has written by then stays.
-/

import KubeTemplater.Cert.Manager
import KubeTemplater.Library.Interruption
import KubeTemplater.Library.Transition
import Mathlib.Logic.Function.Basic

namespace KubeTemplater.Cert

open Library Library.Program

structure Cluster where
  secrets : NamespacedName → Option Secret
  configurations : String → Option ValidatingWebhookConfiguration
  revision : Nat
  /-- How many random values have been drawn. -/
  drawn : Nat
  clock : Time
  /-- The writes of the run that have taken effect, the latest first. -/
  written : List CertCall

namespace Cluster

/-- A write gets the next resource version. -/
def putSecret (cluster : Cluster) (request : CertCall) (secret : Secret) : Cluster :=
  { cluster with
    secrets := Function.update cluster.secrets secret.key
      (some { secret with resourceVersion := cluster.revision + 1 })
    revision := cluster.revision + 1
    written := request :: cluster.written }

def removeSecret (cluster : Cluster) (key : NamespacedName) : Cluster :=
  { cluster with
    secrets := Function.update cluster.secrets key none
    revision := cluster.revision + 1
    written := .deleteSecret key :: cluster.written }

def putConfiguration (cluster : Cluster) (configuration : ValidatingWebhookConfiguration) :
    Cluster :=
  { cluster with
    configurations := Function.update cluster.configurations configuration.name
      (some { configuration with resourceVersion := cluster.revision + 1 })
    revision := cluster.revision + 1
    written := .updateConfiguration configuration :: cluster.written }

def serve : (request : CertCall) → Cluster → request.Answer × Cluster
  | .getSecret key, cluster =>
      match cluster.secrets key with
      | none => (.error (notFound key.name), cluster)
      | some secret => (.ok secret, cluster)
  | .createSecret secret, cluster =>
      if secret.resourceVersion ≠ 0 then
        (.error (errorf "resourceVersion should not be set on objects to be created"), cluster)
      else
        match cluster.secrets secret.key with
        | some _ => (.error (errorf (secret.key.name ++ " already exists")), cluster)
        | none => (.ok (), cluster.putSecret (.createSecret secret) secret)
  | .updateSecret secret, cluster =>
      match cluster.secrets secret.key with
      | none => (.error (notFound secret.key.name), cluster)
      | some stored =>
          if stored.resourceVersion = secret.resourceVersion then
            (.ok (), cluster.putSecret (.updateSecret secret) secret)
          else (.error (conflict secret.key.name), cluster)
  | .deleteSecret key, cluster =>
      match cluster.secrets key with
      | none => (.error (notFound key.name), cluster)
      | some _ => (.ok (), cluster.removeSecret key)
  | .getConfiguration name, cluster =>
      match cluster.configurations name with
      | none => (.error (notFound name), cluster)
      | some configuration => (.ok configuration, cluster)
  | .updateConfiguration configuration, cluster =>
      match cluster.configurations configuration.name with
      | none => (.error (notFound configuration.name), cluster)
      | some stored =>
          if stored.resourceVersion = configuration.resourceVersion then
            (.ok (), cluster.putConfiguration configuration)
          else (.error (conflict configuration.name), cluster)
  | .now, cluster => (cluster.clock, cluster)
  | .generateKey, cluster =>
      (.ok ⟨cluster.drawn⟩, { cluster with drawn := cluster.drawn + 1 })
  | .serialNumber, cluster =>
      (.ok cluster.drawn, { cluster with drawn := cluster.drawn + 1 })

end Cluster

def Cluster.installed (configuration : ValidatingWebhookConfiguration) (clock : Time) : Cluster :=
  { secrets := fun _ => none
    configurations := Function.update (fun _ => none) configuration.name (some configuration)
    revision := configuration.resourceVersion
    drawn := 0
    clock := clock
    written := [] }

def chartManager : Manager :=
  { secretName := "kubetemplater-webhook-cert"
    secretNamespace := "kubetemplater-system"
    serviceName := "kubetemplater-webhook-service"
    webhookConfigName := "kubetemplater-validating-webhook-configuration" }

def chartConfiguration : ValidatingWebhookConfiguration :=
  { name := "kubetemplater-validating-webhook-configuration"
    resourceVersion := 1
    webhooks := [{ name := "vkubetemplate.kb.io", caBundle := .empty }] }

/-- The answer of a call that fails.  "Not found" is an answer of the server to a read
and no failure, and the clock does not fail. -/
def refuse : (request : CertCall) → GoError → Option request.Answer
  | .getSecret _, err => if err.isNotFound then none else some (.error err)
  | .getConfiguration _, err => if err.isNotFound then none else some (.error err)
  | .createSecret _, err => some (.error err)
  | .updateSecret _, err => some (.error err)
  | .deleteSecret _, err => some (.error err)
  | .updateConfiguration _, err => some (.error err)
  | .generateKey, err => some (.error err)
  | .serialNumber, err => some (.error err)
  | .now, _ => none

inductive Fate where
  | succeeds
  /-- The call fails and changes nothing. -/
  | fails (err : GoError)
  /-- The call is worked off, but the answer is an error. -/
  | lost (err : GoError)

/-- What becomes of a call, and the time until it does. -/
structure Reply where
  elapsed : Nat
  fate : Fate

def Reply.smooth : Reply := { elapsed := 0, fate := .succeeds }

def Cluster.later (cluster : Cluster) (elapsed : Nat) : Cluster :=
  { cluster with clock := cluster.clock + elapsed }

def respond (reply : Reply) (request : CertCall) (cluster : Cluster) :
    request.Answer × Cluster :=
  let now := cluster.later reply.elapsed
  match reply.fate with
  | .succeeds => now.serve request
  | .fails err =>
      match refuse request err with
      | none => now.serve request
      | some answer => (answer, now)
  | .lost err =>
      match refuse request err with
      | none => now.serve request
      | some answer => (answer, (now.serve request).2)

theorem respond_smooth (request : CertCall) (cluster : Cluster) :
    respond .smooth request cluster = cluster.serve request := by
  have same : cluster.later 0 = cluster := by
    unfold Cluster.later
    rw [Int.natCast_zero, Int.add_zero]
  simp only [respond, Reply.smooth, same]

/-- One run of `ensureCertificate`: the time since the previous one, and the replies to
its calls. -/
structure Run where
  wait : Nat
  replies : List Reply

variable (m : Manager)

def Cluster.begin (cluster : Cluster) (wait : Nat) : Cluster :=
  { cluster.later wait with written := [] }

def Cluster.perform (cluster : Cluster) (run : Run) : Option (Option GoError) × Cluster :=
  (ensureCertificate m).follow respond run.replies (cluster.begin run.wait)

def Cluster.step (cluster : Cluster) (run : Run) : Option Cluster :=
  some (cluster.perform m run).2

/-- A run whose calls all go through at one time, to its end. -/
structure Smooth (cluster : Cluster) (run : Run) : Prop where
  replies : ∀ reply, reply ∈ run.replies → reply = .smooth
  ended : (cluster.perform m run).1.isSome = true

theorem Smooth.perform {cluster : Cluster} {run : Run} (smooth : Smooth m cluster run) :
    (cluster.perform m run).2 =
      (runWith Cluster.serve (ensureCertificate m) (cluster.begin run.wait)).2 := by
  obtain ⟨result, ended⟩ := Option.isSome_iff_exists.mp smooth.ended
  have handled (reply : Reply) (member : reply ∈ run.replies) (request : CertCall)
      (state : Cluster) : respond reply request state = state.serve request := by
    rw [smooth.replies reply member]
    exact respond_smooth request state
  exact congrArg Prod.snd (follow_handled handled ended)

def dayWait : Nat := 86400000000000

def smoothRun (wait : Nat) : Run := { wait := wait, replies := List.replicate 20 .smooth }

theorem exists_smooth (cluster : Cluster) (wait : Nat) :
    ∃ run, run.wait = wait ∧ Smooth m cluster run := by
  obtain ⟨count, ends⟩ := exists_follow respond_smooth (ensureCertificate m) (cluster.begin wait)
  refine ⟨{ wait := wait, replies := List.replicate count .smooth }, rfl, ?_, ?_⟩
  · intro reply member
    exact List.eq_of_mem_replicate member
  · unfold Cluster.perform
    rw [ends]
    rfl

end KubeTemplater.Cert
