/-
The certificate manager of the webhook: `ensureCertificate` and the functions it is
made of.

The bytes of a Secret are represented by what `pem.Decode` and the two parsers make of
them.  A certificate is known by its fields and by the key that signed it.
-/

import KubeTemplater.Api
import KubeTemplater.Library.Program

namespace KubeTemplater.Cert

open Library

def second : Time := 1000000000

def day : Time := 24 * 60 * 60 * second

def caValidityDuration : Time := 10 * 365 * day

def certValidityDuration : Time := 365 * day

def renewThreshold : Time := 30 * day

def caRenewThreshold : Time := 365 * day

def checkInterval : Time := day

structure PrivateKey where
  publicKey : Nat
  deriving DecidableEq, Repr

structure CertificateTemplate where
  serialNumber : Nat
  commonName : String
  dnsNames : List String
  notBefore : Time
  notAfter : Time
  isCA : Bool
  deriving DecidableEq, Repr

structure Certificate extends CertificateTemplate where
  publicKey : Nat
  /-- The public half of the key the signature was made with. -/
  signedBy : Nat
  deriving DecidableEq, Repr

def wholeSeconds (time : Time) : Time := time - time % second

def createCertificate (template : CertificateTemplate) (parentKey : Option Nat)
    (publicKey : Nat) (key : PrivateKey) : Except GoError Certificate :=
  if parentKey.any (fun parent => parent != key.publicKey) then
    .error (errorf "x509: provided PrivateKey doesn't match parent's PublicKey")
  else
    .ok { template with
      notBefore := wholeSeconds template.notBefore
      notAfter := wholeSeconds template.notAfter
      publicKey := publicKey
      signedBy := key.publicKey }

def Certificate.expired (certificate : Certificate) (now : Time) : Bool :=
  decide (certificate.notAfter < now)

/-- `Verify` against a pool: the issuer is in the pool and both are unexpired. -/
def Certificate.verify (certificate : Certificate) (roots : List Certificate) (now : Time) :
    Bool :=
  !certificate.expired now &&
    roots.any (fun root => root.publicKey == certificate.signedBy && !root.expired now)

/-- The contents of a PEM block, by what `x509.ParseCertificate` and
`x509.ParsePKCS1PrivateKey` make of them. -/
structure Block where
  certificate : Except GoError Certificate
  key : Except GoError PrivateKey
  deriving DecidableEq

/-- A value in the data of a Secret; `text` is what `pem.Decode` finds no block in. -/
inductive Pem where
  | empty
  | text
  | block (contents : Block)
  deriving DecidableEq

def Pem.decode : Pem → Option Block
  | .block contents => some contents
  | _ => none

def encodeCertificate (certificate : Certificate) : Pem :=
  .block
    { certificate := .ok certificate
      key := .error (errorf "x509: failed to parse private key") }

def encodeKey (key : PrivateKey) : Pem :=
  .block
    { certificate := .error (errorf "x509: malformed certificate")
      key := .ok key }

inductive SecretType where
  | secretTypeOpaque
  | secretTypeTLS
  deriving DecidableEq, Repr

structure Secret where
  key : NamespacedName
  /-- Zero when it is not set. -/
  resourceVersion : Nat
  secretType : SecretType
  data : List (String × Pem)
  deriving DecidableEq

structure Webhook where
  name : String
  caBundle : Pem
  deriving DecidableEq

structure ValidatingWebhookConfiguration where
  name : String
  resourceVersion : Nat
  webhooks : List Webhook
  deriving DecidableEq

inductive CertCall where
  | getSecret (key : NamespacedName)
  | createSecret (secret : Secret)
  | updateSecret (secret : Secret)
  | deleteSecret (key : NamespacedName)
  | getConfiguration (name : String)
  | updateConfiguration (configuration : ValidatingWebhookConfiguration)
  | now
  | generateKey
  | serialNumber
  deriving DecidableEq

abbrev CertCall.Answer : CertCall → Type
  | .getSecret _ => Except GoError Secret
  | .createSecret _ => Except GoError Unit
  | .updateSecret _ => Except GoError Unit
  | .deleteSecret _ => Except GoError Unit
  | .getConfiguration _ => Except GoError ValidatingWebhookConfiguration
  | .updateConfiguration _ => Except GoError Unit
  | .now => Time
  | .generateKey => Except GoError PrivateKey
  | .serialNumber => Except GoError Nat

abbrev certApi : Interface :=
  { Call := CertCall
    Answer := CertCall.Answer }

def getSecret (key : NamespacedName) : Program certApi (Except GoError Secret) :=
  .call (CertCall.getSecret key) .done

def createSecret (secret : Secret) : Program certApi (Except GoError Unit) :=
  .call (CertCall.createSecret secret) .done

def updateSecret (secret : Secret) : Program certApi (Except GoError Unit) :=
  .call (CertCall.updateSecret secret) .done

def deleteSecret (key : NamespacedName) : Program certApi (Except GoError Unit) :=
  .call (CertCall.deleteSecret key) .done

def getConfiguration (name : String) :
    Program certApi (Except GoError ValidatingWebhookConfiguration) :=
  .call (CertCall.getConfiguration name) .done

def updateConfiguration (configuration : ValidatingWebhookConfiguration) :
    Program certApi (Except GoError Unit) :=
  .call (CertCall.updateConfiguration configuration) .done

def timeNow : Program certApi Time :=
  .call CertCall.now .done

def generateKey : Program certApi (Except GoError PrivateKey) :=
  .call CertCall.generateKey .done

def randomSerial : Program certApi (Except GoError Nat) :=
  .call CertCall.serialNumber .done

structure Manager where
  secretName : String
  secretNamespace : String
  serviceName : String
  webhookConfigName : String
  deriving DecidableEq, Repr

namespace Manager

variable (m : Manager)

def serverSecret : NamespacedName := ⟨m.secretNamespace, m.secretName⟩

def caSecret : NamespacedName := ⟨m.secretNamespace, m.secretName ++ "-ca"⟩

def caSecretNew : NamespacedName := ⟨m.secretNamespace, m.secretName ++ "-ca" ++ "-new"⟩

end Manager

def parseCAFromSecret (secret : Secret) : Except GoError (Certificate × PrivateKey) :=
  match mapGet secret.data "ca.crt" with
  | none => .error (errorf "CA secret missing ca.crt")
  | some certPEM =>
      match mapGet secret.data "ca.key" with
      | none => .error (errorf "CA secret missing ca.key")
      | some keyPEM =>
          match certPEM.decode with
          | none => .error (errorf "failed to decode CA certificate PEM")
          | some certBlock =>
              match certBlock.certificate with
              | .error err => .error (err.wrap "failed to parse CA certificate: ")
              | .ok caCert =>
                  match keyPEM.decode with
                  | none => .error (errorf "failed to decode CA key PEM")
                  | some keyBlock =>
                      match keyBlock.key with
                      | .error err => .error (err.wrap "failed to parse CA key: ")
                      | .ok caKey => .ok (caCert, caKey)

/-- The template of `generateCA`; each of the two times is read on its own. -/
def caTemplate (serial : Nat) (notBefore now : Time) : CertificateTemplate :=
  { serialNumber := serial
    commonName := "KubeTemplater CA"
    dnsNames := []
    notBefore := notBefore
    notAfter := now + caValidityDuration
    isCA := true }

def newCASecret (key : NamespacedName) (caCert : Certificate) (caKey : PrivateKey) : Secret :=
  { key := key
    resourceVersion := 0
    secretType := .secretTypeOpaque
    data := [("ca.crt", encodeCertificate caCert), ("ca.key", encodeKey caKey)] }

def generateCA (key : NamespacedName) :
    Program certApi (Except GoError (Certificate × PrivateKey)) := do
  match ← generateKey with
  | .error err => pure (.error (err.wrap "failed to generate CA key: "))
  | .ok caKey =>
      match ← randomSerial with
      | .error err => pure (.error (err.wrap "failed to generate serial number: "))
      | .ok serial => do
          let notBefore ← timeNow
          let now ← timeNow
          match createCertificate (caTemplate serial notBefore now) none caKey.publicKey caKey with
          | .error err => pure (.error (err.wrap "failed to create CA certificate: "))
          | .ok caCert =>
              match ← createSecret (newCASecret key caCert caKey) with
              | .error err => pure (.error (err.wrap "failed to create CA secret: "))
              | .ok _ => pure (.ok (caCert, caKey))

section

variable (m : Manager)

def promotedSecret (newSecret : Secret) : Secret :=
  { newSecret with key := m.caSecret, resourceVersion := 0 }

/-- The old CA has expired: the new one takes its name.  Only the outcome of the
creation decides whether the new Secret is deleted. -/
def promoteCA (newSecret : Secret) : Program certApi Unit := do
  let _ ← deleteSecret m.caSecret
  match ← createSecret (promotedSecret m newSecret) with
  | .error _ => pure ()
  | .ok _ => do
      let _ ← deleteSecret m.caSecretNew
      pure ()

def ensureNewCA (newSecret : Secret) : Program certApi Unit := do
  match ← getSecret m.caSecret with
  | .error _ => pure ()
  | .ok oldSecret =>
      match parseCAFromSecret oldSecret with
      | .error _ => pure ()
      | .ok (oldCACert, _) => do
          let now ← timeNow
          if oldCACert.notAfter < now then promoteCA m newSecret else pure ()

def ensureCurrentCA : Program certApi (Except GoError (Certificate × PrivateKey)) := do
  match ← getSecret m.caSecret with
  | .error err =>
      if err.isNotFound then generateCA m.caSecret
      else pure (.error (err.wrap "failed to get CA secret: "))
  | .ok secret =>
      match parseCAFromSecret secret with
      | .error err => pure (.error err)
      | .ok current => do
          let now ← timeNow
          if current.1.notAfter < now + caRenewThreshold then
            match ← generateCA m.caSecretNew with
            | .error _ => pure (.ok current)
            | .ok fresh => pure (.ok fresh)
          else pure (.ok current)

def ensureCA : Program certApi (Except GoError (Certificate × PrivateKey)) := do
  match ← getSecret m.caSecretNew with
  | .error _ => ensureCurrentCA m
  | .ok newSecret =>
      match parseCAFromSecret newSecret with
      | .error _ => ensureCurrentCA m
      | .ok new => do
          ensureNewCA m newSecret
          pure (.ok new)

def serverCertificate (secret : Secret) : Option Certificate :=
  match mapGet secret.data "tls.crt" with
  | none => none
  | some certData =>
      match certData.decode with
      | none => none
      | some block =>
          match block.certificate with
          | .error _ => none
          | .ok cert => some cert

def trustedRoots (caCert : Certificate) : Program certApi (List Certificate) := do
  match ← getSecret m.caSecret with
  | .error _ => pure [caCert]
  | .ok oldCASecret =>
      match parseCAFromSecret oldCASecret with
      | .error _ => pure [caCert]
      | .ok (oldCACert, _) => pure (if oldCACert = caCert then [caCert] else [caCert, oldCACert])

def needsServerCertGeneration (caCert : Certificate) : Program certApi (Except GoError Bool) := do
  match ← getSecret m.serverSecret with
  | .error err =>
      if err.isNotFound then pure (.ok true)
      else pure (.error (err.wrap "failed to get secret: "))
  | .ok secret =>
      match serverCertificate secret with
      | none => pure (.ok true)
      | some cert => do
          let now ← timeNow
          if cert.notAfter < now + renewThreshold then pure (.ok true)
          else do
            let roots ← trustedRoots m caCert
            -- `Verify` reads the clock itself
            let now ← timeNow
            pure (.ok (!cert.verify roots now))

def serverTemplate (serial : Nat) (notBefore now : Time) : CertificateTemplate :=
  let service := m.serviceName ++ "." ++ m.secretNamespace
  { serialNumber := serial
    commonName := service ++ ".svc"
    dnsNames := [m.serviceName, service, service ++ ".svc", service ++ ".svc.cluster.local"]
    notBefore := notBefore
    notAfter := now + certValidityDuration
    isCA := false }

def serverData (cert : Certificate) (key : PrivateKey) : List (String × Pem) :=
  [("tls.crt", encodeCertificate cert), ("tls.key", encodeKey key)]

def storeServerCert (cert : Certificate) (key : PrivateKey) : Program certApi (Option GoError) := do
  match ← getSecret m.serverSecret with
  | .error err =>
      if err.isNotFound then
        match ← createSecret
            { key := m.serverSecret, resourceVersion := 0, secretType := .secretTypeTLS
              data := serverData cert key } with
        | .error err => pure (some (err.wrap "failed to create secret: "))
        | .ok _ => pure none
      else pure (some (err.wrap "failed to get secret: "))
  | .ok secret =>
      match ← updateSecret { secret with data := serverData cert key } with
      | .error err => pure (some (err.wrap "failed to update secret: "))
      | .ok _ => pure none

def generateServerCert (caCert : Certificate) (caKey : PrivateKey) :
    Program certApi (Option GoError) := do
  match ← generateKey with
  | .error err => pure (some (err.wrap "failed to generate server key: "))
  | .ok serverKey =>
      match ← randomSerial with
      | .error err => pure (some (err.wrap "failed to generate serial number: "))
      | .ok serial => do
          let notBefore ← timeNow
          let now ← timeNow
          match createCertificate (serverTemplate m serial notBefore now) (some caCert.publicKey)
              serverKey.publicKey caKey with
          | .error err => pure (some (err.wrap "failed to create certificate: "))
          | .ok cert => storeServerCert m cert serverKey

def withCABundle (caCert : Certificate) (configuration : ValidatingWebhookConfiguration) :
    ValidatingWebhookConfiguration :=
  { configuration with
    webhooks := configuration.webhooks.map (fun webhook =>
      { webhook with caBundle := encodeCertificate caCert }) }

def patchWebhookConfiguration (caCert : Certificate) : Program certApi (Option GoError) := do
  match ← getConfiguration m.webhookConfigName with
  | .error err => pure (some (err.wrap "failed to get webhook configuration: "))
  | .ok webhookConfig =>
      match ← updateConfiguration (withCABundle caCert webhookConfig) with
      | .error err => pure (some (err.wrap "failed to update webhook configuration: "))
      | .ok _ => pure none

def renewServerCert (caCert : Certificate) (caKey : PrivateKey) :
    Program certApi (Option GoError) := do
  match ← generateServerCert m caCert caKey with
  | some err => pure (some (err.wrap "failed to generate server certificate: "))
  | none => do
      -- an error is logged and dropped
      let _ ← patchWebhookConfiguration m caCert
      pure none

def ensureServerCert (caCert : Certificate) (caKey : PrivateKey) :
    Program certApi (Option GoError) := do
  match ← needsServerCertGeneration m caCert with
  | .error err => pure (some (err.wrap "failed to check server certificate: "))
  | .ok false => pure none
  | .ok true => renewServerCert m caCert caKey

def ensureCertificate : Program certApi (Option GoError) := do
  match ← ensureCA m with
  | .error err => pure (some (err.wrap "failed to ensure CA: "))
  | .ok (caCert, caKey) => ensureServerCert m caCert caKey

end

end KubeTemplater.Cert
