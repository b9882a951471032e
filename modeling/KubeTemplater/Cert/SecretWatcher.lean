/-
The watcher of the webhook's certificate: `SecretCertWatcher`.

`Start` runs in one goroutine; each TLS handshake calls `GetCertificate` in its own.
They share the two copies of the certificate and the channel that tells that the
watcher is ready.  The goroutines take turns at any access to what they share; a loop
that may go on for ever is followed one turn at a time.  What `tls.X509KeyPair` makes of
its two arguments is a parameter.
-/

import KubeTemplater.Cert.Manager
import KubeTemplater.Library.Transition
import Mathlib.Logic.Function.Basic

namespace KubeTemplater.Cert.Watcher

open Library Library.Program

structure SecretCertWatcher where
  secretName : String
  secretNamespace : String
  deriving DecidableEq, Repr

structure Memory (KeyPair : Type) where
  /-- The atomic value; nothing is stored in a new one. -/
  cert : Option KeyPair
  lastValidCert : Option KeyPair
  /-- Whether the channel `isReady` is closed. -/
  isReadyClosed : Bool
  /-- Whether `readyOnce` has run its function. -/
  readyOnceDone : Bool

variable {KeyPair : Type}

def Memory.new : Memory KeyPair :=
  { cert := none
    lastValidCert := none
    isReadyClosed := false
    readyOnceDone := false }

def Memory.readyDo (memory : Memory KeyPair) : Memory KeyPair :=
  if memory.readyOnceDone then memory
  else { memory with isReadyClosed := true, readyOnceDone := true }

inductive MemoryCall (KeyPair : Type) where
  | storeCert (cert : KeyPair)
  -- an access to `lastValidCert` holds the lock from its beginning to its end
  | saveLastValid (cert : KeyPair)
  | readyDo
  | awaitReady
  | loadCert
  | readLastValid

abbrev MemoryCall.Answer : MemoryCall KeyPair → Type
  | .storeCert _ => Unit
  | .saveLastValid _ => Unit
  | .readyDo => Unit
  | .awaitReady => Unit
  | .loadCert => Option KeyPair
  | .readLastValid => Option KeyPair

abbrev memoryApi (KeyPair : Type) : Interface :=
  { Call := MemoryCall KeyPair
    Answer := MemoryCall.Answer }

def Memory.access (memory : Memory KeyPair) :
    (request : MemoryCall KeyPair) → Option (request.Answer × Memory KeyPair)
  | .storeCert cert => some ((), { memory with cert := some cert })
  | .saveLastValid cert => some ((), { memory with lastValidCert := some cert })
  | .readyDo => some ((), memory.readyDo)
  | .awaitReady => if memory.isReadyClosed then some ((), memory) else none
  | .loadCert => some (memory.cert, memory)
  | .readLastValid => some (memory.lastValidCert, memory)

/-- The result when no other goroutine comes in between; `none` when it has to wait. -/
def finish {α : Type} : Program (memoryApi KeyPair) α → Memory KeyPair → Option α
  | .done result, _ => some result
  | .call request next, memory =>
      (memory.access request).bind (fun accessed => finish (next accessed.1) accessed.2)

def servedCertificate : Option KeyPair →
    Program (memoryApi KeyPair) (Except GoError KeyPair)
  | some cert => pure (.ok cert)
  | none => .call MemoryCall.readLastValid (fun lastCert =>
      match lastCert with
      | some cert => pure (.ok cert)
      | none => pure (.error (errorf "certificate not loaded or invalid type")))

def getCertificate : Program (memoryApi KeyPair) (Except GoError KeyPair) :=
  .call MemoryCall.awaitReady (fun _ => .call MemoryCall.loadCert servedCertificate)

/-- `IsReady` looks whether the channel is closed and does not wait. -/
def isReady (memory : Memory KeyPair) : Bool := memory.isReadyClosed

section Loading

variable (watcher : SecretCertWatcher) (x509KeyPair : Pem → Pem → Except GoError KeyPair)

def storeCertificate (cert : KeyPair) : Program (memoryApi KeyPair) (Option GoError) :=
  .call (MemoryCall.storeCert cert) (fun _ =>
    .call (MemoryCall.saveLastValid cert) (fun _ =>
      .call MemoryCall.readyDo (fun _ => pure none)))

def loadCertificate (secret : Secret) : Program (memoryApi KeyPair) (Option GoError) :=
  match mapGet secret.data "tls.crt" with
  | none => pure (some (errorf ("secret " ++ watcher.secretName ++ " is missing tls.crt")))
  | some certPEM =>
      match mapGet secret.data "tls.key" with
      | none => pure (some (errorf ("secret " ++ watcher.secretName ++ " is missing tls.key")))
      | some keyPEM =>
          if certPEM = .empty ∨ keyPEM = .empty then
            pure (some (errorf
              ("certificate data not yet populated in secret " ++ watcher.secretName)))
          else
            match x509KeyPair certPEM keyPEM with
            | .error err =>
                pure (some (err.wrap
                  ("failed to parse certificate and key from secret " ++ watcher.secretName ++
                    ": ")))
            | .ok cert => storeCertificate cert

def keyPairOf (secret : Secret) : Option KeyPair :=
  match mapGet secret.data "tls.crt", mapGet secret.data "tls.key" with
  | some certPEM, some keyPEM =>
      if certPEM = .empty ∨ keyPEM = .empty then none else (x509KeyPair certPEM keyPEM).toOption
  | _, _ => none

end Loading

inductive EventType where
  | added
  | modified
  | deleted
  | bookmark
  | error
  deriving DecidableEq, Repr

/-- What the select of `runWatch` goes on with. -/
inductive Received where
  | cancelled
  | closed
  /-- An event; there is no Secret when its object is of another kind. -/
  | event (type : EventType) (object : Option Secret)

inductive WatcherCall where
  | getSecret (key : NamespacedName)
  /-- A select between a context and a timer of so many seconds. -/
  | selectTimer (seconds : Nat)
  /-- A select between the context and the default case. -/
  | selectDefault
  | watchSecrets (ns fieldSelector : String)
  | sleep (seconds : Nat)
  | receive
  | loadCertificate (secret : Secret)
  | readyDo

abbrev WatcherCall.Answer : WatcherCall → Type
  | .getSecret _ => Except GoError Secret
  -- whether the context is done
  | .selectTimer _ => Bool
  | .selectDefault => Bool
  | .watchSecrets _ _ => Option GoError
  | .sleep _ => Unit
  | .receive => Received
  | .loadCertificate _ => Option GoError
  | .readyDo => Unit

abbrev watcherApi : Interface :=
  { Call := WatcherCall
    Answer := WatcherCall.Answer }

inductive Place where
  /-- At the head of the loop of `performInitialLoad`. -/
  | initialLoad
  /-- At the deferred function of `performInitialLoad`. -/
  | deferred
  /-- At the head of the loop of `Start`. -/
  | watchLoop
  /-- At the head of the loop of `runWatch`. -/
  | watching
  /-- At the select of `Start` behind `runWatch`. -/
  | delay
  | stopped
  deriving DecidableEq, Repr

section Start

variable (watcher : SecretCertWatcher)

/-- One turn of the loop of `performInitialLoad`.  Not found and any other error are
only logged differently. -/
def performInitialLoad : Program watcherApi Place :=
  .call (WatcherCall.getSecret ⟨watcher.secretNamespace, watcher.secretName⟩) (fun got =>
    match got with
    | .ok secret => .call (WatcherCall.loadCertificate secret) (fun _ => pure .deferred)
    | .error _ => .call (WatcherCall.selectTimer 5) (fun cancelled =>
        pure (if cancelled then .deferred else .initialLoad)))

def runWatch : Program watcherApi Place :=
  .call (WatcherCall.watchSecrets watcher.secretNamespace
    ("metadata.name=" ++ watcher.secretName)) (fun err =>
      match err with
      | some _ => .call (WatcherCall.sleep 5) (fun _ => pure .delay)
      | none => pure .watching)

def runWatchTurn : Received → Program watcherApi Place
  | .cancelled => pure .delay
  | .closed => .call (WatcherCall.sleep 2) (fun _ => pure .delay)
  | .event .deleted _ => pure .watching
  | .event _ none => pure .watching
  | .event _ (some secret) =>
      .call (WatcherCall.loadCertificate secret) (fun _ => pure .watching)

def turn : Place → Program watcherApi Place
  | .initialLoad => performInitialLoad watcher
  | .deferred => .call WatcherCall.readyDo (fun _ => pure .watchLoop)
  | .watchLoop => .call WatcherCall.selectDefault (fun cancelled =>
      if cancelled then pure .stopped else runWatch watcher)
  | .watching => .call WatcherCall.receive runWatchTurn
  | .delay => .call (WatcherCall.selectTimer 2) (fun cancelled =>
      pure (if cancelled then .stopped else .watchLoop))
  | .stopped => pure .stopped

end Start

inductive Outcome where
  | got (result : Except GoError Secret)
  | selected (cancelled : Bool)
  | opened (err : Option GoError)
  | received (item : Received)
  | passed

def answer : (request : WatcherCall) → Outcome → Option request.Answer
  | .getSecret _, .got result => some result
  | .selectTimer _, .selected cancelled => some cancelled
  | .selectDefault, .selected cancelled => some cancelled
  | .watchSecrets _ _, .opened err => some err
  | .sleep _, .passed => some ()
  | .receive, .received item => some item
  | _, _ => none

structure Returned where
  secret : Secret
  err : Option GoError
  deriving DecidableEq

structure Handshake (KeyPair : Type) where
  rest : Program (memoryApi KeyPair) (Except GoError KeyPair)
  /-- The returns of `loadCertificate` before the call, the latest first. -/
  since : List Returned

/-- The call with so much left of it; there is none when the result is decided. -/
def Handshake.goOn (handshake : Handshake KeyPair) :
    Program (memoryApi KeyPair) (Except GoError KeyPair) → Option (Handshake KeyPair)
  | .done _ => none
  | rest => some { handshake with rest := rest }

structure System (KeyPair : Type) where
  memory : Memory KeyPair
  /-- The turn of `Start`, from the call it is at. -/
  rest : Program watcherApi Place
  /-- What is left of the `loadCertificate` that `Start` is in. -/
  loading : Option (Program (memoryApi KeyPair) (Option GoError))
  /-- The returns of `loadCertificate`, the latest first. -/
  returned : List Returned
  handshakes : Nat → Option (Handshake KeyPair)

inductive Event where
  | watcher (outcome : Outcome)
  | hello (id : Nat)
  | handshake (id : Nat)

def lastLoaded (returned : List Returned) : Option Secret :=
  (returned.find? (fun load => load.err == none)).map Returned.secret

namespace System

def initial : System KeyPair :=
  { memory := .new
    rest := .done .initialLoad
    loading := none
    returned := []
    handshakes := fun _ => none }

def underLoad (system : System KeyPair) : Option Secret :=
  match system.loading, system.rest with
  | some _, .call (.loadCertificate secret) _ => some secret
  | _, _ => none

/-- `Start` is at the deferred function of `performInitialLoad`. -/
def atDeferred (system : System KeyPair) : Bool :=
  match system.loading, system.rest with
  | none, .call .readyDo _ => true
  | _, _ => false

variable (watcher : SecretCertWatcher) (x509KeyPair : Pem → Pem → Except GoError KeyPair)

def load (system : System KeyPair) :
    Program (memoryApi KeyPair) (Option GoError) → Option (System KeyPair)
  | .call request next =>
      (system.memory.access request).map (fun accessed =>
        { system with memory := accessed.2, loading := some (next accessed.1) })
  | .done err =>
      match system.rest with
      | .call (.loadCertificate secret) next =>
          some { system with
            rest := next err
            loading := none
            returned := { secret := secret, err := err } :: system.returned }
      | _ => none

def proceed (system : System KeyPair) (outcome : Outcome) : Option (System KeyPair) :=
  match system.rest with
  | .done .stopped => none
  | .done place => some { system with rest := turn watcher place }
  | .call (.loadCertificate secret) _ =>
      some { system with loading := some (loadCertificate watcher x509KeyPair secret) }
  | .call .readyDo next =>
      some { system with memory := system.memory.readyDo, rest := next () }
  | .call request next =>
      (answer request outcome).map (fun answered => { system with rest := next answered })

def serve (system : System KeyPair) (id : Nat) (handshake : Handshake KeyPair) :
    Option (System KeyPair) :=
  match handshake.rest with
  | .done _ => none
  | .call request next =>
      (system.memory.access request).map (fun accessed =>
        { system with
          memory := accessed.2
          handshakes := Function.update system.handshakes id (handshake.goOn (next accessed.1)) })

def step (system : System KeyPair) : Event → Option (System KeyPair)
  | .watcher outcome =>
      match system.loading with
      | some rest => system.load rest
      | none => system.proceed watcher x509KeyPair outcome
  | .hello id =>
      match system.handshakes id with
      | some _ => none
      | none =>
          some { system with
            handshakes := Function.update system.handshakes id
              (some { rest := getCertificate, since := system.returned }) }
  | .handshake id => (system.handshakes id).bind (system.serve id)

end System

end KubeTemplater.Cert.Watcher
