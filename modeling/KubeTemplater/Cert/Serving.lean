/-
What a handshake is served.

Between two loads both the memory and the latest load that succeeded name the same key
pair; inside a load that succeeds the memory turns from the old pair to the new one.  A
load that fails does not come to the memory.
-/

import KubeTemplater.Cert.SecretWatcher
import KubeTemplater.Library.Table

namespace KubeTemplater.Cert.Watcher

open Library Library.Program

variable {KeyPair : Type}

@[simp] theorem readyDo_cert (memory : Memory KeyPair) : memory.readyDo.cert = memory.cert := by
  unfold Memory.readyDo
  split
  · rfl
  · rfl

def Latched (memory : Memory KeyPair) : Prop :=
  memory.readyOnceDone = true → memory.isReadyClosed = true

theorem readyDo_isReadyClosed {memory : Memory KeyPair} (latched : Latched memory) :
    memory.readyDo.isReadyClosed = true := by
  unfold Memory.readyDo
  split
  case isTrue done => exact latched done
  case isFalse _ => rfl

def Reads : MemoryCall KeyPair → Prop
  | .awaitReady => True
  | .loadCert => True
  | .readLastValid => True
  | _ => False

private theorem access_of_reads {memory : Memory KeyPair} {request : MemoryCall KeyPair}
    {accessed : request.Answer × Memory KeyPair} (reads : Reads request)
    (isAccess : memory.access request = some accessed) : accessed.2 = memory := by
  cases request with
  | storeCert cert => exact reads.elim
  | saveLastValid cert => exact reads.elim
  | readyDo => exact reads.elim
  | awaitReady =>
      simp only [Memory.access] at isAccess
      split at isAccess
      · cases isAccess
        rfl
      · cases isAccess
  | loadCert =>
      cases isAccess
      rfl
  | readLastValid =>
      cases isAccess
      rfl

private theorem getCertificate_reads : Makes Reads (@getCertificate KeyPair) := by
  refine makes_call trivial fun _ => makes_call trivial fun cert => ?_
  cases cert with
  | some cert => exact makes_done _ _
  | none =>
      refine makes_call trivial fun lastCert => ?_
      cases lastCert with
      | some cert => exact makes_done _ _
      | none => exact makes_done _ _

def promptRules : Protocol (memoryApi KeyPair) (Option KeyPair) :=
  { expected := fun _ request answer =>
      match request, answer with
      | .loadCert, cert => cert ≠ none
      | _, _ => True
    permitted := fun read request => read = none ∧ (request = .awaitReady ∨ request = .loadCert)
    after := fun read request answer =>
      match request, answer with
      | .loadCert, cert => cert
      | _, _ => read }

def PromptResult (read : Option KeyPair) (result : Except GoError KeyPair) : Prop :=
  ∃ cert, read = some cert ∧ result = .ok cert

theorem getCertificate_prompt :
    Guarantees promptRules PromptResult none (@getCertificate KeyPair) := by
  refine ⟨⟨rfl, .inl rfl⟩, fun _ _ => ⟨⟨rfl, .inr rfl⟩, fun cert expected => ?_⟩⟩
  cases cert with
  | none => exact absurd rfl expected
  | some cert => exact ⟨cert, rfl, rfl⟩

/-- What has read a certificate is at its end. -/
theorem done_of_prompt {cert : KeyPair}
    {rest : Program (memoryApi KeyPair) (Except GoError KeyPair)}
    (prompt : Guarantees promptRules PromptResult (some cert) rest) : rest = .done (.ok cert) := by
  cases rest with
  | call request next => cases prompt.1.1
  | done result =>
      obtain ⟨_, ⟨⟩, rfl⟩ := prompt
      rfl

theorem finish_of_prompt {rest : Program (memoryApi KeyPair) (Except GoError KeyPair)}
    (prompt : Guarantees promptRules PromptResult none rest) {memory : Memory KeyPair}
    {cert : KeyPair} (ready : memory.isReadyClosed = true) (stored : memory.cert = some cert) :
    finish rest memory = some (.ok cert) := by
  induction rest with
  | done result =>
      obtain ⟨_, impossible, _⟩ := prompt
      cases impossible
  | call request next ih =>
      rcases prompt.1.2 with rfl | rfl
      · simp only [finish, Memory.access, ready, if_true, Option.bind_some]
        exact ih () (prompt.2 () trivial)
      · simp only [finish, Memory.access, stored, Option.bind_some]
        rw [done_of_prompt (prompt.2 (some cert) (Option.some_ne_none cert))]
        rfl

/-- How far a load has come. -/
inductive Stage (KeyPair : Type) where
  | fresh
  | stored (cert : KeyPair)
  | closed (cert : KeyPair)

section Serving

variable (watcher : SecretCertWatcher) (x509KeyPair : Pem → Pem → Except GoError KeyPair)

def loadRules (secret : Secret) : Protocol (memoryApi KeyPair) (Stage KeyPair) :=
  { expected := fun _ _ _ => True
    permitted := fun stage request =>
      match stage, request with
      | .fresh, .storeCert cert => keyPairOf x509KeyPair secret = some cert
      | .stored _, .saveLastValid _ => True
      | .stored _, .readyDo => True
      | _, _ => False
    after := fun stage request _ =>
      match stage, request with
      | .fresh, .storeCert cert => .stored cert
      | .stored cert, .readyDo => .closed cert
      | stage, _ => stage }

def LoadResult : Stage KeyPair → Option GoError → Prop
  | .fresh, err => err ≠ none
  | .stored _, _ => False
  | .closed _, err => err = none

private theorem loadCertificate_guarantees (secret : Secret) :
    Guarantees (loadRules x509KeyPair secret) LoadResult .fresh
      (loadCertificate watcher x509KeyPair secret) := by
  unfold loadCertificate
  cases hasCert : mapGet secret.data "tls.crt" with
  | none => exact Option.some_ne_none _
  | some certPEM =>
      cases hasKey : mapGet secret.data "tls.key" with
      | none => exact Option.some_ne_none _
      | some keyPEM =>
          dsimp only
          split
          case isTrue _ => exact Option.some_ne_none _
          case isFalse populated =>
              cases parsed : x509KeyPair certPEM keyPEM with
              | error err => exact Option.some_ne_none _
              | ok cert =>
                  have holds : keyPairOf x509KeyPair secret = some cert := by
                    simp only [keyPairOf, hasCert, hasKey, if_neg populated, parsed,
                      Except.toOption]
                  exact ⟨holds, fun _ _ => ⟨trivial, fun _ _ => ⟨trivial, fun _ _ => rfl⟩⟩⟩

def Agrees (returned : List Returned) (memory : Memory KeyPair) : Prop :=
  memory.cert.map some = (lastLoaded returned).map (keyPairOf x509KeyPair)

def Fits (secret : Secret) (returned : List Returned) (memory : Memory KeyPair) :
    Stage KeyPair → Prop
  | .fresh => Agrees x509KeyPair returned memory
  | .stored cert => keyPairOf x509KeyPair secret = some cert ∧ memory.cert = some cert
  | .closed cert =>
      keyPairOf x509KeyPair secret = some cert ∧ memory.cert = some cert ∧
        memory.isReadyClosed = true

structure Sound (system : System KeyPair) : Prop where
  latched : Latched system.memory
  ready : lastLoaded system.returned ≠ none → system.memory.isReadyClosed = true
  idle : system.loading = none → Agrees x509KeyPair system.returned system.memory
  busy : ∀ rest, system.loading = some rest →
    ∃ secret next stage, system.rest = .call (.loadCertificate secret) next ∧
      Guarantees (loadRules x509KeyPair secret) LoadResult stage rest ∧
      Fits x509KeyPair secret system.returned system.memory stage

/-- A handshake; one that began after a load had succeeded reads one copy. -/
structure Tended (returned : List Returned) (handshake : Handshake KeyPair) : Prop where
  reads : Makes Reads handshake.rest
  prompt : lastLoaded handshake.since ≠ none →
    lastLoaded returned ≠ none ∧ Guarantees promptRules PromptResult none handshake.rest

def Attended (system : System KeyPair) : Prop :=
  ∀ id handshake, system.handshakes id = some handshake → Tended system.returned handshake

namespace System

variable {watcher x509KeyPair} {system next : System KeyPair}

private theorem load_cases {rest : Program (memoryApi KeyPair) (Option GoError)}
    (taken : system.load rest = some next) :
    (∃ request later accessed, rest = .call request later ∧
      system.memory.access request = some accessed ∧
      next = { system with memory := accessed.2, loading := some (later accessed.1) }) ∨
    ∃ err secret later, rest = .done err ∧ system.rest = .call (.loadCertificate secret) later ∧
      next = { system with
        rest := later err
        loading := none
        returned := { secret := secret, err := err } :: system.returned } := by
  cases rest with
  | call request later =>
      obtain ⟨accessed, isAccess, equal⟩ := Option.map_eq_some_iff.mp taken
      exact .inl ⟨request, later, accessed, rfl, isAccess, equal.symm⟩
  | done err =>
      simp only [load] at taken
      split at taken
      case h_1 secret later inLoad =>
          cases taken
          exact .inr ⟨err, secret, later, rfl, inLoad, rfl⟩
      case h_2 _ => cases taken

private theorem proceed_cases {outcome : Outcome}
    (taken : system.proceed watcher x509KeyPair outcome = some next) :
    (∃ rest, next = { system with rest := rest }) ∨
    (∃ secret later, system.rest = .call (.loadCertificate secret) later ∧
      next = { system with loading := some (loadCertificate watcher x509KeyPair secret) }) ∨
    ∃ later, system.rest = .call .readyDo later ∧
      next = { system with memory := system.memory.readyDo, rest := later () } := by
  simp only [proceed] at taken
  split at taken
  case h_1 _ => cases taken
  case h_2 place _ _ =>
      cases taken
      exact .inl ⟨_, rfl⟩
  case h_3 secret later atLoad =>
      cases taken
      exact .inr (.inl ⟨secret, later, atLoad, rfl⟩)
  case h_4 later atDo =>
      cases taken
      exact .inr (.inr ⟨later, atDo, rfl⟩)
  case h_5 =>
      obtain ⟨answered, _, equal⟩ := Option.map_eq_some_iff.mp taken
      exact .inl ⟨_, equal.symm⟩

private theorem serve_cases {id : Nat} {handshake : Handshake KeyPair}
    (taken : system.serve id handshake = some next) :
    ∃ request later accessed, handshake.rest = .call request later ∧
      system.memory.access request = some accessed ∧
      next = { system with
        memory := accessed.2
        handshakes := Function.update system.handshakes id
          (handshake.goOn (later accessed.1)) } := by
  unfold serve at taken
  split at taken
  case h_1 _ => cases taken
  case h_2 request later atCall =>
      obtain ⟨accessed, isAccess, equal⟩ := Option.map_eq_some_iff.mp taken
      exact ⟨request, later, accessed, atCall, isAccess, equal.symm⟩

end System

inductive Change (system : System KeyPair) : Event → Memory KeyPair → Prop where
  | kept (event : Event) : Change system event system.memory
  | deferred (outcome : Outcome) (atDeferred : system.atDeferred = true) :
      Change system (.watcher outcome) system.memory.readyDo
  | loaded (outcome : Outcome) (secret : Secret) (cert : KeyPair) (memory : Memory KeyPair)
      (loads : system.underLoad = some secret)
      (holds : keyPairOf x509KeyPair secret = some cert)
      (stored : memory.cert = some cert) :
      Change system (.watcher outcome) memory

variable {watcher x509KeyPair} {system next : System KeyPair}

private theorem lastLoaded_failed {err : Option GoError} (failed : err ≠ none) (secret : Secret)
    (returned : List Returned) :
    lastLoaded ({ secret := secret, err := err } :: returned) = lastLoaded returned := by
  unfold lastLoaded
  rw [List.find?_cons_of_neg (by simpa using failed)]

variable {memory : Memory KeyPair}

private theorem readyDo_latched (latched : Latched memory) :
    Latched memory.readyDo :=
  fun _ => readyDo_isReadyClosed latched

variable {returned : List Returned}

private theorem access_fits {secret : Secret} {stage : Stage KeyPair} {request : MemoryCall KeyPair}
    {accessed : request.Answer × Memory KeyPair} (latched : Latched memory)
    (permitted : (loadRules x509KeyPair secret).permitted stage request)
    (fits : Fits x509KeyPair secret returned memory stage)
    (isAccess : memory.access request = some accessed) :
    Latched accessed.2 ∧
      Fits x509KeyPair secret returned accessed.2
        ((loadRules x509KeyPair secret).after stage request accessed.1) ∧
      (memory.isReadyClosed = true → accessed.2.isReadyClosed = true) ∧
      ∃ cert, keyPairOf x509KeyPair secret = some cert ∧ accessed.2.cert = some cert := by
  cases stage with
  | fresh =>
      cases request with
      | storeCert cert =>
          cases isAccess
          exact ⟨latched, ⟨permitted, rfl⟩, id, cert, permitted, rfl⟩
      | _ => exact permitted.elim
  | stored cert =>
      cases request with
      | saveLastValid other =>
          cases isAccess
          exact ⟨latched, fits, id, cert, fits⟩
      | readyDo =>
          cases isAccess
          have closed := readyDo_isReadyClosed latched
          have same : memory.readyDo.cert = some cert := (readyDo_cert memory).trans fits.2
          exact ⟨readyDo_latched latched, ⟨fits.1, same, closed⟩, fun _ => closed, cert, fits.1,
            same⟩
      | _ => exact permitted.elim
  | closed cert => cases request <;> exact permitted.elim

private theorem underLoad_eq {rest : Program (memoryApi KeyPair) (Option GoError)} {secret : Secret}
    {later : Option GoError → Program watcherApi Place} (loads : system.loading = some rest)
    (atLoad : system.rest = .call (.loadCertificate secret) later) :
    system.underLoad = some secret := by
  unfold System.underLoad
  rw [loads, atLoad]

private theorem agrees_returned {secret : Secret} {stage : Stage KeyPair} {err : Option GoError}
    (result : LoadResult stage err) (fits : Fits x509KeyPair secret returned memory stage) :
    Agrees x509KeyPair ({ secret := secret, err := err } :: returned) memory ∧
      (lastLoaded ({ secret := secret, err := err } :: returned) ≠ lastLoaded returned →
        memory.isReadyClosed = true) := by
  cases stage with
  | fresh =>
      unfold Agrees
      rw [lastLoaded_failed result]
      exact ⟨fits, fun differ => absurd rfl differ⟩
  | stored cert => exact result.elim
  | closed cert =>
      cases result
      refine ⟨?_, fun _ => fits.2.2⟩
      calc memory.cert.map some = some (keyPairOf x509KeyPair secret) := by
            rw [fits.1, fits.2.1, Option.map_some]
        _ = (lastLoaded ({ secret := secret, err := none } :: returned)).map
              (keyPairOf x509KeyPair) := rfl

theorem Sound.load {rest : Program (memoryApi KeyPair) (Option GoError)}
    (sound : Sound x509KeyPair system) (loads : system.loading = some rest)
    (taken : system.load rest = some next) (outcome : Outcome) :
    Sound x509KeyPair next ∧ Change x509KeyPair system (.watcher outcome) next.memory := by
  obtain ⟨secret, after, stage, atLoad, guarantees, fits⟩ := sound.busy rest loads
  rcases System.load_cases taken with
    ⟨request, later, accessed, rfl, isAccess, rfl⟩ | ⟨err, other, later, rfl, atOther, rfl⟩
  · obtain ⟨latched, fits', keeps, cert, holds, stored⟩ :=
      access_fits sound.latched guarantees.1 fits isAccess
    refine ⟨⟨latched, fun loaded => keeps (sound.ready loaded), ?_, ?_⟩,
      .loaded outcome secret cert accessed.2 (underLoad_eq loads atLoad) holds stored⟩
    · intro idle
      cases idle
    · rintro _ ⟨⟩
      exact ⟨secret, after, _, atLoad, guarantees.2 accessed.1 trivial, fits'⟩
  · -- the load returns, and what it has stored, if anything, is what loaded last
    rw [atLoad] at atOther
    cases atOther
    obtain ⟨agrees, closed⟩ := agrees_returned guarantees fits
    refine ⟨⟨sound.latched, ?_, fun _ => agrees, fun rest busy => by cases busy⟩, .kept _⟩
    intro loaded
    by_cases same : lastLoaded ({ secret := secret, err := err } :: system.returned) =
        lastLoaded system.returned
    · exact sound.ready (fun none => loaded (same.trans none))
    · exact closed same

theorem Sound.proceed {outcome : Outcome} (sound : Sound x509KeyPair system)
    (idle : system.loading = none)
    (taken : system.proceed watcher x509KeyPair outcome = some next) :
    Sound x509KeyPair next ∧ Change x509KeyPair system (.watcher outcome) next.memory := by
  have agrees := sound.idle idle
  have notBusy (rest : Program (memoryApi KeyPair) (Option GoError)) :
      system.loading ≠ some rest := by
    rw [idle]
    exact (Option.some_ne_none rest).symm
  rcases System.proceed_cases taken with
    ⟨rest, rfl⟩ | ⟨secret, later, atLoad, rfl⟩ | ⟨later, atDo, rfl⟩
  · exact ⟨⟨sound.latched, sound.ready, fun _ => agrees,
      fun rest busy => absurd busy (notBusy rest)⟩, .kept _⟩
  · refine ⟨⟨sound.latched, sound.ready, ?_, ?_⟩, .kept _⟩
    · intro idle
      cases idle
    · rintro _ ⟨⟩
      exact ⟨secret, later, .fresh, atLoad, loadCertificate_guarantees watcher x509KeyPair secret,
        agrees⟩
  · have atDeferred : system.atDeferred = true := by
      unfold System.atDeferred
      rw [idle, atDo]
    refine ⟨⟨readyDo_latched sound.latched, fun _ => readyDo_isReadyClosed sound.latched,
      fun _ => ?_, fun rest busy => absurd busy (notBusy rest)⟩, .deferred outcome atDeferred⟩
    unfold Agrees
    rw [readyDo_cert]
    exact agrees

theorem goOn_eq_some {handshake left : Handshake KeyPair}
    {rest : Program (memoryApi KeyPair) (Except GoError KeyPair)}
    (goesOn : handshake.goOn rest = some left) : left = { handshake with rest := rest } := by
  cases rest with
  | done result => cases goesOn
  | call request later =>
      cases goesOn
      rfl

private theorem prompt_goOn {handshake left : Handshake KeyPair} {request : MemoryCall KeyPair}
    {later : request.Answer → Program (memoryApi KeyPair) (Except GoError KeyPair)}
    {accessed : request.Answer × Memory KeyPair}
    (prompt : Guarantees promptRules PromptResult none (.call request later))
    (stored : memory.cert ≠ none) (isAccess : memory.access request = some accessed)
    (goesOn : handshake.goOn (later accessed.1) = some left) :
    Guarantees promptRules PromptResult none left.rest := by
  rcases prompt.1.2 with rfl | rfl
  · rw [goOn_eq_some goesOn]
    exact prompt.2 accessed.1 trivial
  · -- the first copy has been read: this was the last access
    cases isAccess
    obtain ⟨cert, isCert⟩ := Option.ne_none_iff_exists'.mp stored
    dsimp only at goesOn
    rw [isCert, done_of_prompt (prompt.2 (some cert) (Option.some_ne_none cert))] at goesOn
    cases goesOn

private theorem lastLoaded_grows (load : Returned) (loaded : lastLoaded returned ≠ none) :
    lastLoaded (load :: returned) ≠ none := by
  obtain ⟨secret, err⟩ := load
  cases err with
  | none => exact Option.some_ne_none secret
  | some err =>
      rw [lastLoaded_failed (Option.some_ne_none err)]
      exact loaded

theorem Tended.grows {grown : List Returned} {handshake : Handshake KeyPair}
    (tended : Tended returned handshake)
    (grows : lastLoaded returned ≠ none → lastLoaded grown ≠ none) : Tended grown handshake :=
  ⟨tended.reads, fun late => ⟨grows (tended.prompt late).1, (tended.prompt late).2⟩⟩

theorem Attended.update (attended : Attended system) (id : Nat)
    (changed : Option (Handshake KeyPair))
    (tended : ∀ handshake, changed = some handshake → Tended system.returned handshake) :
    Attended { system with
      memory := memory
      handshakes := Function.update system.handshakes id changed } := by
  intro other handshake isHandshake
  rcases update_eq_some isHandshake with ⟨_, changes⟩ | ⟨_, before⟩
  · exact tended handshake changes
  · exact attended other handshake before

theorem Attended.watched {outcome : Outcome} (attended : Attended system)
    (taken : system.step watcher x509KeyPair (.watcher outcome) = some next) : Attended next := by
  simp only [System.step] at taken
  split at taken
  case h_1 rest _ =>
      rcases System.load_cases taken with
        ⟨request, later, accessed, _, _, rfl⟩ | ⟨err, secret, later, _, _, rfl⟩
      · exact attended
      · intro id handshake isHandshake
        exact (attended id handshake isHandshake).grows (lastLoaded_grows _)
  case h_2 _ =>
      rcases System.proceed_cases taken with ⟨rest, rfl⟩ | ⟨secret, later, _, rfl⟩ | ⟨later, _, rfl⟩
      · exact attended
      · exact attended
      · exact attended

theorem Attended.hello {id : Nat} (attended : Attended system)
    (taken : system.step watcher x509KeyPair (.hello id) = some next) :
    Attended next ∧ next = { system with handshakes := next.handshakes } := by
  simp only [System.step] at taken
  split at taken
  case h_1 _ => cases taken
  case h_2 _ =>
      cases taken
      refine ⟨attended.update id _ ?_, rfl⟩
      rintro _ ⟨⟩
      exact ⟨getCertificate_reads, fun late => ⟨late, getCertificate_prompt⟩⟩

theorem Attended.serve {id : Nat} (attended : Attended system)
    (stored : lastLoaded system.returned ≠ none → system.memory.cert ≠ none)
    (taken : system.step watcher x509KeyPair (.handshake id) = some next) :
    Attended next ∧ next = { system with handshakes := next.handshakes } := by
  obtain ⟨handshake, isHandshake, served⟩ := Option.bind_eq_some_iff.mp taken
  obtain ⟨request, later, accessed, atCall, isAccess, rfl⟩ := System.serve_cases served
  obtain ⟨reads, prompt⟩ := attended id handshake isHandshake
  rw [atCall] at reads prompt
  have same := access_of_reads reads.1 isAccess
  refine ⟨attended.update id _ fun left isLeft => ⟨?_, fun late => ?_⟩, by rw [same]⟩
  · rw [goOn_eq_some isLeft]
    exact reads.2 accessed.1 trivial
  · have began : lastLoaded handshake.since ≠ none := by
      rw [goOn_eq_some isLeft] at late
      exact late
    obtain ⟨loaded, guarantees⟩ := prompt began
    exact ⟨loaded, prompt_goOn guarantees (stored loaded) isAccess isLeft⟩

theorem Sound.cert_ne_none (sound : Sound x509KeyPair system)
    (loaded : lastLoaded system.returned ≠ none) : system.memory.cert ≠ none := by
  have ofAgrees (agrees : Agrees x509KeyPair system.returned system.memory) :
      system.memory.cert ≠ none := by
    intro missing
    unfold Agrees at agrees
    rw [missing, Option.map_none, eq_comm, Option.map_eq_none_iff] at agrees
    exact loaded agrees
  cases loads : system.loading with
  | none => exact ofAgrees (sound.idle loads)
  | some rest =>
      obtain ⟨secret, later, stage, _, _, fits⟩ := sound.busy rest loads
      cases stage with
      | fresh => exact ofAgrees fits
      | stored cert => exact Option.ne_none_iff_exists'.mpr ⟨cert, fits.2⟩
      | closed cert => exact Option.ne_none_iff_exists'.mpr ⟨cert, fits.2.1⟩

variable (x509KeyPair) in
def Current (system : System KeyPair) (cert : KeyPair) : Prop :=
  (lastLoaded system.returned).bind (keyPairOf x509KeyPair) = some cert ∨
    system.underLoad.bind (keyPairOf x509KeyPair) = some cert

theorem Sound.current {cert : KeyPair} (sound : Sound x509KeyPair system)
    (stored : system.memory.cert = some cert) : Current x509KeyPair system cert := by
  have ofAgrees (agrees : Agrees x509KeyPair system.returned system.memory) :
      Current x509KeyPair system cert := by
    unfold Agrees at agrees
    rw [stored, Option.map_some, eq_comm, Option.map_eq_some_iff] at agrees
    obtain ⟨secret, isLast, holds⟩ := agrees
    left
    rw [isLast]
    exact holds
  cases loads : system.loading with
  | none => exact ofAgrees (sound.idle loads)
  | some rest =>
      obtain ⟨secret, later, stage, atLoad, _, fits⟩ := sound.busy rest loads
      have underLoad := underLoad_eq loads atLoad
      cases stage with
      | fresh => exact ofAgrees fits
      | stored other =>
          right
          rw [underLoad, Option.bind_some, fits.1, ← fits.2, stored]
      | closed other =>
          right
          rw [underLoad, Option.bind_some, fits.1, ← fits.2.1, stored]

/-- What is left of a call that reads one copy, with the channel closed and a
certificate stored. -/
theorem Sound.serves {rest : Program (memoryApi KeyPair) (Except GoError KeyPair)}
    (sound : Sound x509KeyPair system)
    (prompt : Guarantees promptRules PromptResult none rest)
    (ready : system.memory.isReadyClosed = true) (stored : system.memory.cert ≠ none) :
    ∃ cert, finish rest system.memory = some (.ok cert) ∧ Current x509KeyPair system cert := by
  obtain ⟨cert, isCert⟩ := Option.ne_none_iff_exists'.mp stored
  exact ⟨cert, finish_of_prompt prompt ready isCert, sound.current isCert⟩

variable (x509KeyPair) in
structure Served (system : System KeyPair) : Prop where
  sound : Sound x509KeyPair system
  attended : Attended system

theorem initial_served : Served x509KeyPair (System.initial : System KeyPair) := by
  refine ⟨⟨?_, fun loaded => absurd rfl loaded, fun _ => rfl, ?_⟩, ?_⟩
  · intro impossible
    cases impossible
  · intro rest impossible
    cases impossible
  · intro id handshake impossible
    cases impossible

theorem Sound.handshakes {handshakes : Nat → Option (Handshake KeyPair)}
    (sound : Sound x509KeyPair system) :
    Sound x509KeyPair { system with handshakes := handshakes } :=
  ⟨sound.latched, sound.ready, sound.idle, sound.busy⟩

theorem step_served {event : Event} (served : Served x509KeyPair system)
    (taken : system.step watcher x509KeyPair event = some next) :
    Served x509KeyPair next ∧ Change x509KeyPair system event next.memory := by
  obtain ⟨sound, attended⟩ := served
  cases event with
  | watcher outcome =>
      have attended' := attended.watched taken
      simp only [System.step] at taken
      split at taken
      case h_1 rest loads =>
          obtain ⟨sound', change⟩ := sound.load loads taken outcome
          exact ⟨⟨sound', attended'⟩, change⟩
      case h_2 idle =>
          obtain ⟨sound', change⟩ := sound.proceed idle taken
          exact ⟨⟨sound', attended'⟩, change⟩
  | hello id =>
      obtain ⟨attended', same⟩ := attended.hello taken
      rw [same] at attended' ⊢
      exact ⟨⟨sound.handshakes, attended'⟩, .kept _⟩
  | handshake id =>
      obtain ⟨attended', same⟩ := attended.serve sound.cert_ne_none taken
      rw [same] at attended' ⊢
      exact ⟨⟨sound.handshakes, attended'⟩, .kept _⟩

private theorem throughout_served (watcher : SecretCertWatcher)
    (x509KeyPair : Pem → Pem → Except GoError KeyPair) (events : List Event) :
    Throughout (System.step watcher x509KeyPair) (Served x509KeyPair) .initial events :=
  throughout_of_preserved _ _ (fun _ _ _ served taken => (step_served served taken).1) _ _
    initial_served

/-- After a load has succeeded, a call of `GetCertificate` made now, and every call under
way that began after such a load, returns a certificate. -/
structure KeepsServing (x509KeyPair : Pem → Pem → Except GoError KeyPair)
    (system : System KeyPair) : Prop where
  begun : lastLoaded system.returned ≠ none →
    ∃ cert, finish getCertificate system.memory = some (.ok cert) ∧
      Current x509KeyPair system cert
  underWay : ∀ id handshake, system.handshakes id = some handshake →
    lastLoaded handshake.since ≠ none →
      ∃ cert, finish handshake.rest system.memory = some (.ok cert) ∧
        Current x509KeyPair system cert

theorem Served.keepsServing (served : Served x509KeyPair system) :
    KeepsServing x509KeyPair system := by
  obtain ⟨sound, attended⟩ := served
  refine ⟨fun loaded => ?_, fun id handshake isHandshake late => ?_⟩
  · exact sound.serves getCertificate_prompt (sound.ready loaded) (sound.cert_ne_none loaded)
  · obtain ⟨loaded, prompt⟩ := (attended id handshake isHandshake).prompt late
    exact sound.serves prompt (sound.ready loaded) (sound.cert_ne_none loaded)

def Undisturbed (watcher : SecretCertWatcher)
    (x509KeyPair : Pem → Pem → Except GoError KeyPair) (system : System KeyPair)
    (event : Event) : Prop :=
  lastLoaded system.returned ≠ none →
    system.underLoad.bind (keyPairOf x509KeyPair) = none →
      ∀ next, system.step watcher x509KeyPair event = some next →
        finish getCertificate next.memory = finish getCertificate system.memory

theorem Served.undisturbed {event : Event} (served : Served x509KeyPair system) :
    Undisturbed watcher x509KeyPair system event := by
  intro loaded nothing next taken
  have sound := served.sound
  obtain ⟨cert, isCert⟩ := Option.ne_none_iff_exists'.mp (sound.cert_ne_none loaded)
  have before := finish_of_prompt getCertificate_prompt (sound.ready loaded) isCert
  have change := (step_served served taken).2
  generalize next.memory = after at change ⊢
  cases change with
  | kept _ => rfl
  | deferred _ _ =>
      have closed := readyDo_isReadyClosed sound.latched
      have same : system.memory.readyDo.cert = some cert := (readyDo_cert _).trans isCert
      rw [before, finish_of_prompt getCertificate_prompt closed same]
  | loaded _ secret cert' memory loads holds stored =>
      rw [loads, Option.bind_some, holds] at nothing
      cases nothing

/-- Once a load has succeeded, every call of `GetCertificate` returns the key pair of the
Secret that loaded last, or the one that a load under way has stored; without such a load
nothing changes that answer. -/
theorem serving_never_regresses (watcher : SecretCertWatcher)
    (x509KeyPair : Pem → Pem → Except GoError KeyPair) (events : List Event) :
    Throughout (System.step watcher x509KeyPair) (KeepsServing x509KeyPair) .initial events ∧
      Along (System.step watcher x509KeyPair) (Undisturbed watcher x509KeyPair) .initial
        events := by
  have served := throughout_served watcher x509KeyPair events
  exact ⟨served.mono fun _ here => here.keepsServing,
    served.along fun _ _ here => here.undisturbed⟩

def rsaKeyPair (certPEM keyPEM : Pem) : Except GoError (Certificate × PrivateKey) :=
  match certPEM.decode with
  | none => .error (errorf "tls: failed to find any PEM data in certificate input")
  | some certBlock =>
      match keyPEM.decode with
      | none => .error (errorf "tls: failed to find any PEM data in key input")
      | some keyBlock =>
          match certBlock.certificate with
          | .error err => .error err
          | .ok certificate =>
              match keyBlock.key with
              | .error _ => .error (errorf "tls: failed to parse private key")
              | .ok key =>
                  if certificate.publicKey = key.publicKey then .ok (certificate, key)
                  else .error (errorf "tls: private key does not match public key")

def chartWatcher : SecretCertWatcher :=
  { secretName := "kubetemplater-webhook-cert"
    secretNamespace := "kubetemplater-system" }

def chartSecret (certPEM keyPEM : Pem) : Secret :=
  { key := ⟨"kubetemplater-system", "kubetemplater-webhook-cert"⟩
    resourceVersion := 1
    secretType := .secretTypeTLS
    data := [("tls.crt", certPEM), ("tls.key", keyPEM)] }

def sampleCertificate (serial : Nat) : Certificate :=
  { serialNumber := serial
    commonName := "kubetemplater-webhook-service.kubetemplater-system.svc"
    dnsNames := []
    notBefore := 0
    notAfter := certValidityDuration
    isCA := false
    publicKey := serial
    signedBy := 0 }

def loadsInitially (serial : Nat) : List Event :=
  [.watcher .passed,
    .watcher (.got (.ok
      (chartSecret (encodeCertificate (sampleCertificate serial)) (encodeKey ⟨serial⟩)))),
    .watcher .passed, .watcher .passed, .watcher .passed, .watcher .passed, .watcher .passed,
    .watcher .passed, .watcher .passed]

def spoils : List Event :=
  [.hello 0, .watcher .passed, .watcher (.selected false), .watcher (.opened none),
    .watcher .passed, .watcher (.received (.event .modified (some (chartSecret .empty .empty)))),
    .watcher .passed, .watcher .passed, .handshake 0,
    .watcher .passed, .watcher (.received (.event .deleted none))]

theorem serving_never_regresses_spoiled :
    (run (System.step chartWatcher rsaKeyPair) .initial (loadsInitially 1 ++ spoils)).map
        (fun system => (system.returned.map (fun load => load.err == none),
          finish getCertificate system.memory,
          (system.handshakes 0).bind (fun handshake => finish handshake.rest system.memory))) =
      some ([false, true], some (.ok (sampleCertificate 1, ⟨1⟩)),
        some (.ok (sampleCertificate 1, ⟨1⟩))) ∧
    Throughout (System.step chartWatcher rsaKeyPair) (KeepsServing rsaKeyPair) .initial
      (loadsInitially 1 ++ spoils) :=
  ⟨rfl, (serving_never_regresses chartWatcher rsaKeyPair _).1⟩

def ReadyServes (x509KeyPair : Pem → Pem → Except GoError KeyPair)
    (system : System KeyPair) : Prop :=
  isReady system.memory = true →
    ∃ cert, finish getCertificate system.memory = some (.ok cert) ∧
      Current x509KeyPair system cert

/-- The deferred function of `performInitialLoad` runs after a load that succeeded. -/
def DefersLoaded (system : System KeyPair) : Event → Prop
  | .watcher _ => system.atDeferred = true → lastLoaded system.returned ≠ none
  | _ => True

private theorem step_atDeferred (watcher : SecretCertWatcher)
    (x509KeyPair : Pem → Pem → Except GoError KeyPair) {outcome : Outcome}
    (atDeferred : system.atDeferred = true) :
    ∃ next, system.step watcher x509KeyPair (.watcher outcome) = some next ∧
      next.memory = system.memory.readyDo ∧ next.returned = system.returned ∧
      next.underLoad = none := by
  unfold System.atDeferred at atDeferred
  split at atDeferred
  case h_1 later idle atDo =>
      refine ⟨{ system with memory := system.memory.readyDo, rest := later () }, ?_, rfl, rfl, ?_⟩
      · simp only [System.step, System.proceed, idle, atDo]
      · simp only [System.underLoad, idle]
  case h_2 _ => cases atDeferred

theorem Served.defersLoaded {event : Event} (served : Served x509KeyPair system)
    (serves : ∀ next, system.step watcher x509KeyPair event = some next →
      ReadyServes x509KeyPair next) : DefersLoaded system event := by
  cases event with
  | hello id => trivial
  | handshake id => trivial
  | watcher outcome =>
      intro atDeferred
      obtain ⟨next, taken, isMemory, isReturned, noLoad⟩ :=
        step_atDeferred watcher x509KeyPair atDeferred
      have ready : isReady next.memory = true := by
        rw [isMemory]
        exact readyDo_isReadyClosed served.sound.latched
      obtain ⟨cert, _, ofLast | ofLoad⟩ := serves next taken ready
      · intro missing
        rw [isReturned, missing] at ofLast
        cases ofLast
      · rw [noLoad] at ofLoad
        cases ofLoad

private theorem defersLoaded_of_readyServes {events : List Event}
    (served : Served x509KeyPair system)
    (holds : Throughout (System.step watcher x509KeyPair) (ReadyServes x509KeyPair) system
      events) :
    Along (System.step watcher x509KeyPair) DefersLoaded system events := by
  induction events generalizing system with
  | nil => trivial
  | cons event rest ih =>
      refine ⟨served.defersLoaded fun next taken => (holds.2 next taken).head, ?_⟩
      intro next taken
      exact ih (step_served served taken).1 (holds.2 next taken)

/-- The channel is closed with a certificate stored, and stays so. -/
theorem step_closed {event : Event} (served : Served x509KeyPair system)
    (closed : system.memory.isReadyClosed = true → system.memory.cert ≠ none)
    (defers : DefersLoaded system event)
    (taken : system.step watcher x509KeyPair event = some next) :
    next.memory.isReadyClosed = true → next.memory.cert ≠ none := by
  have change := (step_served served taken).2
  generalize next.memory = after at change ⊢
  cases change with
  | kept _ => exact closed
  | deferred outcome atDeferred =>
      intro _
      rw [readyDo_cert]
      exact served.sound.cert_ne_none (defers atDeferred)
  | loaded _ secret cert memory _ _ stored =>
      intro _
      exact Option.ne_none_iff_exists'.mpr ⟨cert, stored⟩

/-- A watcher that reports to be ready always has a certificate to serve, exactly when the
initial load has not ended without one. -/
theorem ready_serves_iff (watcher : SecretCertWatcher)
    (x509KeyPair : Pem → Pem → Except GoError KeyPair) (events : List Event) :
    Throughout (System.step watcher x509KeyPair) (ReadyServes x509KeyPair) .initial events ↔
      Along (System.step watcher x509KeyPair) DefersLoaded .initial events := by
  refine ⟨defersLoaded_of_readyServes initial_served, fun along => ?_⟩
  have closed := throughout_of_along (System.step watcher x509KeyPair) DefersLoaded
    (fun system => Served x509KeyPair system ∧
      (system.memory.isReadyClosed = true → system.memory.cert ≠ none))
    (fun system event next here defers taken =>
      ⟨(step_served here.1 taken).1, step_closed here.1 here.2 defers taken⟩)
    .initial events ⟨initial_served, fun impossible => by cases impossible⟩ along
  refine closed.mono fun system here ready => ?_
  exact here.1.sound.serves getCertificate_prompt ready (here.2 ready)

def findsUnpopulated : List Event :=
  [.watcher .passed, .watcher (.got (.ok (chartSecret .empty .empty))), .watcher .passed,
    .watcher .passed, .watcher .passed, .watcher .passed]

theorem unpopulated_reports_ready :
    (run (System.step chartWatcher rsaKeyPair) .initial findsUnpopulated).map
        (fun system => (isReady system.memory, system.returned,
          finish getCertificate system.memory)) =
      some (true,
        [{ secret := chartSecret .empty .empty
           err := some (errorf
            "certificate data not yet populated in secret kubetemplater-webhook-cert") }],
        some (.error (errorf "certificate not loaded or invalid type"))) := by
  decide +kernel

end Serving

end KubeTemplater.Cert.Watcher
