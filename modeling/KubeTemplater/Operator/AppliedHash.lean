/-
Whether `status.appliedSpecHash` names a spec that has been applied.

It does while workers find that their specs can be applied and `Reconcile` sees no
changed spec.  `Reconcile` records a changed spec before anything of it is applied,
and a worker records a spec whose elements it has skipped.
-/

import KubeTemplater.Operator.HashRecords
import KubeTemplater.Operator.NoneLost

namespace KubeTemplater.Operator

open Library Library.Program

namespace Journal

variable {config : Config} {journal next : Journal}

def Executed (journal : Journal) (trace : List (Exchange client)) : Prop :=
  trace ∈ journal.past ∨
    ∃ worker execution, journal.system.workers worker = some execution ∧
      journal.turns worker = trace

/-- A turn stays in the journal, and what it has done stays at its beginning. -/
theorem step_executed {event : Event} (taken : journal.step config event = some next)
    {trace : List (Exchange client)} (executed : journal.Executed trace) :
    ∃ more, next.Executed (trace ++ more) := by
  have unextended (still : next.Executed trace) : ∃ more, next.Executed (trace ++ more) := by
    refine ⟨[], ?_⟩
    rw [List.append_nil]
    exact still
  have unchanged (past : next.past = journal.past) (turns : next.turns = journal.turns)
      (workers : next.system.workers = journal.system.workers) :
      ∃ more, next.Executed (trace ++ more) := by
    apply unextended
    unfold Executed
    rw [past, turns, workers]
    exact executed
  cases event with
  | expire wanted =>
      obtain ⟨_waits, rfl⟩ := step_expire config taken
      exact unchanged rfl rfl rfl
  | operator label =>
      cases label with
      | worker worker outcome =>
          obtain ⟨caller, insideCaller, effect⟩ := step_worker config taken
          rcases effect with ⟨disposition, session, _isDone, _ends, rfl⟩ |
            ⟨request, rest, answered, _calls, isAnswer, rfl⟩
          · apply unextended
            rcases executed with ended | ⟨other, execution, inside, rfl⟩
            · exact .inl (List.mem_cons_of_mem _ ended)
            · by_cases same : other = worker
              · rw [same]
                exact .inl List.mem_cons_self
              · exact .inr ⟨other, execution, (Function.update_of_ne same _ _).trans inside, rfl⟩
          · rcases executed with ended | ⟨other, execution, inside, rfl⟩
            · exact unextended (.inl ended)
            · by_cases same : other = worker
              · rw [same]
                exact ⟨_, .inr ⟨worker, _, Function.update_self _ _ _,
                  Function.update_self _ _ _⟩⟩
              · exact unextended (.inr ⟨other, execution,
                  (Function.update_of_ne same _ _).trans inside, Function.update_of_ne same _ _⟩)
      | dequeue worker =>
          obtain ⟨session, ref, free, _dequeued, _hands, _holds, rfl⟩ := step_dequeue config taken
          apply unextended
          rcases executed with ended | ⟨other, execution, inside, rfl⟩
          · exact .inl ended
          · have different : other ≠ worker := by
              rintro rfl
              rw [free] at inside
              cases inside
            exact .inr ⟨other, execution, (Function.update_of_ne different _ _).trans inside,
              Function.update_of_ne different _ _⟩
      | controller wanted outcome =>
          obtain ⟨execution, _inside, effect⟩ := step_controller config taken
          rcases effect with ⟨result, _isDone, rfl⟩ |
            ⟨request, rest, answered, _calls, isAnswer, rfl⟩
          · exact unchanged rfl rfl rfl
          · exact unchanged rfl rfl (System.respond_effect isAnswer).frame.workers
      | deliver wanted =>
          obtain ⟨_free, rfl⟩ := step_deliver config taken
          exact unchanged rfl rfl rfl
      | _ =>
          have aside := step_users config rfl taken
          exact unchanged aside.past aside.turns aside.workers

def Backed (config : Config) (journal : Journal) (key : NamespacedName) (hash : String) : Prop :=
  hash ≠ "" → ∃ trace, journal.Executed trace ∧
    Covered config.platform key (trace.filterMap successfulPatch) hash

theorem Backed.grow {key : NamespacedName} {hash : String} (backed : journal.Backed config key hash)
    {event : Event} (taken : journal.step config event = some next) :
    next.Backed config key hash := by
  intro named
  obtain ⟨trace, executed, covered⟩ := backed named
  obtain ⟨more, later⟩ := step_executed taken executed
  refine ⟨trace ++ more, later, covered.mono ?_⟩
  rw [List.filterMap_append]
  exact List.sublist_append_left _ _

def HashesBacked (config : Config) (journal : Journal) : Prop :=
  ∀ key current, journal.system.templates key = some current →
    journal.Backed config key current.status.appliedSpecHash

/-- What is asked of the steps of a run: workers find that their specs can be applied, and
of a changed spec that `Reconcile` reads the condition holds. -/
def AppliesAnd (config : Config) (recorded : NamespacedName → KubeTemplate → Prop)
    (journal : Journal) : Event → Prop
  | .operator (.worker worker outcome) =>
      ∀ execution request rest answered, journal.system.workers worker = some execution →
        execution.program = .call request rest →
        journal.system.respond request outcome = some answered →
        Applicable config.platform (creditOf (journal.turns worker)) request answered.1
  | .operator (.controller key outcome) =>
      ∀ execution rest answered seen, journal.system.reconciles key = some execution →
        execution.program = .call (.getTemplate key) rest →
        journal.system.respond (.getTemplate key) outcome = some answered →
        answered.1 = .ok seen → Records config.platform seen → recorded key seen
  | _ => True

/-- A changed spec has been applied before `Reconcile` reads it. -/
def Applies (config : Config) (journal : Journal) : Event → Prop :=
  journal.AppliesAnd config (fun key seen =>
    journal.Backed config key (calculateSpecHash config.platform seen.spec))

/-- `Reconcile` reads no changed spec. -/
def AppliesUnchanged (config : Config) : Journal → Event → Prop :=
  AppliesAnd config (fun _ _ => False)

theorem AppliesUnchanged.applies {event : Event} (applies : AppliesUnchanged config journal event) :
    journal.Applies config event := by
  cases event with
  | expire wanted => trivial
  | operator label =>
      cases label with
      | worker worker outcome => exact applies
      | controller key outcome =>
          intro execution rest answered seen inside calls isAnswer isOk records
          exact (applies execution rest answered seen inside calls isAnswer isOk records).elim
      | _ => trivial

def seenBy (trace : List (Exchange client)) : Option KubeTemplate :=
  trace.foldl (fun read exchange => readAfter read exchange.request exchange.answer) none

private theorem seenBy_snoc (trace : List (Exchange client)) (request : Call)
    (answer : request.Answer) :
    seenBy (trace ++ [⟨request, answer⟩]) = readAfter (seenBy trace) request answer :=
  List.foldl_append

structure Backing (config : Config) (journal : Journal) : Prop where
  faithful : journal.Faithful config
  stored : journal.HashesBacked config
  history : ∀ template, template ∈ journal.system.history →
    journal.Backed config template.key template.status.appliedSpecHash
  turns : ∀ worker execution, journal.system.workers worker = some execution →
    Guarantees (crediting config.platform execution.key) (fun _ _ => True)
        (creditOf (journal.turns worker)) execution.program ∧
      ∀ seen, (creditOf (journal.turns worker)).read = some seen →
        journal.Backed config seen.key seen.status.appliedSpecHash
  visits : ∀ key execution, journal.system.reconciles key = some execution →
    ∀ seen hash, seenBy (journal.visits key) = some seen → seen.key = key →
      Recordable config.platform seen hash → journal.Backed config key hash

private theorem start_backing (config : Config) (maxRetries initialDelay maxDelay maxCycles : Int)
    (policies : String → Except GoError KubeTemplatePolicy) :
    (start (Queue.Session.start maxRetries initialDelay maxDelay maxCycles) policies).Backing
      config where
  faithful := start_faithful config _ _ _ _ _
  stored := by intro key current isStored; cases isStored
  history := by intro template member; cases member
  turns := by intro worker execution inside; cases inside
  visits := by intro key execution inside; cases inside

theorem Backing.read (backing : journal.Backing config) {wanted : NamespacedName}
    {outcome : Outcome} {answered : Except GoError KubeTemplate × System} {seen : KubeTemplate}
    (isAnswer : journal.system.respond (.getTemplate wanted) outcome = some answered)
    (isOk : answered.1 = .ok seen) :
    seen.key = wanted ∧ journal.Backed config wanted seen.status.appliedSpecHash := by
  have own := System.respond_getTemplate backing.faithful.keyed isAnswer isOk
  refine ⟨own, ?_⟩
  rcases respond_version isAnswer isOk with isStored | known
  · exact backing.stored wanted seen isStored
  · rw [← own]
    exact backing.history seen known

theorem Backing.step_stored (backing : journal.Backing config) {event : Event}
    (taken : journal.step config event = some next) : next.HashesBacked config := by
  intro key current isStored
  refine Backed.grow ?_ taken
  cases step_template backing.faithful taken isStored with
  | kept before => exact backing.stored key current before
  | created absent isNew pending =>
      rw [isNew]
      exact fun named => absurd rfl named
  | edited old spec labels annotations isEvent wasStored same =>
      rw [same]
      exact backing.stored key old wasStored
  | worker worker outcome execution template stored rest answered isEvent inside own calls isAnswer
      wasStored same =>
      rw [same]
      obtain ⟨guarantee, reads⟩ := backing.turns worker execution inside
      rw [calls] at guarantee
      rcases guarantee.1 with ⟨seen, isSeen, ownSeen, kept⟩ | covered
      · have backed := reads seen isSeen
        rw [ownSeen, own, ← kept] at backed
        exact backed
      · intro _named
        rw [creditOf_patched, own] at covered
        exact ⟨journal.turns worker, .inr ⟨worker, execution, inside, rfl⟩, covered⟩
  | controller outcome execution template stored rest answered isEvent inside calls isAnswer
      wasStored same =>
      rw [same]
      obtain ⟨leaves, answeredVisit⟩ := backing.faithful.visit key execution inside
      have guarantee := (reconcile_recording config.platform config.interval).leaves leaves
        (fun exchange member _ => answeredVisit exchange member)
      rw [calls] at guarantee
      obtain ⟨seen, isSeen, own, recordable⟩ := guarantee.1
      exact backing.visits key execution inside seen _ isSeen own recordable

theorem Backing.step_turns (backing : journal.Backing config) {event : Event}
    (applies : journal.Applies config event) (taken : journal.step config event = some next)
    {worker : Nat} {execution : Execution Worker.Disposition}
    (inside : next.system.workers worker = some execution) :
    Guarantees (crediting config.platform execution.key) (fun _ _ => True)
        (creditOf (next.turns worker)) execution.program ∧
      ∀ seen, (creditOf (next.turns worker)).read = some seen →
        next.Backed config seen.key seen.status.appliedSpecHash := by
  cases step_turn config taken inside with
  | kept before turns =>
      rw [turns]
      obtain ⟨guarantee, reads⟩ := backing.turns worker execution before
      exact ⟨guarantee, fun seen isSeen => (reads seen isSeen).grow taken⟩
  | started isEvent queued turns =>
      obtain ⟨ref, item, turn⟩ :=
        (step_faithful journal event next backing.faithful taken).turn worker execution inside
      have leaves := turn.leaves
      rw [turns] at leaves ⊢
      rw [leaves_nil leaves]
      refine ⟨handleItem_crediting config.platform _ _ item turn.own _, ?_⟩
      intro seen impossible
      cases impossible
  | called outcome caller request rest answered isEvent before calls isAnswer isNext turns =>
      subst isEvent
      obtain ⟨guarantee, reads⟩ := backing.turns worker caller before
      rw [calls] at guarantee
      rw [turns, creditOf_snoc, isNext]
      constructor
      · exact guarantee.2 answered.1 ⟨respond_keyed backing.faithful.keyed isAnswer,
          applies caller request rest answered before calls isAnswer⟩
      · intro seen isSeen
        refine Backed.grow ?_ taken
        -- only a read changes what was read last
        cases request with
        | getTemplate wanted =>
            obtain ⟨answer, after⟩ := answered
            cases answer with
            | error err => exact reads seen isSeen
            | ok template =>
                cases isSeen
                obtain ⟨own, backed⟩ := backing.read isAnswer rfl
                rw [own]
                exact backed
        | _ => exact reads seen isSeen

theorem Backing.step_visits (backing : journal.Backing config) {event : Event}
    (applies : journal.Applies config event) (taken : journal.step config event = some next)
    {key : NamespacedName} {execution : Execution Controller.ReconcileResult}
    (inside : next.system.reconciles key = some execution) {seen : KubeTemplate} {hash : String}
    (isSeen : seenBy (next.visits key) = some seen) (own : seen.key = key)
    (recordable : Recordable config.platform seen hash) : next.Backed config key hash := by
  cases step_visit config taken inside with
  | kept before visits =>
      rw [visits] at isSeen
      exact (backing.visits key execution before seen hash isSeen own recordable).grow taken
  | started isEvent isProgram visits =>
      rw [visits] at isSeen
      cases isSeen
  | called outcome caller request rest answered isEvent before calls isAnswer isNext visits =>
      subst isEvent
      rw [visits, seenBy_snoc] at isSeen
      have known := backing.visits key caller before seen hash
      refine Backed.grow ?_ taken
      cases request with
      | getTemplate wanted =>
          obtain ⟨answer, after⟩ := answered
          cases answer with
          | error err => exact known isSeen own recordable
          | ok template =>
              cases isSeen
              obtain ⟨isWanted, backed⟩ := backing.read isAnswer rfl
              obtain rfl : wanted = key := isWanted.symm.trans own
              rcases recordable with kept | ⟨records, isHash⟩
              · rw [kept]
                exact backed
              · rw [isHash]
                exact applies caller rest _ seen before calls isAnswer rfl records
      | _ => exact known isSeen own recordable

private theorem step_backing (journal : Journal) (event : Event) (next : Journal)
    (backing : journal.Backing config) (applies : journal.Applies config event)
    (taken : journal.step config event = some next) : next.Backing config where
  faithful := step_faithful journal event next backing.faithful taken
  stored := backing.step_stored taken
  history := by
    intro template member
    rcases step_history taken member with old | isStored
    · exact (backing.history template old).grow taken
    · exact backing.step_stored taken template.key template isStored
  turns := fun _ _ inside => backing.step_turns applies taken inside
  visits := fun _ _ inside _ _ isSeen own recordable =>
    backing.step_visits applies taken inside isSeen own recordable

section Runs

variable (config : Config) (maxRetries initialDelay maxDelay maxCycles : Int)
  (policies : String → Except GoError KubeTemplatePolicy) (events : List Event)

private theorem backing_throughout
    (along : Along (step config) (Applies config)
      (start (Queue.Session.start maxRetries initialDelay maxDelay maxCycles) policies) events) :
    Throughout (step config) (Backing config)
      (start (Queue.Session.start maxRetries initialDelay maxDelay maxCycles) policies) events :=
  throughout_of_along (step config) (Applies config) (Backing config) step_backing _ events
    (start_backing config _ _ _ _ _) along

/-- When workers find that their specs can be applied and `Reconcile` reads no changed
spec, the hash of a status always names a spec that a worker has applied. -/
theorem hashesBacked_of_unchanged
    (along : Along (step config) (AppliesUnchanged config)
      (start (Queue.Session.start maxRetries initialDelay maxDelay maxCycles) policies) events) :
    Throughout (step config) (HashesBacked config)
      (start (Queue.Session.start maxRetries initialDelay maxDelay maxCycles) policies) events :=
  (backing_throughout config _ _ _ _ policies events
    (along.mono (fun _ _ applies => applies.applies))).mono (fun _ backing => backing.stored)

/-- So it is when every changed spec that `Reconcile` reads has been applied before. -/
theorem hashesBacked_of_applies
    (along : Along (step config) (Applies config)
      (start (Queue.Session.start maxRetries initialDelay maxDelay maxCycles) policies) events) :
    Throughout (step config) (HashesBacked config)
      (start (Queue.Session.start maxRetries initialDelay maxDelay maxCycles) policies) events :=
  (backing_throughout config _ _ _ _ policies events along).mono (fun _ backing => backing.stored)

end Runs

/-- An evaluable condition: nothing is replaced, the elements pass the policy, and
`Reconcile` finds no changed spec. -/
def passing (config : Config) (journal : Journal) : Event → Bool
  | .operator (.worker worker _) =>
      let credit := creditOf (journal.turns worker)
      (journal.system.workers worker).all (fun execution =>
        match execution.program with
        | .call (.policyCacheGet source _) _ =>
            match journal.system.policies source, credit.read with
            | .ok policy, some seen =>
                seen.spec.templates.all (Worker.passesCheck config.platform policy seen.metadata)
            | _, _ => true
        | .call (.delete _) _ => false
        | .call (.patch _ _ _) _ => !credit.replacing
        | _ => true)
  | .operator (.controller key outcome) =>
      outcome.isSuccess && (journal.system.templates key).all (fun seen =>
        !decide (Records config.platform seen))
  | _ => true

private theorem applies_of_passing (config : Config) (journal : Journal) (event : Event)
    (checked : journal.passing config event = true) : AppliesUnchanged config journal event := by
  cases event with
  | expire wanted => trivial
  | operator label =>
      cases label with
      | worker worker outcome =>
          intro execution request rest answered inside calls isAnswer
          simp only [passing, inside, Option.all_some, calls] at checked
          cases request with
          | policyCacheGet source operator =>
              intro policy seen isOk isSeen template member
              have granted : journal.system.policies source = .ok policy := by
                cases outcome with
                | succeeds =>
                    cases isAnswer
                    exact isOk
                | fails err =>
                    cases isAnswer
                    cases isOk
                | _ => cases isAnswer
              simp only [granted, isSeen] at checked
              exact Worker.passes_of_check _ (List.all_eq_true.mp checked template member)
          | delete object => cases checked
          | patch object forceOwnership dryRun =>
              intro replacing
              simp only [replacing] at checked
              cases checked
          | _ => trivial
      | controller wanted outcome =>
          obtain ⟨success, unchanged⟩ := Bool.and_eq_true_iff.mp checked
          intro execution rest answered seen _inside _calls isAnswer isOk records
          have isStored := stored_of_read (by rintro _ rfl; cases success) isAnswer isOk
          rw [isStored, Option.all_some, decide_eq_true records] at unchanged
          cases unchanged
      | _ => exact True.intro

/-- The KubeTemplate is queued, and a worker applies its spec. -/
def applyingFast : List Event :=
  List.map .operator (.create System.webTemplate :: System.queuing ++
    System.processing 0 (Reference.configMap "settings" "fast"))

theorem hashesBacked_settings :
    ((run (step System.settingsConfig) smallStart applyingFast).bind (fun final =>
      final.system.templates System.webKey)).map (fun current =>
        (current.status.processingPhase, current.status.appliedSpecHash)) =
      some (.completed,
        calculateSpecHash System.settingsConfig.platform (Reference.settingsSpec "fast")) ∧
      Throughout (step System.settingsConfig) (HashesBacked System.settingsConfig) smallStart
        applyingFast :=
  ⟨by decide, hashesBacked_of_applies System.settingsConfig _ _ _ _ _ applyingFast
    (along_of_checkAlong (fun journal event checked =>
      (applies_of_passing System.settingsConfig journal event checked).applies) (by decide))⟩

private theorem objectFor_field {documents : List (String × Unstructured)}
    {digests : List (String × String)} {metadata : ObjectMeta} {template : Template}
    {decoded object : Unstructured}
    (decodes : (Reference.platform documents digests).unmarshal template.object.raw = .ok decoded)
    (isObject : Worker.objectFor (Reference.platform documents digests) metadata template =
      some object) {name : String} (different : name ≠ "metadata") :
    mapGet object.object name = mapGet decoded.object name := by
  have defaulted : mapGet (defaultNamespace (Reference.platform documents digests) metadata.ns
      decoded).object name = mapGet decoded.object name := by
    unfold defaultNamespace
    split
    · simp only [Reference.platform]
      split
      · exact Reference.mapGet_removeMetadataField _ _ _ different
      · exact Reference.mapGet_setMetadataField _ _ _ _ different
    · rfl
  unfold Worker.objectFor at isObject
  rw [decodes] at isObject
  cases isObject
  unfold Worker.appliedObject
  dsimp only
  split
  · exact (Reference.mapGet_setMetadataField _ _ _ _ different).trans
      ((Reference.mapGet_setMetadataField _ _ _ _ different).trans defaulted)
  · exact (Reference.mapGet_setMetadataField _ _ _ _ different).trans defaulted

def modeOf (object : Unstructured) : Option String :=
  match mapGet object.object "data" with
  | some (.map entries) =>
      match mapGet entries "mode" with
      | some (.str text) => some text
      | _ => none
  | _ => none

/-- An element whose object has the first mode is the element of the first version, up
to its flags. -/
theorem raw_of_modeOf {metadata : ObjectMeta} {template : Template} {object : Unstructured}
    (isObject : Worker.objectFor Reference.versionsPlatform metadata template = some object)
    (isFast : modeOf object = some "fast") :
    template.object.raw = Reference.configMapJson "settings" "fast" := by
  cases decodes : Reference.versionsPlatform.unmarshal template.object.raw with
  | error text =>
      unfold Worker.objectFor at isObject
      rw [decodes] at isObject
      cases isObject
  | ok decoded =>
      have data : mapGet object.object "data" = mapGet decoded.object "data" :=
        objectFor_field decodes isObject (by decide)
      unfold modeOf at isFast
      rw [data] at isFast
      obtain ⟨mode, _known, isRaw, rfl⟩ := Reference.versions_unmarshal _ decoded decodes
      cases isFast
      exact isRaw

private theorem not_covered_slow {key : NamespacedName} {patched : List Unstructured}
    (isFast : patched.map modeOf = [some "fast"]) :
    ¬ Covered Reference.versionsPlatform key patched
      (calculateSpecHash Reference.versionsPlatform (Reference.settingsSpec "slow")) := by
  rintro ⟨⟨metadata, ⟨templates⟩, status⟩, _own, isHash, decodes, objects⟩
  dsimp only at isHash decodes objects
  cases templates with
  | nil => exact absurd isHash (by decide)
  | cons template rest =>
      obtain ⟨object, isObject⟩ := Option.isSome_iff_exists.mp
        (decodes template List.mem_cons_self)
      rw [List.filterMap_cons_some isObject] at objects
      cases rest with
      | nil =>
          have among : modeOf object ∈ patched.map modeOf :=
            List.mem_map_of_mem (objects.mem List.mem_cons_self)
          rw [isFast] at among
          have isRaw := raw_of_modeOf isObject (List.mem_singleton.mp among)
          obtain ⟨⟨raw⟩, replace, referenced⟩ := template
          dsimp only at isRaw
          subst isRaw
          cases replace <;> cases referenced <;> exact absurd isHash (by decide)
      | cons second others =>
          obtain ⟨another, isAnother⟩ := Option.isSome_iff_exists.mp
            (decodes second (List.mem_cons_of_mem _ List.mem_cons_self))
          have single : patched.length = 1 := by
            rw [← List.length_map modeOf, isFast]
            rfl
          have many := objects.length_le
          rw [List.filterMap_cons_some isAnother, single, List.length_cons, List.length_cons]
            at many
          omega

/-- A worker has applied the first version when the user changes the spec, and `Reconcile`
finds the change and writes the status. -/
def recordingSlow : List Event :=
  applyingFast ++ List.map .operator
    (.update System.webKey (Reference.settingsSpec "slow") [] [] :: .deliver System.webKey ::
      List.replicate 3 (.controller System.webKey .succeeds))

/-- The hash of the second version is in the status, and only the first has been
applied. -/
theorem changed_spec_recorded :
    ∃ final current,
      run (step System.settingsConfig) smallStart recordingSlow = some final ∧
      final.system.templates System.webKey = some current ∧
      current.status.appliedSpecHash =
        calculateSpecHash System.settingsConfig.platform (Reference.settingsSpec "slow") ∧
      ¬ final.HashesBacked System.settingsConfig := by
  have seen : ((run (step System.settingsConfig) smallStart recordingSlow).bind (fun final =>
      (final.system.templates System.webKey).map (fun current =>
        (current.status.appliedSpecHash, final.system.active,
          final.past.map (fun trace => (trace.filterMap successfulPatch).map modeOf))))) =
      some (calculateSpecHash System.settingsConfig.platform (Reference.settingsSpec "slow"),
        [(.controller, System.webKey)], [[some "fast"]]) := by
    decide
  obtain ⟨final, isRun, seen⟩ := Option.bind_eq_some_iff.mp seen
  obtain ⟨current, isStored, observed⟩ := Option.map_eq_some_iff.mp seen
  simp only [Prod.mk.injEq] at observed
  obtain ⟨isHash, active, patched⟩ := observed
  refine ⟨final, current, isRun, isStored, isHash, ?_⟩
  intro backed
  have named : current.status.appliedSpecHash ≠ "" := by
    rw [isHash]
    decide
  obtain ⟨trace, executed, covered⟩ := backed System.webKey current isStored named
  rw [isHash] at covered
  rcases executed with ended | ⟨worker, execution, inside, _isTurn⟩
  · have among : (trace.filterMap successfulPatch).map modeOf ∈ final.past.map
        (fun trace => (trace.filterMap successfulPatch).map modeOf) :=
      List.mem_map_of_mem ended
    rw [patched] at among
    exact not_covered_slow (List.mem_singleton.mp among) covered
  · have member := (run_faithful isRun).listed.workers worker execution inside
    rw [active] at member
    cases List.mem_singleton.mp member

end Journal

end KubeTemplater.Operator
