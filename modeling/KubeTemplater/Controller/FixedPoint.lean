/-
Two drift passes, one after the other.

A pass applies its templates in turn, each to the cluster the one before it left, and
passes over those that would change nothing.  The second pass finds nothing to do
exactly when none of the templates shows drift in the cluster at the end of the first.
That is so when no later template of the list unsettles the resource of an earlier one.
Two templates that set one resource to different contents do, and then every pass
patches it again.
-/

import Mathlib.Logic.Function.Basic
import KubeTemplater.Controller.DriftAccounting

namespace KubeTemplater.Controller

open Library Library.Program

/-- An object as the server holds it: its maps list no key twice. -/
abbrev Document := { object : Unstructured // Value.keysOnceEntries object.object = true }

structure Resource where
  gvk : GroupVersionKind
  ns : String
  name : String
  deriving DecidableEq, Repr

abbrev Cluster := Resource → Option Document

/-- Server-side apply as a function of the object and the current resource; applying an
object to its own result changes nothing. -/
structure ApplyServer where
  apply : Document → Option Document → Document
  again : ∀ document current,
    apply document (some (apply document current)) = apply document current

section

variable (platform : Platform) (server : ApplyServer)

def resourceOf (object : Unstructured) : Resource :=
  { gvk := platform.groupVersionKind object
    ns := platform.getNamespace object
    name := platform.getName object }

/-- The call is answered without failure, and only a real Patch changes the cluster, at
the resource of its object. -/
def Answered (cluster : Cluster) : Exchange client → Cluster → Prop
  | ⟨.getResource gvk ns name, answer⟩, after => after = cluster ∧
      match cluster ⟨gvk, ns, name⟩ with
      | some held => (answer : Except GoError Unstructured) = .ok held.val
      | none => ∃ missing : GoError, (answer : Except GoError Unstructured) = .error missing ∧
          missing.isNotFound = true
  | ⟨.patch object _ dryRun, answer⟩, after => ∃ document : Document, document.val = object ∧
      (answer : Except GoError Unstructured) =
        .ok (server.apply document (cluster (resourceOf platform object))).val ∧
      after = if dryRun then cluster else
        Function.update cluster (resourceOf platform object)
          (some (server.apply document (cluster (resourceOf platform object))))
  | ⟨.updateStatus _, answer⟩, after => after = cluster ∧
      ∃ revision, (answer : Except GoError Nat) = .ok revision
  | ⟨.now, _⟩, after => after = cluster
  | _, _ => False

/-- The cluster answers a whole trace, and nobody else writes to it. -/
def Served : Cluster → List (Exchange client) → Cluster → Prop
  | cluster, [], after => after = cluster
  | cluster, exchange :: rest, after =>
      ∃ next, Answered platform server cluster exchange next ∧ Served next rest after

theorem served_append (cluster after : Cluster) (front back : List (Exchange client)) :
    Served platform server cluster (front ++ back) after ↔
      ∃ middle, Served platform server cluster front middle ∧
        Served platform server middle back after := by
  induction front generalizing cluster with
  | nil => exact ⟨fun served => ⟨cluster, rfl, served⟩, fun ⟨_, rfl, served⟩ => served⟩
  | cons exchange rest ih =>
      constructor
      · rintro ⟨next, answered, served⟩
        obtain ⟨middle, inRest, inBack⟩ := (ih next).mp served
        exact ⟨middle, ⟨next, answered, inRest⟩, inBack⟩
      · rintro ⟨middle, ⟨next, answered, inRest⟩, inBack⟩
        exact ⟨next, answered, (ih next).mpr ⟨middle, inRest, inBack⟩⟩

def Settled (document held : Document) : Prop :=
  hasDrift platform held.val (server.apply document (some held)).val = false

def Holds (cluster : Cluster) (document : Document) : Prop :=
  ∃ held, cluster (resourceOf platform document.val) = some held ∧
    Settled platform server document held

instance (cluster : Cluster) (document : Document) :
    Decidable (Holds platform server cluster document) :=
  match found : cluster (resourceOf platform document.val) with
  | none => isFalse (fun ⟨_, isHeld, _⟩ => Option.some_ne_none _ (isHeld.symm.trans found))
  | some held =>
      if settled : hasDrift platform held.val (server.apply document (some held)).val = false then
        isTrue ⟨held, found, settled⟩
      else isFalse (fun ⟨_, isHeld, isSettled⟩ =>
        settled (Option.some.inj (isHeld.symm.trans found) ▸ isSettled))

/-- The cluster after the turn of a document. -/
def applyDocument (cluster : Cluster) (document : Document) : Cluster :=
  if Holds platform server cluster document then cluster
  else Function.update cluster (resourceOf platform document.val)
    (some (server.apply document (cluster (resourceOf platform document.val))))

/-- The cluster after the turns of the documents. -/
def applyInTurn (documents : List Document) (cluster : Cluster) : Cluster :=
  documents.foldl (applyDocument platform server) cluster

def decodedDocument (template : Template) : Option Document :=
  match platform.unmarshal template.object.raw with
  | .error _ => none
  | .ok object =>
      if once : Value.keysOnceEntries object.object = true then some ⟨object, once⟩ else none

inductive Handles (template : Template) (cluster : Cluster) : Exit → Cluster → Prop where
  | undecoded (text : String) (fails : platform.unmarshal template.object.raw = .error text) :
      Handles template cluster .undecoded cluster
  | inSync (document : Document)
      (decodes : platform.unmarshal template.object.raw = .ok document.val)
      (holds : Holds platform server cluster document) :
      Handles template cluster .inSync cluster
  | patched (document : Document) (exit : Exit)
      (decodes : platform.unmarshal template.object.raw = .ok document.val)
      (unsettled : ¬ Holds platform server cluster document)
      (patches : exit = .corrected ∨ exit = .created) :
      Handles template cluster exit
        (Function.update cluster (resourceOf platform document.val)
          (some (server.apply document (cluster (resourceOf platform document.val)))))

theorem served_looks {object : Unstructured} {found dryRun : Except GoError Unstructured}
    {rest : List (Exchange client)} {cluster after : Cluster}
    (served : Served platform server cluster
      (⟨getOf platform object, found⟩ :: ⟨.patch object true true, dryRun⟩ :: rest) after) :
    ∃ document : Document, document.val = object ∧
      dryRun = .ok (server.apply document (cluster (resourceOf platform object))).val ∧
      (match cluster (resourceOf platform object) with
        | some held => found = .ok held.val
        | none => ∃ missing : GoError, found = .error missing ∧ missing.isNotFound = true) ∧
      Served platform server cluster rest after := by
  obtain ⟨_, ⟨rfl, looked⟩, _, ⟨document, isObject, dry, rfl⟩, later⟩ := served
  exact ⟨document, isObject, dry, looked, later⟩

theorem served_patch {document : Document} {stored : Except GoError Unstructured}
    {cluster after : Cluster}
    (served : Served platform server cluster [⟨.patch document.val true false, stored⟩] after) :
    after = Function.update cluster (resourceOf platform document.val)
      (some (server.apply document (cluster (resourceOf platform document.val)))) ∧
      ∃ object, stored = .ok object := by
  obtain ⟨_, ⟨other, same, answer, rfl⟩, rfl⟩ := served
  cases Subtype.ext same
  exact ⟨rfl, _, answer⟩

theorem Visit.handles {template : Template} {trace : List (Exchange client)} {exit : Exit}
    (visit : Visit platform template trace exit) {cluster after : Cluster}
    (served : Served platform server cluster trace after) :
    Handles platform server template cluster exit after := by
  cases visit with
  | undecoded text fails =>
      cases served
      exact .undecoded text fails
  | dryRunFailed object found failure decodes =>
      obtain ⟨document, _, dry, _⟩ := served_looks platform server served
      cases dry
  | unreadable object dryRun failure decodes other =>
      obtain ⟨document, _, _, looked, _⟩ := served_looks platform server served
      split at looked
      · cases looked
      · obtain ⟨missing, same, notFound⟩ := looked
        cases same
        rw [other] at notFound
        cases notFound
  | inSync object current dryRun decodes same =>
      obtain ⟨document, rfl, dry, looked, rfl⟩ := served_looks platform server served
      split at looked
      · rename_i held isHeld
        cases looked
        cases dry
        rw [isHeld] at same
        exact .inSync document decodes ⟨held, isHeld, same⟩
      · obtain ⟨missing, impossible, _⟩ := looked
        cases impossible
  | corrected object current dryRun stored decodes drifted =>
      obtain ⟨document, rfl, dry, looked, patched⟩ := served_looks platform server served
      obtain ⟨rfl, _⟩ := served_patch platform server patched
      refine .patched document .corrected decodes ?_ (Or.inl rfl)
      rintro ⟨held, isHeld, settled⟩
      rw [isHeld] at looked dry
      cases looked
      cases dry
      rw [settled] at drifted
      cases drifted
  | created object dryRun stored missing decodes notFound =>
      obtain ⟨document, rfl, _, looked, patched⟩ := served_looks platform server served
      obtain ⟨rfl, _⟩ := served_patch platform server patched
      refine .patched document .created decodes ?_ (Or.inr rfl)
      rintro ⟨held, isHeld, _⟩
      rw [isHeld] at looked
      cases looked
  | _ =>
      obtain ⟨document, rfl, _, _, patched⟩ := served_looks platform server served
      obtain ⟨_, _, impossible⟩ := served_patch platform server patched
      cases impossible

def Keeps (document other : Document) : Prop :=
  resourceOf platform document.val = resourceOf platform other.val →
    ∀ held, Settled platform server document held → ¬ Settled platform server other held →
      Settled platform server document (server.apply other (some held))

/-- No later document of the list unsettles the resource of an earlier one. -/
def Undisturbed (documents : List Document) : Prop :=
  documents.Pairwise (Keeps platform server)

end

section

variable {platform : Platform} {server : ApplyServer}

variable {template : Template}

theorem decodedDocument_eq {document : Document}
    (decodes : platform.unmarshal template.object.raw = .ok document.val) :
    decodedDocument platform template = some document := by
  unfold decodedDocument
  rw [decodes]
  exact dif_pos document.property

private theorem decodedDocument_error {text : String}
    (fails : platform.unmarshal template.object.raw = .error text) :
    decodedDocument platform template = none := by
  unfold decodedDocument
  rw [fails]

variable {cluster after : Cluster}

theorem Handles.applied {exit : Exit}
    (handles : Handles platform server template cluster exit after) :
    after = applyInTurn platform server (decodedDocument platform template).toList cluster := by
  cases handles with
  | undecoded text fails =>
      rw [decodedDocument_error fails]
      rfl
  | inSync document decodes holds =>
      rw [decodedDocument_eq decodes]
      exact (if_pos holds).symm
  | patched document _ decodes unsettled _ =>
      rw [decodedDocument_eq decodes]
      exact (if_neg unsettled).symm

variable {exits : List Exit} {trace : List (Exchange client)}

/-- The turns of a pass apply its documents one after the other. -/
theorem Visits.applied {templates : List Template} (visits : Visits platform templates trace exits)
    (served : Served platform server cluster trace after) :
    after = applyInTurn platform server (templates.filterMap (decodedDocument platform))
      cluster := by
  induction visits generalizing cluster with
  | nil => exact served
  | cons template rest front back exit exits first later ih =>
      obtain ⟨middle, inFront, inBack⟩ := (served_append platform server _ _ _ _).mp served
      have handled := (first.handles platform server inFront).applied
      rw [ih inBack, handled, List.filterMap_cons]
      cases decodedDocument platform template with
      | none => rfl
      | some document => rfl

/-- Nothing is patched in a turn exactly when it finds its resource settled. -/
theorem Visit.quiet_iff {exit : Exit} (visit : Visit platform template trace exit)
    (served : Served platform server cluster trace after) :
    trace.filterMap issuedPatch = [] ↔
      ∀ document, document ∈ decodedDocument platform template →
        Holds platform server cluster document := by
  have handles := visit.handles platform server served
  cases handles with
  | undecoded text fails =>
      rw [decodedDocument_error fails]
      cases visit
      refine ⟨fun _ document member => ?_, fun _ => rfl⟩
      cases member
  | inSync document decodes holds =>
      rw [decodedDocument_eq decodes]
      cases visit
      refine ⟨fun _ other member => ?_, fun _ => rfl⟩
      cases member
      exact holds
  | patched document _ decodes unsettled patches =>
      rw [decodedDocument_eq decodes]
      have patched : trace.filterMap issuedPatch ≠ [] := by
        rcases patches with rfl | rfl <;> cases visit <;> exact List.cons_ne_nil _ _
      exact ⟨fun quiet => absurd quiet patched,
        fun settled => absurd (settled document rfl) unsettled⟩

theorem Visit.undrifted {exit : Exit} (visit : Visit platform template trace exit)
    (quiet : trace.filterMap issuedPatch = []) :
    exit.isDrifted = false := by
  cases visit with
  | corrected => cases quiet
  | uncorrected => cases quiet
  | _ => rfl

theorem Visits.undrifted {templates : List Template}
    (visits : Visits platform templates trace exits) (quiet : trace.filterMap issuedPatch = []) :
    exits.any Exit.isDrifted = false := by
  induction visits with
  | nil => rfl
  | cons template rest front back exit exits first later ih =>
      rw [List.filterMap_append, List.append_eq_nil_iff] at quiet
      rw [List.any_cons, first.undrifted quiet.1, ih quiet.2, Bool.or_false]

private theorem applyInTurn_settled {documents : List Document}
    (settled : ∀ document, document ∈ documents → Holds platform server cluster document) :
    applyInTurn platform server documents cluster = cluster := by
  induction documents with
  | nil => rfl
  | cons document rest ih =>
      have first : applyDocument platform server cluster document = cluster :=
        if_pos (settled document List.mem_cons_self)
      unfold applyInTurn at ih ⊢
      rw [List.foldl_cons, first]
      exact ih (fun other member => settled other (List.mem_cons_of_mem document member))

/-- A pass patches nothing exactly when it finds every resource settled. -/
theorem Visits.quiet_iff {templates : List Template}
    (visits : Visits platform templates trace exits)
    (served : Served platform server cluster trace after) :
    trace.filterMap issuedPatch = [] ↔
      ∀ document, document ∈ templates.filterMap (decodedDocument platform) →
        Holds platform server cluster document := by
  induction visits generalizing cluster with
  | nil => exact ⟨fun _ document member => absurd member List.not_mem_nil, fun _ => rfl⟩
  | cons template rest front back exit exits first later ih =>
      obtain ⟨middle, inFront, inBack⟩ := (served_append platform server _ _ _ _).mp served
      have own := first.quiet_iff inFront
      have handled := (first.handles platform server inFront).applied
      rw [List.filterMap_append, List.append_eq_nil_iff, own, ih inBack]
      -- a turn that finds its resource settled leaves the cluster to the next ones
      have unmoved : (∀ document, document ∈ decodedDocument platform template →
          Holds platform server cluster document) → middle = cluster := by
        intro settled
        refine handled.trans (applyInTurn_settled ?_)
        intro document member
        exact settled document (Option.mem_toList.mp member)
      constructor
      · rintro ⟨settled, others⟩ document member
        rw [unmoved settled] at others
        rw [List.mem_filterMap] at member
        obtain ⟨chosen, isTemplate, decodes⟩ := member
        rcases List.mem_cons.mp isTemplate with rfl | inRest
        · exact settled document decodes
        · exact others document (List.mem_filterMap.mpr ⟨chosen, inRest, decodes⟩)
      · intro all
        have settled : ∀ document, document ∈ decodedDocument platform template →
            Holds platform server cluster document := fun document decodes =>
          all document (List.mem_filterMap.mpr ⟨template, List.mem_cons_self, decodes⟩)
        refine ⟨settled, ?_⟩
        rw [unmoved settled]
        intro document member
        obtain ⟨chosen, inRest, decodes⟩ := List.mem_filterMap.mp member
        exact all document
          (List.mem_filterMap.mpr ⟨chosen, List.mem_cons_of_mem template inRest, decodes⟩)

private theorem applyDocument_keeps {document other : Document}
    (keeps : Keeps platform server document other)
    (holds : Holds platform server cluster document) :
    Holds platform server (applyDocument platform server cluster other) document := by
  unfold applyDocument
  split
  · exact holds
  · rename_i unsettled
    obtain ⟨held, isHeld, settled⟩ := holds
    by_cases same : resourceOf platform document.val = resourceOf platform other.val
    · have drifted : ¬ Settled platform server other held :=
        fun alsoSettled => unsettled ⟨held, same ▸ isHeld, alsoSettled⟩
      refine ⟨server.apply other (some held), ?_, keeps same held settled drifted⟩
      rw [same, Function.update_self, ← same, isHeld]
    · exact ⟨held, (Function.update_of_ne same _ _).trans isHeld, settled⟩

private theorem applyInTurn_keeps {documents : List Document} {document : Document}
    (keep : ∀ other, other ∈ documents → Keeps platform server document other)
    (holds : Holds platform server cluster document) :
    Holds platform server (applyInTurn platform server documents cluster) document := by
  induction documents generalizing cluster with
  | nil => exact holds
  | cons other rest ih =>
      exact ih (fun later member => keep later (List.mem_cons_of_mem other member))
        (applyDocument_keeps (keep other List.mem_cons_self) holds)

section

variable (laws : ComparisonLaws platform)
include laws

private theorem settled_apply (document : Document) (current : Option Document) :
    Settled platform server document (server.apply document current) := by
  unfold Settled
  rw [server.again]
  exact hasDrift_self laws _ (server.apply document current).property

/-- Documents of one resource do not unsettle it when they are the same. -/
theorem undisturbed_of_agreeing {documents : List Document}
    (agree : documents.Pairwise (fun document other =>
      resourceOf platform document.val = resourceOf platform other.val → other = document)) :
    Undisturbed platform server documents := by
  refine agree.imp ?_
  intro document other same oneResource held _settled _drifted
  rw [same oneResource]
  exact settled_apply laws document (some held)

private theorem applyDocument_settles (cluster : Cluster) (document : Document) :
    Holds platform server (applyDocument platform server cluster document) document := by
  unfold applyDocument
  split
  · rename_i holds
    exact holds
  · exact ⟨_, Function.update_self _ _ _, settled_apply laws document _⟩

/-- What is not disturbed is settled in the end. -/
theorem Undisturbed.settles {documents : List Document}
    (undisturbed : Undisturbed platform server documents) (cluster : Cluster) :
    ∀ document, document ∈ documents →
      Holds platform server (applyInTurn platform server documents cluster) document := by
  induction documents generalizing cluster with
  | nil =>
      intro document member
      cases member
  | cons first rest ih =>
      obtain ⟨head, tail⟩ := List.pairwise_cons.mp undisturbed
      intro document member
      rcases List.mem_cons.mp member with rfl | inRest
      · change Holds platform server (applyInTurn platform server rest
          (applyDocument platform server cluster document)) document
        exact applyInTurn_keeps head (applyDocument_settles laws cluster document)
      · exact ih tail (applyDocument platform server cluster first) document inRest

end

structure Reread (first second : KubeTemplate) (trace : List (Exchange client)) : Prop where
  spec : second.spec = first.spec
  status : second.status = ((trace.filterMap sentStatus).getLast?).getD first.status

private theorem served_onTemplate (served : Served platform server cluster trace after)
    (onTemplate : ∀ exchange, exchange ∈ trace → exchange.request.onTemplate) :
    after = cluster := by
  induction trace generalizing cluster with
  | nil => exact served
  | cons exchange rest ih =>
      obtain ⟨next, answered, later⟩ := served
      have same : next = cluster := by
        have own := onTemplate exchange List.mem_cons_self
        obtain ⟨request, answer⟩ := exchange
        cases request <;>
          first
          | exact False.elim own
          | exact answered
          | exact answered.1
          | exact False.elim answered
      rw [← same]
      exact ih later (fun other member => onTemplate other (List.mem_cons_of_mem _ member))

/-- What follows the turns of a pass leaves the cluster. -/
theorem Passes.served {kubeTemplate : KubeTemplate}
    (passes : Passes platform kubeTemplate trace exits)
    (served : Served platform server cluster trace after) :
    ∃ visits, Visits platform kubeTemplate.spec.templates visits exits ∧
      Served platform server cluster visits after := by
  obtain ⟨visits, now, writes, rfl, visited, ending⟩ := passes
  obtain ⟨middle, inVisits, inRest⟩ := (served_append platform server _ _ _ _).mp served
  have same : after = middle := by
    apply served_onTemplate inRest
    intro exchange member
    rcases List.mem_cons.mp member with rfl | inWrites
    · trivial
    · split at ending
      · obtain ⟨answer, rfl⟩ := ending
        rw [List.mem_singleton.mp inWrites]
        trivial
      · rw [ending] at inWrites
        cases inWrites
  rw [same]
  exact ⟨visits, visited, inVisits⟩

private theorem reconciledStatus_time (total : Int) (tally : DriftTally) (now : Time)
    (status : KubeTemplateStatus) :
    (reconciledStatus total tally now status).lastReconcileTime = some now := by
  unfold reconciledStatus
  dsimp only
  split <;> rfl

theorem Passes.reconciled {first second : KubeTemplate} (passes : Passes platform first trace exits)
    (reread : Reread first second trace) : second.status.lastReconcileTime ≠ none := by
  obtain ⟨visits, now, writes, rfl, visited, ending⟩ := passes
  have status := reread.status
  rw [List.filterMap_append, visited.sends_nothing, List.nil_append] at status
  split at ending
  · obtain ⟨answer, rfl⟩ := ending
    rw [status]
    intro unset
    cases (reconciledStatus_time _ _ _ _).symm.trans unset
  · rename_i skipped
    rw [ending] at status
    rw [status]
    exact fun unset => skipped (.inr unset)

end

/-- A server that replaces the whole resource. -/
def replacingServer : ApplyServer where
  apply := fun document _ => document
  again := fun _ _ => rfl

def settingsVersions : Platform :=
  { Reference.versionsPlatform with deepEqual := Value.semanticEqual }

private theorem settingsVersions_laws : ComparisonLaws settingsVersions where
  nestedFieldCopy_field := comparingPlatform_laws.nestedFieldCopy_field
  deepEqual_eq := fun _ _ => rfl

def settingsDocument (mode : String) : Document :=
  ⟨Reference.configMap "settings" mode, rfl⟩

def settingsResource : Resource :=
  resourceOf settingsVersions (Reference.configMap "settings" "fast")

def settingsCluster (held : Option Document) : Cluster := fun resource =>
  if resource = settingsResource then held else none

/-- Both versions are contents of one resource. -/
theorem slow_resource :
    resourceOf settingsVersions (Reference.configMap "settings" "slow") = settingsResource := by
  decide +kernel

private theorem update_settingsCluster (held : Option Document) (document : Document) :
    Function.update (settingsCluster held) settingsResource (some document) =
      settingsCluster (some document) := by
  funext resource
  unfold settingsCluster
  by_cases same : resource = settingsResource
  · rw [same, Function.update_self, if_pos rfl]
  · rw [Function.update_of_ne same, if_neg same, if_neg same]

def settingsServer : (request : Call) → Option Unstructured → request.Answer × Option Unstructured
  | .getResource _ _ _, some held => (.ok held, some held)
  | .patch object _ false, _ => (.ok object, some object)
  | request, held => (Reference.bareAnswer request, held)

def settingsPass (kubeTemplate : KubeTemplate) (held : Option Unstructured) :
    List (Exchange client) :=
  traceWith settingsServer (applyTemplateResources settingsVersions kubeTemplate) held

def settingsOf (modes : List String) : KubeTemplate :=
  Reference.kubeTemplate (modes.map (Reference.configMapTemplate "settings"))

def settingsAfter (modes : List String) (tally : DriftTally) : KubeTemplate :=
  { settingsOf modes with
    status := reconciledStatus modes.length tally 0 (settingsOf modes).status }

section

variable (held : Option Document) (document : Document)
  (isSettings : resourceOf settingsVersions document.val = settingsResource)
  {found : Except GoError Unstructured}
  (looked : match held with
    | some current => found = .ok current.val
    | none => ∃ missing : GoError, found = .error missing ∧ missing.isNotFound = true)
  {rest : List (Exchange client)} {after : Cluster}
include isSettings looked

/-- A turn that ends after its dry run. -/
theorem served_kept
    (later : Served settingsVersions replacingServer (settingsCluster held) rest after) :
    Served settingsVersions replacingServer (settingsCluster held)
      (⟨getOf settingsVersions document.val, found⟩ ::
        ⟨.patch document.val true true, .ok document.val⟩ :: rest) after := by
  have isHeld : settingsCluster held (resourceOf settingsVersions document.val) = held := by
    rw [isSettings]
    exact if_pos rfl
  refine ⟨_, ⟨rfl, ?_⟩, _, ⟨document, rfl, rfl, rfl⟩, later⟩
  change match settingsCluster held (resourceOf settingsVersions document.val) with
    | some current => found = .ok current.val
    | none => ∃ missing : GoError, found = .error missing ∧ missing.isNotFound = true
  rw [isHeld]
  exact looked

theorem served_replaced
    (later : Served settingsVersions replacingServer (settingsCluster (some document)) rest
      after) :
    Served settingsVersions replacingServer (settingsCluster held)
      (⟨getOf settingsVersions document.val, found⟩ ::
        ⟨.patch document.val true true, .ok document.val⟩ ::
        ⟨.patch document.val true false, .ok document.val⟩ :: rest) after := by
  refine served_kept held document isSettings looked ⟨_, ⟨document, rfl, rfl, rfl⟩, ?_⟩
  rw [isSettings, if_neg Bool.false_ne_true]
  change Served _ _ (Function.update (settingsCluster held) settingsResource (some document)) _ _
  rw [update_settingsCluster]
  exact later

end

theorem served_written (cluster : Cluster) (kubeTemplate : KubeTemplate) :
    Served settingsVersions replacingServer cluster
      [⟨.now, 0⟩, ⟨.updateStatus kubeTemplate, .ok 2⟩] cluster :=
  ⟨_, rfl, _, ⟨rfl, 2, rfl⟩, rfl⟩

end KubeTemplater.Controller
