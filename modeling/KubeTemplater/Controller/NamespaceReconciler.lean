/-
The reconciler of namespaces: the finalizer that holds a namespace until its
KubeTemplates are deleted.

Any number of executions of `Reconcile` go on at once, one API call at a time, among
what others do to namespaces and templates.  `Get` reads a cache and may return any
version the server has stored; `List` is up to date.  A call that fails changes nothing:
one whose effect took place all the same is a call that fails after another has had that
effect.
-/

import KubeTemplater.Api
import KubeTemplater.Library.Program
import KubeTemplater.Library.Transition
import Mathlib.Logic.Function.Basic

namespace KubeTemplater.Namespaces

open Library Library.Program

def namespaceFinalizer : String := "kubetemplater.io/namespace-finalizer"

structure Namespace where
  name : String
  resourceVersion : Nat
  deletionTimestamp : Option Time
  finalizers : List String
  deriving DecidableEq, Repr

inductive NamespaceCall where
  | getNamespace (name : String)
  | updateNamespace (ns : Namespace)
  | listTemplates (ns : String)
  | deleteTemplate (key : NamespacedName)
  deriving DecidableEq

abbrev NamespaceCall.Answer : NamespaceCall → Type
  | .getNamespace _ => Except GoError Namespace
  | .updateNamespace _ => Except GoError Unit
  -- of the items only the keys are read
  | .listTemplates _ => Except GoError (List NamespacedName)
  | .deleteTemplate _ => Except GoError Unit

abbrev namespaceApi : Interface :=
  { Call := NamespaceCall
    Answer := NamespaceCall.Answer }

def containsFinalizer (ns : Namespace) : Bool :=
  ns.finalizers.contains namespaceFinalizer

def addFinalizer (ns : Namespace) : Namespace :=
  if containsFinalizer ns then ns
  else { ns with finalizers := ns.finalizers ++ [namespaceFinalizer] }

def removeFinalizer (ns : Namespace) : Namespace :=
  { ns with finalizers := ns.finalizers.filter (fun finalizer => finalizer != namespaceFinalizer) }

def updateNamespace (ns : Namespace) : Program namespaceApi (Option GoError) :=
  .call (NamespaceCall.updateNamespace ns) (fun updated =>
    match updated with
    | .error err => pure (some err)
    | .ok () => pure none)

def deleteTemplates : List NamespacedName → Program namespaceApi (Option GoError)
  | [] => pure none
  | template :: rest => .call (NamespaceCall.deleteTemplate template) (fun deleted =>
      match deleted with
      | .error err => if err.isNotFound then deleteTemplates rest else pure (some err)
      | .ok () => deleteTemplates rest)

def cleanUp (ns : Namespace) : Program namespaceApi (Option GoError) :=
  .call (NamespaceCall.listTemplates ns.name) (fun listed =>
    match listed with
    | .error err => pure (some err)
    | .ok items => do
        match ← deleteTemplates items with
        | some err => pure (some err)
        | none => updateNamespace (removeFinalizer ns))

def reconcileFetched (ns : Namespace) : Program namespaceApi (Option GoError) :=
  if ns.deletionTimestamp.isNone then
    if containsFinalizer ns then pure none else updateNamespace (addFinalizer ns)
  else if containsFinalizer ns then cleanUp ns
  else pure none

/-- The result is the error; the `ctrl.Result` is always empty. -/
def reconcile (name : String) : Program namespaceApi (Option GoError) :=
  .call (NamespaceCall.getNamespace name) (fun got =>
    match got with
    | .error err => if err.isNotFound then pure none else pure (some err)
    | .ok ns => reconcileFetched ns)

inductive Fate where
  | present
  /-- A Delete request has succeeded; the template is there until its finalizers are gone. -/
  | requested
  | gone
  deriving DecidableEq, Repr

structure Template where
  key : NamespacedName
  fate : Fate
  deriving DecidableEq, Repr

structure Cluster where
  namespaces : String → Option Namespace
  /-- Every version of a namespace the server has stored. -/
  history : List Namespace
  revision : Nat
  /-- Every template there has been. -/
  templates : List Template

namespace Cluster

def empty : Cluster :=
  { namespaces := fun _ => none
    history := []
    revision := 0
    templates := [] }

def store (cluster : Cluster) (ns : Namespace) : Cluster :=
  let stored := { ns with resourceVersion := cluster.revision + 1 }
  { cluster with
    namespaces := Function.update cluster.namespaces ns.name (some stored)
    history := stored :: cluster.history
    revision := cluster.revision + 1 }

def listed (cluster : Cluster) (ns : String) : List NamespacedName :=
  (cluster.templates.filter (fun template =>
    template.key.ns == ns && template.fate != .gone)).map Template.key

def hasTemplate (cluster : Cluster) (key : NamespacedName) : Bool :=
  cluster.templates.any (fun template => template.key == key && template.fate != .gone)

def mark (cluster : Cluster) (key : NamespacedName) (fate : Fate) : Cluster :=
  { cluster with
    templates := cluster.templates.map (fun template =>
      if template.key = key ∧ template.fate ≠ .gone then { template with fate := fate }
      else template) }

end Cluster

inductive Reply where
  /-- A version of the namespace from the cache. -/
  | reads (ns : Namespace)
  /-- The server works the call off; a deleted template may linger for its finalizers. -/
  | works (lingers : Bool)
  | fails (err : GoError)

def respond (cluster : Cluster) :
    (request : NamespaceCall) → Reply → Option (request.Answer × Cluster)
  | .getNamespace name, .reads ns =>
      if ns.name = name ∧ ns ∈ cluster.history then some (.ok ns, cluster) else none
  | .getNamespace _, .fails err => some (.error err, cluster)
  | .getNamespace _, .works _ => none
  | .listTemplates ns, .works _ => some (.ok (cluster.listed ns), cluster)
  | .listTemplates _, .fails err => some (.error err, cluster)
  | .listTemplates _, .reads _ => none
  | .deleteTemplate key, .works lingers =>
      if cluster.hasTemplate key then
        some (.ok (), cluster.mark key (if lingers then .requested else .gone))
      else some (.error (notFound key.name), cluster)
  | .deleteTemplate _, .fails err => if err.isNotFound then none else some (.error err, cluster)
  | .deleteTemplate _, .reads _ => none
  | .updateNamespace ns, .works _ =>
      match cluster.namespaces ns.name with
      | none => some (.error (notFound ns.name), cluster)
      | some stored =>
          if stored.resourceVersion = ns.resourceVersion then
            some (.ok (), cluster.store { stored with finalizers := ns.finalizers })
          else some (.error (conflict ns.name), cluster)
  | .updateNamespace _, .fails err => some (.error err, cluster)
  | .updateNamespace _, .reads _ => none

def failure : (request : NamespaceCall) → request.Answer → Option GoError
  | .getNamespace _, .error err => if err.isNotFound then none else some err
  | .getNamespace _, .ok _ => none
  | .updateNamespace _, .error err => some err
  | .updateNamespace _, .ok _ => none
  | .listTemplates _, .error err => some err
  | .listTemplates _, .ok _ => none
  | .deleteTemplate _, .error err => if err.isNotFound then none else some err
  | .deleteTemplate _, .ok _ => none

inductive Disturbance where
  | createNamespace (name : String) (finalizers : List String)
  /-- An update of a namespace; a deletion timestamp stays. -/
  | editNamespace (name : String) (finalizers : List String)
  | terminateNamespace (name : String) (time : Time)
  | removeNamespace (name : String)
  | createTemplate (key : NamespacedName)
  | deleteTemplate (key : NamespacedName) (lingers : Bool)

inductive Event where
  | reconcile (id : Nat) (name : String)
  /-- The next call of an execution. -/
  | call (id : Nat) (reply : Reply)
  /-- An execution returns. -/
  | returns (id : Nat)
  | others (disturbance : Disturbance)

structure System where
  cluster : Cluster
  /-- What is left of each execution of `Reconcile`. -/
  executions : Nat → Option (Program namespaceApi (Option GoError))

/-- The server refuses what is not possible: a template in a namespace that is being
deleted, the end of a namespace that has finalizers. -/
def Cluster.disturb (cluster : Cluster) : Disturbance → Option Cluster
  | .createNamespace name finalizers =>
      match cluster.namespaces name with
      | some _ => none
      | none =>
          some (cluster.store
            { name := name
              resourceVersion := 0
              deletionTimestamp := none
              finalizers := finalizers })
  | .editNamespace name finalizers =>
      (cluster.namespaces name).map (fun stored =>
        cluster.store { stored with finalizers := finalizers })
  | .terminateNamespace name time =>
      (cluster.namespaces name).map (fun stored =>
        if stored.deletionTimestamp = none then
          cluster.store { stored with deletionTimestamp := some time }
        else cluster)
  | .removeNamespace name =>
      match cluster.namespaces name with
      | none => none
      | some stored =>
          if stored.deletionTimestamp = none ∨ stored.finalizers ≠ [] then none
          else
            some { cluster with namespaces := Function.update cluster.namespaces name none }
  | .createTemplate key =>
      match cluster.namespaces key.ns with
      | none => none
      | some stored =>
          if stored.deletionTimestamp ≠ none ∨ cluster.hasTemplate key then none
          else some { cluster with templates := ⟨key, .present⟩ :: cluster.templates }
  | .deleteTemplate key lingers =>
      some (cluster.mark key (if lingers then .requested else .gone))

namespace System

def empty : System :=
  { cluster := .empty
    executions := fun _ => none }

def step (system : System) : Event → Option System
  | .reconcile id name =>
      match system.executions id with
      | some _ => none
      | none =>
          some { system with
            executions := Function.update system.executions id
              (some (Namespaces.reconcile name)) }
  | .call id reply =>
      match system.executions id with
      | some (.call request later) =>
          (respond system.cluster request reply).map (fun answered =>
            { system with
              cluster := answered.2
              executions := Function.update system.executions id (some (later answered.1)) })
      | _ => none
  | .returns id =>
      match system.executions id with
      | some (.done _) =>
          some { system with executions := Function.update system.executions id none }
      | _ => none
  | .others disturbance =>
      (system.cluster.disturb disturbance).map (fun cluster => { system with cluster := cluster })

end System

end KubeTemplater.Namespaces
