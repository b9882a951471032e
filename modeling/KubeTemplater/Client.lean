/-
The calls the worker and the controller make: the API client, the policy cache,
the work queue, the event recorder and the clock.
-/

import KubeTemplater.Platform
import KubeTemplater.Library.Program

namespace KubeTemplater

open Library

inductive Call where
  | getTemplate (key : NamespacedName)
  | updateStatus (template : KubeTemplate)
  | policyCacheGet (sourceNamespace operatorNamespace : String)
  | getResource (gvk : GroupVersionKind) (ns name : String)
  | patch (object : Unstructured) (forceOwnership dryRun : Bool)
  | delete (object : Unstructured)
  | enqueue (key : NamespacedName) (priority : Int)
  | queueContains (key : NamespacedName)
  | recordEvent (key : NamespacedName) (reason message : String)
  | now

/-- A status update answers with the new resource version, a patch with the
object the server computed. -/
abbrev Call.Answer : Call → Type
  | .getTemplate _ => Except GoError KubeTemplate
  | .updateStatus _ => Except GoError Nat
  | .policyCacheGet _ _ => Except GoError KubeTemplatePolicy
  | .getResource _ _ _ => Except GoError Unstructured
  | .patch _ _ _ => Except GoError Unstructured
  | .delete _ => Except GoError Unit
  | .enqueue _ _ => Unit
  | .queueContains _ => Bool
  | .recordEvent _ _ _ => Unit
  | .now => Time

abbrev client : Interface :=
  { Call := Call
    Answer := Call.Answer }

def getTemplate (key : NamespacedName) : Program client (Except GoError KubeTemplate) :=
  .call (Call.getTemplate key) .done

def updateStatus (template : KubeTemplate) : Program client (Except GoError Nat) :=
  .call (Call.updateStatus template) .done

def policyCacheGet (sourceNamespace operatorNamespace : String) :
    Program client (Except GoError KubeTemplatePolicy) :=
  .call (Call.policyCacheGet sourceNamespace operatorNamespace) .done

def getResource (gvk : GroupVersionKind) (ns name : String) :
    Program client (Except GoError Unstructured) :=
  .call (Call.getResource gvk ns name) .done

def patch (object : Unstructured) (forceOwnership dryRun : Bool) :
    Program client (Except GoError Unstructured) :=
  .call (Call.patch object forceOwnership dryRun) .done

def deleteResource (object : Unstructured) : Program client (Except GoError Unit) :=
  .call (Call.delete object) .done

def enqueue (key : NamespacedName) (priority : Int) : Program client Unit :=
  .call (Call.enqueue key priority) .done

def queueContains (key : NamespacedName) : Program client Bool :=
  .call (Call.queueContains key) .done

def recordEvent (key : NamespacedName) (reason message : String) : Program client Unit :=
  .call (Call.recordEvent key reason message) .done

def timeNow : Program client Time :=
  .call Call.now .done

end KubeTemplater
