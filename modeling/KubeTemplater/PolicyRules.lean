/-
The parts of the policy check that the worker and the webhook both write out:
the namespace default and the search for the first matching rule.
-/

import KubeTemplater.Platform

namespace KubeTemplater

/-- How CEL expressions are evaluated: without limits or under the webhook's. -/
abbrev Evaluator := CelVariable → String → Value → Except CelFailure Value

variable (platform : Platform)

def defaultNamespace (ns : String) (object : Unstructured) : Unstructured :=
  if platform.getNamespace object = "" then platform.setNamespace object ns else object

def ruleMatches (gvk : GroupVersionKind) (rule : ValidationRule) : Bool :=
  rule.kind == gvk.kind && rule.group == gvk.group && rule.version == gvk.version

def firstMatchingRule (policy : KubeTemplatePolicy) (gvk : GroupVersionKind) :
    Option ValidationRule :=
  policy.validationRules.find? (ruleMatches gvk)

structure RuleAdmits (evaluate : Evaluator) (rule : ValidationRule) (object : Unstructured) :
    Prop where
  target : platform.getNamespace object ∈ rule.targetNamespaces
  celRule : rule.rule = "" ∨ evaluate .object rule.rule (.map object.object) = .ok (.bool true)

end KubeTemplater
