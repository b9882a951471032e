import KubeTemplater.Library.Program
import KubeTemplater.Library.Transition
import KubeTemplater.Library.BinaryHeap
import KubeTemplater.Platform
import KubeTemplater.Queue.Exclusion
import KubeTemplater.Queue.HeapInvariant
import KubeTemplater.Queue.Conservation
import KubeTemplater.Queue.Freshness
import KubeTemplater.Worker.TemplateProcessor
import KubeTemplater.Controller.KubeTemplateReconciler
import KubeTemplater.Webhook.Validator
import KubeTemplater.Webhook.Acceptance
import KubeTemplater.Worker.Executions
import KubeTemplater.Reference
import KubeTemplater.Agreement.SecondCheck
import KubeTemplater.Agreement.ApplyPaths
import KubeTemplater.Worker.Completion
import KubeTemplater.Worker.RetryBudget
import KubeTemplater.Agreement.Admission
import KubeTemplater.Cache.PolicyCache
import KubeTemplater.Cache.Coherence
import KubeTemplater.Cache.Interleaving
import KubeTemplater.Cache.Provenance
import KubeTemplater.Cache.Freshness
import KubeTemplater.Operator.Convergence
import KubeTemplater.Operator.Writes
import KubeTemplater.Operator.DriftDetection
import KubeTemplater.Operator.Recovery
import KubeTemplater.Operator.Resume
import KubeTemplater.Operator.AppliedHash
import KubeTemplater.Library.Interruption
import KubeTemplater.Queue.WakeUps
import KubeTemplater.Controller.DriftComparison
import KubeTemplater.Cache.Lifetimes
import KubeTemplater.Operator.SpecFix
import KubeTemplater.Operator.StatusCalls
import KubeTemplater.Cert.Manager
import KubeTemplater.Cert.Cluster
import KubeTemplater.Cert.Succession
import KubeTemplater.Cert.Trust
import KubeTemplater.Cert.Rotation
import KubeTemplater.Cert.Renewal
import KubeTemplater.Webhook.Decision
import KubeTemplater.Webhook.Independence
import KubeTemplater.Webhook.FieldPaths
import KubeTemplater.Queue.InFlight
import KubeTemplater.Queue.Readiness
import KubeTemplater.Queue.Backoff
import KubeTemplater.Worker.WriteTrace
import KubeTemplater.Worker.Replacement
import KubeTemplater.Worker.AppliedObject
import KubeTemplater.Controller.DriftAccounting
import KubeTemplater.Controller.FixedPoint
import KubeTemplater.Cert.SecretWatcher
import KubeTemplater.Cert.Serving
import KubeTemplater.Controller.NamespaceReconciler
import KubeTemplater.Controller.NamespaceCleanup
import KubeTemplater.Library.Refinement
import KubeTemplater.Queue.Backlog
import KubeTemplater.Queue.Fairness
import KubeTemplater.Library.Potential
import KubeTemplater.Worker.Pool
import KubeTemplater.Worker.Shutdown
import KubeTemplater.Operator.Admitted
import KubeTemplater.Operator.StatusRecord
