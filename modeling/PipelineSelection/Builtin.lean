import PipelineSelection.Definition
import PipelineSelection.Scope

/-!
# The built-in pipelines

Every kind of resource that an agent can watch without further definitions, listed once.
-/

namespace PipelineSelection.Builtin

def clusterNames : List String := [
  "namespaces.v1.",
  "nodes.v1.",
  "persistentvolumes.v1.",
  "storageclasses.v1.storage.k8s.io",
  "volumeattachments.v1.storage.k8s.io",
  "clusterroles.v1.rbac.authorization.k8s.io",
  "clusterrolebindings.v1.rbac.authorization.k8s.io",
  "customresourcedefinitions.v1.apiextensions.k8s.io",
  "apiservices.v1.apiregistration.k8s.io",
  "mutatingwebhookconfigurations.v1.admissionregistration.k8s.io",
  "validatingwebhookconfigurations.v1.admissionregistration.k8s.io",
  "ingressclasses.v1.networking.k8s.io",
  "priorityclasses.v1.scheduling.k8s.io",
  "runtimeclasses.v1.node.k8s.io"]

def namespacedNames : List String := [
  "pods.v1.",
  "services.v1.",
  "configmaps.v1.",
  "secrets.v1.",
  "serviceaccounts.v1.",
  "endpoints.v1.",
  "persistentvolumeclaims.v1.",
  "replicationcontrollers.v1.",
  "resourcequotas.v1.",
  "limitranges.v1.",
  "deployments.v1.apps",
  "replicasets.v1.apps",
  "statefulsets.v1.apps",
  "daemonsets.v1.apps",
  "jobs.v1.batch",
  "cronjobs.v1.batch",
  "ingresses.v1.networking.k8s.io",
  "endpointslices.v1.discovery.k8s.io",
  "roles.v1.rbac.authorization.k8s.io",
  "rolebindings.v1.rbac.authorization.k8s.io"]

def names : Scope → List String
  | .cluster => clusterNames
  | .namespaced => namespacedNames

/-- Every built-in pipeline with its scope, scope by scope. -/
def definitions : List (Scope × Definition) :=
  Scope.all.flatMap fun scope => (names scope).map fun name => (scope, Definition.new name)

end PipelineSelection.Builtin
