import ClusterApi.RuntimeTypes

/-! Conversion of the v1alpha3 core objects to the hub and back: the generated conversions (not
under src/) copy the shared fields, and `ConvertTo` restores the rest from the annotation. -/
namespace ClusterApi.Conversion

open Runtime (GoError)

/-- A value the conversions copy whole without reading into it, in its serialized form. -/
abbrev Json := String

/-- `metav1.Duration`, in nanoseconds. -/
abbrev Duration := Int

/-- `metav1.Time`, in seconds. -/
abbrev Time := Int

/-- The v1beta1-style `Conditions` of both versions, copied whole. -/
abbrev Conditions := List Json

/-- `intstr.IntOrString`. -/
inductive IntOrString where
  | int (v : Int)
  | string (v : String)
  deriving DecidableEq, Repr

/-- The tail every `ConvertTo` shares, from the hub `dst` the generated conversion filled and
what `UnmarshalData` read from the annotation: an error or a missing annotation returns at
once, and otherwise `restoreData` copies fields of the restored hub into `dst`. -/
def convertToWith {H : Type} (restoreData : H → H → H) (dst : H) :
    Except GoError (Option H) → Except GoError H
  | .error err => .error err
  | .ok none => .ok dst
  | .ok (some restored) => .ok (restoreData dst restored)

/-- `clusterv1.ObjectMeta`. -/
structure ObjectMeta where
  labels : List (String × String) := []
  annotations : List (String × String) := []
  deriving DecidableEq, Repr

structure ClusterSpec where
  paused : Bool := false
  clusterNetwork : Option Json := none
  controlPlaneEndpoint : Json := ""
  controlPlaneRef : Option Json := none
  infrastructureRef : Option Json := none
  topology : Option Json := none
  availabilityGates : List Json := []
  deriving DecidableEq, Repr

structure ClusterStatus where
  failureDomains : Json := ""
  failureReason : Option Json := none
  failureMessage : Option String := none
  phase : String := ""
  infrastructureReady : Bool := false
  controlPlaneReady : Bool := false
  conditions : Conditions := []
  observedGeneration : Int := 0
  v1beta2 : Option Json := none
  deriving DecidableEq, Repr

structure Cluster where
  spec : ClusterSpec := {}
  status : ClusterStatus := {}
  deriving DecidableEq, Repr

structure Bootstrap where
  configRef : Option Json := none
  dataSecretName : Option String := none
  deriving DecidableEq, Repr

/-- `MachineSpec`, of `Machine` and of the machine templates of the other kinds. -/
structure MachineSpec where
  clusterName : String := ""
  bootstrap : Bootstrap := {}
  infrastructureRef : Json := ""
  version : Option String := none
  providerID : Option String := none
  failureDomain : Option String := none
  readinessGates : List Json := []
  nodeDrainTimeout : Option Duration := none
  nodeVolumeDetachTimeout : Option Duration := none
  nodeDeletionTimeout : Option Duration := none
  deriving DecidableEq, Repr

structure MachineStatus where
  nodeRef : Option Json := none
  nodeInfo : Option Json := none
  lastUpdated : Option Time := none
  failureReason : Option Json := none
  failureMessage : Option String := none
  addresses : List Json := []
  phase : String := ""
  certificatesExpiryDate : Option Time := none
  bootstrapReady : Bool := false
  infrastructureReady : Bool := false
  observedGeneration : Int := 0
  conditions : Conditions := []
  deletion : Option Json := none
  v1beta2 : Option Json := none
  deriving DecidableEq, Repr

structure Machine where
  spec : MachineSpec := {}
  status : MachineStatus := {}
  deriving DecidableEq, Repr

structure MachineTemplateSpec where
  objectMeta : ObjectMeta := {}
  spec : MachineSpec := {}
  deriving DecidableEq, Repr

structure MachineSetSpec where
  clusterName : String := ""
  replicas : Option Int := none
  minReadySeconds : Int := 0
  deletePolicy : String := ""
  selector : Json := ""
  template : MachineTemplateSpec := {}
  machineNamingStrategy : Option Json := none
  deriving DecidableEq, Repr

structure MachineSetStatus where
  selector : String := ""
  replicas : Int := 0
  fullyLabeledReplicas : Int := 0
  readyReplicas : Int := 0
  availableReplicas : Int := 0
  observedGeneration : Int := 0
  failureReason : Option Json := none
  failureMessage : Option String := none
  conditions : Conditions := []
  v1beta2 : Option Json := none
  deriving DecidableEq, Repr

structure MachineSet where
  spec : MachineSetSpec := {}
  status : MachineSetStatus := {}
  deriving DecidableEq, Repr

structure MachineRollingUpdateDeployment where
  maxUnavailable : Option IntOrString := none
  maxSurge : Option IntOrString := none
  deletePolicy : Option String := none
  deriving DecidableEq, Repr

structure MachineDeploymentStrategy where
  type : String := ""
  rollingUpdate : Option MachineRollingUpdateDeployment := none
  remediation : Option Json := none
  deriving DecidableEq, Repr

structure MachineDeploymentSpec where
  clusterName : String := ""
  replicas : Option Int := none
  rolloutAfter : Option Time := none
  selector : Json := ""
  template : MachineTemplateSpec := {}
  strategy : Option MachineDeploymentStrategy := none
  machineNamingStrategy : Option Json := none
  minReadySeconds : Option Int := none
  revisionHistoryLimit : Option Int := none
  paused : Bool := false
  progressDeadlineSeconds : Option Int := none
  deriving DecidableEq, Repr

structure MachineDeploymentStatus where
  observedGeneration : Int := 0
  selector : String := ""
  replicas : Int := 0
  updatedReplicas : Int := 0
  readyReplicas : Int := 0
  availableReplicas : Int := 0
  unavailableReplicas : Int := 0
  phase : String := ""
  conditions : Conditions := []
  v1beta2 : Option Json := none
  deriving DecidableEq, Repr

structure MachineDeployment where
  spec : MachineDeploymentSpec := {}
  status : MachineDeploymentStatus := {}
  deriving DecidableEq, Repr

structure MachineHealthCheckSpec where
  clusterName : String := ""
  selector : Json := ""
  unhealthyConditions : List Json := []
  maxUnhealthy : Option IntOrString := none
  unhealthyRange : Option String := none
  nodeStartupTimeout : Option Duration := none
  remediationTemplate : Option Json := none
  deriving DecidableEq, Repr

structure MachineHealthCheckStatus where
  expectedMachines : Int := 0
  currentHealthy : Int := 0
  remediationsAllowed : Int := 0
  observedGeneration : Int := 0
  targets : List String := []
  conditions : Conditions := []
  v1beta2 : Option Json := none
  deriving DecidableEq, Repr

structure MachineHealthCheck where
  spec : MachineHealthCheckSpec := {}
  status : MachineHealthCheckStatus := {}
  deriving DecidableEq, Repr

namespace V1alpha3

structure ObjectMeta where
  name : String := ""
  generateName : String := ""
  «namespace» : String := ""
  labels : List (String × String) := []
  annotations : List (String × String) := []
  ownerReferences : List Json := []
  deriving DecidableEq, Repr

structure ClusterSpec where
  paused : Bool := false
  clusterNetwork : Option Json := none
  controlPlaneEndpoint : Json := ""
  controlPlaneRef : Option Json := none
  infrastructureRef : Option Json := none
  deriving DecidableEq, Repr

structure ClusterStatus where
  failureDomains : Json := ""
  failureReason : Option Json := none
  failureMessage : Option String := none
  phase : String := ""
  infrastructureReady : Bool := false
  controlPlaneInitialized : Bool := false
  controlPlaneReady : Bool := false
  conditions : Conditions := []
  observedGeneration : Int := 0
  deriving DecidableEq, Repr

structure Cluster where
  spec : ClusterSpec := {}
  status : ClusterStatus := {}
  deriving DecidableEq, Repr

structure Bootstrap where
  configRef : Option Json := none
  data : Option String := none
  dataSecretName : Option String := none
  deriving DecidableEq, Repr

structure MachineSpec where
  clusterName : String := ""
  bootstrap : Bootstrap := {}
  infrastructureRef : Json := ""
  version : Option String := none
  providerID : Option String := none
  failureDomain : Option String := none
  nodeDrainTimeout : Option Duration := none
  deriving DecidableEq, Repr

structure MachineStatus where
  nodeRef : Option Json := none
  lastUpdated : Option Time := none
  version : Option String := none
  failureReason : Option Json := none
  failureMessage : Option String := none
  addresses : List Json := []
  phase : String := ""
  bootstrapReady : Bool := false
  infrastructureReady : Bool := false
  observedGeneration : Int := 0
  conditions : Conditions := []
  deriving DecidableEq, Repr

structure Machine where
  spec : MachineSpec := {}
  status : MachineStatus := {}
  deriving DecidableEq, Repr

structure MachineTemplateSpec where
  objectMeta : ObjectMeta := {}
  spec : MachineSpec := {}
  deriving DecidableEq, Repr

structure MachineSetSpec where
  clusterName : String := ""
  replicas : Option Int := none
  minReadySeconds : Int := 0
  deletePolicy : String := ""
  selector : Json := ""
  template : MachineTemplateSpec := {}
  deriving DecidableEq, Repr

structure MachineSetStatus where
  selector : String := ""
  replicas : Int := 0
  fullyLabeledReplicas : Int := 0
  readyReplicas : Int := 0
  availableReplicas : Int := 0
  observedGeneration : Int := 0
  failureReason : Option Json := none
  failureMessage : Option String := none
  deriving DecidableEq, Repr

structure MachineSet where
  spec : MachineSetSpec := {}
  status : MachineSetStatus := {}
  deriving DecidableEq, Repr

structure MachineRollingUpdateDeployment where
  maxUnavailable : Option IntOrString := none
  maxSurge : Option IntOrString := none
  deriving DecidableEq, Repr

structure MachineDeploymentStrategy where
  type : String := ""
  rollingUpdate : Option MachineRollingUpdateDeployment := none
  deriving DecidableEq, Repr

structure MachineDeploymentSpec where
  clusterName : String := ""
  replicas : Option Int := none
  selector : Json := ""
  template : MachineTemplateSpec := {}
  strategy : Option MachineDeploymentStrategy := none
  minReadySeconds : Option Int := none
  revisionHistoryLimit : Option Int := none
  paused : Bool := false
  progressDeadlineSeconds : Option Int := none
  deriving DecidableEq, Repr

structure MachineDeploymentStatus where
  observedGeneration : Int := 0
  selector : String := ""
  replicas : Int := 0
  updatedReplicas : Int := 0
  readyReplicas : Int := 0
  availableReplicas : Int := 0
  unavailableReplicas : Int := 0
  phase : String := ""
  deriving DecidableEq, Repr

structure MachineDeployment where
  spec : MachineDeploymentSpec := {}
  status : MachineDeploymentStatus := {}
  deriving DecidableEq, Repr

structure MachineHealthCheckSpec where
  clusterName : String := ""
  selector : Json := ""
  unhealthyConditions : List Json := []
  maxUnhealthy : Option IntOrString := none
  nodeStartupTimeout : Option Duration := none
  remediationTemplate : Option Json := none
  deriving DecidableEq, Repr

structure MachineHealthCheckStatus where
  expectedMachines : Int := 0
  currentHealthy : Int := 0
  remediationsAllowed : Int := 0
  observedGeneration : Int := 0
  targets : List String := []
  conditions : Conditions := []
  deriving DecidableEq, Repr

structure MachineHealthCheck where
  spec : MachineHealthCheckSpec := {}
  status : MachineHealthCheckStatus := {}
  deriving DecidableEq, Repr

end V1alpha3

/-! ### Generated conversions

Each copies the shared fields, leaves the target's own at zero and drops the source's own. -/

/-- `Convert_v1alpha3_ObjectMeta_To_v1beta2_ObjectMeta`: the name, namespace and owners go. -/
def convert_v1alpha3_ObjectMeta_To_v1beta2_ObjectMeta (src : V1alpha3.ObjectMeta) : ObjectMeta :=
  { labels := src.labels, annotations := src.annotations }

/-- `Convert_v1alpha3_Bootstrap_To_v1beta2_Bootstrap`: the deprecated inline `Data` goes. -/
def convert_v1alpha3_Bootstrap_To_v1beta2_Bootstrap (src : V1alpha3.Bootstrap) : Bootstrap :=
  { configRef := src.configRef, dataSecretName := src.dataSecretName }

def convert_v1alpha3_Cluster_To_v1beta2_Cluster (src : V1alpha3.Cluster) : Cluster :=
  { spec :=
      { paused := src.spec.paused, clusterNetwork := src.spec.clusterNetwork
        controlPlaneEndpoint := src.spec.controlPlaneEndpoint
        controlPlaneRef := src.spec.controlPlaneRef
        infrastructureRef := src.spec.infrastructureRef }
    status :=
      { failureDomains := src.status.failureDomains, failureReason := src.status.failureReason
        failureMessage := src.status.failureMessage, phase := src.status.phase
        infrastructureReady := src.status.infrastructureReady
        controlPlaneReady := src.status.controlPlaneReady
        conditions := src.status.conditions
        observedGeneration := src.status.observedGeneration } }

def convert_v1beta2_Cluster_To_v1alpha3_Cluster (src : Cluster) : V1alpha3.Cluster :=
  { spec :=
      { paused := src.spec.paused, clusterNetwork := src.spec.clusterNetwork
        controlPlaneEndpoint := src.spec.controlPlaneEndpoint
        controlPlaneRef := src.spec.controlPlaneRef
        infrastructureRef := src.spec.infrastructureRef }
    status :=
      { failureDomains := src.status.failureDomains, failureReason := src.status.failureReason
        failureMessage := src.status.failureMessage, phase := src.status.phase
        infrastructureReady := src.status.infrastructureReady
        controlPlaneReady := src.status.controlPlaneReady
        conditions := src.status.conditions
        observedGeneration := src.status.observedGeneration } }

def convert_v1alpha3_MachineSpec_To_v1beta2_MachineSpec (src : V1alpha3.MachineSpec) :
    MachineSpec :=
  { clusterName := src.clusterName
    bootstrap := convert_v1alpha3_Bootstrap_To_v1beta2_Bootstrap src.bootstrap
    infrastructureRef := src.infrastructureRef, version := src.version
    providerID := src.providerID, failureDomain := src.failureDomain
    nodeDrainTimeout := src.nodeDrainTimeout }

def convert_v1alpha3_MachineTemplateSpec_To_v1beta2_MachineTemplateSpec
    (src : V1alpha3.MachineTemplateSpec) : MachineTemplateSpec :=
  { objectMeta := convert_v1alpha3_ObjectMeta_To_v1beta2_ObjectMeta src.objectMeta
    spec := convert_v1alpha3_MachineSpec_To_v1beta2_MachineSpec src.spec }

/-- The generated `Machine` conversion; `Status.Version`, removed in the hub, is dropped. -/
def convert_v1alpha3_Machine_To_v1beta2_Machine (src : V1alpha3.Machine) : Machine :=
  { spec := convert_v1alpha3_MachineSpec_To_v1beta2_MachineSpec src.spec
    status :=
      { nodeRef := src.status.nodeRef, lastUpdated := src.status.lastUpdated
        failureReason := src.status.failureReason, failureMessage := src.status.failureMessage
        addresses := src.status.addresses, phase := src.status.phase
        bootstrapReady := src.status.bootstrapReady
        infrastructureReady := src.status.infrastructureReady
        observedGeneration := src.status.observedGeneration
        conditions := src.status.conditions } }

def convert_v1alpha3_MachineSet_To_v1beta2_MachineSet (src : V1alpha3.MachineSet) : MachineSet :=
  { spec :=
      { clusterName := src.spec.clusterName, replicas := src.spec.replicas
        minReadySeconds := src.spec.minReadySeconds, deletePolicy := src.spec.deletePolicy
        selector := src.spec.selector
        template := convert_v1alpha3_MachineTemplateSpec_To_v1beta2_MachineTemplateSpec
          src.spec.template }
    status :=
      { selector := src.status.selector, replicas := src.status.replicas
        fullyLabeledReplicas := src.status.fullyLabeledReplicas
        readyReplicas := src.status.readyReplicas
        availableReplicas := src.status.availableReplicas
        observedGeneration := src.status.observedGeneration
        failureReason := src.status.failureReason
        failureMessage := src.status.failureMessage } }

def convert_v1alpha3_MachineDeploymentStrategy_To_v1beta2_MachineDeploymentStrategy
    (src : V1alpha3.MachineDeploymentStrategy) : MachineDeploymentStrategy :=
  { type := src.type
    rollingUpdate := src.rollingUpdate.map fun ru =>
      { maxUnavailable := ru.maxUnavailable, maxSurge := ru.maxSurge } }

def convert_v1alpha3_MachineDeployment_To_v1beta2_MachineDeployment
    (src : V1alpha3.MachineDeployment) : MachineDeployment :=
  { spec :=
      { clusterName := src.spec.clusterName, replicas := src.spec.replicas
        selector := src.spec.selector
        template := convert_v1alpha3_MachineTemplateSpec_To_v1beta2_MachineTemplateSpec
          src.spec.template
        strategy := src.spec.strategy.map
          convert_v1alpha3_MachineDeploymentStrategy_To_v1beta2_MachineDeploymentStrategy
        minReadySeconds := src.spec.minReadySeconds
        revisionHistoryLimit := src.spec.revisionHistoryLimit, paused := src.spec.paused
        progressDeadlineSeconds := src.spec.progressDeadlineSeconds }
    status :=
      { observedGeneration := src.status.observedGeneration, selector := src.status.selector
        replicas := src.status.replicas, updatedReplicas := src.status.updatedReplicas
        readyReplicas := src.status.readyReplicas
        availableReplicas := src.status.availableReplicas
        unavailableReplicas := src.status.unavailableReplicas, phase := src.status.phase } }

def convert_v1alpha3_MachineHealthCheck_To_v1beta2_MachineHealthCheck
    (src : V1alpha3.MachineHealthCheck) : MachineHealthCheck :=
  { spec :=
      { clusterName := src.spec.clusterName, selector := src.spec.selector
        unhealthyConditions := src.spec.unhealthyConditions
        maxUnhealthy := src.spec.maxUnhealthy
        nodeStartupTimeout := src.spec.nodeStartupTimeout
        remediationTemplate := src.spec.remediationTemplate }
    status :=
      { expectedMachines := src.status.expectedMachines
        currentHealthy := src.status.currentHealthy
        remediationsAllowed := src.status.remediationsAllowed
        observedGeneration := src.status.observedGeneration, targets := src.status.targets
        conditions := src.status.conditions } }

section
variable (markTrue : Conditions → Conditions) (isTrue : Conditions → Bool)

/-- The restore step of `(*Cluster).ConvertTo`. An optional field restored only when present,
`if restored.X != nil { dst.X = restored.X }`, is `restored.X.or dst.X`. -/
def V1alpha3.Cluster.restoreData (dst restored : Conversion.Cluster) : Conversion.Cluster :=
  let dst := { dst with spec.availabilityGates := restored.spec.availabilityGates }
  let dst := { dst with spec.topology := restored.spec.topology.or dst.spec.topology }
  { dst with status.v1beta2 := restored.status.v1beta2 }

/-- `(*Cluster).ConvertTo`; `markTrue` is `conditions.MarkTrue` of `ControlPlaneInitialized`. -/
def V1alpha3.Cluster.convertTo (src : V1alpha3.Cluster) :
    Except GoError (Option Conversion.Cluster) → Except GoError Conversion.Cluster :=
  let dst := convert_v1alpha3_Cluster_To_v1beta2_Cluster src
  convertToWith restoreData (if src.status.controlPlaneInitialized then
    { dst with status.conditions := markTrue dst.status.conditions } else dst)

/-- `(*Cluster).ConvertFrom` but for `MarshalData`; `isTrue` is `conditions.IsTrue` of
`ControlPlaneInitialized`. -/
def V1alpha3.Cluster.convertFrom (src : Conversion.Cluster) : V1alpha3.Cluster :=
  let dst := convert_v1beta2_Cluster_To_v1alpha3_Cluster src
  if isTrue src.status.conditions then { dst with status.controlPlaneInitialized := true }
  else dst

end

/-! ### Machine -/

/-- The restore step of `(*Machine).ConvertTo`. -/
def V1alpha3.Machine.restoreData (dst restored : Conversion.Machine) : Conversion.Machine :=
  { dst with
    spec.readinessGates := restored.spec.readinessGates
    spec.nodeDeletionTimeout := restored.spec.nodeDeletionTimeout
    spec.nodeVolumeDetachTimeout := restored.spec.nodeVolumeDetachTimeout
    status.nodeInfo := restored.status.nodeInfo
    status.certificatesExpiryDate := restored.status.certificatesExpiryDate
    status.deletion := restored.status.deletion
    status.v1beta2 := restored.status.v1beta2 }

/-- `(*Machine).ConvertTo`. -/
def V1alpha3.Machine.convertTo (src : V1alpha3.Machine) :
    Except GoError (Option Conversion.Machine) → Except GoError Conversion.Machine :=
  convertToWith restoreData (convert_v1alpha3_Machine_To_v1beta2_Machine src)

/-- The restore step of `(*MachineSet).ConvertTo`. -/
def V1alpha3.MachineSet.restoreData (dst restored : Conversion.MachineSet) :
    Conversion.MachineSet :=
  let dst := { dst with
    spec.template.spec.readinessGates := restored.spec.template.spec.readinessGates
    spec.template.spec.nodeDeletionTimeout := restored.spec.template.spec.nodeDeletionTimeout
    spec.template.spec.nodeVolumeDetachTimeout :=
      restored.spec.template.spec.nodeVolumeDetachTimeout
    status.conditions := restored.status.conditions
    status.v1beta2 := restored.status.v1beta2 }
  { dst with spec.machineNamingStrategy :=
      restored.spec.machineNamingStrategy.or dst.spec.machineNamingStrategy }

/-- `(*MachineSet).ConvertTo`. -/
def V1alpha3.MachineSet.convertTo (src : V1alpha3.MachineSet) :
    Except GoError (Option Conversion.MachineSet) → Except GoError Conversion.MachineSet :=
  convertToWith restoreData (convert_v1alpha3_MachineSet_To_v1beta2_MachineSet src)

/-- The restore step of `(*MachineDeployment).ConvertTo`. It creates an empty strategy, and an
empty rolling update, to carry the restored `Remediation` and `DeletePolicy`. -/
def V1alpha3.MachineDeployment.restoreData (dst restored : Conversion.MachineDeployment) :
    Conversion.MachineDeployment :=
  let dst := match restored.spec.strategy with
    | none => dst
    | some rs =>
      let s := dst.spec.strategy.getD {}
      let s := match rs.rollingUpdate with
        | none => s
        | some rru =>
          { s with rollingUpdate := some { s.rollingUpdate.getD {} with
              deletePolicy := rru.deletePolicy } }
      { dst with spec.strategy := some { s with remediation := rs.remediation } }
  let dst := { dst with spec.machineNamingStrategy :=
    restored.spec.machineNamingStrategy.or dst.spec.machineNamingStrategy }
  { dst with
    spec.template.spec.readinessGates := restored.spec.template.spec.readinessGates
    spec.template.spec.nodeDeletionTimeout := restored.spec.template.spec.nodeDeletionTimeout
    spec.template.spec.nodeVolumeDetachTimeout :=
      restored.spec.template.spec.nodeVolumeDetachTimeout
    spec.rolloutAfter := restored.spec.rolloutAfter
    status.conditions := restored.status.conditions
    status.v1beta2 := restored.status.v1beta2 }

/-- `(*MachineDeployment).ConvertTo`. -/
def V1alpha3.MachineDeployment.convertTo (src : V1alpha3.MachineDeployment) :
    Except GoError (Option Conversion.MachineDeployment) →
      Except GoError Conversion.MachineDeployment :=
  convertToWith restoreData (convert_v1alpha3_MachineDeployment_To_v1beta2_MachineDeployment src)

namespace V1alpha3.MachineDeployment

end V1alpha3.MachineDeployment

/-! ### MachineHealthCheck -/

/-- The restore step of `(*MachineHealthCheck).ConvertTo`. -/
def V1alpha3.MachineHealthCheck.restoreData (dst restored : Conversion.MachineHealthCheck) :
    Conversion.MachineHealthCheck :=
  let dst := { dst with spec.unhealthyRange :=
    restored.spec.unhealthyRange.or dst.spec.unhealthyRange }
  { dst with status.v1beta2 := restored.status.v1beta2 }

/-- `(*MachineHealthCheck).ConvertTo`. -/
def V1alpha3.MachineHealthCheck.convertTo (src : V1alpha3.MachineHealthCheck) :
    Except GoError (Option Conversion.MachineHealthCheck) →
      Except GoError Conversion.MachineHealthCheck :=
  convertToWith restoreData (convert_v1alpha3_MachineHealthCheck_To_v1beta2_MachineHealthCheck src)

end ClusterApi.Conversion
