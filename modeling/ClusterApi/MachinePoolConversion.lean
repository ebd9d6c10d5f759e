import ClusterApi.Conversion

/-! The generated conversions of the experimental v1beta1 `MachinePool` to the hub and back;
the hand-written template, condition and status conversions they call are parameters. A nil
slice is `none`, as the generated code keeps nil apart from empty. -/
namespace ClusterApi.Conversion

/-- `v1.Convert_int32_To_Pointer_int32` of apimachinery: a pointer to a copy of the value. -/
def convert_int32_To_Pointer_int32 (n : Int) : Option Int := some n

/-- `v1.Convert_Pointer_int32_To_int32` of apimachinery: the value, or zero for nil. -/
def convert_Pointer_int32_To_int32 (p : Option Int) : Int := p.getD 0

/-- `MachinePoolSpec`, with the same fields in v1beta1 and the hub. -/
structure MachinePoolSpec where
  clusterName : String := ""
  replicas : Option Int := none
  template : Json := ""
  minReadySeconds : Option Int := none
  providerIDList : Option (List String) := none
  failureDomains : Option (List String) := none
  deriving DecidableEq, Repr

/-- The hub `MachinePoolStatus`. -/
structure MachinePoolStatus where
  conditions : Option (List Json) := none
  initialization : Option Json := none
  nodeRefs : Option (List Json) := none
  replicas : Int := 0
  readyReplicas : Option Int := none
  availableReplicas : Option Int := none
  upToDateReplicas : Option Int := none
  phase : String := ""
  observedGeneration : Int := 0
  deprecated : Option Json := none
  deriving DecidableEq, Repr

structure MachinePool where
  objectMeta : Json := ""
  spec : MachinePoolSpec := {}
  status : MachinePoolStatus := {}
  deriving DecidableEq, Repr

structure MachinePoolList where
  listMeta : Json := ""
  items : Option (List MachinePool) := none
  deriving DecidableEq, Repr

namespace V1beta1

structure MachinePoolStatus where
  nodeRefs : Option (List Json) := none
  replicas : Int := 0
  readyReplicas : Int := 0
  availableReplicas : Int := 0
  unavailableReplicas : Int := 0
  failureReason : Option Json := none
  failureMessage : Option String := none
  phase : String := ""
  bootstrapReady : Bool := false
  infrastructureReady : Bool := false
  observedGeneration : Int := 0
  conditions : Option (List Json) := none
  v1beta2 : Option Json := none
  deriving DecidableEq, Repr

structure MachinePool where
  objectMeta : Json := ""
  spec : MachinePoolSpec := {}
  status : MachinePoolStatus := {}
  deriving DecidableEq, Repr

structure MachinePoolList where
  listMeta : Json := ""
  items : Option (List MachinePool) := none
  deriving DecidableEq, Repr

end V1beta1

section
variable (convert_v1beta1_MachineTemplateSpec_To_v1beta2_MachineTemplateSpec : Json → Json)
variable (convert_v1beta2_MachineTemplateSpec_To_v1beta1_MachineTemplateSpec : Json → Json)

/-- `Convert_v1beta1_MachinePoolSpec_To_v1beta2_MachinePoolSpec`. -/
def convert_v1beta1_MachinePoolSpec_To_v1beta2_MachinePoolSpec (src : MachinePoolSpec) :
    MachinePoolSpec :=
  { src with template := convert_v1beta1_MachineTemplateSpec_To_v1beta2_MachineTemplateSpec src.template }

/-- `Convert_v1beta2_MachinePoolSpec_To_v1beta1_MachinePoolSpec`. -/
def convert_v1beta2_MachinePoolSpec_To_v1beta1_MachinePoolSpec (src : MachinePoolSpec) :
    MachinePoolSpec :=
  { src with template := convert_v1beta2_MachineTemplateSpec_To_v1beta1_MachineTemplateSpec src.template }

end

section
variable (convert_v1beta1_Condition_To_v1_Condition : Json → Json)
variable (convert_v1_Condition_To_v1beta1_Condition : Json → Json)

/-- `autoConvert_v1beta1_MachinePoolStatus_To_v1beta2_MachinePoolStatus`: the unavailable
replicas, failure reason and message, the two readiness flags and `V1Beta2` have no peer. -/
def autoConvert_v1beta1_MachinePoolStatus_To_v1beta2_MachinePoolStatus
    (src : V1beta1.MachinePoolStatus) : MachinePoolStatus :=
  { nodeRefs := src.nodeRefs
    replicas := src.replicas
    readyReplicas := convert_int32_To_Pointer_int32 src.readyReplicas
    availableReplicas := convert_int32_To_Pointer_int32 src.availableReplicas
    phase := src.phase
    observedGeneration := src.observedGeneration
    conditions := src.conditions.map (·.map convert_v1beta1_Condition_To_v1_Condition) }

/-- `autoConvert_v1beta2_MachinePoolStatus_To_v1beta1_MachinePoolStatus`: the initialization,
up-to-date replicas and `Deprecated` have no peer. -/
def autoConvert_v1beta2_MachinePoolStatus_To_v1beta1_MachinePoolStatus
    (src : MachinePoolStatus) : V1beta1.MachinePoolStatus :=
  { conditions := src.conditions.map (·.map convert_v1_Condition_To_v1beta1_Condition)
    nodeRefs := src.nodeRefs
    replicas := src.replicas
    readyReplicas := convert_Pointer_int32_To_int32 src.readyReplicas
    availableReplicas := convert_Pointer_int32_To_int32 src.availableReplicas
    phase := src.phase
    observedGeneration := src.observedGeneration }

end

section
variable (convert_v1beta1_MachineTemplateSpec_To_v1beta2_MachineTemplateSpec : Json → Json)
variable (convert_v1beta2_MachineTemplateSpec_To_v1beta1_MachineTemplateSpec : Json → Json)
variable (convert_v1beta1_MachinePoolStatus_To_v1beta2_MachinePoolStatus :
  V1beta1.MachinePoolStatus → MachinePoolStatus)
variable (convert_v1beta2_MachinePoolStatus_To_v1beta1_MachinePoolStatus :
  MachinePoolStatus → V1beta1.MachinePoolStatus)

/-- `Convert_v1beta1_MachinePool_To_v1beta2_MachinePool`. -/
def convert_v1beta1_MachinePool_To_v1beta2_MachinePool (src : V1beta1.MachinePool) :
    MachinePool :=
  { objectMeta := src.objectMeta
    spec := convert_v1beta1_MachinePoolSpec_To_v1beta2_MachinePoolSpec
      convert_v1beta1_MachineTemplateSpec_To_v1beta2_MachineTemplateSpec src.spec
    status := convert_v1beta1_MachinePoolStatus_To_v1beta2_MachinePoolStatus src.status }

/-- `Convert_v1beta2_MachinePool_To_v1beta1_MachinePool`. -/
def convert_v1beta2_MachinePool_To_v1beta1_MachinePool (src : MachinePool) :
    V1beta1.MachinePool :=
  { objectMeta := src.objectMeta
    spec := convert_v1beta2_MachinePoolSpec_To_v1beta1_MachinePoolSpec
      convert_v1beta2_MachineTemplateSpec_To_v1beta1_MachineTemplateSpec src.spec
    status := convert_v1beta2_MachinePoolStatus_To_v1beta1_MachinePoolStatus src.status }

/-- `Convert_v1beta1_MachinePoolList_To_v1beta2_MachinePoolList`: a nil list stays nil. -/
def convert_v1beta1_MachinePoolList_To_v1beta2_MachinePoolList (src : V1beta1.MachinePoolList) :
    MachinePoolList :=
  { listMeta := src.listMeta
    items := src.items.map (·.map (convert_v1beta1_MachinePool_To_v1beta2_MachinePool
      convert_v1beta1_MachineTemplateSpec_To_v1beta2_MachineTemplateSpec
      convert_v1beta1_MachinePoolStatus_To_v1beta2_MachinePoolStatus)) }

/-- `Convert_v1beta2_MachinePoolList_To_v1beta1_MachinePoolList`: a nil list stays nil. -/
def convert_v1beta2_MachinePoolList_To_v1beta1_MachinePoolList (src : MachinePoolList) :
    V1beta1.MachinePoolList :=
  { listMeta := src.listMeta
    items := src.items.map (·.map (convert_v1beta2_MachinePool_To_v1beta1_MachinePool
      convert_v1beta2_MachineTemplateSpec_To_v1beta1_MachineTemplateSpec
      convert_v1beta2_MachinePoolStatus_To_v1beta1_MachinePoolStatus)) }

end

end ClusterApi.Conversion
