import ClusterApi.Conversion

/-! Conversion of the v1alpha4 `KubeadmControlPlane` and `KubeadmControlPlaneTemplate` to the
hub version and back; the kubeadm config spec conversions and `MergeRestoredKubeadmConfigSpec`,
in the bootstrap provider's package, are parameters. -/
namespace ClusterApi.Conversion

open Runtime (GoError)

/-- `KubeadmConfigSpec`, of either version, handed whole to the bootstrap provider. -/
abbrev KubeadmConfigSpec := Json

/-- `RollingUpdate`, the same in v1alpha4 and the hub. -/
structure RollingUpdate where
  maxSurge : Option IntOrString := none
  deriving DecidableEq, Repr

/-- `RolloutStrategy`, the same in v1alpha4 and the hub. -/
structure RolloutStrategy where
  type : String := ""
  rollingUpdate : Option RollingUpdate := none
  deriving DecidableEq, Repr

structure KubeadmControlPlaneMachineTemplate where
  objectMeta : ObjectMeta := {}
  infrastructureRef : Json := ""
  readinessGates : List Json := []
  nodeDrainTimeout : Option Duration := none
  nodeVolumeDetachTimeout : Option Duration := none
  nodeDeletionTimeout : Option Duration := none
  deriving DecidableEq, Repr

structure KubeadmControlPlaneSpec where
  replicas : Option Int := none
  version : String := ""
  machineTemplate : KubeadmControlPlaneMachineTemplate := {}
  kubeadmConfigSpec : KubeadmConfigSpec := ""
  rolloutBefore : Option Json := none
  rolloutAfter : Option Time := none
  rolloutStrategy : Option RolloutStrategy := none
  remediationStrategy : Option Json := none
  machineNamingStrategy : Option Json := none
  deriving DecidableEq, Repr

structure KubeadmControlPlaneStatus where
  selector : String := ""
  replicas : Int := 0
  version : Option String := none
  updatedReplicas : Int := 0
  readyReplicas : Int := 0
  unavailableReplicas : Int := 0
  initialized : Bool := false
  ready : Bool := false
  failureReason : Json := ""
  failureMessage : Option String := none
  observedGeneration : Int := 0
  conditions : Conditions := []
  lastRemediation : Option Json := none
  v1beta2 : Option Json := none
  deriving DecidableEq, Repr

structure KubeadmControlPlane where
  spec : KubeadmControlPlaneSpec := {}
  status : KubeadmControlPlaneStatus := {}
  deriving DecidableEq, Repr

structure KubeadmControlPlaneTemplateMachineTemplate where
  objectMeta : ObjectMeta := {}
  nodeDrainTimeout : Option Duration := none
  nodeVolumeDetachTimeout : Option Duration := none
  nodeDeletionTimeout : Option Duration := none
  deriving DecidableEq, Repr

structure KubeadmControlPlaneTemplateResourceSpec where
  machineTemplate : Option KubeadmControlPlaneTemplateMachineTemplate := none
  kubeadmConfigSpec : KubeadmConfigSpec := ""
  rolloutBefore : Option Json := none
  rolloutAfter : Option Time := none
  rolloutStrategy : Option RolloutStrategy := none
  remediationStrategy : Option Json := none
  machineNamingStrategy : Option Json := none
  deriving DecidableEq, Repr

structure KubeadmControlPlaneTemplateResource where
  objectMeta : ObjectMeta := {}
  spec : KubeadmControlPlaneTemplateResourceSpec := {}
  deriving DecidableEq, Repr

structure KubeadmControlPlaneTemplateSpec where
  template : KubeadmControlPlaneTemplateResource := {}
  deriving DecidableEq, Repr

/-- The hub `KubeadmControlPlaneTemplate`, by its spec. -/
structure KubeadmControlPlaneTemplate where
  spec : KubeadmControlPlaneTemplateSpec := {}
  deriving DecidableEq, Repr

namespace V1alpha4

/-- The v1alpha4 machine template; its `ObjectMeta` has the hub's fields. -/
structure KubeadmControlPlaneMachineTemplate where
  objectMeta : ObjectMeta := {}
  infrastructureRef : Json := ""
  nodeDrainTimeout : Option Duration := none
  deriving DecidableEq, Repr

/-- The v1alpha4 `KubeadmControlPlaneSpec`, of the control plane and of its template. -/
structure KubeadmControlPlaneSpec where
  replicas : Option Int := none
  version : String := ""
  machineTemplate : KubeadmControlPlaneMachineTemplate := {}
  kubeadmConfigSpec : KubeadmConfigSpec := ""
  rolloutAfter : Option Time := none
  rolloutStrategy : Option RolloutStrategy := none
  deriving DecidableEq, Repr

structure KubeadmControlPlaneStatus where
  selector : String := ""
  replicas : Int := 0
  version : Option String := none
  updatedReplicas : Int := 0
  readyReplicas : Int := 0
  unavailableReplicas : Int := 0
  initialized : Bool := false
  ready : Bool := false
  failureReason : Json := ""
  failureMessage : Option String := none
  observedGeneration : Int := 0
  conditions : Conditions := []
  deriving DecidableEq, Repr

structure KubeadmControlPlane where
  spec : KubeadmControlPlaneSpec := {}
  status : KubeadmControlPlaneStatus := {}
  deriving DecidableEq, Repr

structure KubeadmControlPlaneTemplateResource where
  spec : KubeadmControlPlaneSpec := {}
  deriving DecidableEq, Repr

structure KubeadmControlPlaneTemplateSpec where
  template : KubeadmControlPlaneTemplateResource := {}
  deriving DecidableEq, Repr

structure KubeadmControlPlaneTemplate where
  spec : KubeadmControlPlaneTemplateSpec := {}
  deriving DecidableEq, Repr

end V1alpha4

/-- The `RolloutStrategy` block of both spec conversions: a new strategy whose `Type` is copied
when non-empty, with a new rolling update whose `MaxSurge` is copied when present. -/
def convertRolloutStrategy (rolloutStrategy : Option RolloutStrategy) : Option RolloutStrategy :=
  rolloutStrategy.map fun rs =>
    { type := if rs.type.length > 0 then rs.type else ""
      rollingUpdate := rs.rollingUpdate.map fun ru =>
        { maxSurge := if ru.maxSurge.isSome then ru.maxSurge else none } }

/-- Copying a field only when it is set copies it: the block is the identity. -/
@[simp] theorem convertRolloutStrategy_eq (rolloutStrategy : Option RolloutStrategy) :
    convertRolloutStrategy rolloutStrategy = rolloutStrategy := by
  have htype (type : String) : (if type.length > 0 then type else "") = type := by
    rcases type with ⟨_ | ⟨c, cs⟩⟩
    · rfl
    · simp [String.length]
  rcases rolloutStrategy with _ | ⟨type, _ | ⟨_ | _⟩⟩ <;> simp [convertRolloutStrategy, htype]

section
variable (convert_v1alpha4_KubeadmConfigSpec_To_v1beta2_KubeadmConfigSpec :
  KubeadmConfigSpec → KubeadmConfigSpec)
variable (convert_v1beta2_KubeadmConfigSpec_To_v1alpha4_KubeadmConfigSpec :
  KubeadmConfigSpec → KubeadmConfigSpec)
variable (mergeRestoredKubeadmConfigSpec :
  KubeadmConfigSpec → KubeadmConfigSpec → KubeadmConfigSpec)

/-! ### KubeadmControlPlane -/

/-- The generated up-conversion of a `KubeadmControlPlane`; hub-only fields stay at zero. -/
def convert_v1alpha4_KubeadmControlPlane_To_v1beta2_KubeadmControlPlane
    (src : V1alpha4.KubeadmControlPlane) : KubeadmControlPlane :=
  { spec :=
      { replicas := src.spec.replicas, version := src.spec.version
        machineTemplate :=
          { objectMeta := src.spec.machineTemplate.objectMeta
            infrastructureRef := src.spec.machineTemplate.infrastructureRef
            nodeDrainTimeout := src.spec.machineTemplate.nodeDrainTimeout }
        kubeadmConfigSpec :=
          convert_v1alpha4_KubeadmConfigSpec_To_v1beta2_KubeadmConfigSpec src.spec.kubeadmConfigSpec
        rolloutAfter := src.spec.rolloutAfter, rolloutStrategy := src.spec.rolloutStrategy }
    status :=
      { selector := src.status.selector, replicas := src.status.replicas
        version := src.status.version, updatedReplicas := src.status.updatedReplicas
        readyReplicas := src.status.readyReplicas
        unavailableReplicas := src.status.unavailableReplicas
        initialized := src.status.initialized, ready := src.status.ready
        failureReason := src.status.failureReason, failureMessage := src.status.failureMessage
        observedGeneration := src.status.observedGeneration
        conditions := src.status.conditions } }

/-- The restore step of `(*KubeadmControlPlane).ConvertTo`. -/
def V1alpha4.KubeadmControlPlane.restoreData (dst restored : Conversion.KubeadmControlPlane) :
    Conversion.KubeadmControlPlane :=
  let dst := { dst with
    spec.machineTemplate.readinessGates := restored.spec.machineTemplate.readinessGates
    spec.machineTemplate.nodeDeletionTimeout := restored.spec.machineTemplate.nodeDeletionTimeout
    spec.machineTemplate.nodeVolumeDetachTimeout :=
      restored.spec.machineTemplate.nodeVolumeDetachTimeout
    spec.rolloutBefore := restored.spec.rolloutBefore }
  let dst := { dst with spec.remediationStrategy :=
    restored.spec.remediationStrategy.or dst.spec.remediationStrategy }
  let dst := { dst with status.lastRemediation :=
    restored.status.lastRemediation.or dst.status.lastRemediation }
  let dst := { dst with spec.machineNamingStrategy :=
    restored.spec.machineNamingStrategy.or dst.spec.machineNamingStrategy }
  let dst := { dst with spec.kubeadmConfigSpec :=
    mergeRestoredKubeadmConfigSpec dst.spec.kubeadmConfigSpec restored.spec.kubeadmConfigSpec }
  { dst with status.v1beta2 := restored.status.v1beta2 }

/-- `(*KubeadmControlPlane).ConvertTo`. -/
def V1alpha4.KubeadmControlPlane.convertTo (src : V1alpha4.KubeadmControlPlane) :
    Except GoError (Option Conversion.KubeadmControlPlane) →
      Except GoError Conversion.KubeadmControlPlane :=
  convertToWith (restoreData mergeRestoredKubeadmConfigSpec)
    (convert_v1alpha4_KubeadmControlPlane_To_v1beta2_KubeadmControlPlane
      convert_v1alpha4_KubeadmConfigSpec_To_v1beta2_KubeadmConfigSpec src)

/-- `Convert_v1alpha4_KubeadmControlPlaneSpec_To_v1beta2_KubeadmControlPlaneTemplateResourceSpec`,
into a new spec. -/
def convert_v1alpha4_KubeadmControlPlaneSpec_To_v1beta2_KubeadmControlPlaneTemplateResourceSpec
    (src : V1alpha4.KubeadmControlPlaneSpec) : KubeadmControlPlaneTemplateResourceSpec :=
  { machineTemplate := some { nodeDrainTimeout := src.machineTemplate.nodeDrainTimeout }
    kubeadmConfigSpec :=
      convert_v1alpha4_KubeadmConfigSpec_To_v1beta2_KubeadmConfigSpec src.kubeadmConfigSpec
    rolloutAfter := src.rolloutAfter
    rolloutStrategy := convertRolloutStrategy src.rolloutStrategy }

/-- `Convert_v1beta2_KubeadmControlPlaneTemplateResourceSpec_To_v1alpha4_KubeadmControlPlaneSpec`,
into a new spec. -/
def convert_v1beta2_KubeadmControlPlaneTemplateResourceSpec_To_v1alpha4_KubeadmControlPlaneSpec
    (src : KubeadmControlPlaneTemplateResourceSpec) : V1alpha4.KubeadmControlPlaneSpec :=
  { machineTemplate := { nodeDrainTimeout := src.machineTemplate.bind (·.nodeDrainTimeout) }
    kubeadmConfigSpec :=
      convert_v1beta2_KubeadmConfigSpec_To_v1alpha4_KubeadmConfigSpec src.kubeadmConfigSpec
    rolloutAfter := src.rolloutAfter
    rolloutStrategy := convertRolloutStrategy src.rolloutStrategy }

/-- `Convert_v1beta2_KubeadmControlPlaneTemplateResource_To_v1alpha4_KubeadmControlPlaneTemplateResource`:
the generated copy, which drops the metadata that v1alpha4 lacks. -/
def convert_v1beta2_KubeadmControlPlaneTemplateResource_To_v1alpha4_KubeadmControlPlaneTemplateResource
    (src : KubeadmControlPlaneTemplateResource) : V1alpha4.KubeadmControlPlaneTemplateResource :=
  let spec :=
    convert_v1beta2_KubeadmControlPlaneTemplateResourceSpec_To_v1alpha4_KubeadmControlPlaneSpec
      convert_v1beta2_KubeadmConfigSpec_To_v1alpha4_KubeadmConfigSpec src.spec
  { spec := spec }

/-- `Convert_v1alpha4_KubeadmControlPlaneTemplate_To_v1beta2_KubeadmControlPlaneTemplate`,
generated and not under src/: the template's spec goes through the function above, and the
template's metadata, which v1alpha4 lacks, stays empty. -/
def convert_v1alpha4_KubeadmControlPlaneTemplate_To_v1beta2_KubeadmControlPlaneTemplate
    (src : V1alpha4.KubeadmControlPlaneTemplate) : KubeadmControlPlaneTemplate :=
  let spec :=
    convert_v1alpha4_KubeadmControlPlaneSpec_To_v1beta2_KubeadmControlPlaneTemplateResourceSpec
      convert_v1alpha4_KubeadmConfigSpec_To_v1beta2_KubeadmConfigSpec src.spec.template.spec
  { spec := { template := { spec := spec } } }

/-- `Convert_v1beta2_KubeadmControlPlaneTemplate_To_v1alpha4_KubeadmControlPlaneTemplate`,
generated and not under src/: the template goes through the function above. -/
def convert_v1beta2_KubeadmControlPlaneTemplate_To_v1alpha4_KubeadmControlPlaneTemplate
    (src : KubeadmControlPlaneTemplate) : V1alpha4.KubeadmControlPlaneTemplate :=
  let template :=
    convert_v1beta2_KubeadmControlPlaneTemplateResource_To_v1alpha4_KubeadmControlPlaneTemplateResource
      convert_v1beta2_KubeadmConfigSpec_To_v1alpha4_KubeadmConfigSpec src.spec.template
  { spec := { template := template } }

/-- The restore step of `(*KubeadmControlPlaneTemplate).ConvertTo`; after line 90 `dst` and
`restored` share one machine template, and the later writes through it change nothing. -/
def V1alpha4.KubeadmControlPlaneTemplate.restoreData
    (dst restored : Conversion.KubeadmControlPlaneTemplate) : Conversion.KubeadmControlPlaneTemplate :=
  let rs := restored.spec.template.spec
  let dst := { dst with spec.template.spec.machineTemplate := rs.machineTemplate }
  let dst := { dst with spec.template.objectMeta := restored.spec.template.objectMeta }
  let dst := match rs.machineTemplate with
    | some rmt =>
      let mt := dst.spec.template.spec.machineTemplate.map
        fun (mt : KubeadmControlPlaneTemplateMachineTemplate) => { mt with objectMeta := rmt.objectMeta }
      { dst with spec.template.spec.machineTemplate := mt }
    | none => dst
  let dst := match dst.spec.template.spec.machineTemplate, rs.machineTemplate with
    | none, _ => { dst with spec.template.spec.machineTemplate := rs.machineTemplate }
    | some mt, some rmt =>
      let mt := { mt with
        nodeDeletionTimeout := rmt.nodeDeletionTimeout
        nodeVolumeDetachTimeout := rmt.nodeVolumeDetachTimeout }
      { dst with spec.template.spec.machineTemplate := some mt }
    | some _, none => dst
  let dst := { dst with spec.template.spec.rolloutBefore := rs.rolloutBefore }
  let dst := { dst with spec.template.spec.remediationStrategy :=
    rs.remediationStrategy.or dst.spec.template.spec.remediationStrategy }
  let dst := { dst with spec.template.spec.machineNamingStrategy :=
    rs.machineNamingStrategy.or dst.spec.template.spec.machineNamingStrategy }
  { dst with spec.template.spec.kubeadmConfigSpec :=
    mergeRestoredKubeadmConfigSpec dst.spec.template.spec.kubeadmConfigSpec rs.kubeadmConfigSpec }

/-- `(*KubeadmControlPlaneTemplate).ConvertTo`: the generated conversion, then the restore
step from what `UnmarshalData` reads from the annotation of `src`. -/
def V1alpha4.KubeadmControlPlaneTemplate.convertTo (src : V1alpha4.KubeadmControlPlaneTemplate) :
    Except GoError (Option Conversion.KubeadmControlPlaneTemplate) →
      Except GoError Conversion.KubeadmControlPlaneTemplate :=
  convertToWith (restoreData mergeRestoredKubeadmConfigSpec)
    (convert_v1alpha4_KubeadmControlPlaneTemplate_To_v1beta2_KubeadmControlPlaneTemplate
      convert_v1alpha4_KubeadmConfigSpec_To_v1beta2_KubeadmConfigSpec src)

/-- `(*KubeadmControlPlaneTemplate).ConvertFrom`: the generated conversion; `MarshalData` then
stores `src` in the annotation, which is what `convertTo` takes as the restored hub. -/
def V1alpha4.KubeadmControlPlaneTemplate.convertFrom (src : Conversion.KubeadmControlPlaneTemplate) :
    V1alpha4.KubeadmControlPlaneTemplate :=
  convert_v1beta2_KubeadmControlPlaneTemplate_To_v1alpha4_KubeadmControlPlaneTemplate
    convert_v1beta2_KubeadmConfigSpec_To_v1alpha4_KubeadmConfigSpec src

/-- The restore step in one update: metadata, machine template and `RolloutBefore` come from
the annotation, the two optional strategies when it has them, and the config spec is merged. -/
theorem V1alpha4.KubeadmControlPlaneTemplate.restoreData_eq
    (dst restored : Conversion.KubeadmControlPlaneTemplate) :
    restoreData mergeRestoredKubeadmConfigSpec dst restored =
      { dst with
        spec.template.objectMeta := restored.spec.template.objectMeta
        spec.template.spec.machineTemplate := restored.spec.template.spec.machineTemplate
        spec.template.spec.rolloutBefore := restored.spec.template.spec.rolloutBefore
        spec.template.spec.remediationStrategy :=
          restored.spec.template.spec.remediationStrategy.or
            dst.spec.template.spec.remediationStrategy
        spec.template.spec.machineNamingStrategy :=
          restored.spec.template.spec.machineNamingStrategy.or
            dst.spec.template.spec.machineNamingStrategy
        spec.template.spec.kubeadmConfigSpec := mergeRestoredKubeadmConfigSpec
          dst.spec.template.spec.kubeadmConfigSpec restored.spec.template.spec.kubeadmConfigSpec } := by
  rcases h : restored.spec.template.spec.machineTemplate with _ | rmt <;>
    simp [restoreData, h]

namespace V1alpha4.KubeadmControlPlaneTemplate

/-- A hub template converted down and up with its annotation comes back, its kubeadm config
spec merged from its trip through v1alpha4 and its own. -/
theorem convertTo_convertFrom (h : Conversion.KubeadmControlPlaneTemplate) :
    (convertFrom convert_v1beta2_KubeadmConfigSpec_To_v1alpha4_KubeadmConfigSpec h).convertTo
        convert_v1alpha4_KubeadmConfigSpec_To_v1beta2_KubeadmConfigSpec
        mergeRestoredKubeadmConfigSpec (.ok (some h)) =
      .ok { h with
        spec.template.spec.kubeadmConfigSpec := mergeRestoredKubeadmConfigSpec
          (convert_v1alpha4_KubeadmConfigSpec_To_v1beta2_KubeadmConfigSpec
            (convert_v1beta2_KubeadmConfigSpec_To_v1alpha4_KubeadmConfigSpec
              h.spec.template.spec.kubeadmConfigSpec))
          h.spec.template.spec.kubeadmConfigSpec } := by
  obtain ⟨⟨⟨_, _⟩⟩⟩ := h
  simp [convertTo, convertFrom, convertToWith, restoreData_eq,
    convert_v1alpha4_KubeadmControlPlaneTemplate_To_v1beta2_KubeadmControlPlaneTemplate,
    convert_v1beta2_KubeadmControlPlaneTemplate_To_v1alpha4_KubeadmControlPlaneTemplate,
    convert_v1beta2_KubeadmControlPlaneTemplateResource_To_v1alpha4_KubeadmControlPlaneTemplateResource,
    convert_v1alpha4_KubeadmControlPlaneSpec_To_v1beta2_KubeadmControlPlaneTemplateResourceSpec,
    convert_v1beta2_KubeadmControlPlaneTemplateResourceSpec_To_v1alpha4_KubeadmControlPlaneSpec]

end V1alpha4.KubeadmControlPlaneTemplate

/-- An edit of `NodeDrainTimeout` from 1 to 5 made through v1alpha4 is overwritten by the stale
hub copy, while the same template without the annotation keeps it. -/
theorem convertTo_overwrites_nodeDrainTimeout :
    let src : V1alpha4.KubeadmControlPlaneTemplate :=
      { spec.template.spec.machineTemplate.nodeDrainTimeout := some 5 }
    let restored : KubeadmControlPlaneTemplate :=
      { spec.template.spec.machineTemplate := some { nodeDrainTimeout := some 1 } }
    (src.convertTo id (fun k _ => k) (.ok (some restored))).map
        (·.spec.template.spec.machineTemplate) = .ok (some { nodeDrainTimeout := some 1 }) ∧
      (src.convertTo id (fun k _ => k) (.ok none)).map (·.spec.template.spec.machineTemplate) =
        .ok (some { nodeDrainTimeout := some 5 }) :=
  ⟨rfl, rfl⟩

end

end ClusterApi.Conversion
