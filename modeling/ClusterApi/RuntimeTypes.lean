import Mathlib.Data.List.AList

/-! The objects the Runtime SDK registry reads, Go errors, and `schema.ParseGroupVersion`,
which decides whether a handler can be registered. -/
namespace ClusterApi.Runtime

/-- A Go `error`: `errors.New`, `errors.Errorf` and `fmt.Errorf` keep their format and
arguments, `errors.Wrapf` its inner error, `kerrors.NewAggregate` its list. -/
inductive GoError where
  | errorf (format : String) (args : List String)
  | wrapf (err : GoError) (format : String) (args : List String)
  | aggregate (errs : List GoError)

/-- An `errors.New` error whose text starts with `invalid operation:`, the registry's
answer to a call made in the wrong lifecycle state. -/
def GoError.isInvalidOperation : GoError → Bool
  | .errorf format _ => "invalid operation:".data.isPrefixOf format.data
  | _ => false

/-- The call failed with an invalid-operation error. -/
def failsInvalidOperation {α : Type} : Except GoError α → Bool
  | .error err => err.isInvalidOperation
  | .ok _ => false

/-- `strings.IndexRune` for the separator searches of this package: the first position of
`r`, with `none` for Go's `-1`. -/
def indexRune : List Char → Char → Option Nat
  | [], _ => none
  | c :: cs, r => if c = r then some 0 else (indexRune cs r).map (· + 1)

structure GroupVersion where
  group : String := ""
  version : String := ""
  deriving DecidableEq, Repr

/-- `schema.ParseGroupVersion` of apimachinery: `""` and `"/"` are the empty group
version, a string without `/` is a bare version, one `/` separates group and version, and
more than one is rejected. -/
def parseGroupVersion (gv : String) : Except GoError GroupVersion :=
  if gv = "" ∨ gv = "/" then .ok {} else
  match gv.data.count '/' with
  | 0 => .ok { version := gv }
  | 1 =>
    let i := (indexRune gv.data '/').getD 0
    .ok { group := ⟨gv.data.take i⟩, version := ⟨gv.data.drop (i + 1)⟩ }
  | _ => .error (.errorf "unexpected GroupVersion string: %v" [gv])

theorem parseGroupVersion_isOk (gv : String) :
    (parseGroupVersion gv).isOk ↔ gv.data.count '/' ≤ 1 := by
  unfold parseGroupVersion
  split
  · rename_i h
    rcases h with rfl | rfl <;> decide
  · generalize gv.data.count '/' = n
    rcases n with _ | _ | n <;> simp [Except.isOk, Except.toBool]

/-- `runtimev1.GroupVersionHook`, the hook a handler declares, with its API version as a
string. -/
structure RequestHook where
  apiVersion : String
  hook : String
  deriving DecidableEq, Repr

/-- `runtimecatalog.GroupVersionHook`. -/
structure GroupVersionHook where
  group : String
  version : String
  hook : String
  deriving DecidableEq, Repr

/-- `runtimecatalog.GroupHook`, the key of `List`. -/
structure GroupHook where
  group : String
  hook : String
  deriving DecidableEq, Repr

/-- `runtimev1.ClientConfig`; the registry copies it whole and the reconciler writes its
`CABundle`. -/
structure ClientConfig where
  caBundle : List UInt8 := []
  deriving DecidableEq, Repr

/-- `runtimev1.ExtensionHandler`; `TimeoutSeconds` is a `*int32`. -/
structure ExtensionHandler where
  name : String
  requestHook : RequestHook
  timeoutSeconds : Option (BitVec 32) := none
  failurePolicy : Option String := none
  deriving DecidableEq, Repr

structure ExtensionConfigSpec where
  clientConfig : ClientConfig := {}
  deriving DecidableEq, Repr

/-- A condition message, `fmt.Sprintf` of a format and error arguments, kept unrendered as
`GoError` keeps its own. -/
structure Message where
  format : String := ""
  args : List GoError := []

/-- `metav1.Condition`, by the fields the reconciler sets. -/
structure Condition where
  type : String
  status : String
  reason : String := ""
  message : Message := {}

/-- The deprecated v1beta1 `Condition` of `v1beta1conditions`, by the fields it sets. -/
structure V1Beta1Condition where
  type : String
  status : String
  severity : String := ""
  reason : String := ""
  message : Message := {}

structure ExtensionConfigStatus where
  handlers : List ExtensionHandler := []
  conditions : List Condition := []
  v1beta1Conditions : List V1Beta1Condition := []

/-- `runtimev1.ExtensionConfig`, with the metadata the reconciler reads. -/
structure ExtensionConfig where
  name : String
  annotations : List (String × String) := []
  deletionTimestamp : Option Int := none
  spec : ExtensionConfigSpec := {}
  status : ExtensionConfigStatus := {}

structure ExtensionConfigList where
  items : List ExtensionConfig

/-- `ExtensionRegistration`, one registry entry. -/
structure ExtensionRegistration where
  name : String
  extensionConfigName : String
  groupVersionHook : GroupVersionHook
  clientConfig : ClientConfig
  timeoutSeconds : Option (BitVec 32)
  failurePolicy : Option String
  deriving DecidableEq, Repr

end ClusterApi.Runtime
