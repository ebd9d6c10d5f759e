import ClusterApi.RegistryRuns
import ClusterApi.CABundle

/-! The `ExtensionConfig` reconciler: a `Reconcile` call is a step on the registry behind the
runtime client and on the logs of what it read and patched, under what the world answers. -/
namespace ClusterApi.Runtime

/-- `ctrl.Result`. -/
structure Result where
  requeue : Bool := false
  deriving DecidableEq, Repr

/-- Modelled from the spec: `metav1.ConditionTrue`. -/
def conditionTrue : String := "True"

/-- Modelled from the spec: `metav1.ConditionFalse`. -/
def conditionFalse : String := "False"

/-- Modelled from the spec: `runtimev1.ExtensionConfigDiscoveredCondition`. -/
def extensionConfigDiscoveredCondition : String := "Discovered"

/-- Modelled from the spec: `runtimev1.ExtensionConfigDiscoveredReason`. -/
def extensionConfigDiscoveredReason : String := "Discovered"

/-- Modelled from the spec: `runtimev1.ExtensionConfigNotDiscoveredReason`. -/
def extensionConfigNotDiscoveredReason : String := "NotDiscovered"

/-- Modelled from the spec: `runtimev1.RuntimeExtensionDiscoveredV1Beta1Condition`. -/
def runtimeExtensionDiscoveredV1Beta1Condition : String := "Discovered"

/-- Modelled from the spec: `runtimev1.DiscoveryFailedV1Beta1Reason`. -/
def discoveryFailedV1Beta1Reason : String := "DiscoveryFailed"

/-- Modelled from the spec: `clusterv1.ConditionSeverityError`. -/
def conditionSeverityError : String := "Error"

/-- Modelled from the spec: `Set` of `conditions` and of `v1beta1conditions` puts a condition in
place of the one of its type, or appends it; the v1beta1 sort by type is left out. -/
def setByType {α : Type} (type : α → String) (conditions : List α) (condition : α) : List α :=
  if conditions.any (type · == type condition) then
    conditions.map fun c => if type c == type condition then condition else c
  else conditions ++ [condition]

/-- `conditions.Set`. -/
def Conditions.set (extensionConfig : ExtensionConfig) (condition : Condition) : ExtensionConfig :=
  { extensionConfig with
    status.conditions := setByType Condition.type extensionConfig.status.conditions condition }

/-- `v1beta1conditions.Set`. -/
def V1beta1Conditions.set (extensionConfig : ExtensionConfig) (condition : V1Beta1Condition) :
    ExtensionConfig :=
  { extensionConfig with
    status.v1beta1Conditions :=
      setByType V1Beta1Condition.type extensionConfig.status.v1beta1Conditions condition }

/-- `v1beta1conditions.MarkTrue`. -/
def V1beta1Conditions.markTrue (extensionConfig : ExtensionConfig) (t : String) : ExtensionConfig :=
  set extensionConfig { type := t, status := conditionTrue }

/-- `v1beta1conditions.MarkFalse`, with its message format and arguments. -/
def V1beta1Conditions.markFalse (extensionConfig : ExtensionConfig)
    (t reason severity : String) (message : Message) : ExtensionConfig :=
  set extensionConfig { type := t, status := conditionFalse, severity, reason, message }

/-- `discoverExtensionConfig`: the discovered config marked discovered, or, when discovery
fails, the config marked not discovered with the error, and the wrapped error. -/
def discoverExtensionConfig (discover : ExtensionConfig → Except GoError ExtensionConfig)
    (extensionConfig : ExtensionConfig) : ExtensionConfig × Option GoError :=
  match discover extensionConfig with
  | .error err =>
    let message := { format := "Error in discovery: %v", args := [err] }
    let modifiedExtensionConfig := V1beta1Conditions.markFalse extensionConfig
      runtimeExtensionDiscoveredV1Beta1Condition discoveryFailedV1Beta1Reason
      conditionSeverityError message
    (Conditions.set modifiedExtensionConfig
        { type := extensionConfigDiscoveredCondition, status := conditionFalse,
          reason := extensionConfigNotDiscoveredReason, message },
      some (.wrapf err "failed to discover ExtensionConfig %s" [extensionConfig.name]))
  | .ok discoveredExtension =>
    (Conditions.set
        (V1beta1Conditions.markTrue discoveredExtension runtimeExtensionDiscoveredV1Beta1Condition)
        { type := extensionConfigDiscoveredCondition, status := conditionTrue,
          reason := extensionConfigDiscoveredReason },
      none)

/-- What one `Reconcile` gets from outside the registry: the store's `Get`, which keeps names,
`EnsurePausedCondition`, which keeps them too, the patch helper's answer, and `Discover`. -/
structure Env where
  get : String → Except GoError (Option ExtensionConfig)
  get_name : ∀ name c, get name = .ok (some c) → c.name = name
  ensurePausedCondition : ExtensionConfig → Except GoError (ExtensionConfig × Bool × Bool)
  ensurePausedCondition_name :
    ∀ c c' p, ensurePausedCondition c = .ok (c', p) → c'.name = c.name
  patch : ExtensionConfig → ExtensionConfig → Option GoError
  discover : ExtensionConfig → Except GoError ExtensionConfig

/-- `Reconciler`: the registry behind the runtime client, the secret reader, and the patches
sent, each as the object read and the object wanted. -/
structure Reconciler where
  registry : ExtensionRegistry
  client : Client
  patches : List (ExtensionConfig × ExtensionConfig) := []

namespace Reconciler

/-- Modelled from the spec: the runtime client's `Register` is `Add` of its registry. -/
def register (r : Reconciler) (extensionConfig : ExtensionConfig) :
    Reconciler × Except GoError Unit :=
  ({ r with registry := (r.registry.add (some extensionConfig)).1 },
    (r.registry.add (some extensionConfig)).2)

/-- Modelled from the spec: the runtime client's `Unregister` is `Remove` of its registry. -/
def unregister (r : Reconciler) (extensionConfig : ExtensionConfig) :
    Reconciler × Except GoError Unit :=
  ({ r with registry := (r.registry.remove (some extensionConfig)).1 },
    (r.registry.remove (some extensionConfig)).2)

/-- `patchExtensionConfig`, sent whether or not the store accepts it. -/
def patchExtensionConfig (env : Env) (r : Reconciler) (original modified : ExtensionConfig) :
    Reconciler × Option GoError :=
  ({ r with patches := r.patches ++ [(original, modified)] }, env.patch original modified)

/-- `reconcileDelete`; `klog.KObj` of the cluster-scoped config prints its name. -/
def reconcileDelete (r : Reconciler) (extensionConfig : ExtensionConfig) :
    Reconciler × Except GoError Result :=
  match r.unregister extensionConfig with
  | (r, .error err) =>
    (r, .error (.wrapf err "failed to unregister ExtensionConfig %s" [extensionConfig.name]))
  | (r, .ok ()) => (r, .ok {})

/-- The rest of `Reconcile` after the deletion check: inject the CA bundle, discover, patch,
and register only when neither discovery nor the patch failed. -/
def reconcileMutation (env : Env) (r : Reconciler) (req : NamespacedName)
    (original extensionConfig : ExtensionConfig) : Reconciler × Except GoError Result :=
  match reconcileCABundle r.client extensionConfig with
  | (client, .error err) => ({ r with client }, .error err)
  | (client, .ok extensionConfig) =>
    let (discoveredExtensionConfig, discoverErr) :=
      discoverExtensionConfig env.discover extensionConfig
    let (r, patchErr) :=
      { r with client }.patchExtensionConfig env original discoveredExtensionConfig
    let errs := discoverErr.toList ++ patchErr.toList
    if errs.length ≠ 0 then (r, .error (.aggregate errs))
    else
      match r.register discoveredExtensionConfig with
      | (r, .error err) => (r, .error (.wrapf err "failed to register ExtensionConfig %s/%s"
          [req.«namespace», extensionConfig.name]))
      | (r, .ok ()) => (r, .ok {})

/-- `Reconcile`. A config that is gone is deleted under the request's name. -/
def reconcile (env : Env) (r : Reconciler) (req : NamespacedName) :
    Reconciler × Except GoError Result :=
  if !r.registry.isReady then (r, .ok { requeue := true })
  else
    match env.get req.name with
    | .error err => (r, .error err)
    | .ok none => r.reconcileDelete { name := req.name }
    | .ok (some original) =>
      match env.ensurePausedCondition original with
      | .error err => (r, .error err)
      | .ok (extensionConfig, isPaused, requeue) =>
        if isPaused || requeue then (r, .ok {})
        else if extensionConfig.deletionTimestamp.isSome then r.reconcileDelete extensionConfig
        else r.reconcileMutation env req original extensionConfig

@[simp] theorem register_registry (r : Reconciler) (c : ExtensionConfig) :
    (r.register c).1.registry = (r.registry.add (some c)).1 := rfl

@[simp] theorem unregister_registry (r : Reconciler) (c : ExtensionConfig) :
    (r.unregister c).1.registry = (r.registry.remove (some c)).1 := rfl

theorem reconcileDelete_registry (r : Reconciler) (c : ExtensionConfig) :
    (r.reconcileDelete c).1.registry = (r.registry.remove (some c)).1 := by
  unfold reconcileDelete
  split <;> rename_i h <;> rw [← unregister_registry, h]

/-- `reconcileDelete` on a ready registry removes the config's entries and succeeds. -/
theorem reconcileDelete_of_ready {r : Reconciler} (hr : r.registry.ready = true)
    (c : ExtensionConfig) :
    r.reconcileDelete c = ({ r with registry := { r.registry with
      items := r.registry.items.remove c } }, .ok {}) := by
  simp [reconcileDelete, unregister, ExtensionRegistry.remove_of_ready hr]

/-- The CA bundle step in `reconcileMutation`: a failure returns at once, with no discovery, no
patch and no registration; otherwise the rest of the pipeline runs on the injected config. -/
theorem reconcileMutation_eq (env : Env) (r : Reconciler) (req : NamespacedName)
    (original c : ExtensionConfig) :
    r.reconcileMutation env req original c =
      match reconcileCABundle r.client c with
      | (client, .error err) => ({ r with client }, .error err)
      | (client, .ok c') =>
        let (d, discoverErr) := discoverExtensionConfig env.discover c'
        let r' := { r with client, patches := r.patches ++ [(original, d)] }
        match discoverErr, env.patch original d with
        | none, none =>
          match r'.register d with
          | (r, .error err) => (r, .error (.wrapf err "failed to register ExtensionConfig %s/%s"
              [req.«namespace», c'.name]))
          | (r, .ok ()) => (r, .ok {})
        | discoverErr, patchErr => (r', .error (.aggregate (discoverErr.toList ++ patchErr.toList))) := by
  unfold reconcileMutation
  rcases reconcileCABundle r.client c with ⟨client, _ | c'⟩
  · rfl
  · dsimp only [patchExtensionConfig]
    rcases (discoverExtensionConfig env.discover c').2 with _ | e <;>
      rcases env.patch original (discoverExtensionConfig env.discover c').1 with _ | e' <;> rfl

/-- The pair a `Register` outcome is matched into keeps the reconciler it was matched from. -/
theorem fst_match_register (p : Reconciler × Except GoError Unit) (f : GoError → GoError) :
    (match p with
      | (r, .error err) => (r, (.error (f err) : Except GoError Result))
      | (r, .ok ()) => (r, .ok {})).1 = p.1 := by
  rcases p with ⟨_, _ | _⟩ <;> rfl

/-- Reconciles one after another, each with what the world answered it. -/
def reconcileRun (r : Reconciler) (steps : List (Env × NamespacedName)) : Reconciler :=
  steps.foldl (fun r step => (r.reconcile step.1 step.2).1) r

/-- A store that has every config, unpaused, and accepts every patch, whose extensions
cannot be reached. -/
def unreachableEnv : Env where
  get name := .ok (some { name })
  get_name _ _ h := by cases h; rfl
  ensurePausedCondition c := .ok (c, false, false)
  ensurePausedCondition_name _ _ _ h := by cases h; rfl
  patch _ _ := none
  discover _ := .error (.errorf "connection refused" [])

/-- A ready reconciler with no entries and no secrets to read. -/
def readyReconciler : Reconciler where
  registry := ExtensionRegistry.new.run [.warmUp (some ⟨[]⟩)]
  client := { getSecret := fun _ => .error (.errorf "not found" []), reads := [] }

/-- An extension that answers with the config it was sent. -/
def echoEnv : Env := { unreachableEnv with discover := fun c => .ok c }

end Reconciler

end ClusterApi.Runtime
