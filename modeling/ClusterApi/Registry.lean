import ClusterApi.RegistryItems

/-! The exported methods of the registry. Each method runs in one critical section of the
registry's lock, so it is one atomic step on the state; a nil pointer argument is `none`. -/
namespace ClusterApi.Runtime

/-- `extensionRegistry`: whether `WarmUp` has completed, and the entries. -/
structure ExtensionRegistry where
  ready : Bool
  items : Items

namespace ExtensionRegistry

/-- `New`. -/
def new : ExtensionRegistry := { ready := false, items := ∅ }

/-- One iteration of the `WarmUp` loop: `add` the config and keep its error. -/
def warmUpStep (acc : Items × List GoError) (c : ExtensionConfig) : Items × List GoError :=
  match acc.1.add c with
  | (items, .error err) => (items, acc.2 ++ [err])
  | (items, .ok ()) => (items, acc.2)

/-- `WarmUp`: a failed warm-up resets the map, so that the next one starts empty. -/
def warmUp (r : ExtensionRegistry) (extensionConfigList : Option ExtensionConfigList) :
    ExtensionRegistry × Except GoError Unit :=
  match extensionConfigList with
  | none => (r, .error (.errorf
      "invalid argument: when calling WarmUp extensionConfigList must not be nil" []))
  | some l =>
    if r.ready then (r, .error (.errorf
      "invalid operation: WarmUp cannot be called on a registry which has already been warmed up"
      []))
    else
      let loop := l.items.foldl warmUpStep (r.items, [])
      if loop.2.length > 0 then ({ r with items := ∅ }, .error (.aggregate loop.2))
      else ({ r with items := loop.1, ready := true }, .ok ())

/-- `IsReady`. -/
def isReady (r : ExtensionRegistry) : Bool := r.ready

/-- `Add`. -/
def add (r : ExtensionRegistry) (extensionConfig : Option ExtensionConfig) :
    ExtensionRegistry × Except GoError Unit :=
  match extensionConfig with
  | none => (r, .error (.errorf
      "invalid argument: when calling Add extensionConfig must not be nil" []))
  | some c =>
    if !r.ready then (r, .error (.errorf
      "invalid operation: Add cannot be called on a registry which has not been warmed up" []))
    else ({ r with items := (r.items.add c).1 }, (r.items.add c).2)

/-- `Remove`. -/
def remove (r : ExtensionRegistry) (extensionConfig : Option ExtensionConfig) :
    ExtensionRegistry × Except GoError Unit :=
  match extensionConfig with
  | none => (r, .error (.errorf
      "invalid argument: when calling Remove extensionConfig must not be nil" []))
  | some c =>
    if !r.ready then (r, .error (.errorf
      "invalid operation: Remove cannot be called on a registry which has not been warmed up"
      []))
    else ({ r with items := r.items.remove c }, .ok ())

/-- The loop of `List`: append every registration of the group and hook. -/
def listStep (gh : GroupHook) (l : List ExtensionRegistration)
    (e : Σ _ : String, ExtensionRegistration) : List ExtensionRegistration :=
  if e.2.groupVersionHook.group = gh.group ∧ e.2.groupVersionHook.hook = gh.hook then l ++ [e.2]
  else l

/-- `List`. -/
def list (r : ExtensionRegistry) (gh : GroupHook) :
    Except GoError (List ExtensionRegistration) :=
  if gh.group = "" then
    .error (.errorf "invalid argument: when calling List gh.Group must not be empty" [])
  else if gh.hook = "" then
    .error (.errorf "invalid argument: when calling List gh.Hook must not be empty" [])
  else if !r.ready then .error (.errorf
    "invalid operation: List cannot be called on a registry which has not been warmed up" [])
  else .ok (r.items.entries.foldl (listStep gh) [])

/-- `Get`. -/
def get (r : ExtensionRegistry) (name : String) : Except GoError ExtensionRegistration :=
  if !r.ready then
    .error (.errorf "invalid operation: Get cannot called on a registry not yet ready" [])
  else
    match r.items.lookup name with
    | none => .error (.errorf "RuntimeExtension with name %q has not been registered" [name])
    | some registration => .ok registration

/-- The error `add` returns for a config, on any map. -/
def addError (c : ExtensionConfig) : Option GoError :=
  if handlersParse c then none else some (.aggregate (c.status.handlers.filterMap handlerError))

/-- The map the `WarmUp` loop builds: `add` applied to each config in turn. -/
def addAll (items : Items) (configs : List ExtensionConfig) : Items :=
  configs.foldl (fun m c => (m.add c).1) items

theorem foldl_warmUpStep (configs : List ExtensionConfig) :
    ∀ (m : Items) (errs : List GoError), configs.foldl warmUpStep (m, errs) =
      (addAll m configs, errs ++ configs.filterMap addError) := by
  induction configs with
  | nil => simp [addAll]
  | cons c cs ih =>
    intro m errs
    have hstep : warmUpStep (m, errs) c = ((m.add c).1, errs ++ (addError c).toList) := by
      have hsnd := add_snd m c
      rcases hadd : m.add c with ⟨items, res⟩
      rw [hadd] at hsnd
      subst hsnd
      by_cases hp : handlersParse c <;> simp [warmUpStep, hadd, hp, addError]
    rw [List.foldl_cons, hstep, ih]
    rcases hc : addError c with _ | err <;> simp [addAll, List.filterMap_cons, hc]

theorem filterMap_addError_eq_nil (configs : List ExtensionConfig) :
    configs.filterMap addError = [] ↔ configs.all handlersParse := by
  simp [List.filterMap_eq_nil_iff, addError]

/-- `WarmUp` of a list on a registry that is not ready: it commits the whole loop when
every config is accepted, and otherwise resets the map and reports each failing config. -/
theorem warmUp_cold {r : ExtensionRegistry} (hr : r.ready = false) (l : ExtensionConfigList) :
    r.warmUp (some l) =
      if l.items.all handlersParse then ({ ready := true, items := addAll r.items l.items }, .ok ())
      else ({ ready := false, items := ∅ }, .error (.aggregate (l.items.filterMap addError))) := by
  have hnil := filterMap_addError_eq_nil l.items
  simp only [warmUp, hr]
  rw [foldl_warmUpStep]
  simp only [List.nil_append, List.length_pos]
  by_cases hp : l.items.all handlersParse
  · simp [hp, hnil.mpr hp]
  · simp [hp, mt hnil.mp hp, hr]

theorem warmUp_of_ready {r : ExtensionRegistry} (hr : r.ready = true)
    (l : Option ExtensionConfigList) :
    (r.warmUp l).1 = r ∧ (r.warmUp l).2.isOk = false := by
  cases l <;> simp [warmUp, hr, Except.isOk, Except.toBool]

theorem add_of_ready {r : ExtensionRegistry} (hr : r.ready = true) (c : ExtensionConfig) :
    r.add (some c) = ({ r with items := (r.items.add c).1 }, (r.items.add c).2) := by
  simp [add, hr]

theorem remove_of_ready {r : ExtensionRegistry} (hr : r.ready = true) (c : ExtensionConfig) :
    r.remove (some c) = ({ r with items := r.items.remove c }, .ok ()) := by
  simp [remove, hr]

end ExtensionRegistry

end ClusterApi.Runtime
