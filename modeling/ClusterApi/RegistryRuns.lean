import ClusterApi.Registry

/-! Runs of the registry from `New` over any calls, with a ghost log of the accepted steps
that traces every entry back to the `add` that wrote it. -/
namespace ClusterApi.Runtime

/-- A call of an exported method that writes the registry. -/
inductive Call where
  | warmUp (extensionConfigList : Option ExtensionConfigList)
  | add (extensionConfig : Option ExtensionConfig)
  | remove (extensionConfig : Option ExtensionConfig)

/-- A step the registry accepted for one config: an `add` with its outcome (a call of
`Add` on a ready registry, or one config of `WarmUp` on a cold one), or a `Remove`. -/
inductive Event where
  | added (c : ExtensionConfig) (ok : Bool)
  | removed (name : String)

def Event.configName : Event → String
  | .added c _ => c.name
  | .removed name => name

/-- The most recent accepted step for a config name. -/
def lastEvent (name : String) (log : List Event) : Option Event :=
  (log.filter (·.configName == name)).getLast?

/-- The entry was written by the most recent accepted step for its owner: a successful
`add` of a config that declares a handler of the entry's name, from the last such
handler. -/
def Provenance (log : List Event) (e : ExtensionRegistration) : Prop :=
  ∃ c, lastEvent e.extensionConfigName log = some (.added c true) ∧
    c.name = e.extensionConfigName ∧
    ∃ h gv, (c.status.handlers.filter (·.name == e.name)).getLast? = some h ∧
      parseGroupVersion h.requestHook.apiVersion = .ok gv ∧ e = newRegistration c h gv

namespace ExtensionRegistry

def step (r : ExtensionRegistry) : Call → ExtensionRegistry × Except GoError Unit
  | .warmUp l => r.warmUp l
  | .add c => r.add c
  | .remove c => r.remove c

def run (r : ExtensionRegistry) (calls : List Call) : ExtensionRegistry :=
  calls.foldl (fun r call => (r.step call).1) r

/-- The steps a call makes the registry accept. -/
def accepted (r : ExtensionRegistry) : Call → List Event
  | .warmUp (some l) => if r.ready then [] else l.items.map fun c => .added c (handlersParse c)
  | .add (some c) => if r.ready then [.added c (handlersParse c)] else []
  | .remove (some c) => if r.ready then [.removed c.name] else []
  | _ => []

@[simp] theorem run_nil (r : ExtensionRegistry) : r.run [] = r := rfl

@[simp] theorem run_cons (r : ExtensionRegistry) (call : Call) (calls : List Call) :
    r.run (call :: calls) = (r.step call).1.run calls := rfl

def history (r : ExtensionRegistry) : List Call → List Event
  | [] => []
  | call :: calls => r.accepted call ++ history (r.step call).1 calls

end ExtensionRegistry

/-- What every reachable state satisfies, against the log of its run. -/
structure Invariant (r : ExtensionRegistry) (log : List Event) : Prop where
  cold_empty : r.ready = false → r.items = ∅
  keys_are_names : KeysAreNames r.items
  provenance : ∀ k e, r.items.lookup k = some e → Provenance log e

theorem lastEvent_append_self (log : List Event) (ev : Event) :
    lastEvent ev.configName (log ++ [ev]) = some ev := by
  simp [lastEvent, List.filter_append]

theorem lastEvent_append_of_ne {log : List Event} {ev : Event} {name : String}
    (h : ev.configName ≠ name) : lastEvent name (log ++ [ev]) = lastEvent name log := by
  simp [lastEvent, List.filter_append, h]

theorem Provenance.append {log : List Event} {e : ExtensionRegistration} (hp : Provenance log e)
    {ev : Event} (h : ev.configName ≠ e.extensionConfigName) : Provenance (log ++ [ev]) e := by
  obtain ⟨c, hl, rest⟩ := hp
  exact ⟨c, (lastEvent_append_of_ne h).trans hl, rest⟩

theorem provenance_of_lastRegistration {c : ExtensionConfig} {k : String}
    {e : ExtensionRegistration} (he : lastRegistration c k = some e) (log : List Event) :
    Provenance (log ++ [.added c true]) e := by
  obtain ⟨hk, ho⟩ := lastRegistration_spec he
  obtain ⟨h, hh, hr⟩ := Option.bind_eq_some.mp he
  unfold handlerRegistration at hr
  split at hr
  · cases hr
  · rename_i gv hgv
    refine ⟨c, ho ▸ lastEvent_append_self log (.added c true), ho.symm, h, gv, hk ▸ hh, hgv, ?_⟩
    exact (Option.some.inj hr).symm

/-- An entry that survives a step for another owner keeps its provenance. -/
theorem provenance_of_filter {m : Items} {log : List Event}
    (hp : ∀ k e, m.lookup k = some e → Provenance log e) {ev : Event} {k : String}
    {e : ExtensionRegistration}
    (he : (m.lookup k).filter (·.extensionConfigName != ev.configName) = some e) :
    Provenance (log ++ [ev]) e := by
  obtain ⟨hm, hne⟩ := Option.filter_eq_some.mp he
  exact (hp k e hm).append fun h => by simp [h] at hne

theorem provenance_add {m : Items} {log : List Event} (hk : KeysAreNames m)
    (hp : ∀ k e, m.lookup k = some e → Provenance log e) (c : ExtensionConfig) :
    ∀ k e, (m.add c).1.lookup k = some e →
      Provenance (log ++ [.added c (handlersParse c)]) e := by
  intro k e he
  rw [lookup_add hk] at he
  split at he
  · rename_i hpc
    rcases Option.or_eq_some.mp he with hl | ⟨-, hf⟩
    · exact hpc ▸ provenance_of_lastRegistration hl log
    · exact provenance_of_filter hp hf
  · exact provenance_of_filter hp he

theorem provenance_remove {m : Items} {log : List Event} (hk : KeysAreNames m)
    (hp : ∀ k e, m.lookup k = some e → Provenance log e) (c : ExtensionConfig) :
    ∀ k e, (m.remove c).lookup k = some e → Provenance (log ++ [.removed c.name]) e := by
  intro k e he
  rw [Items.lookup_remove hk] at he
  exact provenance_of_filter hp he

/-- The `WarmUp` loop keeps both map invariants, one accepted `add` per config. -/
theorem invariant_addAll (configs : List ExtensionConfig) :
    ∀ (m : Items) (log : List Event), KeysAreNames m →
      (∀ k e, m.lookup k = some e → Provenance log e) →
      KeysAreNames (ExtensionRegistry.addAll m configs) ∧
        ∀ k e, (ExtensionRegistry.addAll m configs).lookup k = some e →
          Provenance (log ++ configs.map fun c => .added c (handlersParse c)) e := by
  induction configs with
  | nil => intro m log hk hp; simpa [ExtensionRegistry.addAll] using ⟨hk, hp⟩
  | cons c cs ih =>
    intro m log hk hp
    have := ih (m.add c).1 _ (keysAreNames_add hk c) (provenance_add hk hp c)
    simpa [ExtensionRegistry.addAll] using this

theorem Invariant.of_empty {r : ExtensionRegistry} (h : r.items = ∅) (log : List Event) :
    Invariant r log where
  cold_empty _ := h
  keys_are_names k e he := by simp [h, AList.lookup_empty] at he
  provenance k e he := by simp [h, AList.lookup_empty] at he

namespace ExtensionRegistry

/-- One call keeps the invariant, against the log extended by what the call accepted. -/
theorem invariant_step {r : ExtensionRegistry} {log : List Event} (hi : Invariant r log)
    (call : Call) : Invariant (r.step call).1 (log ++ r.accepted call) := by
  cases call with
  | warmUp l =>
    cases l with
    | none => simpa [step, warmUp, accepted] using hi
    | some l =>
      cases hr : r.ready
      · obtain ⟨hk, hp⟩ :=
          invariant_addAll l.items r.items log hi.keys_are_names hi.provenance
        rw [step, warmUp_cold hr]
        split
        · exact ⟨(fun h => by cases h), hk, by simpa [accepted, hr] using hp⟩
        · exact Invariant.of_empty rfl _
      · simpa [step, accepted, hr, (warmUp_of_ready hr _).1] using hi
  | add c =>
    cases c with
    | none => simpa [step, add, accepted] using hi
    | some c =>
      cases hr : r.ready
      · simpa [step, add, accepted, hr] using hi
      · rw [step, add_of_ready hr]
        exact ⟨(fun h => by simp [hr] at h), keysAreNames_add hi.keys_are_names c,
          by simpa [accepted, hr] using provenance_add hi.keys_are_names hi.provenance c⟩
  | remove c =>
    cases c with
    | none => simpa [step, remove, accepted] using hi
    | some c =>
      cases hr : r.ready
      · simpa [step, remove, accepted, hr] using hi
      · rw [step, remove_of_ready hr]
        exact ⟨(fun h => by simp [hr] at h), keysAreNames_remove hi.keys_are_names c,
          by simpa [accepted, hr] using provenance_remove hi.keys_are_names hi.provenance c⟩

theorem invariant_run (calls : List Call) :
    ∀ (r : ExtensionRegistry) (log : List Event), Invariant r log →
      Invariant (r.run calls) (log ++ r.history calls) := by
  induction calls with
  | nil => intro r log hi; simpa [run, history] using hi
  | cons call calls ih =>
    intro r log hi
    simpa [run, history, List.append_assoc] using ih _ _ (invariant_step hi call)

theorem invariant_new_run (calls : List Call) :
    Invariant (new.run calls) (new.history calls) := by
  simpa using invariant_run calls new [] (Invariant.of_empty rfl [])

theorem ready_step {r : ExtensionRegistry} (hr : r.ready = true) (call : Call) :
    (r.step call).1.ready = true := by
  cases call with
  | warmUp l => simpa [step, (warmUp_of_ready hr l).1] using hr
  | add c => cases c <;> simp [step, add, hr]
  | remove c => cases c <;> simp [step, remove, hr]

theorem ready_run (calls : List Call) :
    ∀ {r : ExtensionRegistry}, r.ready = true → (r.run calls).ready = true := by
  induction calls with
  | nil => exact id
  | cons call calls ih => exact fun hr => ih (ready_step hr call)

/-- Every state reachable from `New`: a cold registry is empty, a ready one stays ready and
refuses every later `WarmUp` without change, every entry is stored under its name, and every
entry was written by the most recent accepted step for its owner, a successful `add`. -/
theorem reachable_registry_invariant (calls : List Call) :
    let r := new.run calls
    (r.ready = false → r.items = ∅) ∧
    (r.ready = true → ∀ more l, (r.run more).ready = true ∧
      ((r.run more).warmUp l).1 = r.run more ∧ ((r.run more).warmUp l).2.isOk = false) ∧
    KeysAreNames r.items ∧
    ∀ k e, r.items.lookup k = some e → Provenance (new.history calls) e := by
  have hi := invariant_new_run calls
  refine ⟨hi.cold_empty, fun hr more l => ?_, hi.keys_are_names, hi.provenance⟩
  have hm := ready_run more hr
  exact ⟨hm, warmUp_of_ready hm l⟩

end ExtensionRegistry

end ClusterApi.Runtime
