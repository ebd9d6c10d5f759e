import ClusterApi.RegistryCommute

/-! `List` and `Get`, the two lookups the rest of the control plane uses, answer
consistently on every reachable ready registry. -/
namespace ClusterApi.Runtime

/-- The registrations of the map, in the order a `range` visits them. -/
def Items.values (items : Items) : List ExtensionRegistration :=
  items.entries.map (·.2)

/-- Registrations of the group and hook that `List` asks for. -/
def matchesGroupHook (gh : GroupHook) (e : ExtensionRegistration) : Bool :=
  decide (e.groupVersionHook.group = gh.group ∧ e.groupVersionHook.hook = gh.hook)

namespace ExtensionRegistry

theorem foldl_listStep (gh : GroupHook) :
    ∀ (l : List (Σ _ : String, ExtensionRegistration)) (acc : List ExtensionRegistration),
      l.foldl (listStep gh) acc = acc ++ (l.map (·.2)).filter (matchesGroupHook gh)
  | [], acc => by simp
  | p :: l, acc => by
    rw [List.foldl_cons, foldl_listStep gh l, List.map_cons, List.filter_cons]
    by_cases hm : p.2.groupVersionHook.group = gh.group ∧ p.2.groupVersionHook.hook = gh.hook <;>
      simp [listStep, matchesGroupHook, hm]

theorem list_of_ready {r : ExtensionRegistry} (hr : r.ready = true) {gh : GroupHook}
    (hg : gh.group ≠ "") (hh : gh.hook ≠ "") :
    r.list gh = .ok (r.items.values.filter (matchesGroupHook gh)) := by
  simp [list, hg, hh, hr, foldl_listStep, Items.values]

theorem get_of_ready {r : ExtensionRegistry} (hr : r.ready = true) (n : String) (e : ExtensionRegistration) :
    r.get n = .ok e ↔ r.items.lookup n = some e := by
  unfold get
  rw [if_neg (by simp [hr])]
  split <;> simp_all

theorem mem_values {items : Items} (hk : KeysAreNames items) (e : ExtensionRegistration) :
    e ∈ items.values ↔ items.lookup e.name = some e := by
  simp only [Items.values, List.mem_map]
  constructor
  · rintro ⟨p, hp, rfl⟩
    have hl := AList.mem_lookup_iff.mpr hp
    rwa [← hk _ _ hl] at hl
  · intro hl
    exact ⟨⟨e.name, e⟩, AList.mem_lookup_iff.mp hl, rfl⟩

/-- Entries stored under their names are distinct values. -/
theorem nodup_values {items : Items} (hk : KeysAreNames items) : items.values.Nodup := by
  refine List.Nodup.map_on (fun p hp q hq hpq => ?_) items.nodupKeys.nodup
  have hp' := hk _ _ (AList.mem_lookup_iff.mpr hp)
  have hq' := hk _ _ (AList.mem_lookup_iff.mpr hq)
  cases p; cases q
  simp only at hpq hp' hq'
  subst hpq
  rw [← hp', ← hq']

/-- A config whose handler declares a bare version, so its registration has no group. -/
def coreConfig : ExtensionConfig where
  name := "core"
  status := { handlers := [{ name := "h0", requestHook := { apiVersion := "v1alpha1", hook := "BeforeScale" } }] }

/-- `add` accepts a registration with an empty group, `Get` returns it, and `List` refuses
its group and hook. -/
theorem ungrouped_registration_not_listable :
    let S := new.run [.warmUp (some ⟨[coreConfig]⟩)]
    S.ready = true ∧ (S.get "h0").toOption.map (·.groupVersionHook.group) = some "" ∧
      (S.list ⟨"", "BeforeScale"⟩).isOk = false := by
  decide

/-- On a reachable ready registry `List` returns each registration of a non-empty group and
hook exactly once, as `Get` does, and refuses an empty group or hook. -/
theorem list_get_agree (calls : List Call) (hr : (new.run calls).ready = true) :
    let S := new.run calls
    (∀ n e, S.get n = .ok e → e.groupVersionHook.group ≠ "" → e.groupVersionHook.hook ≠ "" →
      ∃ l, S.list ⟨e.groupVersionHook.group, e.groupVersionHook.hook⟩ = .ok l ∧ l.count e = 1) ∧
    (∀ g h, g ≠ "" → h ≠ "" → ∃ l, S.list ⟨g, h⟩ = .ok l ∧ l.Nodup ∧
      ∀ e, e ∈ l ↔ S.get e.name = .ok e ∧ e.groupVersionHook.group = g ∧
        e.groupVersionHook.hook = h) ∧
    (∀ h, S.list ⟨"", h⟩ =
      .error (.errorf "invalid argument: when calling List gh.Group must not be empty" [])) ∧
    (∀ g, g ≠ "" → S.list ⟨g, ""⟩ =
      .error (.errorf "invalid argument: when calling List gh.Hook must not be empty" [])) := by
  intro S
  have hk := keysAreNames_run calls
  have hlist : ∀ g h, g ≠ "" → h ≠ "" → ∃ l, S.list ⟨g, h⟩ = .ok l ∧ l.Nodup ∧
      ∀ e, e ∈ l ↔ S.get e.name = .ok e ∧ e.groupVersionHook.group = g ∧
        e.groupVersionHook.hook = h := by
    intro g h hg hh
    refine ⟨_, list_of_ready hr hg hh, (nodup_values hk).filter _, fun e => ?_⟩
    rw [List.mem_filter, mem_values hk, get_of_ready hr, matchesGroupHook, decide_eq_true_iff]
  refine ⟨fun n e he hg hh => ?_, hlist, fun h => rfl, fun g hg => by simp [list, hg]⟩
  have hn : e.name = n := hk n e ((get_of_ready hr n e).mp he)
  obtain ⟨l, hl, hnd, hmem⟩ := hlist _ _ hg hh
  exact ⟨l, hl, List.count_eq_one_of_mem hnd ((hmem e).mpr ⟨hn ▸ he, rfl, rfl⟩)⟩

theorem list_get_agree_ext :
    (new.run [.warmUp (some ⟨[extConfig]⟩)]).ready = true ∧
      ∃ l, (new.run [.warmUp (some ⟨[extConfig]⟩)]).list ⟨"g", "BeforeScale"⟩ = .ok l ∧ l.Nodup :=
  have hr : (new.run [.warmUp (some ⟨[extConfig]⟩)]).ready = true := by decide
  have ⟨l, hl, hnd, _⟩ := (list_get_agree _ hr).2.1 "g" "BeforeScale" (by decide) (by decide)
  ⟨hr, l, hl, hnd⟩

end ExtensionRegistry

end ClusterApi.Runtime
