import ClusterApi.RegistryLookup

/-! What the registry is for, as an abstract model: for each config name the config it
serves. Runs from `New` refine it when configs of different names declare different handlers. -/
namespace ClusterApi.Runtime

/-- The configs a call hands to `add`. -/
def Call.added : Call → List ExtensionConfig
  | .warmUp (some l) => l.items
  | .add (some c) => [c]
  | _ => []

/-- Configs of different names never declare a handler of one name. -/
def HandlerNamesDisjoint (configs : List ExtensionConfig) : Prop :=
  ∀ c₁ ∈ configs, ∀ c₂ ∈ configs, c₁.name ≠ c₂.name →
    ∀ h₁ ∈ c₁.status.handlers, ∀ h₂ ∈ c₂.status.handlers, h₁.name ≠ h₂.name

instance (configs : List ExtensionConfig) : Decidable (HandlerNamesDisjoint configs) :=
  inferInstanceAs (Decidable (∀ c₁ ∈ configs, ∀ c₂ ∈ configs, c₁.name ≠ c₂.name →
    ∀ h₁ ∈ c₁.status.handlers, ∀ h₂ ∈ c₂.status.handlers, h₁.name ≠ h₂.name))

theorem HandlerNamesDisjoint.mono {U V : List ExtensionConfig} (hU : HandlerNamesDisjoint U)
    (h : ∀ c ∈ V, c ∈ U) : HandlerNamesDisjoint V :=
  fun c₁ h₁ c₂ h₂ => hU c₁ (h c₁ h₁) c₂ (h c₂ h₂)

/-- A config that yields a registration under `k` declares a handler named `k`. -/
theorem declares_of_lastRegistration {c : ExtensionConfig} {k : String}
    {e : ExtensionRegistration} (h : lastRegistration c k = some e) :
    ∃ hd ∈ c.status.handlers, hd.name = k := by
  obtain ⟨hd, hh, -⟩ := Option.bind_eq_some.mp h
  have hm := List.mem_of_getLast?_eq_some hh
  exact ⟨hd, List.mem_of_mem_filter hm, by simpa using List.of_mem_filter hm⟩

/-- Two configs that both yield a registration under `k` have one name. -/
theorem name_eq_of_lastRegistration {configs : List ExtensionConfig}
    (hd : HandlerNamesDisjoint configs) {c₁ c₂ : ExtensionConfig} (h₁ : c₁ ∈ configs)
    (h₂ : c₂ ∈ configs) {k : String} {e₁ e₂ : ExtensionRegistration}
    (he₁ : lastRegistration c₁ k = some e₁) (he₂ : lastRegistration c₂ k = some e₂) :
    c₁.name = c₂.name := by
  obtain ⟨d₁, hd₁, rfl⟩ := declares_of_lastRegistration he₁
  obtain ⟨d₂, hd₂, hn⟩ := declares_of_lastRegistration he₂
  by_contra hne
  exact hd c₁ h₁ c₂ h₂ hne d₁ hd₁ d₂ hd₂ hn.symm

/-- The registration a list of configs serves under `k`: the one built from the last
handler named `k` of the first config that declares one. -/
def served (owners : List ExtensionConfig) (k : String) : Option ExtensionRegistration :=
  owners.findSome? (lastRegistration · k)

theorem served_cons (c : ExtensionConfig) (owners : List ExtensionConfig) (k : String) :
    served (c :: owners) k = (lastRegistration c k).or (served owners k) := by
  cases h : lastRegistration c k <;> simp [served, List.findSome?_cons, h]

/-- Whatever is served under `k` is stored under its name, by its owner. -/
theorem served_spec {owners : List ExtensionConfig} {k : String} {e : ExtensionRegistration}
    (h : served owners k = some e) :
    ∃ o ∈ owners, lastRegistration o k = some e ∧ e.name = k ∧ e.extensionConfigName = o.name := by
  obtain ⟨o, ho, he⟩ := List.exists_of_findSome?_eq_some h
  exact ⟨o, ho, he, lastRegistration_spec he⟩

/-- Dropping the configs of one name drops exactly what they served, when no other name
declares the same handlers. -/
theorem served_filter {owners : List ExtensionConfig} (hd : HandlerNamesDisjoint owners)
    (n k : String) :
    served (owners.filter (·.name != n)) k =
      (served owners k).filter (·.extensionConfigName != n) := by
  induction owners with
  | nil => rfl
  | cons o os ih =>
    have ih := ih (hd.mono fun c hc => List.mem_cons_of_mem o hc)
    rw [List.filter_cons, served_cons]
    cases ho : lastRegistration o k with
    | none => split <;> simp [served_cons, ho, ih]
    | some e =>
      have hname := (lastRegistration_spec ho).2
      by_cases hn : o.name = n
      · -- another owner serving `k` would share the handler name with `o`
        have hrest : (served os k).filter (·.extensionConfigName != n) = none := by
          cases hs : served os k with
          | none => rfl
          | some e' =>
            obtain ⟨o', ho', he', -, hname'⟩ := served_spec hs
            have := name_eq_of_lastRegistration hd (List.mem_cons_self o os)
              (List.mem_cons_of_mem o ho') ho he'
            simp [Option.filter, hname', ← this, hn]
        simp [hn, hname, ih, hrest, Option.filter_some]
      · simp [hn, hname, served_cons, ho, ih, Option.filter]

/-- The registry as its users see it: whether warm-up has completed, and the configs whose
handlers it serves, at most one per name, each with handlers that all parse, and none
before warm-up. -/
structure OwnerMap where
  ready : Bool
  owners : List ExtensionConfig
  names_nodup : (owners.map (·.name)).Nodup
  owners_parse : ∀ c ∈ owners, handlersParse c
  cold_empty : ready = false → owners = []

namespace OwnerMap

def new : OwnerMap := ⟨false, [], List.nodup_nil, (fun _ h => nomatch h), fun _ => rfl⟩

/-- `Add` of `c` in the model: `c` replaces the config of its name, or only removes it when
one of its handlers' API versions does not parse. -/
def put (owners : List ExtensionConfig) (c : ExtensionConfig) : List ExtensionConfig :=
  if handlersParse c then c :: owners.filter (·.name != c.name)
  else owners.filter (·.name != c.name)

theorem mem_put {owners : List ExtensionConfig} {c x : ExtensionConfig} (h : x ∈ put owners c) :
    (x = c ∧ handlersParse c) ∨ x ∈ owners := by
  unfold put at h
  split at h
  · rcases List.mem_cons.mp h with rfl | h
    · exact .inl ⟨rfl, ‹_›⟩
    · exact .inr (List.mem_of_mem_filter h)
  · exact .inr (List.mem_of_mem_filter h)

theorem nodup_filter_name {owners : List ExtensionConfig} (h : (owners.map (·.name)).Nodup)
    (n : String) : ((owners.filter (·.name != n)).map (·.name)).Nodup :=
  h.sublist ((List.filter_sublist _).map _)

theorem nodup_put {owners : List ExtensionConfig} (h : (owners.map (·.name)).Nodup)
    (c : ExtensionConfig) : ((put owners c).map (·.name)).Nodup := by
  unfold put
  split
  · rw [List.map_cons, List.nodup_cons]
    exact ⟨by simp, nodup_filter_name h c.name⟩
  · exact nodup_filter_name h c.name

theorem parse_put {owners : List ExtensionConfig} (h : ∀ c ∈ owners, handlersParse c)
    (c : ExtensionConfig) : ∀ x ∈ put owners c, handlersParse x := fun x hx => by
  rcases mem_put hx with ⟨rfl, hc⟩ | hx
  · exact hc
  · exact h x hx

theorem nodup_foldl_put (l : List ExtensionConfig) :
    ∀ {owners : List ExtensionConfig}, (owners.map (·.name)).Nodup →
      ((l.foldl put owners).map (·.name)).Nodup := by
  induction l with
  | nil => exact id
  | cons c l ih => exact fun h => ih (nodup_put h c)

theorem parse_foldl_put (l : List ExtensionConfig) :
    ∀ {owners : List ExtensionConfig}, (∀ c ∈ owners, handlersParse c) →
      ∀ c ∈ l.foldl put owners, handlersParse c := by
  induction l with
  | nil => exact id
  | cons c l ih => exact fun h => ih (parse_put h c)

/-- A call in the model. `WarmUp` of a cold model takes the configs in order when all of them
parse; `Add` and `Remove` act on a ready one; everything else changes nothing. -/
def step (a : OwnerMap) : Call → OwnerMap
  | .warmUp (some l) =>
    if a.ready || !l.items.all handlersParse then a
    else ⟨true, l.items.foldl put [], nodup_foldl_put l.items List.nodup_nil,
      parse_foldl_put l.items (fun _ h => nomatch h), (fun h => nomatch h)⟩
  | .add (some c) =>
    if a.ready then ⟨true, put a.owners c, nodup_put a.names_nodup c,
      parse_put a.owners_parse c, (fun h => nomatch h)⟩
    else a
  | .remove (some c) =>
    if a.ready then ⟨true, a.owners.filter (·.name != c.name),
      nodup_filter_name a.names_nodup c.name,
      fun x hx => a.owners_parse x (List.mem_of_mem_filter hx), (fun h => nomatch h)⟩
    else a
  | _ => a

def run (a : OwnerMap) (calls : List Call) : OwnerMap := calls.foldl step a

theorem step_of_cold {a : OwnerMap} (ha : a.ready = false) {c : ExtensionConfig}
    {o : Call} (ho : o = .add (some c) ∨ o = .remove (some c)) : a.step o = a := by
  rcases ho with rfl | rfl <;> simp [step, ha]

theorem run_of_cold {a : OwnerMap} (ha : a.ready = false) :
    ∀ l : List Call, (∀ o ∈ l, ∃ c, o = .add (some c) ∨ o = .remove (some c)) → a.run l = a
  | [], _ => rfl
  | o :: l, hl => by
    obtain ⟨c, ho⟩ := hl o (List.mem_cons_self _ _)
    rw [run, List.foldl_cons, step_of_cold ha ho]
    exact run_of_cold ha l fun o' h' => hl o' (List.mem_cons_of_mem _ h')

theorem run_append (a : OwnerMap) (l₁ l₂ : List Call) :
    a.run (l₁ ++ l₂) = (a.run l₁).run l₂ :=
  List.foldl_append _ _ _ _

/-- The registration the model serves under `k`. -/
def lookup (a : OwnerMap) (k : String) : Option ExtensionRegistration := served a.owners k

/-- With one config per name and no handler name declared under two names, the model serves
every registration of every owner. -/
theorem lookup_eq_some_iff {a : OwnerMap} (hd : HandlerNamesDisjoint a.owners) (k : String)
    (e : ExtensionRegistration) :
    a.lookup k = some e ↔ ∃ o ∈ a.owners, lastRegistration o k = some e := by
  refine ⟨fun h => (served_spec h).imp fun o ⟨ho, he, _⟩ => ⟨ho, he⟩, ?_⟩
  rintro ⟨o, ho, he⟩
  cases hs : a.lookup k with
  | none => cases (List.findSome?_eq_none_iff.mp hs o ho).symm.trans he
  | some e' =>
    obtain ⟨o', ho', he', -⟩ := served_spec hs
    rw [List.inj_on_of_nodup_map a.names_nodup ho' ho
      (name_eq_of_lastRegistration hd ho' ho he' he), he] at he'
    exact he'.symm

end OwnerMap

/-- The registry refines the owner map: both are ready or neither is, they agree under every
name, and the model serves only configs of `U`. -/
structure Refines (U : List ExtensionConfig) (r : ExtensionRegistry) (a : OwnerMap) : Prop where
  ready_eq : r.ready = a.ready
  lookup_eq : ∀ k, r.items.lookup k = a.lookup k
  owners_mem : ∀ c ∈ a.owners, c ∈ U

theorem keysAreNames_of_served {m : Items} {owners : List ExtensionConfig}
    (h : ∀ k, m.lookup k = served owners k) : KeysAreNames m := by
  intro k e he
  obtain ⟨-, -, -, hk, -⟩ := served_spec ((h k).symm.trans he)
  exact hk

section
variable {m : Items} {owners : List ExtensionConfig}

theorem lookup_remove_served (hd : HandlerNamesDisjoint owners)
    (h : ∀ k, m.lookup k = served owners k) (c : ExtensionConfig) (k : String) :
    (m.remove c).lookup k = served (owners.filter (·.name != c.name)) k := by
  rw [Items.lookup_remove (keysAreNames_of_served h), h, served_filter hd]

theorem lookup_add_served (hd : HandlerNamesDisjoint owners)
    (h : ∀ k, m.lookup k = served owners k) (c : ExtensionConfig) (k : String) :
    (m.add c).1.lookup k = served (OwnerMap.put owners c) k := by
  rw [lookup_add (keysAreNames_of_served h), h, ← served_filter hd, OwnerMap.put]
  by_cases hp : handlersParse c <;> simp [hp, served_cons]

/-- The `WarmUp` loop builds what the model's loop builds, from related maps. -/
theorem lookup_addAll_served {U : List ExtensionConfig} (hU : HandlerNamesDisjoint U)
    (l : List ExtensionConfig) (hl : ∀ c ∈ l, c ∈ U) :
    ∀ {m : Items} {owners : List ExtensionConfig}, (∀ c ∈ owners, c ∈ U) →
      (∀ k, m.lookup k = served owners k) →
      (∀ c ∈ l.foldl OwnerMap.put owners, c ∈ U) ∧
        ∀ k, (ExtensionRegistry.addAll m l).lookup k = served (l.foldl OwnerMap.put owners) k := by
  induction l with
  | nil => exact fun ho h => ⟨ho, h⟩
  | cons c l ih =>
    intro m owners ho h
    have hput : ∀ x ∈ OwnerMap.put owners c, x ∈ U := fun x hx => by
      rcases OwnerMap.mem_put hx with ⟨rfl, -⟩ | hx
      · exact hl x (List.mem_cons_self _ _)
      · exact ho x hx
    exact ih (fun x hx => hl x (List.mem_cons_of_mem c hx)) hput
      (lookup_add_served (hU.mono ho) h c)

end

namespace Refines

variable {U : List ExtensionConfig} {r : ExtensionRegistry} {a : OwnerMap}

/-- One call keeps the refinement, when the configs it hands to `add` are among `U`. -/
theorem step (hU : HandlerNamesDisjoint U) (h : Refines U r a) (call : Call)
    (hc : ∀ c ∈ call.added, c ∈ U) : Refines U (r.step call).1 (a.step call) := by
  have hd : HandlerNamesDisjoint a.owners := hU.mono h.owners_mem
  cases call with
  | warmUp l =>
    cases l with
    | none => exact h
    | some l =>
      cases hr : a.ready
      · rw [ExtensionRegistry.step, ExtensionRegistry.warmUp_cold (h.ready_eq.trans hr)]
        by_cases hp : l.items.all handlersParse
        · have hcold : ∀ k, r.items.lookup k = served [] k := by
            intro k; rw [h.lookup_eq, OwnerMap.lookup, a.cold_empty hr]
          obtain ⟨hmem, hlook⟩ :=
            @lookup_addAll_served U hU l.items hc r.items [] (fun _ h => nomatch h) hcold
          simp only [if_pos hp, OwnerMap.step, hr, hp, Bool.not_true, Bool.or_self, if_false]
          exact ⟨rfl, hlook, hmem⟩
        · simp only [if_neg hp, OwnerMap.step, hr, hp, Bool.not_false, Bool.or_true, if_true]
          refine ⟨hr.symm, fun k => ?_, h.owners_mem⟩
          rw [OwnerMap.lookup, a.cold_empty hr]
          rfl
      · rw [ExtensionRegistry.step, (ExtensionRegistry.warmUp_of_ready (h.ready_eq.trans hr) _).1]
        simpa [OwnerMap.step, hr] using h
  | add c =>
    cases c with
    | none => exact h
    | some c =>
      cases hr : a.ready
      · simpa [ExtensionRegistry.step, ExtensionRegistry.add, h.ready_eq.trans hr,
          OwnerMap.step, hr] using h
      · rw [ExtensionRegistry.step, ExtensionRegistry.add_of_ready (h.ready_eq.trans hr)]
        simp only [OwnerMap.step, hr, if_true]
        refine ⟨h.ready_eq.trans hr, lookup_add_served hd h.lookup_eq c, fun x hx => ?_⟩
        rcases OwnerMap.mem_put hx with ⟨rfl, -⟩ | hx
        · exact hc x (List.mem_singleton_self x)
        · exact h.owners_mem x hx
  | remove c =>
    cases c with
    | none => exact h
    | some c =>
      cases hr : a.ready
      · simpa [ExtensionRegistry.step, ExtensionRegistry.remove, h.ready_eq.trans hr,
          OwnerMap.step, hr] using h
      · rw [ExtensionRegistry.step, ExtensionRegistry.remove_of_ready (h.ready_eq.trans hr)]
        simp only [OwnerMap.step, hr, if_true]
        exact ⟨h.ready_eq.trans hr, lookup_remove_served hd h.lookup_eq c,
          fun x hx => h.owners_mem x (List.mem_of_mem_filter hx)⟩

theorem run (hU : HandlerNamesDisjoint U) (calls : List Call) :
    ∀ {r : ExtensionRegistry} {a : OwnerMap}, Refines U r a →
      (∀ call ∈ calls, ∀ c ∈ call.added, c ∈ U) → Refines U (r.run calls) (a.run calls) := by
  induction calls with
  | nil => exact fun h _ => h
  | cons call calls ih =>
    exact fun h hc => ih (h.step hU call (hc call (List.mem_cons_self _ _)))
      fun call' h' => hc call' (List.mem_cons_of_mem _ h')

end Refines

theorem refines_new_run (calls : List Call)
    (hd : HandlerNamesDisjoint (calls.flatMap Call.added)) :
    Refines (calls.flatMap Call.added) (ExtensionRegistry.new.run calls)
      (OwnerMap.new.run calls) :=
  Refines.run hd calls ⟨rfl, fun _ => rfl, fun _ h => absurd h (List.not_mem_nil _)⟩
    fun call hcall _ hc => List.mem_flatMap.mpr ⟨call, hcall, hc⟩

/-- Along every run from `New` in which configs of different names never declare one handler
name, the registry refines the owner map. -/
theorem registry_refines_ownerMap (calls : List Call)
    (hd : HandlerNamesDisjoint (calls.flatMap Call.added)) :
    (ExtensionRegistry.new.run calls).ready = (OwnerMap.new.run calls).ready ∧
      ∀ k, (ExtensionRegistry.new.run calls).items.lookup k = (OwnerMap.new.run calls).lookup k :=
  ⟨(refines_new_run calls hd).ready_eq, (refines_new_run calls hd).lookup_eq⟩

theorem registry_refines_ownerMap_two :
    let calls := [Call.warmUp (some ⟨[ExtensionRegistry.extConfig]⟩),
      .add (some ExtensionRegistry.coreConfig)]
    HandlerNamesDisjoint (calls.flatMap Call.added) ∧
      (ExtensionRegistry.new.run calls).items.lookup "h0" = (OwnerMap.new.run calls).lookup "h0" :=
  ⟨by decide, (registry_refines_ownerMap _ (by decide)).2 "h0"⟩

/-- Without the condition: a config takes over `h1`, is removed, and the registry no longer
serves the handler the model still serves. -/
example :
    let calls := [Call.warmUp (some ⟨[ExtensionRegistry.extConfig]⟩),
      .add (some ExtensionRegistry.takeoverConfig), .remove (some ExtensionRegistry.takeoverConfig)]
    (ExtensionRegistry.new.run calls).items.lookup "h1" = none ∧
      ((OwnerMap.new.run calls).lookup "h1").isSome = true := by
  decide

/-- A config whose handlers all parse yields a registration under each of its handler names. -/
theorem lastRegistration_of_mem {c : ExtensionConfig} (hp : handlersParse c)
    {h : ExtensionHandler} (hh : h ∈ c.status.handlers) :
    ∃ e, lastRegistration c h.name = some e := by
  obtain ⟨h', hl⟩ : ∃ h', (c.status.handlers.filter (·.name == h.name)).getLast? = some h' :=
    Option.isSome_iff_exists.mp (List.getLast?_isSome.mpr
      (List.ne_nil_of_mem (List.mem_filter.mpr ⟨hh, by simp⟩)))
  have hm := List.mem_of_mem_filter (List.mem_of_getLast?_eq_some hl)
  obtain ⟨gv, -, hr⟩ := handlerRegistration_of_isOk c
    (by simpa [handlersParse] using (List.all_eq_true.mp hp) h' hm)
  exact ⟨newRegistration c h' gv, by simp [lastRegistration, hl, hr]⟩

/-- Under the same condition `Get` and `List` answer from the owner map: every handler of a
served config is reached, and nothing else. -/
theorem registry_serves_owners (calls : List Call)
    (hd : HandlerNamesDisjoint (calls.flatMap Call.added))
    (hr : (ExtensionRegistry.new.run calls).ready = true) :
    let S := ExtensionRegistry.new.run calls
    let A := OwnerMap.new.run calls
    (∀ o ∈ A.owners, ∀ h ∈ o.status.handlers,
      ∃ e, S.get h.name = .ok e ∧ lastRegistration o h.name = some e) ∧
    (∀ n, A.lookup n = none →
      S.get n = .error (.errorf "RuntimeExtension with name %q has not been registered" [n])) ∧
    (∀ g h, g ≠ "" → h ≠ "" → ∃ l, S.list ⟨g, h⟩ = .ok l ∧ l.Nodup ∧
      ∀ e, e ∈ l ↔ (∃ o ∈ A.owners, lastRegistration o e.name = some e) ∧
        e.groupVersionHook.group = g ∧ e.groupVersionHook.hook = h) := by
  intro S A
  have href := refines_new_run calls hd
  have hA : HandlerNamesDisjoint A.owners := hd.mono href.owners_mem
  have hk : KeysAreNames S.items := keysAreNames_of_served href.lookup_eq
  have hget : ∀ n e, S.get n = .ok e ↔ ∃ o ∈ A.owners, lastRegistration o n = some e :=
    fun n e => by
      rw [ExtensionRegistry.get_of_ready hr, href.lookup_eq, OwnerMap.lookup_eq_some_iff hA]
  refine ⟨fun o ho h hh => ?_, fun n hn => ?_, fun g h hg hh => ?_⟩
  · obtain ⟨e, he⟩ := lastRegistration_of_mem (A.owners_parse o ho) hh
    exact ⟨e, (hget _ e).mpr ⟨o, ho, he⟩, he⟩
  · have hl : S.items.lookup n = none := (href.lookup_eq n).trans hn
    simp [ExtensionRegistry.get, show S.ready = true from hr, hl]
  · refine ⟨_, ExtensionRegistry.list_of_ready hr hg hh,
      (ExtensionRegistry.nodup_values hk).filter _, fun e => ?_⟩
    rw [List.mem_filter, ExtensionRegistry.mem_values hk, ← ExtensionRegistry.get_of_ready hr,
      hget, matchesGroupHook, decide_eq_true_iff]

theorem registry_serves_owners_two :
    let calls := [Call.warmUp (some ⟨[ExtensionRegistry.extConfig]⟩),
      .add (some ExtensionRegistry.coreConfig)]
    HandlerNamesDisjoint (calls.flatMap Call.added) ∧
      (ExtensionRegistry.new.run calls).ready = true ∧
      ∃ l, (ExtensionRegistry.new.run calls).list ⟨"g", "BeforeScale"⟩ = .ok l ∧ l.Nodup :=
  have hd : HandlerNamesDisjoint ([Call.warmUp (some ⟨[ExtensionRegistry.extConfig]⟩),
      .add (some ExtensionRegistry.coreConfig)].flatMap Call.added) := by decide
  have hr : (ExtensionRegistry.new.run [Call.warmUp (some ⟨[ExtensionRegistry.extConfig]⟩),
      .add (some ExtensionRegistry.coreConfig)]).ready = true := by decide
  have ⟨l, hl, hnd, _⟩ :=
    (registry_serves_owners _ hd hr).2.2 "g" "BeforeScale" (by decide) (by decide)
  ⟨hd, hr, l, hl, hnd⟩

end ClusterApi.Runtime
