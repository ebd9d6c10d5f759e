import ClusterApi.RegistryRuns

/-! The postconditions of `Add`, `Remove` and `WarmUp` on reachable states, and the laws
that relate two calls for one config name. -/
namespace ClusterApi.Runtime

/-- The entries of `o` that `remove` of config name `n` leaves. -/
def keepOthers (n : String) (o : Option ExtensionRegistration) : Option ExtensionRegistration :=
  o.filter (·.extensionConfigName != n)

theorem keepOthers_some {n : String} {e : ExtensionRegistration} (h : e.extensionConfigName ≠ n) :
    keepOthers n (some e) = some e := by
  simp [keepOthers, Option.filter, h]

theorem keepOthers_some_self {n : String} {e : ExtensionRegistration}
    (h : e.extensionConfigName = n) : keepOthers n (some e) = none := by
  simp [keepOthers, Option.filter, h]

theorem keepOthers_idem (n : String) (o : Option ExtensionRegistration) :
    keepOthers n (keepOthers n o) = keepOthers n o := by
  cases o with
  | none => rfl
  | some e =>
    by_cases h : e.extensionConfigName = n
    · rw [keepOthers_some_self h]; rfl
    · rw [keepOthers_some h, keepOthers_some h]

theorem keepOthers_comm (n₁ n₂ : String) (o : Option ExtensionRegistration) :
    keepOthers n₂ (keepOthers n₁ o) = keepOthers n₁ (keepOthers n₂ o) := by
  cases o with
  | none => rfl
  | some e =>
    by_cases h₁ : e.extensionConfigName = n₁
    · rw [keepOthers_some_self h₁]
      by_cases h₂ : e.extensionConfigName = n₂
      · rw [keepOthers_some_self h₂]; rfl
      · rw [keepOthers_some h₂, keepOthers_some_self h₁]; rfl
    · rw [keepOthers_some h₁]
      by_cases h₂ : e.extensionConfigName = n₂
      · rw [keepOthers_some_self h₂]; rfl
      · rw [keepOthers_some h₂, keepOthers_some h₁]

/-- What an `add` of the config writes under `k`: its last registration of that name when
every handler parses, nothing otherwise. -/
def addedAt (c : ExtensionConfig) (k : String) : Option ExtensionRegistration :=
  if handlersParse c then lastRegistration c k else none

theorem addedAt_spec {c : ExtensionConfig} {k : String} {e : ExtensionRegistration}
    (h : addedAt c k = some e) :
    e.extensionConfigName = c.name ∧ ∃ hd ∈ c.status.handlers, hd.name = k := by
  unfold addedAt at h
  split at h
  · refine ⟨(lastRegistration_spec h).2, ?_⟩
    obtain ⟨hd, hh, -⟩ := Option.bind_eq_some.mp h
    have hm := List.mem_of_getLast?_eq_some hh
    exact ⟨hd, List.mem_of_mem_filter hm, by simpa using List.of_mem_filter hm⟩
  · cases h

theorem lookup_add_eq_or {m : Items} (h : KeysAreNames m) (c : ExtensionConfig) (k : String) :
    (m.add c).1.lookup k = (addedAt c k).or (keepOthers c.name (m.lookup k)) := by
  rw [lookup_add h, addedAt]
  split <;> rfl

theorem keepOthers_or_owned {a o : Option ExtensionRegistration} {n : String}
    (h : ∀ e, a = some e → e.extensionConfigName = n) :
    keepOthers n (a.or o) = if a.isSome then none else keepOthers n o := by
  cases a with
  | none => rfl
  | some e => exact keepOthers_some_self (h e rfl)

theorem foldl_removeStep_of_not_owned (n : String) (acc : Items) :
    ∀ l : List (Σ _ : String, ExtensionRegistration),
      (∀ p ∈ l, p.2.extensionConfigName ≠ n) → l.foldl (Items.removeStep n) acc = acc
  | [], _ => rfl
  | p :: l, h => by
    rw [List.foldl_cons, Items.removeStep, if_neg fun hc => h p (List.mem_cons_self _ _) hc.2]
    exact foldl_removeStep_of_not_owned n acc l fun q hq => h q (List.mem_cons_of_mem _ hq)

/-- After `remove` no entry is owned by the config, so a second `remove` changes nothing. -/
theorem remove_remove {m : Items} (h : KeysAreNames m) (c : ExtensionConfig) :
    (m.remove c).remove c = m.remove c := by
  refine foldl_removeStep_of_not_owned _ _ _ fun p hp ho => ?_
  have hl := AList.mem_lookup_iff.mpr hp
  rw [Items.lookup_remove h] at hl
  have hne := (Option.mem_filter_iff.mp hl).2
  simp [ho] at hne

namespace ExtensionRegistry

theorem keysAreNames_run (calls : List Call) : KeysAreNames (new.run calls).items :=
  (invariant_new_run calls).keys_are_names

theorem lookup_add_of_ready {r : ExtensionRegistry} (hr : r.ready = true)
    (hk : KeysAreNames r.items) (c : ExtensionConfig) (k : String) :
    (r.add (some c)).1.items.lookup k = (addedAt c k).or (keepOthers c.name (r.items.lookup k)) := by
  rw [add_of_ready hr, lookup_add_eq_or hk]

theorem lookup_remove_of_ready {r : ExtensionRegistry} (hr : r.ready = true)
    (hk : KeysAreNames r.items) (c : ExtensionConfig) (k : String) :
    (r.remove (some c)).1.items.lookup k = keepOthers c.name (r.items.lookup k) := by
  rw [remove_of_ready hr, Items.lookup_remove hk]; rfl

theorem add_snd_of_ready {r : ExtensionRegistry} (hr : r.ready = true) (c : ExtensionConfig) :
    (r.add (some c)).2 = if handlersParse c then .ok ()
      else .error (.aggregate (c.status.handlers.filterMap handlerError)) := by
  rw [add_of_ready hr, add_snd]

theorem handlersParse_iff (c : ExtensionConfig) :
    handlersParse c = true ↔ ∀ h ∈ c.status.handlers, h.requestHook.apiVersion.data.count '/' ≤ 1 := by
  simp [handlersParse, ← parseGroupVersion_isOk]

/-- A config that owns handler `h1` on hook `BeforeScale` of group `g`. -/
def extConfig : ExtensionConfig where
  name := "ext"
  status := { handlers := [{ name := "h1", requestHook := { apiVersion := "g/v1", hook := "BeforeScale" } }] }

/-- The same config after its handler's API version became malformed. -/
def extConfigBroken : ExtensionConfig where
  name := "ext"
  status := { handlers := [{ name := "h1", requestHook := { apiVersion := "g/v1/x", hook := "BeforeScale" } }] }

/-- A second config that declares the handler name `h1` of `extConfig`. -/
def takeoverConfig : ExtensionConfig where
  name := "other"
  status := { handlers := [{ name := "h1", requestHook := { apiVersion := "g/v1", hook := "AfterProvision" } }] }

/-- A failed `Add` is not atomic: the config's previous registration is gone. -/
theorem failed_add_drops_previous_entries :
    let S := new.run [.warmUp (some ⟨[extConfig]⟩)]
    S.ready = true ∧ (S.add (some extConfigBroken)).2.isOk = false ∧
      (S.items.lookup "h1").isSome = true ∧
      (S.add (some extConfigBroken)).1.items.lookup "h1" = none := by
  decide

/-- A failed `Add` leaves exactly what `Remove` of the same config leaves: the config's
previous entries are removed and no other entry changes. -/
theorem failed_add_is_remove (calls : List Call) (hr : (new.run calls).ready = true)
    (c : ExtensionConfig)
    (hbad : ∃ h ∈ c.status.handlers, (parseGroupVersion h.requestHook.apiVersion).isOk = false) :
    let S := new.run calls
    (S.add (some c)).2 = .error (.aggregate (c.status.handlers.filterMap handlerError)) ∧
    (S.add (some c)).1 = (S.remove (some c)).1 ∧
    ∀ k, (S.add (some c)).1.items.lookup k =
      (S.items.lookup k).filter (·.extensionConfigName != c.name) := by
  intro S
  have hp : handlersParse c = false := by
    obtain ⟨h, hm, hh⟩ := hbad
    simpa [handlersParse] using ⟨h, hm, by simpa using hh⟩
  have hadd : S.add (some c) = ({ S with items := S.items.remove c },
      .error (.aggregate (c.status.handlers.filterMap handlerError))) := by
    rw [add_of_ready hr, add_eq, if_neg (by simp [hp])]
  refine ⟨by rw [hadd], by rw [hadd, remove_of_ready hr], fun k => ?_⟩
  rw [hadd]
  exact Items.lookup_remove (keysAreNames_run calls) c k

theorem failed_add_is_remove_ext :
    (new.run [.warmUp (some ⟨[extConfig]⟩)]).ready = true ∧
      (∃ h ∈ extConfigBroken.status.handlers,
        (parseGroupVersion h.requestHook.apiVersion).isOk = false) ∧
      ((new.run [.warmUp (some ⟨[extConfig]⟩)]).add (some extConfigBroken)).1 =
        ((new.run [.warmUp (some ⟨[extConfig]⟩)]).remove (some extConfigBroken)).1 :=
  have hr : (new.run [.warmUp (some ⟨[extConfig]⟩)]).ready = true := by decide
  have hbad : ∃ h ∈ extConfigBroken.status.handlers,
      (parseGroupVersion h.requestHook.apiVersion).isOk = false := ⟨_, List.mem_singleton_self _, by decide⟩
  ⟨hr, hbad, (failed_add_is_remove _ hr extConfigBroken hbad).2.1⟩

theorem run_adds_of_ready (cs : List ExtensionConfig) :
    ∀ {r : ExtensionRegistry}, r.ready = true →
      r.run (cs.map fun c => .add (some c)) = { r with items := addAll r.items cs } := by
  induction cs with
  | nil => intro r _; rfl
  | cons c cs ih =>
    intro r hr
    rw [List.map_cons, run_cons, step, add_of_ready hr]
    exact ih hr

/-- `WarmUp` on a cold registry succeeds iff every handler parses, and then holds the `add`s of
its configs in order; otherwise nothing survives and the registry stays cold. -/
theorem warmUp_postcondition (calls : List Call) (hr : (new.run calls).ready = false)
    (l : ExtensionConfigList) :
    let S := new.run calls
    ((S.warmUp (some l)).2.isOk ↔
      ∀ c ∈ l.items, ∀ h ∈ c.status.handlers, h.requestHook.apiVersion.data.count '/' ≤ 1) ∧
    ((S.warmUp (some l)).2.isOk → (S.warmUp (some l)).1.ready = true ∧
      (S.warmUp (some l)).1.items = addAll ∅ l.items ∧
      (S.warmUp (some l)).1.items =
        (({ ready := true, items := ∅ } : ExtensionRegistry).run
          (l.items.map fun c => .add (some c))).items) ∧
    ((S.warmUp (some l)).2.isOk = false → (S.warmUp (some l)).1.ready = false ∧
      (S.warmUp (some l)).1.items = ∅ ∧
      (S.warmUp (some l)).2 = .error (.aggregate (l.items.filterMap addError)) ∧
      ∀ (gh : GroupHook) (n : String) (c : ExtensionConfig), gh.group ≠ "" → gh.hook ≠ "" →
        failsInvalidOperation ((S.warmUp (some l)).1.list gh) ∧
        failsInvalidOperation ((S.warmUp (some l)).1.get n) ∧
        failsInvalidOperation ((S.warmUp (some l)).1.add (some c)).2 ∧
        failsInvalidOperation ((S.warmUp (some l)).1.remove (some c)).2) := by
  intro S
  have hS : S.items = ∅ := (invariant_new_run calls).cold_empty hr
  have hiff : l.items.all handlersParse = true ↔
      ∀ c ∈ l.items, ∀ h ∈ c.status.handlers, h.requestHook.apiVersion.data.count '/' ≤ 1 := by
    simp only [List.all_eq_true, handlersParse_iff]
  rw [warmUp_cold hr]
  split
  · rename_i hp
    refine ⟨by simpa [Except.isOk, Except.toBool] using hiff.mp hp,
      fun _ => ⟨rfl, by rw [hS], ?_⟩, fun h => by simp [Except.isOk, Except.toBool] at h⟩
    rw [run_adds_of_ready _ rfl, hS]
  · rename_i hp
    refine ⟨by simpa [Except.isOk, Except.toBool] using mt hiff.mpr hp,
      fun h => by simp [Except.isOk, Except.toBool] at h, fun _ => ⟨rfl, rfl, rfl, ?_⟩⟩
    intro gh n c hg hh
    refine ⟨?_, ?_, ?_, ?_⟩ <;>
      simp [list, get, add, remove, hg, hh, failsInvalidOperation, GoError.isInvalidOperation]

theorem warmUp_postcondition_new :
    (new.run []).ready = false ∧
      ((new.run []).warmUp (some ⟨[extConfig]⟩)).1.items = addAll ∅ [extConfig] :=
  ⟨rfl, ((warmUp_postcondition [] rfl ⟨[extConfig]⟩).2.1 (by decide)).2.1⟩

/-- `Add` then `Remove` of one config is not `Remove` alone: the `Add` took over another
owner's entry, and the `Remove` deletes it. -/
theorem add_then_remove_drops_taken_entry :
    let S := new.run [.warmUp (some ⟨[extConfig]⟩)]
    S.ready = true ∧
      ((S.add (some takeoverConfig)).1.remove (some takeoverConfig)).1.items.lookup "h1" = none ∧
      ((S.remove (some takeoverConfig)).1.items.lookup "h1").isSome = true := by
  decide

/-- Two calls for one config name: a re-registration replaces the earlier one, `Remove` is
idempotent, and `Add` then `Remove` is `Remove` when the `Add` takes over no entry. -/
theorem readd_laws (calls : List Call) (hr : (new.run calls).ready = true)
    (c' c : ExtensionConfig) (hname : c'.name = c.name) :
    let S := new.run calls
    ((c' = c ∨ ∀ h ∈ c'.status.handlers, ∀ e, S.items.lookup h.name = some e →
        e.extensionConfigName = c.name) →
      (∀ k, ((S.add (some c')).1.add (some c)).1.items.lookup k =
        (S.add (some c)).1.items.lookup k) ∧
      ((S.add (some c')).1.add (some c)).2 = (S.add (some c)).2) ∧
    ((∀ h ∈ c'.status.handlers, ∀ e, S.items.lookup h.name = some e →
        e.extensionConfigName = c.name) →
      ∀ k, ((S.add (some c')).1.remove (some c)).1.items.lookup k =
        (S.remove (some c)).1.items.lookup k) ∧
    ((S.remove (some c)).1.remove (some c)).1 = (S.remove (some c)).1 := by
  intro S
  have hk := keysAreNames_run calls
  have hr' : (S.add (some c')).1.ready = true := by rw [add_of_ready hr]; exact hr
  have hk' : KeysAreNames (S.add (some c')).1.items := by
    rw [add_of_ready hr]; exact keysAreNames_add hk c'
  have howned : ∀ k e, addedAt c' k = some e → e.extensionConfigName = c.name :=
    fun k e he => hname ▸ (addedAt_spec he).1
  -- what the first `Add` leaves for the config's name: its own entries are removed again
  have hkeep : ∀ k, keepOthers c.name ((S.add (some c')).1.items.lookup k) =
      if (addedAt c' k).isSome then none else keepOthers c.name (S.items.lookup k) := by
    intro k
    rw [lookup_add_of_ready hr hk c', hname, keepOthers_or_owned (howned k), keepOthers_idem]
  -- a name that `c'` declares holds no other owner's entry
  have hfree : (∀ h ∈ c'.status.handlers, ∀ e, S.items.lookup h.name = some e →
      e.extensionConfigName = c.name) → ∀ k, (addedAt c' k).isSome →
      keepOthers c.name (S.items.lookup k) = none := by
    intro hfresh k hs
    obtain ⟨e', he'⟩ := Option.isSome_iff_exists.mp hs
    obtain ⟨-, hd, hmem, rfl⟩ := addedAt_spec he'
    cases he : S.items.lookup hd.name with
    | none => rfl
    | some e => exact keepOthers_some_self (hfresh hd hmem e he)
  refine ⟨fun hcase => ⟨fun k => ?_, ?_⟩, fun hfresh k => ?_, ?_⟩
  · rw [lookup_add_of_ready hr' hk' c, lookup_add_of_ready hr hk c, hkeep]
    split
    · rename_i hs
      rcases hcase with rfl | hfresh
      · obtain ⟨e', he'⟩ := Option.isSome_iff_exists.mp hs
        rw [he', Option.or_some, Option.or_some]
      · rw [hfree hfresh k hs]
    · rfl
  · rw [add_snd_of_ready hr', add_snd_of_ready hr]
  · rw [lookup_remove_of_ready hr' hk' c, lookup_remove_of_ready hr hk c, hkeep]
    split
    · rename_i hs; exact (hfree hfresh k hs).symm
    · rfl
  · rw [remove_of_ready hr, remove_of_ready (r := { S with items := S.items.remove c }) hr,
      remove_remove hk]

theorem readd_laws_ext :
    (new.run [.warmUp (some ⟨[extConfig]⟩)]).ready = true ∧ extConfig.name = extConfig.name ∧
      ((((new.run [.warmUp (some ⟨[extConfig]⟩)]).remove (some extConfig)).1.remove
        (some extConfig)).1 = ((new.run [.warmUp (some ⟨[extConfig]⟩)]).remove (some extConfig)).1) :=
  have hr : (new.run [.warmUp (some ⟨[extConfig]⟩)]).ready = true := by decide
  ⟨hr, rfl, (readd_laws _ hr extConfig extConfig rfl).2.2⟩

end ExtensionRegistry

end ClusterApi.Runtime
