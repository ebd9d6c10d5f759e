import ClusterApi.RuntimeTypes

/-! The registry's map and the unexported `remove` and `add` that write it. -/
namespace ClusterApi.Runtime

/-- The registry's `items`, a Go `map[string]*ExtensionRegistration`. A `range` over the
map visits `entries` in order; Go leaves that order open, and no result below depends
on it. -/
abbrev Items := AList (fun _ : String => ExtensionRegistration)

/-- Every entry is stored under its own `Name`, as `add` stores it. -/
def KeysAreNames (items : Items) : Prop :=
  ∀ k e, items.lookup k = some e → e.name = k

/-- The registration `add` builds from one handler of a config. -/
def newRegistration (extensionConfig : ExtensionConfig) (e : ExtensionHandler)
    (gv : GroupVersion) : ExtensionRegistration where
  extensionConfigName := extensionConfig.name
  name := e.name
  groupVersionHook := { group := gv.group, version := gv.version, hook := e.requestHook.hook }
  clientConfig := extensionConfig.spec.clientConfig
  timeoutSeconds := e.timeoutSeconds
  failurePolicy := e.failurePolicy

namespace Items

/-- One iteration of `remove`: an entry still in the map and owned by the config is
deleted under its `Name`. -/
def removeStep (name : String) (acc : Items) (e : Σ _ : String, ExtensionRegistration) :
    Items :=
  if e.1 ∈ acc ∧ e.2.extensionConfigName = name then acc.erase e.2.name else acc

/-- `extensionRegistry.remove`. -/
def remove (items : Items) (extensionConfig : ExtensionConfig) : Items :=
  items.entries.foldl (removeStep extensionConfig.name) items

theorem lookup_foldl_removeStep (n k : String) :
    ∀ (l : List (Σ _ : String, ExtensionRegistration)) (acc : Items),
      l.NodupKeys → (∀ p ∈ l, p.2.name = p.1) → (∀ p ∈ l, acc.lookup p.1 = some p.2) →
      (l.foldl (removeStep n) acc).lookup k =
        if k ∈ l.keys then (acc.lookup k).filter (·.extensionConfigName != n)
        else acc.lookup k
  | [], acc, _, _, _ => by simp
  | p :: l, acc, hnd, hname, hacc => by
    rw [List.nodupKeys_cons] at hnd
    have hp : acc.lookup p.1 = some p.2 := hacc p (List.mem_cons_self _ _)
    have hstep : removeStep n acc p =
        if p.2.extensionConfigName = n then acc.erase p.1 else acc := by
      simp only [removeStep, ← AList.lookup_isSome, hp, Option.isSome_some, true_and,
        hname p (List.mem_cons_self _ _)]
    have hagree : ∀ q ∈ l, (removeStep n acc p).lookup q.1 = some q.2 := by
      intro q hq
      have hne : q.1 ≠ p.1 := fun h => hnd.1 (h ▸ List.mem_keys_of_mem hq)
      rw [hstep]
      split
      · rw [AList.lookup_erase_ne hne]; exact hacc q (List.mem_cons_of_mem _ hq)
      · exact hacc q (List.mem_cons_of_mem _ hq)
    rw [List.foldl_cons, lookup_foldl_removeStep n k l _ hnd.2
      (fun q hq => hname q (List.mem_cons_of_mem _ hq)) hagree, hstep, List.keys_cons]
    by_cases hk : k = p.1
    · subst hk
      by_cases ho : p.2.extensionConfigName = n <;> simp [hnd.1, hp, ho, Option.filter]
    · by_cases ho : p.2.extensionConfigName = n <;> simp [hk, AList.lookup_erase_ne, ho]

/-- On a map whose keys are its entries' names, `remove` deletes exactly the entries the
config owns. -/
theorem lookup_remove {items : Items} (h : KeysAreNames items) (c : ExtensionConfig)
    (k : String) :
    (items.remove c).lookup k = (items.lookup k).filter (·.extensionConfigName != c.name) := by
  have hname : ∀ p ∈ items.entries, p.2.name = p.1 :=
    fun p hp => h p.1 p.2 (AList.mem_lookup_iff.mpr hp)
  rw [remove, lookup_foldl_removeStep _ _ _ _ items.nodupKeys hname
    (fun p hp => AList.mem_lookup_iff.mpr hp)]
  split
  · rfl
  · rename_i hk
    rw [AList.lookup_eq_none.mpr hk, Option.filter_none]

/-- One iteration of the handler loop of `add`: a handler whose API version does not
parse adds a wrapped error, any other its registration. -/
def collect (extensionConfig : ExtensionConfig)
    (acc : List GoError × List ExtensionRegistration) (e : ExtensionHandler) :
    List GoError × List ExtensionRegistration :=
  match parseGroupVersion e.requestHook.apiVersion with
  | .error err =>
    (acc.1 ++ [.wrapf err "failed to parse GroupVersion %q" [e.requestHook.apiVersion]], acc.2)
  | .ok gv => (acc.1, acc.2 ++ [newRegistration extensionConfig e gv])

/-- The insertion loop of `add`: `r.items[registration.Name] = registration` in order. -/
def insertAll (items : Items) (registrations : List ExtensionRegistration) : Items :=
  registrations.foldl (fun m r => m.insert r.name r) items

/-- `extensionRegistry.add`: registrations are only added if no handler failed, but the
config's previous entries are removed first. -/
def add (items : Items) (extensionConfig : ExtensionConfig) : Items × Except GoError Unit :=
  let items := items.remove extensionConfig
  let parsed := extensionConfig.status.handlers.foldl (collect extensionConfig) ([], [])
  if parsed.1.length > 0 then (items, .error (.aggregate parsed.1))
  else (insertAll items parsed.2, .ok ())

end Items

/-- The error `add` records for a handler, if its API version does not parse. -/
def handlerError (e : ExtensionHandler) : Option GoError :=
  match parseGroupVersion e.requestHook.apiVersion with
  | .error err => some (.wrapf err "failed to parse GroupVersion %q" [e.requestHook.apiVersion])
  | .ok _ => none

/-- The registration `add` builds for a handler, if its API version parses. -/
def handlerRegistration (extensionConfig : ExtensionConfig) (e : ExtensionHandler) :
    Option ExtensionRegistration :=
  match parseGroupVersion e.requestHook.apiVersion with
  | .error _ => none
  | .ok gv => some (newRegistration extensionConfig e gv)

/-- Every handler of the config has an API version that `ParseGroupVersion` accepts. -/
def handlersParse (extensionConfig : ExtensionConfig) : Bool :=
  extensionConfig.status.handlers.all fun e => (parseGroupVersion e.requestHook.apiVersion).isOk

/-- What a successful `add` stores under `k`: the registration of the config's last
handler of that name. -/
def lastRegistration (extensionConfig : ExtensionConfig) (k : String) :
    Option ExtensionRegistration :=
  ((extensionConfig.status.handlers.filter (·.name == k)).getLast?).bind
    (handlerRegistration extensionConfig)

theorem foldl_collect (c : ExtensionConfig) (hs : List ExtensionHandler) :
    ∀ errs regs, hs.foldl (Items.collect c) (errs, regs) =
      (errs ++ hs.filterMap handlerError, regs ++ hs.filterMap (handlerRegistration c)) := by
  induction hs with
  | nil => simp
  | cons e hs ih =>
    intro errs regs
    rw [List.foldl_cons, Items.collect]
    split <;> rename_i hp <;>
      simp [ih, handlerError, handlerRegistration, hp]

theorem handlerError_eq_none {e : ExtensionHandler} :
    handlerError e = none ↔ (parseGroupVersion e.requestHook.apiVersion).isOk := by
  unfold handlerError
  split <;> simp_all [Except.isOk, Except.toBool]

theorem filterMap_handlerError_eq_nil (c : ExtensionConfig) :
    c.status.handlers.filterMap handlerError = [] ↔ handlersParse c := by
  simp [List.filterMap_eq_nil_iff, handlerError_eq_none, handlersParse]

theorem handlerRegistration_spec {c : ExtensionConfig} {e : ExtensionHandler}
    {r : ExtensionRegistration} (h : handlerRegistration c e = some r) :
    r.name = e.name ∧ r.extensionConfigName = c.name := by
  unfold handlerRegistration at h
  split at h <;> simp only [Option.some.injEq, reduceCtorEq] at h
  subst h
  exact ⟨rfl, rfl⟩

theorem handlerRegistration_of_isOk (c : ExtensionConfig) {e : ExtensionHandler}
    (h : (parseGroupVersion e.requestHook.apiVersion).isOk) :
    ∃ gv, parseGroupVersion e.requestHook.apiVersion = .ok gv ∧
      handlerRegistration c e = some (newRegistration c e gv) := by
  cases hp : parseGroupVersion e.requestHook.apiVersion with
  | error => simp [hp, Except.isOk, Except.toBool] at h
  | ok gv => exact ⟨gv, rfl, by simp [handlerRegistration, hp]⟩

theorem lastRegistration_spec {c : ExtensionConfig} {k : String} {r : ExtensionRegistration}
    (h : lastRegistration c k = some r) : r.name = k ∧ r.extensionConfigName = c.name := by
  obtain ⟨e, he, hr⟩ := Option.bind_eq_some.mp h
  have hk : e.name = k := by
    simpa using List.of_mem_filter (List.mem_of_getLast?_eq_some he)
  exact hk ▸ handlerRegistration_spec hr

theorem lookup_insertAll (m : Items) (regs : List ExtensionRegistration) (k : String) :
    (Items.insertAll m regs).lookup k = (regs.filter (·.name == k)).getLast?.or (m.lookup k) := by
  induction regs using List.reverseRecOn with
  | nil => rfl
  | append_singleton rs r ih =>
    simp only [Items.insertAll, List.foldl_append, List.foldl_cons, List.foldl_nil] at ih ⊢
    rw [List.filter_append, List.getLast?_append]
    by_cases hk : r.name = k
    · simp [hk, AList.lookup_insert]
    · simp [hk, AList.lookup_insert_ne (Ne.symm hk), ih]

/-- When every handler parses, the last registration named `k` is the one built from the
last handler named `k`. -/
theorem getLast_filter_registrations (c : ExtensionConfig) (k : String) :
    ∀ hs : List ExtensionHandler, (∀ e ∈ hs, (parseGroupVersion e.requestHook.apiVersion).isOk) →
      ((hs.filterMap (handlerRegistration c)).filter (·.name == k)).getLast? =
        ((hs.filter (·.name == k)).getLast?).bind (handlerRegistration c) := by
  intro hs
  induction hs using List.reverseRecOn with
  | nil => intro; rfl
  | append_singleton hs e ih =>
    intro hok
    obtain ⟨gv, -, hr⟩ := handlerRegistration_of_isOk c (hok e (by simp))
    have hn := (handlerRegistration_spec hr).1
    rw [List.filterMap_append, List.filter_append, List.filter_append, List.getLast?_append,
      List.getLast?_append, ih (fun e' he' => hok e' (by simp [he']))]
    by_cases hk : e.name = k <;> simp [hr, hn, hk]

theorem add_eq (items : Items) (c : ExtensionConfig) :
    items.add c =
      if handlersParse c then
        (Items.insertAll (items.remove c) (c.status.handlers.filterMap (handlerRegistration c)),
          .ok ())
      else (items.remove c, .error (.aggregate (c.status.handlers.filterMap handlerError))) := by
  have hnil := filterMap_handlerError_eq_nil c
  simp only [Items.add]
  rw [foldl_collect]
  simp only [List.nil_append, List.length_pos]
  by_cases hp : handlersParse c
  · simp [hp, hnil.mpr hp]
  · simp [hp, mt hnil.mp hp]

theorem add_snd (items : Items) (c : ExtensionConfig) :
    (items.add c).2 = if handlersParse c then .ok ()
      else .error (.aggregate (c.status.handlers.filterMap handlerError)) := by
  rw [add_eq]; split <;> rfl

/-- `add` on a map whose keys are its entries' names: the config's old entries are gone,
and on success each name it declares holds the registration of its last handler of that
name. -/
theorem lookup_add {items : Items} (h : KeysAreNames items) (c : ExtensionConfig) (k : String) :
    (items.add c).1.lookup k =
      if handlersParse c then
        (lastRegistration c k).or ((items.lookup k).filter (·.extensionConfigName != c.name))
      else (items.lookup k).filter (·.extensionConfigName != c.name) := by
  rw [add_eq]
  split
  · rename_i hp
    have hok : ∀ e ∈ c.status.handlers, (parseGroupVersion e.requestHook.apiVersion).isOk := by
      simpa [handlersParse] using hp
    rw [lookup_insertAll, getLast_filter_registrations c k _ hok, Items.lookup_remove h]
    rfl
  · exact Items.lookup_remove h c k

theorem keysAreNames_remove {items : Items} (h : KeysAreNames items) (c : ExtensionConfig) :
    KeysAreNames (items.remove c) := by
  intro k e he
  rw [Items.lookup_remove h] at he
  exact h k e (Option.filter_eq_some.mp he).1

theorem keysAreNames_add {items : Items} (h : KeysAreNames items) (c : ExtensionConfig) :
    KeysAreNames (items.add c).1 := by
  intro k e he
  rw [lookup_add h] at he
  have hold : ∀ {p}, (items.lookup k).filter p = some e → e.name = k :=
    fun hf => h k e (Option.filter_eq_some.mp hf).1
  split at he
  · rcases Option.or_eq_some.mp he with hl | ⟨-, hf⟩
    · exact (lastRegistration_spec hl).1
    · exact hold hf
  · exact hold he

end ClusterApi.Runtime
