import ClusterApi.RegistryLaws

/-! Calls for different config names commute, so `WarmUp` does not depend on the order of
configs that share neither a name nor a handler name. -/
namespace ClusterApi.Runtime

/-- Two owners' writes under one key, each after removing its own entries, in either
order. -/
theorem or_keepOthers_comm {a₁ a₂ o : Option ExtensionRegistration} {n₁ n₂ : String}
    (h₁ : ∀ e, a₁ = some e → e.extensionConfigName = n₁)
    (h₂ : ∀ e, a₂ = some e → e.extensionConfigName = n₂) (hne : n₁ ≠ n₂)
    (hd : a₁ = none ∨ a₂ = none) :
    a₂.or (keepOthers n₂ (a₁.or (keepOthers n₁ o))) =
      a₁.or (keepOthers n₁ (a₂.or (keepOthers n₂ o))) := by
  rcases hd with rfl | rfl
  · cases a₂ with
    | none => exact keepOthers_comm n₁ n₂ o
    | some e => exact (keepOthers_some ((h₂ e rfl).trans_ne hne.symm)).symm
  · cases a₁ with
    | none => exact keepOthers_comm n₁ n₂ o
    | some e => exact keepOthers_some ((h₁ e rfl).trans_ne hne)

/-- What a call writes under a key, besides removing its config's entries. -/
def writtenBy : Call → String → Option ExtensionRegistration
  | .add (some c), k => addedAt c k
  | _, _ => none

namespace ExtensionRegistry

variable {r : ExtensionRegistry} {c : ExtensionConfig} {o : Call}

theorem lookup_step_of_config (hr : r.ready = true) (hk : KeysAreNames r.items)
    (ho : o = .add (some c) ∨ o = .remove (some c)) (k : String) :
    (r.step o).1.items.lookup k = (writtenBy o k).or (keepOthers c.name (r.items.lookup k)) := by
  rcases ho with rfl | rfl
  · exact lookup_add_of_ready hr hk c k
  · exact lookup_remove_of_ready hr hk c k

theorem keysAreNames_step_of_config (hr : r.ready = true) (hk : KeysAreNames r.items)
    (ho : o = .add (some c) ∨ o = .remove (some c)) : KeysAreNames (r.step o).1.items := by
  rcases ho with rfl | rfl
  · rw [step, add_of_ready hr]; exact keysAreNames_add hk c
  · rw [step, remove_of_ready hr]; exact keysAreNames_remove hk c

theorem writtenBy_owner (ho : o = .add (some c) ∨ o = .remove (some c)) {k : String}
    {e : ExtensionRegistration} (he : writtenBy o k = some e) : e.extensionConfigName = c.name := by
  rcases ho with rfl | rfl
  · exact (addedAt_spec he).1
  · cases he

/-- On a ready registry the result of a call does not depend on the entries. -/
theorem step_snd_of_ready {r r' : ExtensionRegistry} (hr : r.ready = true)
    (hr' : r'.ready = true) (call : Call) : (r.step call).2 = (r'.step call).2 := by
  cases call with
  | warmUp l => cases l <;> simp [step, warmUp, hr, hr']
  | add c => cases c <;> simp [step, add, hr, hr', add_snd]
  | remove c => cases c <;> simp [step, remove, hr, hr']

end ExtensionRegistry

/-- Configs that share neither their name nor a handler name. -/
def Independent (a b : ExtensionConfig) : Prop :=
  a.name ≠ b.name ∧ ∀ ha ∈ a.status.handlers, ∀ hb ∈ b.status.handlers, ha.name ≠ hb.name

theorem Independent.symm {a b : ExtensionConfig} (h : Independent a b) : Independent b a :=
  ⟨h.1.symm, fun hb hbm ha ham hn => h.2 ha ham hb hbm hn.symm⟩

theorem addedAt_disjoint {a b : ExtensionConfig}
    (h : ∀ ha ∈ a.status.handlers, ∀ hb ∈ b.status.handlers, ha.name ≠ hb.name) (k : String) :
    addedAt a k = none ∨ addedAt b k = none := by
  cases ha : addedAt a k with
  | none => exact .inl rfl
  | some ea =>
    refine .inr (Option.eq_none_iff_forall_not_mem.mpr fun eb hb => ?_)
    obtain ⟨-, da, dam, rfl⟩ := addedAt_spec ha
    obtain ⟨-, db, dbm, hdb⟩ := addedAt_spec hb
    exact h da dam db dbm hdb.symm

theorem lookup_add_congr {m₁ m₂ : Items} (hk₁ : KeysAreNames m₁) (hk₂ : KeysAreNames m₂)
    (heq : ∀ k, m₁.lookup k = m₂.lookup k) (c : ExtensionConfig) (k : String) :
    (m₁.add c).1.lookup k = (m₂.add c).1.lookup k := by
  rw [lookup_add_eq_or hk₁, lookup_add_eq_or hk₂, heq]

/-- Adding two independent configs in either order gives the same map. -/
theorem lookup_add_add_comm {m₁ m₂ : Items} (hk₁ : KeysAreNames m₁) (hk₂ : KeysAreNames m₂)
    (heq : ∀ k, m₁.lookup k = m₂.lookup k) {a b : ExtensionConfig} (hab : Independent a b)
    (k : String) : ((m₁.add a).1.add b).1.lookup k = ((m₂.add b).1.add a).1.lookup k := by
  rw [lookup_add_eq_or (keysAreNames_add hk₁ a), lookup_add_eq_or hk₁,
    lookup_add_eq_or (keysAreNames_add hk₂ b), lookup_add_eq_or hk₂, heq]
  exact or_keepOthers_comm (fun e he => (addedAt_spec he).1) (fun e he => (addedAt_spec he).1)
    hab.1 (addedAt_disjoint hab.2 k)

theorem keysAreNames_addAll {m : Items} (hk : KeysAreNames m) :
    ∀ l : List ExtensionConfig, KeysAreNames (ExtensionRegistry.addAll m l)
  | [] => hk
  | c :: l => keysAreNames_addAll (keysAreNames_add hk c) l

theorem lookup_addAll_congr (l : List ExtensionConfig) :
    ∀ {m₁ m₂ : Items}, KeysAreNames m₁ → KeysAreNames m₂ → (∀ k, m₁.lookup k = m₂.lookup k) →
      ∀ k, (ExtensionRegistry.addAll m₁ l).lookup k = (ExtensionRegistry.addAll m₂ l).lookup k := by
  induction l with
  | nil => exact fun _ _ heq => heq
  | cons c l ih =>
    exact fun hk₁ hk₂ heq => ih (keysAreNames_add hk₁ c) (keysAreNames_add hk₂ c)
      (lookup_add_congr hk₁ hk₂ heq c)

/-- The `WarmUp` loop over a permutation of pairwise independent configs builds the same
map. -/
theorem lookup_addAll_perm {l l' : List ExtensionConfig} (hp : l.Perm l') :
    ∀ {m₁ m₂ : Items}, KeysAreNames m₁ → KeysAreNames m₂ → (∀ k, m₁.lookup k = m₂.lookup k) →
      l.Pairwise Independent →
      ∀ k, (ExtensionRegistry.addAll m₁ l).lookup k = (ExtensionRegistry.addAll m₂ l').lookup k := by
  induction hp with
  | nil => exact fun _ _ heq _ => heq
  | cons c _ ih =>
    exact fun hk₁ hk₂ heq hl => ih (keysAreNames_add hk₁ c) (keysAreNames_add hk₂ c)
      (lookup_add_congr hk₁ hk₂ heq c) hl.of_cons
  | swap a b l =>
    intro m₁ m₂ hk₁ hk₂ heq hl
    have hba : Independent b a := List.rel_of_pairwise_cons hl (List.mem_cons_self _ _)
    exact lookup_addAll_congr l (keysAreNames_add (keysAreNames_add hk₁ b) a)
      (keysAreNames_add (keysAreNames_add hk₂ a) b) (lookup_add_add_comm hk₁ hk₂ heq hba)
  | trans h₁₂ _ ih₁ ih₂ =>
    intro m₁ m₂ hk₁ hk₂ heq hl
    have hl₂ := (h₁₂.pairwise_iff Independent.symm).mp hl
    exact fun k => (ih₁ hk₁ hk₂ heq hl k).trans (ih₂ hk₂ hk₂ (fun _ => rfl) hl₂ k)

namespace ExtensionRegistry

theorem warmUp_perm {l l' : List ExtensionConfig} (hp : l.Perm l') (calls : List Call) :
    let T := new.run calls
    (T.warmUp (some ⟨l⟩)).2.isOk = (T.warmUp (some ⟨l'⟩)).2.isOk ∧
    (l.Pairwise Independent →
      ∀ k, (T.warmUp (some ⟨l⟩)).1.items.lookup k = (T.warmUp (some ⟨l'⟩)).1.items.lookup k) := by
  intro T
  cases hr : T.ready
  · have hall : l.all handlersParse = l'.all handlersParse := by
      rw [Bool.eq_iff_iff, List.all_eq_true, List.all_eq_true]
      exact ⟨fun h c hc => h c (hp.mem_iff.mpr hc), fun h c hc => h c (hp.mem_iff.mp hc)⟩
    rw [warmUp_cold hr, warmUp_cold hr, ← hall]
    split
    · have hk := keysAreNames_run calls
      exact ⟨rfl, lookup_addAll_perm hp hk hk fun _ => rfl⟩
    · exact ⟨rfl, fun _ _ => rfl⟩
  · rw [(warmUp_of_ready hr _).1, (warmUp_of_ready hr _).1, (warmUp_of_ready hr _).2,
      (warmUp_of_ready hr _).2]
    exact ⟨rfl, fun _ _ => rfl⟩

/-- Calls for two config names commute on a reachable ready registry when two `Add`s declare
no common handler name, and `WarmUp` does not depend on the order of independent configs. -/
theorem different_owners_commute (calls : List Call) (hr : (new.run calls).ready = true)
    (c₁ c₂ : ExtensionConfig) (hne : c₁.name ≠ c₂.name) (o₁ o₂ : Call)
    (ho₁ : o₁ = .add (some c₁) ∨ o₁ = .remove (some c₁))
    (ho₂ : o₂ = .add (some c₂) ∨ o₂ = .remove (some c₂))
    (hdisj : o₁ = .add (some c₁) → o₂ = .add (some c₂) →
      ∀ h₁ ∈ c₁.status.handlers, ∀ h₂ ∈ c₂.status.handlers, h₁.name ≠ h₂.name) :
    let S := new.run calls
    (∀ k, ((S.step o₁).1.step o₂).1.items.lookup k = ((S.step o₂).1.step o₁).1.items.lookup k) ∧
    ((S.step o₁).1.step o₂).2 = (S.step o₂).2 ∧ ((S.step o₂).1.step o₁).2 = (S.step o₁).2 ∧
    ∀ (calls' : List Call) (l l' : List ExtensionConfig), l.Perm l' →
      ((new.run calls').warmUp (some ⟨l⟩)).2.isOk =
        ((new.run calls').warmUp (some ⟨l'⟩)).2.isOk ∧
      (l.Pairwise Independent → ∀ k, ((new.run calls').warmUp (some ⟨l⟩)).1.items.lookup k =
        ((new.run calls').warmUp (some ⟨l'⟩)).1.items.lookup k) := by
  intro S
  have hk := keysAreNames_run calls
  have hr₁ := ready_step hr o₁
  have hr₂ := ready_step hr o₂
  have hd : ∀ k, writtenBy o₁ k = none ∨ writtenBy o₂ k = none := by
    intro k
    rcases ho₁ with rfl | rfl
    · rcases ho₂ with rfl | rfl
      · exact addedAt_disjoint (hdisj rfl rfl) k
      · exact .inr rfl
    · exact .inl rfl
  refine ⟨fun k => ?_, step_snd_of_ready hr₁ hr o₂, step_snd_of_ready hr₂ hr o₁,
    fun calls' l l' hp => warmUp_perm hp calls'⟩
  rw [lookup_step_of_config hr₁ (keysAreNames_step_of_config hr hk ho₁) ho₂,
    lookup_step_of_config hr hk ho₁,
    lookup_step_of_config hr₂ (keysAreNames_step_of_config hr hk ho₂) ho₁,
    lookup_step_of_config hr hk ho₂]
  exact or_keepOthers_comm (fun _ => writtenBy_owner ho₁) (fun _ => writtenBy_owner ho₂) hne (hd k)

theorem different_owners_commute_ext :
    (new.run [.warmUp (some ⟨[extConfig]⟩)]).ready = true ∧ extConfig.name ≠ takeoverConfig.name ∧
      (((new.run [.warmUp (some ⟨[extConfig]⟩)]).step (.remove (some extConfig))).1.step
        (.add (some takeoverConfig))).2 =
        ((new.run [.warmUp (some ⟨[extConfig]⟩)]).step (.add (some takeoverConfig))).2 :=
  have hr : (new.run [.warmUp (some ⟨[extConfig]⟩)]).ready = true := by decide
  have hne : extConfig.name ≠ takeoverConfig.name := by decide
  ⟨hr, hne, (different_owners_commute _ hr extConfig takeoverConfig hne _ _ (.inr rfl) (.inl rfl)
    fun h => by cases h).2.1⟩

end ExtensionRegistry

end ClusterApi.Runtime
