import ClusterApi.Reconciler
import ClusterApi.RegistryRefinement

/-! A `Reconcile` on a ready registry makes at most one registry call, fixed by what the world
answers; retries, replays and reorderings of reconciles follow from that. -/
namespace ClusterApi.Runtime

namespace Reconciler

/-- The registry call a `Reconcile` on a ready registry makes: `Remove` of a config gone or
marked deleted, `Add` of the discovered config when every step before succeeds, or none. -/
def registryCall (env : Env) (client : Client) (req : NamespacedName) : Option Call :=
  match env.get req.name with
  | .error _ => none
  | .ok none => some (.remove (some { name := req.name }))
  | .ok (some original) =>
    match env.ensurePausedCondition original with
    | .error _ => none
    | .ok (c, isPaused, requeue) =>
      if isPaused || requeue then none
      else if c.deletionTimestamp.isSome then some (.remove (some c))
      else
        match (reconcileCABundle client c).2 with
        | .error _ => none
        | .ok c' =>
          let d := discoverExtensionConfig env.discover c'
          if d.2.isNone && (env.patch original d.1).isNone then some (.add (some d.1)) else none

/-- The registry after a `Reconcile` on a ready registry is the registry after its call. -/
theorem registry_reconcile_eq {env : Env} {r : Reconciler} (hr : r.registry.ready = true)
    (req : NamespacedName) :
    (r.reconcile env req).1.registry =
      (registryCall env r.client req).elim r.registry fun call => (r.registry.step call).1 := by
  unfold reconcile registryCall
  simp only [ExtensionRegistry.isReady, hr, Bool.not_true, Bool.false_eq_true, if_false]
  rcases env.get req.name with err | _ | original
  · rfl
  · exact reconcileDelete_registry r _
  · dsimp only
    rcases env.ensurePausedCondition original with err | ⟨c, isPaused, requeue⟩
    · rfl
    · dsimp only
      split
      · rfl
      · split
        · exact reconcileDelete_registry r c
        · rw [reconcileMutation_eq]
          rcases reconcileCABundle r.client c with ⟨client, err | c'⟩
          · rfl
          · dsimp only
            rcases hd : discoverExtensionConfig env.discover c' with ⟨d, _ | e⟩ <;>
              rcases hp : env.patch original d with _ | e' <;>
              simp only [hp, fst_match_register, Option.isNone_none, Option.isNone_some,
                Bool.and_true, Bool.and_false, if_true, if_false, Option.elim, register,
                Bool.false_eq_true]
            rfl

/-- The call is an `Add` or a `Remove` of one config. -/
theorem registryCall_config {env : Env} {client : Client} {req : NamespacedName} {call : Call}
    (h : registryCall env client req = some call) :
    ∃ c, call = .add (some c) ∨ call = .remove (some c) := by
  unfold registryCall at h
  split at h
  · cases h
  · exact ⟨_, .inr (Option.some.inj h).symm⟩
  · split at h
    · cases h
    · split at h
      · cases h
      · split at h
        · exact ⟨_, .inr (Option.some.inj h).symm⟩
        · split at h
          · cases h
          · dsimp only at h
            split at h
            · exact ⟨_, .inl (Option.some.inj h).symm⟩
            · cases h

/-- The call depends on the secret reader only through the API server's answers. -/
theorem registryCall_congr (env : Env) {client client' : Client}
    (h : client.getSecret = client'.getSecret) (req : NamespacedName) :
    registryCall env client req = registryCall env client' req := by
  simp only [registryCall, reconcileCABundle_snd_congr h]

theorem reconcileDelete_client (r : Reconciler) (c : ExtensionConfig) :
    (r.reconcileDelete c).1.client = r.client := by
  unfold reconcileDelete
  split <;> rename_i h <;> exact (congrArg (·.1.client) h).symm

/-- A `Reconcile` reads secrets through the same API server: its answers stay. -/
theorem reconcile_getSecret (env : Env) (r : Reconciler) (req : NamespacedName) :
    (r.reconcile env req).1.client.getSecret = r.client.getSecret := by
  unfold reconcile
  split
  · rfl
  · rcases env.get req.name with err | _ | original
    · rfl
    · exact congrArg Client.getSecret (reconcileDelete_client r _)
    · dsimp only
      rcases env.ensurePausedCondition original with err | ⟨c, isPaused, requeue⟩
      · rfl
      · dsimp only
        split
        · rfl
        · split
          · exact congrArg Client.getSecret (reconcileDelete_client r c)
          · rw [reconcileMutation_eq, ← reconcileCABundle_getSecret r.client c]
            rcases reconcileCABundle r.client c with ⟨client, err | c'⟩
            · rfl
            · dsimp only
              rcases (discoverExtensionConfig env.discover c').2 with _ | e <;>
                rcases env.patch original (discoverExtensionConfig env.discover c').1 with _ | e' <;>
                simp only [fst_match_register, register]

theorem reconcile_ready {env : Env} {r : Reconciler} (hr : r.registry.ready = true)
    (req : NamespacedName) : (r.reconcile env req).1.registry.ready = true := by
  rw [registry_reconcile_eq hr]
  cases registryCall env r.client req with
  | none => exact hr
  | some call => exact ExtensionRegistry.ready_step hr call

/-- A `Reconcile` on a registry that is not ready asks to be requeued and changes nothing. -/
theorem reconcile_of_cold {env : Env} {r : Reconciler} (hr : r.registry.ready = false)
    (req : NamespacedName) : r.reconcile env req = (r, .ok { requeue := true }) := by
  simp [reconcile, ExtensionRegistry.isReady, hr]

/-- On ready registries the pipeline returns the same result whatever their entries and the
secrets read before. -/
theorem reconcileMutation_snd_congr {env : Env} {r r' : Reconciler}
    (hr : r.registry.ready = true) (hr' : r'.registry.ready = true)
    (hs : r.client.getSecret = r'.client.getSecret) (req : NamespacedName)
    (original c : ExtensionConfig) :
    (r.reconcileMutation env req original c).2 = (r'.reconcileMutation env req original c).2 := by
  have hca := reconcileCABundle_snd_congr hs c
  rw [reconcileMutation_eq, reconcileMutation_eq]
  rcases h₁ : reconcileCABundle r.client c with ⟨cl₁, e₁ | c₁⟩ <;>
    rcases h₂ : reconcileCABundle r'.client c with ⟨cl₂, e₂ | c₂⟩ <;>
    rw [h₁, h₂] at hca <;> cases hca
  · rfl
  · dsimp only
    rcases (discoverExtensionConfig env.discover c₁).2 with _ | e <;>
      rcases env.patch original (discoverExtensionConfig env.discover c₁).1 with _ | e' <;>
      try rfl
    -- both register the same config, whose `Add` fails or not whatever the entries
    simp only [register, ExtensionRegistry.add_snd_of_ready hr,
      ExtensionRegistry.add_snd_of_ready hr']
    cases handlersParse (discoverExtensionConfig env.discover c₁).1 <;> rfl

/-- The result of a `Reconcile` depends on what the world answers and on whether the registry
is ready, not on its entries or on the secrets read before. -/
theorem reconcile_snd_congr {env : Env} {r r' : Reconciler}
    (hr : r.registry.ready = r'.registry.ready) (hs : r.client.getSecret = r'.client.getSecret)
    (req : NamespacedName) : (r.reconcile env req).2 = (r'.reconcile env req).2 := by
  unfold reconcile
  cases h : r.registry.ready
  · simp [ExtensionRegistry.isReady, h, ← hr]
  · have h' : r'.registry.ready = true := hr ▸ h
    simp only [ExtensionRegistry.isReady, h, h', Bool.not_true, Bool.false_eq_true, if_false]
    rcases env.get req.name with err | _ | original
    · rfl
    · rw [reconcileDelete_of_ready h, reconcileDelete_of_ready h']
    · dsimp only
      rcases env.ensurePausedCondition original with err | ⟨c, isPaused, requeue⟩
      · rfl
      · dsimp only
        split
        · rfl
        · split
          · rw [reconcileDelete_of_ready h, reconcileDelete_of_ready h']
          · exact reconcileMutation_snd_congr h h' hs req original c

end Reconciler

namespace ExtensionRegistry

/-- An `Add` or a `Remove` made twice serves what it served once. -/
theorem lookup_step_step {r : ExtensionRegistry} {c : ExtensionConfig} {o : Call}
    (hr : r.ready = true) (hk : KeysAreNames r.items)
    (ho : o = .add (some c) ∨ o = .remove (some c)) (k : String) :
    ((r.step o).1.step o).1.items.lookup k = (r.step o).1.items.lookup k := by
  rw [lookup_step_of_config (ready_step hr o) (keysAreNames_step_of_config hr hk ho) ho,
    lookup_step_of_config hr hk ho]
  cases writtenBy o k with
  | none => exact keepOthers_idem c.name _
  | some e => rfl

end ExtensionRegistry

namespace Reconciler

/-- A `Reconcile` retried with the same answers from the world returns what the first returned
and leaves the registry serving what the first left. -/
theorem reconcile_retry (env : Env) (r : Reconciler) (req : NamespacedName)
    (hk : KeysAreNames r.registry.items) :
    let r₁ := (r.reconcile env req).1
    (r₁.reconcile env req).2 = (r.reconcile env req).2 ∧
      (r₁.reconcile env req).1.registry.ready = r₁.registry.ready ∧
      ∀ k, (r₁.reconcile env req).1.registry.items.lookup k = r₁.registry.items.lookup k := by
  intro r₁
  cases hr : r.registry.ready
  · simp [r₁, reconcile_of_cold hr]
  · have hr₁ : r₁.registry.ready = true := reconcile_ready hr req
    have hs : r₁.client.getSecret = r.client.getSecret := reconcile_getSecret env r req
    refine ⟨reconcile_snd_congr (hr₁.trans hr.symm) hs req, reconcile_ready hr₁ req ▸ hr₁.symm, ?_⟩
    have hreg₁ : r₁.registry = (registryCall env r.client req).elim r.registry
        fun call => (r.registry.step call).1 := registry_reconcile_eq hr req
    rw [registry_reconcile_eq hr₁, registryCall_congr env hs, hreg₁]
    cases hc : registryCall env r.client req with
    | none => exact fun _ => rfl
    | some call =>
      obtain ⟨c, hcall⟩ := registryCall_config hc
      exact ExtensionRegistry.lookup_step_step hr hk hcall

theorem reconcile_retry_echo :
    KeysAreNames readyReconciler.registry.items ∧
      ((readyReconciler.reconcile echoEnv { name := "ext" }).1.reconcile echoEnv
        { name := "ext" }).2 = (readyReconciler.reconcile echoEnv { name := "ext" }).2 :=
  have hk : KeysAreNames readyReconciler.registry.items :=
    (ExtensionRegistry.invariant_new_run _).keys_are_names
  ⟨hk, (reconcile_retry echoEnv readyReconciler { name := "ext" } hk).1⟩

/-- Two registry calls, if made, for different config names, of which two `Add`s declare no
common handler name. -/
def CallsDisjoint (o₁ o₂ : Option Call) : Prop :=
  ∀ c₁ c₂, (o₁ = some (.add (some c₁)) ∨ o₁ = some (.remove (some c₁))) →
    (o₂ = some (.add (some c₂)) ∨ o₂ = some (.remove (some c₂))) →
    c₁.name ≠ c₂.name ∧ (o₁ = some (.add (some c₁)) → o₂ = some (.add (some c₂)) →
      ∀ h₁ ∈ c₁.status.handlers, ∀ h₂ ∈ c₂.status.handlers, h₁.name ≠ h₂.name)

theorem CallsDisjoint.symm {o₁ o₂ : Option Call} (h : CallsDisjoint o₁ o₂) : CallsDisjoint o₂ o₁ :=
  fun c₂ c₁ h₂ h₁ => ⟨(h c₁ c₂ h₁ h₂).1.symm,
    fun a₂ a₁ x₂ hx₂ x₁ hx₁ hn => (h c₁ c₂ h₁ h₂).2 a₁ a₂ x₁ hx₁ x₂ hx₂ hn.symm⟩

end Reconciler

/-- What a ready registry serves after a call: `Add` and `Remove` drop their config's entries,
an accepted `Add` writes its own, and every other call changes nothing. -/
def Call.serve : Call → (String → Option ExtensionRegistration) → String →
    Option ExtensionRegistration
  | .add (some c), f, k => (addedAt c k).or (keepOthers c.name (f k))
  | .remove (some c), f, k => keepOthers c.name (f k)
  | _, f, k => f k

namespace Call

theorem serve_of_config {o : Call} {c : ExtensionConfig}
    (ho : o = .add (some c) ∨ o = .remove (some c)) (f : String → Option ExtensionRegistration)
    (k : String) : o.serve f k = (writtenBy o k).or (keepOthers c.name (f k)) := by
  rcases ho with rfl | rfl <;> rfl

theorem serve_of_not_config {o : Call} (ho : ¬∃ c, o = .add (some c) ∨ o = .remove (some c))
    (f : String → Option ExtensionRegistration) : o.serve f = f :=
  match o, ho with
  | .warmUp _, _ | .add none, _ | .remove none, _ => rfl
  | .add (some c), ho | .remove (some c), ho => (ho ⟨c, by simp⟩).elim

/-- Calls for different configs, of which two `Add`s declare no common handler name, serve the
same in either order. -/
theorem serve_comm {o₁ o₂ : Call} (hd : Reconciler.CallsDisjoint (some o₁) (some o₂))
    (f : String → Option ExtensionRegistration) :
    o₂.serve (o₁.serve f) = o₁.serve (o₂.serve f) := by
  by_cases h₁ : ∃ c, o₁ = .add (some c) ∨ o₁ = .remove (some c)
  · by_cases h₂ : ∃ c, o₂ = .add (some c) ∨ o₂ = .remove (some c)
    · obtain ⟨c₁, ho₁⟩ := h₁
      obtain ⟨c₂, ho₂⟩ := h₂
      have hsep := hd c₁ c₂ (ho₁.imp (congrArg some) (congrArg some))
        (ho₂.imp (congrArg some) (congrArg some))
      have hw (k : String) : writtenBy o₁ k = none ∨ writtenBy o₂ k = none := by
        rcases ho₁ with rfl | rfl
        · rcases ho₂ with rfl | rfl
          · exact addedAt_disjoint (hsep.2 rfl rfl) k
          · exact .inr rfl
        · exact .inl rfl
      funext k
      simp only [serve_of_config ho₁, serve_of_config ho₂]
      exact or_keepOthers_comm (fun _ => ExtensionRegistry.writtenBy_owner ho₁)
        (fun _ => ExtensionRegistry.writtenBy_owner ho₂) hsep.1 (hw k)
    · simp only [serve_of_not_config h₂]
  · simp only [serve_of_not_config h₁]

/-- What a call does to the entry under one name, from that entry alone. -/
def act (o : Call) (k : String) (v : Option ExtensionRegistration) : Option ExtensionRegistration :=
  o.serve (fun _ => v) k

theorem serve_eq_act (o : Call) (f : String → Option ExtensionRegistration) (k : String) :
    o.serve f k = o.act k (f k) := by
  rcases o with l | (_ | c) | (_ | c) <;> rfl

theorem foldl_serve_apply (l : List Call) (f : String → Option ExtensionRegistration)
    (k : String) : l.foldl (fun f o => o.serve f) f k = l.foldl (fun v o => o.act k v) (f k) := by
  induction l generalizing f with
  | nil => rfl
  | cons o l ih => rw [List.foldl_cons, List.foldl_cons, ih, serve_eq_act]

/-- A change of the entry under one name that sets it to one value whatever it was, or keeps
it only when it passes a test. -/
def Settles (φ : Option ExtensionRegistration → Option ExtensionRegistration) : Prop :=
  (∃ c, ∀ v, φ v = c) ∨ ∃ P : ExtensionRegistration → Bool, ∀ v, φ v = v.filter P

theorem Settles.idem {φ : Option ExtensionRegistration → Option ExtensionRegistration}
    (h : Settles φ) (v : Option ExtensionRegistration) : φ (φ v) = φ v := by
  rcases h with ⟨c, hc⟩ | ⟨P, hP⟩
  · simp only [hc]
  · simp only [hP]
    cases v with
    | none => rfl
    | some e => by_cases he : P e <;> simp [Option.filter, he]

/-- A call after a settling change settles: an `Add` that writes the name sets it, and an `Add`
or `Remove` that does not adds its owner to the test. -/
theorem Settles.act {φ : Option ExtensionRegistration → Option ExtensionRegistration}
    (h : Settles φ) (o : Call) (k : String) : Settles fun v => o.act k (φ v) := by
  by_cases ho : ∃ c, o = .add (some c) ∨ o = .remove (some c)
  · obtain ⟨c, ho⟩ := ho
    have hact (v : Option ExtensionRegistration) :
        o.act k v = (writtenBy o k).or (keepOthers c.name v) := serve_of_config ho _ k
    cases hw : writtenBy o k with
    | some e => exact .inl ⟨some e, fun v => by dsimp only; rw [hact, hw]; rfl⟩
    | none =>
      simp only [hact, hw, Option.none_or]
      rcases h with ⟨c₀, hc⟩ | ⟨P, hP⟩
      · exact .inl ⟨keepOthers c.name c₀, fun v => by dsimp only; rw [hc]⟩
      · refine .inr ⟨fun e => P e && e.extensionConfigName != c.name, fun v => ?_⟩
        dsimp only
        rw [hP]
        cases v with
        | none => rfl
        | some e => by_cases he : P e <;> simp [keepOthers, Option.filter, he]
  · have hid (v : Option ExtensionRegistration) : o.act k v = v :=
      congrFun (serve_of_not_config ho _) k
    simpa only [hid] using h

theorem settles_foldl_act (l : List Call) (k : String) :
    ∀ {φ : Option ExtensionRegistration → Option ExtensionRegistration}, Settles φ →
      Settles fun v => l.foldl (fun v o => o.act k v) (φ v) := by
  induction l with
  | nil => exact id
  | cons o l ih => exact fun h => ih (h.act o k)

/-- Serving a run of calls twice serves what serving it once does. -/
theorem foldl_serve_twice (l : List Call) (f : String → Option ExtensionRegistration) :
    l.foldl (fun f o => o.serve f) (l.foldl (fun f o => o.serve f) f) =
      l.foldl (fun f o => o.serve f) f := by
  funext k
  have hid : Settles id := .inr ⟨fun _ => true, fun v => by cases v <;> rfl⟩
  simp only [foldl_serve_apply]
  exact (@settles_foldl_act l k id hid).idem (f k)

end Call

namespace ExtensionRegistry

theorem step_fst_of_not_config {r : ExtensionRegistry} (hr : r.ready = true) {o : Call}
    (ho : ¬∃ c, o = .add (some c) ∨ o = .remove (some c)) : (r.step o).1 = r :=
  match o, ho with
  | .warmUp l, _ => (warmUp_of_ready hr l).1
  | .add none, _ | .remove none, _ => rfl
  | .add (some c), ho | .remove (some c), ho => (ho ⟨c, by simp⟩).elim

theorem keysAreNames_step_of_ready {r : ExtensionRegistry} (hr : r.ready = true)
    (hk : KeysAreNames r.items) (o : Call) : KeysAreNames (r.step o).1.items := by
  by_cases ho : ∃ c, o = .add (some c) ∨ o = .remove (some c)
  · obtain ⟨c, ho⟩ := ho
    exact keysAreNames_step_of_config hr hk ho
  · rwa [step_fst_of_not_config hr ho]

theorem lookup_step_serve {r : ExtensionRegistry} (hr : r.ready = true) (hk : KeysAreNames r.items)
    (o : Call) (k : String) :
    (r.step o).1.items.lookup k = o.serve (fun k => r.items.lookup k) k := by
  by_cases ho : ∃ c, o = .add (some c) ∨ o = .remove (some c)
  · obtain ⟨c, ho⟩ := ho
    rw [lookup_step_of_config hr hk ho, Call.serve_of_config ho]
  · rw [step_fst_of_not_config hr ho, Call.serve_of_not_config ho]

/-- What a ready registry whose entries sit under their names serves after a run of calls. -/
theorem lookup_run_serve (calls : List Call) :
    ∀ {r : ExtensionRegistry}, r.ready = true → KeysAreNames r.items → ∀ k,
      (r.run calls).items.lookup k =
        calls.foldl (fun f o => o.serve f) (fun k => r.items.lookup k) k := by
  induction calls with
  | nil => exact fun _ _ _ => rfl
  | cons o calls ih =>
    intro r hr hk k
    have hstep : (fun k => (r.step o).1.items.lookup k) = o.serve fun k => r.items.lookup k :=
      funext (lookup_step_serve hr hk o)
    rw [run_cons, ih (ready_step hr o) (keysAreNames_step_of_ready hr hk o), hstep]
    rfl

theorem run_append (r : ExtensionRegistry) (l₁ l₂ : List Call) :
    r.run (l₁ ++ l₂) = (r.run l₁).run l₂ :=
  List.foldl_append _ _ _ _

end ExtensionRegistry

namespace Reconciler

/-- Two reconciles whose registry calls are disjoint commute: each returns the same result
whichever runs first, and the registry ends serving the same entries. -/
theorem reconcile_comm (env₁ env₂ : Env) (r : Reconciler) (req₁ req₂ : NamespacedName)
    (hk : KeysAreNames r.registry.items)
    (hd : CallsDisjoint (registryCall env₁ r.client req₁) (registryCall env₂ r.client req₂)) :
    let r₁₂ := (r.reconcile env₁ req₁).1.reconcile env₂ req₂
    let r₂₁ := (r.reconcile env₂ req₂).1.reconcile env₁ req₁
    r₁₂.2 = (r.reconcile env₂ req₂).2 ∧ r₂₁.2 = (r.reconcile env₁ req₁).2 ∧
      r₁₂.1.registry.ready = r₂₁.1.registry.ready ∧
      ∀ k, r₁₂.1.registry.items.lookup k = r₂₁.1.registry.items.lookup k := by
  intro r₁₂ r₂₁
  cases hr : r.registry.ready
  · simp [r₁₂, r₂₁, reconcile_of_cold hr]
  · have hr₁ := @reconcile_ready env₁ r hr req₁
    have hr₂ := @reconcile_ready env₂ r hr req₂
    have hs₁ := reconcile_getSecret env₁ r req₁
    have hs₂ := reconcile_getSecret env₂ r req₂
    refine ⟨reconcile_snd_congr (hr₁.trans hr.symm) hs₁ req₂,
      reconcile_snd_congr (hr₂.trans hr.symm) hs₂ req₁,
      (reconcile_ready hr₁ req₂).trans (reconcile_ready hr₂ req₁).symm, fun k => ?_⟩
    simp only [r₁₂, r₂₁]
    rw [registry_reconcile_eq hr₁, registry_reconcile_eq hr₂, registryCall_congr env₂ hs₁,
      registryCall_congr env₁ hs₂, registry_reconcile_eq hr, registry_reconcile_eq hr]
    cases h₁ : registryCall env₁ r.client req₁ with
    | none => rfl
    | some o₁ =>
      cases h₂ : registryCall env₂ r.client req₂ with
      | none => rfl
      | some o₂ =>
        rw [h₁, h₂] at hd
        calc ((r.registry.step o₁).1.step o₂).1.items.lookup k
            = o₂.serve (o₁.serve fun k => r.registry.items.lookup k) k :=
              ExtensionRegistry.lookup_run_serve [o₁, o₂] hr hk k
          _ = o₁.serve (o₂.serve fun k => r.registry.items.lookup k) k :=
              congrFun (Call.serve_comm hd _) k
          _ = ((r.registry.step o₂).1.step o₁).1.items.lookup k :=
              (ExtensionRegistry.lookup_run_serve [o₂, o₁] hr hk k).symm

theorem registryCall_echo (n : String) :
    registryCall echoEnv readyReconciler.client { name := n } =
      some (.add (some (discoverExtensionConfig echoEnv.discover { name := n }).1)) :=
  rfl

theorem callsDisjoint_echo {n₁ n₂ : String} (hne : n₁ ≠ n₂) :
    CallsDisjoint (registryCall echoEnv readyReconciler.client { name := n₁ })
      (registryCall echoEnv readyReconciler.client { name := n₂ }) := by
  intro c₁ c₂ h₁ h₂
  rw [registryCall_echo] at h₁ h₂
  rcases h₁ with h₁ | h₁ <;> rcases h₂ with h₂ | h₂ <;>
    simp only [Option.some.injEq, Call.add.injEq, Call.remove.injEq, reduceCtorEq] at h₁ h₂
  subst h₁ h₂
  exact ⟨hne, fun _ _ _ h => absurd h (List.not_mem_nil _)⟩

theorem reconcile_comm_echo :
    KeysAreNames readyReconciler.registry.items ∧
      CallsDisjoint (registryCall echoEnv readyReconciler.client { name := "a" })
        (registryCall echoEnv readyReconciler.client { name := "b" }) ∧
      ∀ k, ((readyReconciler.reconcile echoEnv { name := "a" }).1.reconcile echoEnv
        { name := "b" }).1.registry.items.lookup k =
        ((readyReconciler.reconcile echoEnv { name := "b" }).1.reconcile echoEnv
          { name := "a" }).1.registry.items.lookup k :=
  have hk : KeysAreNames readyReconciler.registry.items :=
    (ExtensionRegistry.invariant_new_run _).keys_are_names
  have hd : CallsDisjoint (registryCall echoEnv readyReconciler.client { name := "a" })
      (registryCall echoEnv readyReconciler.client { name := "b" }) :=
    callsDisjoint_echo (by decide)
  ⟨hk, hd,
    (reconcile_comm echoEnv echoEnv readyReconciler { name := "a" } { name := "b" } hk hd).2.2.2⟩

/-- The registry calls a run of reconciles makes, at most one per reconcile. -/
def calls (r : Reconciler) (steps : List (Env × NamespacedName)) : List Call :=
  steps.flatMap fun step => (registryCall step.1 r.client step.2).toList

theorem calls_congr {r r' : Reconciler} (h : r.client.getSecret = r'.client.getSecret)
    (steps : List (Env × NamespacedName)) : r.calls steps = r'.calls steps := by
  simp only [calls, registryCall_congr _ h]

theorem calls_cons (r : Reconciler) (step : Env × NamespacedName)
    (steps : List (Env × NamespacedName)) :
    r.calls (step :: steps) = (registryCall step.1 r.client step.2).toList ++ r.calls steps :=
  rfl

/-- Every call a run of reconciles makes is an `Add` or a `Remove` of one config. -/
theorem calls_config {r : Reconciler} {steps : List (Env × NamespacedName)} {o : Call}
    (h : o ∈ r.calls steps) : ∃ c, o = .add (some c) ∨ o = .remove (some c) := by
  obtain ⟨step, -, ho⟩ := List.mem_flatMap.mp h
  exact registryCall_config (Option.mem_toList.mp ho)

theorem reconcileRun_of_cold {r : Reconciler} (hr : r.registry.ready = false) :
    ∀ steps : List (Env × NamespacedName), r.reconcileRun steps = r
  | [] => rfl
  | step :: steps => by
    simp only [reconcileRun, List.foldl_cons, reconcile_of_cold hr]
    exact reconcileRun_of_cold hr steps

/-- On a ready registry a run of reconciles leaves the registry as the run of the registry
calls they make. -/
theorem registry_reconcileRun_eq (steps : List (Env × NamespacedName)) :
    ∀ {r : Reconciler}, r.registry.ready = true →
      (r.reconcileRun steps).registry = r.registry.run (r.calls steps) := by
  induction steps with
  | nil => exact fun _ => rfl
  | cons step steps ih =>
    intro r hr
    have hstep : (r.reconcile step.1 step.2).1.registry =
        r.registry.run (registryCall step.1 r.client step.2).toList := by
      rw [registry_reconcile_eq hr]
      cases registryCall step.1 r.client step.2 <;> rfl
    rw [calls_cons, ExtensionRegistry.run_append, ← hstep,
      ← calls_congr (reconcile_getSecret step.1 r step.2) steps]
    exact ih (reconcile_ready hr step.2)

/-- A run of reconciles leaves the registry serving the same entries in whichever order the
work queue hands them over, when their registry calls are pairwise disjoint. -/
theorem reconcileRun_perm (r : Reconciler) (hk : KeysAreNames r.registry.items)
    {steps steps' : List (Env × NamespacedName)} (hp : steps.Perm steps')
    (hd : (r.calls steps).Pairwise fun o₁ o₂ => CallsDisjoint (some o₁) (some o₂)) :
    (r.reconcileRun steps).registry.ready = (r.reconcileRun steps').registry.ready ∧
      ∀ k, (r.reconcileRun steps).registry.items.lookup k =
        (r.reconcileRun steps').registry.items.lookup k := by
  cases hr : r.registry.ready
  · simp [reconcileRun_of_cold hr]
  · have comm : ∀ o₁ ∈ r.calls steps, ∀ o₂ ∈ r.calls steps,
        ∀ f : String → Option ExtensionRegistration,
          o₂.serve (o₁.serve f) = o₁.serve (o₂.serve f) := by
      intro o₁ h₁ o₂ h₂ f
      by_cases ho : o₁ = o₂
      · rw [ho]
      · exact Call.serve_comm (hd.forall (fun _ _ h => h.symm) h₁ h₂ ho) f
    rw [registry_reconcileRun_eq steps hr, registry_reconcileRun_eq steps' hr]
    refine ⟨(ExtensionRegistry.ready_run _ hr).trans (ExtensionRegistry.ready_run _ hr).symm,
      fun k => ?_⟩
    rw [ExtensionRegistry.lookup_run_serve _ hr hk, ExtensionRegistry.lookup_run_serve _ hr hk]
    exact congrFun ((hp.flatMap_right _).foldl_eq' comm _) k

/-- Replaying a run of reconciles with the same answers, as after a resync, leaves the
registry serving what the first pass left. -/
theorem reconcileRun_replay (r : Reconciler) (hk : KeysAreNames r.registry.items)
    (steps : List (Env × NamespacedName)) :
    (r.reconcileRun (steps ++ steps)).registry.ready = (r.reconcileRun steps).registry.ready ∧
      ∀ k, (r.reconcileRun (steps ++ steps)).registry.items.lookup k =
        (r.reconcileRun steps).registry.items.lookup k := by
  cases hr : r.registry.ready
  · simp [reconcileRun_of_cold hr]
  · have hcalls : r.calls (steps ++ steps) = r.calls steps ++ r.calls steps :=
      List.flatMap_append _ _ _
    rw [registry_reconcileRun_eq _ hr, registry_reconcileRun_eq _ hr, hcalls]
    refine ⟨(ExtensionRegistry.ready_run _ hr).trans (ExtensionRegistry.ready_run _ hr).symm,
      fun k => ?_⟩
    rw [ExtensionRegistry.lookup_run_serve _ hr hk, ExtensionRegistry.lookup_run_serve _ hr hk,
      List.foldl_append, Call.foldl_serve_twice]

theorem reconcileRun_replay_echo :
    KeysAreNames readyReconciler.registry.items ∧
      ∀ k, (readyReconciler.reconcileRun ([(echoEnv, { name := "a" })] ++
          [(echoEnv, { name := "a" })])).registry.items.lookup k =
        (readyReconciler.reconcileRun [(echoEnv, { name := "a" })]).registry.items.lookup k :=
  have hk : KeysAreNames readyReconciler.registry.items :=
    (ExtensionRegistry.invariant_new_run _).keys_are_names
  ⟨hk, (reconcileRun_replay readyReconciler hk [(echoEnv, { name := "a" })]).2⟩

theorem reconcileRun_perm_echo :
    let steps := [(echoEnv, ({ name := "a" } : NamespacedName)), (echoEnv, { name := "b" })]
    KeysAreNames readyReconciler.registry.items ∧ steps.Perm steps.reverse ∧
      (readyReconciler.calls steps).Pairwise (fun o₁ o₂ => CallsDisjoint (some o₁) (some o₂)) ∧
      ∀ k, (readyReconciler.reconcileRun steps).registry.items.lookup k =
        (readyReconciler.reconcileRun steps.reverse).registry.items.lookup k :=
  have hk : KeysAreNames readyReconciler.registry.items :=
    (ExtensionRegistry.invariant_new_run _).keys_are_names
  have hp : [(echoEnv, ({ name := "a" } : NamespacedName)), (echoEnv, { name := "b" })].Perm
      [(echoEnv, { name := "b" }), (echoEnv, { name := "a" })] := List.Perm.swap _ _ _
  have hd : (readyReconciler.calls
      [(echoEnv, ({ name := "a" } : NamespacedName)), (echoEnv, { name := "b" })]).Pairwise
        (fun o₁ o₂ => CallsDisjoint (some o₁) (some o₂)) :=
    List.pairwise_pair.mpr (callsDisjoint_echo (by decide))
  ⟨hk, hp, hd, (reconcileRun_perm readyReconciler hk hp hd).2⟩

end Reconciler

/-- Reconciles after any registry calls from `New`, whatever the world answers, leave the
registry in a state its own calls reach, so `Invariant` holds. -/
theorem reconcileRun_invariant (calls : List Call) (client : Client)
    (steps : List (Env × NamespacedName)) :
    ∃ more, let registry :=
        (Reconciler.reconcileRun { registry := ExtensionRegistry.new.run calls, client } steps).registry
      registry = ExtensionRegistry.new.run (calls ++ more) ∧
        Invariant registry (ExtensionRegistry.new.history (calls ++ more)) := by
  let r : Reconciler := { registry := ExtensionRegistry.new.run calls, client }
  obtain ⟨more, h⟩ : ∃ more, (r.reconcileRun steps).registry = r.registry.run more := by
    cases hr : r.registry.ready
    · exact ⟨[], by rw [Reconciler.reconcileRun_of_cold hr]; rfl⟩
    · exact ⟨_, Reconciler.registry_reconcileRun_eq steps hr⟩
  have hrun : ExtensionRegistry.new.run (calls ++ more) = r.registry.run more :=
    List.foldl_append _ _ _ _
  refine ⟨more, ?_, ?_⟩ <;> rw [h, ← hrun]
  exact ExtensionRegistry.invariant_new_run _

/-- A run of reconciles keeps the refinement, the model taking the registry calls they make:
on a ready registry the run is the run of those calls, and on a cold one neither side moves. -/
theorem Refines.reconcileRun {U : List ExtensionConfig} (hU : HandlerNamesDisjoint U)
    {r : Reconciler} {a : OwnerMap} (h : Refines U r.registry a)
    (steps : List (Env × NamespacedName)) (hc : ∀ call ∈ r.calls steps, ∀ c ∈ call.added, c ∈ U) :
    Refines U (r.reconcileRun steps).registry (a.run (r.calls steps)) := by
  cases hr : r.registry.ready
  · rw [Reconciler.reconcileRun_of_cold hr,
      OwnerMap.run_of_cold (h.ready_eq.symm.trans hr) _ fun _ => Reconciler.calls_config]
    exact h
  · rw [Reconciler.registry_reconcileRun_eq steps hr]
    exact h.run hU _ hc

/-- A registry driven by any registry calls and then any reconciles refines the owner map over
all the calls, when configs of different names never declare one handler name. -/
theorem reconcileRun_refines_ownerMap (calls : List Call) (client : Client)
    (steps : List (Env × NamespacedName))
    (hd : HandlerNamesDisjoint ((calls ++ Reconciler.calls
      { registry := ExtensionRegistry.new.run calls, client } steps).flatMap Call.added)) :
    let r : Reconciler := { registry := ExtensionRegistry.new.run calls, client }
    (r.reconcileRun steps).registry.ready = (OwnerMap.new.run (calls ++ r.calls steps)).ready ∧
      ∀ k, (r.reconcileRun steps).registry.items.lookup k =
        (OwnerMap.new.run (calls ++ r.calls steps)).lookup k := by
  intro r
  have h₀ : Refines ((calls ++ r.calls steps).flatMap Call.added) r.registry
      (OwnerMap.new.run calls) :=
    Refines.run hd calls ⟨rfl, fun _ => rfl, fun _ h => absurd h (List.not_mem_nil _)⟩
      fun call hcall _ hc => List.mem_flatMap.mpr ⟨call, List.mem_append_left _ hcall, hc⟩
  have h := h₀.reconcileRun hd steps
    fun call hcall _ hc => List.mem_flatMap.mpr ⟨call, List.mem_append_right _ hcall, hc⟩
  rw [OwnerMap.run_append]
  exact ⟨h.ready_eq, h.lookup_eq⟩

theorem reconcileRun_refines_ownerMap_echo :
    let calls := [Call.warmUp (some ⟨[ExtensionRegistry.extConfig]⟩)]
    let steps := [(Reconciler.echoEnv, ({ name := "a" } : NamespacedName))]
    let r : Reconciler :=
      { registry := ExtensionRegistry.new.run calls, client := Reconciler.readyReconciler.client }
    HandlerNamesDisjoint ((calls ++ r.calls steps).flatMap Call.added) ∧
      (r.reconcileRun steps).registry.items.lookup "h1" =
        (OwnerMap.new.run (calls ++ r.calls steps)).lookup "h1" :=
  ⟨by decide, (reconcileRun_refines_ownerMap _ _ _ (by decide)).2 "h1"⟩

end ClusterApi.Runtime
