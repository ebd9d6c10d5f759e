import ClusterApi.RuntimeTypes

/-! Injection of the CA bundle from a referenced secret, and the reverse index that
requeues every config naming a secret when that secret changes. Secrets are read with the
uncached API reader, so the reader is explicit state with a log of the secrets read. -/
namespace ClusterApi.Runtime

/-- `types.NamespacedName`, with Go's field names (`namespace` is a Lean keyword). -/
structure NamespacedName where
  «namespace» : String := ""
  name : String := ""
  deriving DecidableEq, Repr

/-- `types.Separator`. -/
def separator : Char := '/'

/-- `splitNamespacedName`. -/
def splitNamespacedName (nameStr : String) : NamespacedName :=
  match indexRune nameStr.data separator with
  | none => { name := nameStr }
  | some splitPoint =>
    { «namespace» := ⟨nameStr.data.take splitPoint⟩, name := ⟨nameStr.data.drop (splitPoint + 1)⟩ }

theorem indexRune_append_cons {l₁ l₂ : List Char} {r : Char} (h : r ∉ l₁) :
    indexRune (l₁ ++ r :: l₂) r = some l₁.length := by
  induction l₁ with
  | nil => simp [indexRune]
  | cons c l ih =>
    have hc : c ≠ r := fun hc => h (hc ▸ List.mem_cons_self _ _)
    simp [indexRune, hc, ih fun hm => h (List.mem_cons_of_mem _ hm)]

theorem eq_of_indexRune {r : Char} :
    ∀ {l : List Char} {i : Nat}, indexRune l r = some i → l = l.take i ++ r :: l.drop (i + 1)
  | [], _, h => by cases h
  | c :: l, i, h => by
    unfold indexRune at h
    split at h
    · cases h; simp_all
    · obtain ⟨j, hj, rfl⟩ := Option.map_eq_some'.mp h
      simpa using eq_of_indexRune hj

/-- Printing a namespaced name as `<namespace>/<name>` and splitting it gives it back,
when the namespace has no `/`. -/
theorem splitNamespacedName_append (ns n : String) (h : separator ∉ ns.data) :
    splitNamespacedName (ns ++ "/" ++ n) = { «namespace» := ns, name := n } := by
  have hd : (ns ++ "/" ++ n).data = ns.data ++ [separator] ++ n.data := by
    simp only [String.data_append]; rfl
  have hi : indexRune (ns ++ "/" ++ n).data separator = some ns.data.length := by
    rw [hd, List.append_assoc]; exact indexRune_append_cons h
  have hlen : ns.data.length + 1 = (ns.data ++ [separator]).length := by
    rw [List.length_append, List.length_singleton]
  rw [splitNamespacedName, hi]
  dsimp only
  rw [hd, List.append_assoc, List.take_left, hlen, ← List.append_assoc, List.drop_left]

/-- Splitting at the first `/` and joining again gives back the string. -/
theorem splitNamespacedName_join {a : String} (h : (splitNamespacedName a).«namespace» ≠ "") :
    (splitNamespacedName a).«namespace» ++ "/" ++ (splitNamespacedName a).name = a := by
  unfold splitNamespacedName at h ⊢
  split
  · rename_i hi; simp [hi] at h
  · rename_i i hi
    apply String.ext
    simpa [String.data_append, separator] using (eq_of_indexRune hi).symm

/-- A `Secret`, by the data the reconciler reads. -/
structure Secret where
  data : List (String × List UInt8)

/-- The uncached API reader: the API server's answer to a `Get` of a secret, and the log
of the secrets read so far. -/
structure Client where
  getSecret : NamespacedName → Except GoError Secret
  reads : List NamespacedName

/-- `client.Get` of a secret. -/
def Client.get (client : Client) (key : NamespacedName) : Client × Except GoError Secret :=
  ({ client with reads := client.reads ++ [key] }, client.getSecret key)

/-- `tlsCAKey`. -/
def tlsCAKey : String := "ca.crt"

/-- Modelled from the spec: `runtimev1.InjectCAFromSecretAnnotation`, the trust-bundle
source annotation, is not under src/. -/
def injectCAFromSecretAnnotation : String := "runtime.cluster.x-k8s.io/inject-ca-from-secret"

/-- `reconcileCABundle`: on success the config carries the secret's `ca.crt`. -/
def reconcileCABundle (client : Client) (config : ExtensionConfig) :
    Client × Except GoError ExtensionConfig :=
  match config.annotations.lookup injectCAFromSecretAnnotation with
  | none => (client, .ok config)
  | some secretNameRaw =>
    let secretName := splitNamespacedName secretNameRaw
    if secretName.«namespace» = "" ∨ secretName.name = "" then
      (client, .error (.errorf
        "failed to reconcile caBundle: secret name %q must be in the form <namespace>/<name>"
        [secretNameRaw]))
    else
      match client.get secretName with
      | (client, .error err) => (client, .error (.wrapf err
          "failed to reconcile caBundle: failed to get secret %q" [secretNameRaw]))
      | (client, .ok secret) =>
        match secret.data.lookup tlsCAKey with
        | none => (client, .error (.errorf
            "failed to reconcile caBundle: secret %s does not contain a %q entry"
            [secretNameRaw, tlsCAKey]))
        | some caData =>
          (client, .ok { config with spec.clientConfig.caBundle := caData })

/-- `reconcileCABundle` writes the CA bundle and nothing else of the config. -/
theorem reconcileCABundle_ok {client client' : Client} {c c' : ExtensionConfig}
    (h : reconcileCABundle client c = (client', .ok c')) :
    c' = c ∨ ∃ caData, c' = { c with spec.clientConfig.caBundle := caData } := by
  unfold reconcileCABundle at h
  split at h
  · exact .inl (Except.ok.inj (Prod.mk.inj h).2).symm
  · dsimp only at h
    split at h
    · cases h
    · simp only [Client.get] at h
      split at h
      · cases h
      · split at h
        · cases h
        · exact .inr ⟨_, (Except.ok.inj (Prod.mk.inj h).2).symm⟩

/-- `reconcileCABundle` only adds to the log of reads: the API server's answers stay. -/
theorem reconcileCABundle_getSecret (client : Client) (config : ExtensionConfig) :
    (reconcileCABundle client config).1.getSecret = client.getSecret := by
  unfold reconcileCABundle
  split
  · rfl
  · dsimp only
    split
    · rfl
    · simp only [Client.get]
      cases client.getSecret _ with
      | error => rfl
      | ok secret => dsimp only; split <;> rfl

/-- What `reconcileCABundle` returns depends on the API server's answers, not on the secrets
read before. -/
theorem reconcileCABundle_snd_congr {client client' : Client}
    (h : client.getSecret = client'.getSecret) (config : ExtensionConfig) :
    (reconcileCABundle client config).2 = (reconcileCABundle client' config).2 := by
  unfold reconcileCABundle
  split
  · rfl
  · dsimp only
    split
    · rfl
    · simp only [Client.get, h]
      cases client'.getSecret _ with
      | error => rfl
      | ok secret => dsimp only; split <;> rfl

/-- The secrets `reconcileCABundle` reads: the split annotation, when both parts are
non-empty. -/
theorem reconcileCABundle_reads (client : Client) (config : ExtensionConfig) :
    (reconcileCABundle client config).1.reads = client.reads ++
      match config.annotations.lookup injectCAFromSecretAnnotation with
      | none => []
      | some a => if (splitNamespacedName a).«namespace» = "" ∨ (splitNamespacedName a).name = ""
          then [] else [splitNamespacedName a] := by
  unfold reconcileCABundle
  split
  · rename_i ha; simp [ha]
  · rename_i a ha
    simp only [ha]
    split
    · rename_i hemp; simp [hemp]
    · rename_i hne
      simp only [Client.get, if_neg hne]
      cases client.getSecret (splitNamespacedName a) with
      | error err => rfl
      | ok secret => dsimp only; split <;> rfl

/-- Modelled from the spec: the field index `InjectCAFromSecretAnnotationField`, built by
`indexByExtensionInjectCAFromSecretName` (not under src/), holds the raw value of a
config's trust-bundle source annotation. -/
def injectCAFromSecretIndex (c : ExtensionConfig) : Option String :=
  c.annotations.lookup injectCAFromSecretAnnotation

/-- `secretToExtensionConfig` over the cache's answer to `List`: with `MatchingFields` it keeps
the configs indexed under `<namespace>/<name>` of the secret, each becoming a request for its
name, and a failed `List` maps the secret to no request. -/
def secretToExtensionConfig (extensionConfigs : Except GoError (List ExtensionConfig))
    (secret : NamespacedName) : List NamespacedName :=
  let indexKey := secret.«namespace» ++ "/" ++ secret.name
  match extensionConfigs with
  | .error _ => []
  | .ok configs =>
    (configs.filter fun ext => injectCAFromSecretIndex ext == some indexKey).map
      fun ext => { name := ext.name }

@[simp] theorem secretToExtensionConfig_error (err : GoError) (secret : NamespacedName) :
    secretToExtensionConfig (.error err) secret = [] := rfl

theorem reads_eq_append_iff (client : Client) (c : ExtensionConfig) (secret : NamespacedName) :
    (reconcileCABundle client c).1.reads = client.reads ++ [secret] ↔
      ∃ a, c.annotations.lookup injectCAFromSecretAnnotation = some a ∧
        (splitNamespacedName a).«namespace» ≠ "" ∧ (splitNamespacedName a).name ≠ "" ∧
        splitNamespacedName a = secret := by
  rw [reconcileCABundle_reads, List.append_cancel_left_eq]
  cases c.annotations.lookup injectCAFromSecretAnnotation with
  | none => simp
  | some a =>
    dsimp only
    by_cases he : (splitNamespacedName a).«namespace» = "" ∨ (splitNamespacedName a).name = ""
    · rw [if_pos he]
      constructor
      · intro h; cases h
      · rintro ⟨a', ha', h1, h2, -⟩
        cases ha'
        exact (he.elim h1 h2).elim
    · rw [if_neg he, not_or] at *
      exact ⟨fun h => ⟨a, rfl, he.1, he.2, List.singleton_inj.mp h⟩,
        by rintro ⟨a', ha', -, -, rfl⟩; cases ha'; rfl⟩

theorem mem_secretToExtensionConfig {configs : List ExtensionConfig}
    (hnd : (configs.map (·.name)).Nodup) {c : ExtensionConfig} (hc : c ∈ configs)
    (secret : NamespacedName) :
    { name := c.name } ∈ secretToExtensionConfig (.ok configs) secret ↔
      injectCAFromSecretIndex c = some (secret.«namespace» ++ "/" ++ secret.name) := by
  simp only [secretToExtensionConfig, List.mem_map, List.mem_filter, beq_iff_eq,
    NamespacedName.mk.injEq, true_and]
  constructor
  · rintro ⟨c', ⟨hc', hi⟩, hn⟩
    rwa [List.inj_on_of_nodup_map hnd hc' hc hn] at hi
  · exact fun hi => ⟨c, ⟨hc, hi⟩, rfl⟩

/-- The reference parser and the index key are inverse on the references `reconcileCABundle`
accepts, so a secret change requeues exactly the configs whose annotation resolves to it. -/
theorem namespacedName_index_roundtrip :
    (∀ ns n, separator ∉ ns.data →
      splitNamespacedName (ns ++ "/" ++ n) = { «namespace» := ns, name := n }) ∧
    (∀ (client : Client) (config : ExtensionConfig),
      (reconcileCABundle client config).1.reads = client.reads ∨
      ∃ a, config.annotations.lookup injectCAFromSecretAnnotation = some a ∧
        (splitNamespacedName a).«namespace» ≠ "" ∧ (splitNamespacedName a).name ≠ "" ∧
        (splitNamespacedName a).«namespace» ++ "/" ++ (splitNamespacedName a).name = a ∧
        (reconcileCABundle client config).1.reads = client.reads ++ [splitNamespacedName a]) ∧
    (∀ (configs : List ExtensionConfig) (secret : NamespacedName), (configs.map (·.name)).Nodup →
      secret.«namespace» ≠ "" → secret.name ≠ "" → separator ∉ secret.«namespace».data →
      ∀ c ∈ configs, ({ name := c.name } ∈ secretToExtensionConfig (.ok configs) secret ↔
        ∀ client, (reconcileCABundle client c).1.reads = client.reads ++ [secret])) := by
  refine ⟨splitNamespacedName_append, fun client config => ?_,
    fun configs secret hnd hns hn hsep c hc => ?_⟩
  · rw [reconcileCABundle_reads]
    cases ha : config.annotations.lookup injectCAFromSecretAnnotation with
    | none => exact .inl (List.append_nil _)
    | some a =>
      by_cases he : (splitNamespacedName a).«namespace» = "" ∨ (splitNamespacedName a).name = ""
      · exact .inl (by simp only [if_pos he, List.append_nil])
      · rw [not_or] at he
        exact .inr ⟨a, rfl, he.1, he.2, splitNamespacedName_join he.1,
          by simp only [if_neg (not_or.mpr he)]⟩
  · let anyClient : Client := ⟨fun _ => .error (.errorf "" []), []⟩
    rw [mem_secretToExtensionConfig hnd hc, injectCAFromSecretIndex]
    constructor
    · intro hi client
      refine (reads_eq_append_iff client c secret).mpr ⟨_, hi, ?_⟩
      rw [splitNamespacedName_append _ _ hsep]
      exact ⟨hns, hn, rfl⟩
    · intro hr
      obtain ⟨a, ha, hne, -, rfl⟩ := (reads_eq_append_iff anyClient c secret).mp (hr anyClient)
      rw [ha, splitNamespacedName_join hne]

end ClusterApi.Runtime
