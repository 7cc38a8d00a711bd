import OpenshiftVendoring.Path.Refinement

/-!
# The discovery cache directory of kubectl

`computeDiscoverCacheDir` of `pkg/kubectl/cmd/util/factory_client_access.go` names the
directory where kubectl caches the discovery documents of one API server: the host without
its scheme, with every character that might not be allowed in a file name replaced by `_`,
joined to a parent directory. `discoveryFactory.DiscoveryClient` takes the parent
`~/.kube/cache/discovery`.

The sanitiser keeps `/` and `.`, so the host is a relative path rather than one element: an
empty host names the parent itself, and `..` names a directory outside it. A host whose
elements, resolved on their own, keep at least one element and climb above none names a
directory strictly inside the cleaned parent.

## Main definitions

* `replaceOnce` - `strings.Replace` with `n = 1`.
* `overlyCautiousIllegalFileCharacters` - the character class of the regexp.
* `computeDiscoverCacheDir`, `discoveryCacheDir` - the cache directory.
* `discoveryFactory.discoveryClient` - `DiscoveryClient`, which caches there.
* `StrictlyInside` - lexical containment of cleaned paths.
-/

namespace OpenshiftVendoring.Kubectl

open Path

/-- `strings.Replace(s, old, new, 1)`: the first instance of `old` is replaced by `new`; an
empty `old` matches at the start. -/
def replaceOnce (old new : List Char) : List Char → List Char
  | [] => if old = [] then new else []
  | c :: r =>
    if old.isPrefixOf (c :: r) then new ++ (c :: r).drop old.length
    else c :: replaceOnce old new r

/-- `overlyCautiousIllegalFileCharacters`, the regexp `[^(\w/\.)]`: it matches one character
that is none of `(`, `)`, an ASCII letter or digit, `_`, `/` and `.`. -/
def overlyCautiousIllegalFileCharacters (c : Char) : Bool :=
  !(c == '(' || c == ')' || c.isAlphanum || c == '_' || c == '/' || c == '.')

/-- `Regexp.ReplaceAllString` for a regexp that matches exactly one character and a
replacement with no `$`: every matched character becomes `repl`. -/
def replaceAllString (re : Char → Bool) (src repl : List Char) : List Char :=
  src.flatMap fun c => if re c then repl else [c]

/-- The host without an `https://`, then without an `http://`. -/
def schemelessHost (host : String) : List Char :=
  replaceOnce "http://".data [] (replaceOnce "https://".data [] host.data)

def safeHost (host : String) : List Char :=
  replaceAllString overlyCautiousIllegalFileCharacters (schemelessHost host) "_".data

def computeDiscoverCacheDir (parentDir host : String) : String :=
  join [parentDir, ⟨safeHost host⟩]

/-- The `cacheDir` of `discoveryFactory.DiscoveryClient` for the home directory `homeDir`. -/
def discoveryCacheDir (homeDir host : String) : String :=
  computeDiscoverCacheDir (join [homeDir, ".kube", "cache", "discovery"]) host

/-- The client `NewCachedDiscoveryClient` makes: its cache directory and its time to live, in
minutes. -/
structure CachedDiscoveryClient where
  cacheDir : String
  ttlMinutes : Nat
  deriving DecidableEq, Repr

/-- `discoveryFactory.DiscoveryClient`, for the home directory, the client config the factory
gives (`host` reads its `Host`) and `NewDiscoveryClientForConfig`, given by its error. -/
def discoveryFactory.discoveryClient {γ : Type} (homeDir : String) (host : γ → String)
    (clientConfig : Except String γ) (newDiscoveryClientForConfig : γ → Except String Unit) :
    Except String CachedDiscoveryClient := do
  let cfg ← clientConfig
  newDiscoveryClientForConfig cfg
  let cacheDir :=
    computeDiscoverCacheDir (join [homeDir, ".kube", "cache", "discovery"]) (host cfg)
  return ⟨cacheDir, 10⟩

/-- A discovery client the factory makes caches in `discoveryCacheDir` of its config's host, for
ten minutes. -/
theorem discoveryFactory.discoveryClient_eq_ok {γ : Type} {homeDir : String} {host : γ → String}
    {clientConfig : Except String γ} {newDiscoveryClientForConfig : γ → Except String Unit}
    {client : CachedDiscoveryClient}
    (h : discoveryFactory.discoveryClient homeDir host clientConfig newDiscoveryClientForConfig =
      .ok client) :
    ∃ cfg, clientConfig = .ok cfg ∧ client = ⟨discoveryCacheDir homeDir (host cfg), 10⟩ := by
  rcases clientConfig with err | cfg
  · cases h
  rcases hd : newDiscoveryClientForConfig cfg with err | ⟨⟩ <;>
    simp only [discoveryFactory.discoveryClient, hd, bind, Except.bind, pure, Except.pure,
      reduceCtorEq, Except.ok.injEq] at h
  exact ⟨cfg, rfl, h.symm⟩

/-- `child` names a directory strictly inside `dir`, read lexically: both are rooted or both
relative, and the elements of `child` are those of `dir` followed by at least one more, none of
them `..`. -/
def StrictlyInside (dir child : String) : Prop :=
  (dir.data.head? = some '/' ↔ child.data.head? = some '/') ∧
    let more := (elements child.data).drop (elements dir.data).length
    elements child.data = elements dir.data ++ more ∧ more ≠ [] ∧ ['.', '.'] ∉ more

instance (dir child : String) : Decidable (StrictlyInside dir child) :=
  inferInstanceAs (Decidable (_ ∧ _))

/-- The elements of a relative path, resolved on their own, keep at least one element and
climb above none. -/
def StaysBelow (path : List Char) : Prop :=
  let kept := resolve false [] (path.splitOn '/')
  kept ≠ [] ∧ ['.', '.'] ∉ kept

instance (path : List Char) : Decidable (StaysBelow path) :=
  inferInstanceAs (Decidable (_ ∧ _))

/-! ## The directory of a host -/

/-- A host path that stays below where it starts, joined to a parent, names a directory
strictly inside the cleaned parent, unless the parent is empty and the host rooted. -/
theorem strictlyInside_join {parentDir : String} {sh : List Char}
    (hparent : parentDir ≠ "" ∨ sh.head? ≠ some '/') (hsh : StaysBelow sh) :
    StrictlyInside (clean parentDir) (join [parentDir, ⟨sh⟩]) := by
  obtain ⟨hkept, hdd⟩ := hsh
  rcases eq_or_ne parentDir "" with rfl | hne
  · have hrel : sh.head? ≠ some '/' := hparent.resolve_left (by simp)
    have hsh : (⟨sh⟩ : String) ≠ "" := fun h => hkept (by
      rw [show sh = [] from congrArg String.data h]; rfl)
    have hj : join ["", ⟨sh⟩] = ⟨lexicalClean sh⟩ := by
      simp [join, hsh, cleanChars_eq_lexicalClean, List.intercalate]
    rw [hj]
    refine ⟨by rw [head_lexicalClean, iff_false_right hrel]; decide, ?_⟩
    simp only [elements_lexicalClean, hrel, decide_False]
    simp [hkept, hdd, show elements (clean "").data = [] from rfl]
  have hP : parentDir.data ≠ [] := fun h => hne (String.ext h)
  have hhead : (parentDir.data ++ '/' :: sh).head? = parentDir.data.head? :=
    List.head?_append_of_ne_nil _ hP
  have hres := resolve_splitOn_append_sep (parentDir.data.head? = some '/') parentDir.data hdd
  rw [join_pair hne, clean, cleanChars_eq_lexicalClean, cleanChars_eq_lexicalClean]
  refine ⟨by simp only [head_lexicalClean, hhead], ?_⟩
  simp only [elements_lexicalClean, hhead, hres, List.reverse_append]
  simp [hkept, hdd]

/-- An empty host names the cache root itself, and the host `https://..` the directory above
it; below an empty parent, the host `/etc` names a rooted path. -/
theorem computeDiscoverCacheDir_escapes :
    computeDiscoverCacheDir "/root/.kube/cache/discovery" "" = "/root/.kube/cache/discovery" ∧
    computeDiscoverCacheDir "/root/.kube/cache/discovery" "https://.." = "/root/.kube/cache" ∧
    ¬StrictlyInside (clean "/root/.kube/cache/discovery")
      (computeDiscoverCacheDir "/root/.kube/cache/discovery" "") ∧
    ¬StrictlyInside (clean "/root/.kube/cache/discovery")
      (computeDiscoverCacheDir "/root/.kube/cache/discovery" "https://..") ∧
    ¬StrictlyInside (clean "") (computeDiscoverCacheDir "" "/etc") := by
  decide

/-- For a host whose sanitised path stays below where it starts, the cache directory lies
strictly inside the cleaned parent, unless the parent is empty and the sanitised host rooted. -/
theorem computeDiscoverCacheDir_strictlyInside (parentDir host : String)
    (hparent : parentDir ≠ "" ∨ (safeHost host).head? ≠ some '/')
    (hhost : StaysBelow (safeHost host)) :
    StrictlyInside (clean parentDir) (computeDiscoverCacheDir parentDir host) :=
  strictlyInside_join hparent hhost

theorem computeDiscoverCacheDir_strictlyInside_sample :
    ("/root/.kube/cache/discovery" ≠ "" ∨
        (safeHost "https://10.0.0.1:6443").head? ≠ some '/') ∧
      StaysBelow (safeHost "https://10.0.0.1:6443") ∧
      StrictlyInside (clean "/root/.kube/cache/discovery")
        (computeDiscoverCacheDir "/root/.kube/cache/discovery" "https://10.0.0.1:6443") :=
  ⟨by decide, by decide, computeDiscoverCacheDir_strictlyInside _ _ (by decide) (by decide)⟩

/-- Whatever the home directory, a discovery client the factory makes for a config whose host
stays below where it starts caches strictly inside the discovery cache root. -/
theorem discoveryCacheDir_strictlyInside {γ : Type} (homeDir : String) (host : γ → String)
    (clientConfig : Except String γ) (newDiscoveryClientForConfig : γ → Except String Unit)
    (client : CachedDiscoveryClient)
    (h : discoveryFactory.discoveryClient homeDir host clientConfig newDiscoveryClientForConfig =
      .ok client)
    (hhost : ∀ cfg, clientConfig = .ok cfg → StaysBelow (safeHost (host cfg))) :
    StrictlyInside (join [homeDir, ".kube", "cache", "discovery"]) client.cacheDir := by
  obtain ⟨cfg, hcfg, rfl⟩ := discoveryFactory.discoveryClient_eq_ok h
  have hne : ∃ e ∈ [homeDir, ".kube", "cache", "discovery"], e ≠ "" :=
    ⟨".kube", by simp, by decide⟩
  rw [← clean_join hne]
  exact strictlyInside_join (.inl (join_ne_empty hne)) (hhost cfg hcfg)

theorem discoveryCacheDir_strictlyInside_sample :
    discoveryFactory.discoveryClient "/root" id (.ok "https://10.0.0.1:6443") (fun _ => .ok ()) =
        .ok ⟨discoveryCacheDir "/root" "https://10.0.0.1:6443", 10⟩ ∧
      (∀ cfg, (.ok "https://10.0.0.1:6443" : Except String String) = .ok cfg →
        StaysBelow (safeHost (id cfg))) ∧
      StrictlyInside (join ["/root", ".kube", "cache", "discovery"])
        (discoveryCacheDir "/root" "https://10.0.0.1:6443") :=
  have h : discoveryFactory.discoveryClient "/root" id (.ok "https://10.0.0.1:6443")
      (fun _ => .ok ()) = .ok ⟨discoveryCacheDir "/root" "https://10.0.0.1:6443", 10⟩ := rfl
  have hhost : ∀ cfg, (.ok "https://10.0.0.1:6443" : Except String String) = .ok cfg →
      StaysBelow (safeHost (id cfg)) := fun _ h => by cases h; decide
  ⟨h, hhost, discoveryCacheDir_strictlyInside "/root" id _ _ _ h hhost⟩

/-- A host whose sanitised path resolves to no element names the cleaned parent itself. -/
theorem computeDiscoverCacheDir_of_resolve_nil (parentDir host : String)
    (hparent : parentDir ≠ "") (hnil : resolve false [] ((safeHost host).splitOn '/') = []) :
    computeDiscoverCacheDir parentDir host = clean parentDir := by
  have hP : parentDir.data ≠ [] := fun h => hparent (String.ext h)
  have hhead : (parentDir.data ++ '/' :: safeHost host).head? = parentDir.data.head? :=
    List.head?_append_of_ne_nil _ hP
  have hs : ['.', '.'] ∉ resolve false [] ((safeHost host).splitOn '/') := by
    rw [hnil]; exact List.not_mem_nil _
  have hres := resolve_splitOn_append_sep (parentDir.data.head? = some '/') parentDir.data hs
  rw [hnil, List.nil_append] at hres
  simp only [computeDiscoverCacheDir, join_pair hparent, clean, cleanChars_eq_lexicalClean,
    lexicalClean, hhead, hres]

theorem computeDiscoverCacheDir_of_resolve_nil_sample :
    "/root/.kube/cache/discovery" ≠ "" ∧
      resolve false [] ((safeHost "https://.").splitOn '/') = [] ∧
      computeDiscoverCacheDir "/root/.kube/cache/discovery" "https://." =
        clean "/root/.kube/cache/discovery" :=
  ⟨by decide, by decide, computeDiscoverCacheDir_of_resolve_nil _ _ (by decide) (by decide)⟩

end OpenshiftVendoring.Kubectl
