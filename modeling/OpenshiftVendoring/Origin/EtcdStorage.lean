import OpenshiftVendoring.Origin.RestOptions

/-!
# The etcd storage of four origin registries

`NewREST` of `pkg/user/registry/identity/etcd`, `pkg/sdn/registry/netnamespace/etcd`,
`pkg/template/registry/etcd` and `pkg/image/registry/image/etcd` builds a `registry.Store` for
its resource and hands it to `ApplyOptions` with the namespace scope of the resource. It returns
the error of `ApplyOptions`, or the store `ApplyOptions` configured.

The identity strategy is in the source tree (`pkg/user/registry/identity/strategy.go`): it is
not namespace scoped. The three other strategies and the API groups of `api.Resource` are
outside it; they are arguments, and every result here holds for all of them. The fields of the
store literal that `ApplyOptions` does not read (the name, predicate and update functions,
`ReturnDeletedObject`) are left out.

## Main definitions

* `registryStore` - the store literal of a `NewREST`.
* `newREST` - `NewREST` for a store literal and the scope it passes.
* `identityEtcd.newREST`, `netNamespaceEtcd.newREST`, `templateEtcd.newREST`,
  `imageEtcd.newREST` - the four registries.
-/

namespace OpenshiftVendoring.RestOptions

variable (env : Collaborators)

/-- The store literal of a `NewREST`: the resource, the kinds `NewFunc` and `NewListFunc` make
and the strategy; no key function, no workers and no storage yet. -/
def registryStore (qualifiedResource : GroupResource) (newKind listKind : String)
    (strategy : CreateStrategy) : Store :=
  ⟨qualifiedResource, some newKind, some listKind, some strategy, none, none, 0, none⟩

/-- `NewREST`: the error of `ApplyOptions`, or the store it configured. -/
def newREST (store : Store) (isNamespaced : Bool) : Except String Store :=
  match applyOptions env store isNamespaced with
  | (some err, _) => .error err
  | (none, store) => .ok store

/-- `identity.Strategy`, whose `NamespaceScoped` is false. -/
def identity.strategy : CreateStrategy := ⟨"identity", false⟩

def identityEtcd.newREST (group : String) : Except String Store :=
  RestOptions.newREST env
    (registryStore ⟨group, "identities"⟩ "Identity" "IdentityList" identity.strategy) false

def netNamespaceEtcd.newREST (group : String) (strategy : CreateStrategy) :
    Except String Store :=
  RestOptions.newREST env
    (registryStore ⟨group, "netnamespaces"⟩ "NetNamespace" "NetNamespaceList" strategy) false

def templateEtcd.newREST (group : String) (strategy : CreateStrategy) : Except String Store :=
  RestOptions.newREST env
    (registryStore ⟨group, "templates"⟩ "Template" "TemplateList" strategy) true

def imageEtcd.newREST (group : String) (strategy : CreateStrategy) : Except String Store :=
  RestOptions.newREST env (registryStore ⟨group, "images"⟩ "Image" "ImageList" strategy)
    false

/-- The store `ApplyOptions` makes of a store literal with the options: the default key
functions for the rooted prefix, the workers of the options and the decorated storage. -/
def configuredStore (qualifiedResource : GroupResource) (newKind listKind : String)
    (strategy : CreateStrategy) (opts : RESTOptions) : Store :=
  { registryStore qualifiedResource newKind listKind strategy with
    keyRootFunc := some (defaultKeyRootFunc env (rootedPrefix opts.resourcePrefix)
      strategy.namespaceScoped)
    keyFunc := some (defaultKeyFunc env (rootedPrefix opts.resourcePrefix)
      strategy.namespaceScoped)
    deleteCollectionWorkers := opts.deleteCollectionWorkers
    storage := some (opts.decorator (rootedPrefix opts.resourcePrefix) strategy newKind listKind) }

/-- `NewREST` on the store literal of a named resource succeeds exactly when the scope it
passes is the strategy's and the options getter answers for the resource, and it then returns
the configured store. -/
theorem newREST_registryStore_eq_ok_iff (qualifiedResource : GroupResource)
    (hres : 0 < qualifiedResource.resource.length) (newKind listKind : String)
    (strategy : CreateStrategy) (isNamespaced : Bool) (store : Store) :
    newREST env (registryStore qualifiedResource newKind listKind strategy) isNamespaced =
        .ok store ↔
      strategy.namespaceScoped = isNamespaced ∧ ∃ opts,
        env.getRESTOptions qualifiedResource = .ok opts ∧
        store = configuredStore env qualifiedResource newKind listKind strategy opts := by
  have hne : qualifiedResource.empty = false := by simp [GroupResource.empty, hres.ne']
  unfold newREST applyOptions
  simp only [registryStore, hne, Bool.false_eq_true, if_false]
  by_cases hs : strategy.namespaceScoped = isNamespaced
  · subst hs
    rcases env.getRESTOptions qualifiedResource with err | opts
    · simp
    · simp [configuredStore, registryStore, defaultKeyFunctions_eq, eq_comm]
  · simp [hs]

/-- The identity registry's `NewREST` passes the scope of the identity strategy, so it fails only
when the options getter fails for identities. Its store then keys every identity at the rooted
prefix, by `NoNamespaceKeyFunc`, and its key root is the rooted prefix itself. -/
theorem identityEtcd_newREST_eq_ok_iff (group : String) (store : Store) :
    identityEtcd.newREST env group = .ok store ↔
      ∃ opts, env.getRESTOptions ⟨group, "identities"⟩ = .ok opts ∧
        store = { registryStore ⟨group, "identities"⟩ "Identity" "IdentityList"
            identity.strategy with
          keyRootFunc := some fun _ => rootedPrefix opts.resourcePrefix
          keyFunc := some fun ctx name =>
            env.noNamespaceKeyFunc ctx (rootedPrefix opts.resourcePrefix) name
          deleteCollectionWorkers := opts.deleteCollectionWorkers
          storage := some (opts.decorator (rootedPrefix opts.resourcePrefix) identity.strategy
            "Identity" "IdentityList") } := by
  rw [identityEtcd.newREST, newREST_registryStore_eq_ok_iff env ⟨group, "identities"⟩
    (show 0 < "identities".length by decide)]
  simp only [identity.strategy, true_and]
  rfl

end OpenshiftVendoring.RestOptions
