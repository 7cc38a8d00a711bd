import Mathlib

/-!
# Storage options of a generic registry store

`ApplyOptions` of `pkg/util/restoptions/helpers.go` checks that a `registry.Store` is complete,
asks the options getter for the resource's storage options, makes the resource prefix rooted,
installs the default key functions where the store has none, and decorates the storage.

A Go function value that may be nil is an `Option`. The registry's key functions, the options
getter and the storage decorator are outside the source tree; they are the fields of
`Collaborators`, and every result here holds for all of them.

## Main definitions

* `defaultKeyFunctions` - `DefaultKeyFunctions`.
* `applyOptions` - `ApplyOptions`: its error and the store after the call.
-/

namespace OpenshiftVendoring.RestOptions

/-- `unversioned.GroupResource`. -/
structure GroupResource where
  group : String
  resource : String
  deriving DecidableEq, Repr

/-- `GroupResource.Empty`. -/
def GroupResource.empty (gr : GroupResource) : Bool :=
  gr.group.length = 0 && gr.resource.length = 0

/-- `GroupResource.String`: the resource, and `.` and the group unless the group is empty. -/
def GroupResource.string (gr : GroupResource) : String :=
  if gr.group.length = 0 then gr.resource else gr.resource ++ "." ++ gr.group

/-- A request context as the key functions read it: its namespace, if any. -/
structure Context where
  ns : Option String
  deriving DecidableEq, Repr

/-- A create strategy: its name, standing for the whole strategy the decorator is given, and
what its `NamespaceScoped` answers. -/
structure CreateStrategy where
  name : String
  namespaceScoped : Bool
  deriving DecidableEq, Repr

/-- What a decorated storage is made from: the prefix and the kinds of object and list it
stores. -/
structure StorageHandle where
  resourcePrefix : String
  objectKind : String
  listKind : String
  deriving DecidableEq, Repr

/-- The parts of `registry.Store` that `ApplyOptions` reads or writes. `NewFunc` and
`NewListFunc` are given by the kinds they make. -/
structure Store where
  qualifiedResource : GroupResource
  newFunc : Option String
  newListFunc : Option String
  createStrategy : Option CreateStrategy
  keyRootFunc : Option (Context → String)
  keyFunc : Option (Context → String → Except String String)
  deleteCollectionWorkers : Int
  storage : Option StorageHandle

/-- `generic.RESTOptions`: the prefix, the workers for collection deletes, and the decorator,
given here the prefix, the strategy and the kinds of object and list. -/
structure RESTOptions where
  resourcePrefix : String
  deleteCollectionWorkers : Int
  decorator : String → CreateStrategy → String → String → StorageHandle

/-- What `ApplyOptions` calls outside the source tree: the options getter and the registry's
key functions. -/
structure Collaborators where
  getRESTOptions : GroupResource → Except String RESTOptions
  namespaceKeyRootFunc : Context → String → String
  namespaceKeyFunc : Context → String → String → Except String String
  noNamespaceKeyFunc : Context → String → String → Except String String

variable (env : Collaborators)

/-- `DefaultKeyFunctions`: the registry's key functions for the prefix, namespaced or not, each
installed only where the store has none. -/
def defaultKeyFunctions (store : Store) (resourcePrefix : String) (isNamespaced : Bool) :
    Store :=
  if isNamespaced then
    let store := if store.keyRootFunc.isNone then
      { store with keyRootFunc := some fun ctx => env.namespaceKeyRootFunc ctx resourcePrefix }
      else store
    if store.keyFunc.isNone then
      { store with keyFunc := some fun ctx name => env.namespaceKeyFunc ctx resourcePrefix name }
    else store
  else
    let store := if store.keyRootFunc.isNone then
      { store with keyRootFunc := some fun _ => resourcePrefix } else store
    if store.keyFunc.isNone then
      { store with keyFunc := some fun ctx name => env.noNamespaceKeyFunc ctx resourcePrefix name }
    else store

/-- `strings.HasPrefix`. -/
def hasPrefix (s pre : String) : Bool := pre.data.isPrefixOf s.data

/-- The prefix made rooted: `/` in front unless it starts with one. -/
def rootedPrefix (resourcePrefix : String) : String :=
  if hasPrefix resourcePrefix "/" then resourcePrefix else "/" ++ resourcePrefix

/-- `ApplyOptions`, which writes the store through its pointer: the error, `none` for nil, and
the store after the call. -/
def applyOptions (store : Store) (oldIsNamespaced : Bool) : Option String × Store :=
  if store.qualifiedResource.empty then
    (some "store must have a non-empty qualified resource", store)
  else
  match store.newFunc, store.newListFunc, store.createStrategy with
  | none, _, _ =>
    (some ("store for " ++ store.qualifiedResource.string ++ " must have NewFunc set"), store)
  | some _, none, _ =>
    (some ("store for " ++ store.qualifiedResource.string ++ " must have NewListFunc set"), store)
  | some _, some _, none =>
    (some ("store for " ++ store.qualifiedResource.string ++ " must have CreateStrategy set"),
      store)
  | some newKind, some listKind, some strategy =>
    let isNamespaced := strategy.namespaceScoped
    if isNamespaced ≠ oldIsNamespaced then
      (some ("CreateStrategy has " ++ toString isNamespaced ++
        " for namespace scope but user specified " ++ toString oldIsNamespaced ++
        " as namespace scope"), store)
    else
    match env.getRESTOptions store.qualifiedResource with
    | .error err =>
      (some ("error building RESTOptions for " ++ store.qualifiedResource.string ++ " store: " ++
        err), store)
    | .ok opts =>
      let resourcePrefix := rootedPrefix opts.resourcePrefix
      let store := defaultKeyFunctions env store resourcePrefix isNamespaced
      let store := { store with deleteCollectionWorkers := opts.deleteCollectionWorkers }
      (none,
        { store with storage := some (opts.decorator resourcePrefix strategy newKind listKind) })

/-! ## Key functions -/

section KeyFunctions

variable (store : Store) (resourcePrefix : String) (isNamespaced : Bool)

/-- The key functions `DefaultKeyFunctions` installs for a prefix. -/
def defaultKeyRootFunc : Context → String :=
  if isNamespaced then fun ctx => env.namespaceKeyRootFunc ctx resourcePrefix
  else fun _ => resourcePrefix

def defaultKeyFunc : Context → String → Except String String :=
  if isNamespaced then fun ctx name => env.namespaceKeyFunc ctx resourcePrefix name
  else fun ctx name => env.noNamespaceKeyFunc ctx resourcePrefix name

/-- `DefaultKeyFunctions` writes the two key functions and nothing else, and keeps each one the
store already has. -/
theorem defaultKeyFunctions_eq :
    defaultKeyFunctions env store resourcePrefix isNamespaced =
      { store with
        keyRootFunc := some (store.keyRootFunc.getD
          (defaultKeyRootFunc env resourcePrefix isNamespaced))
        keyFunc := some (store.keyFunc.getD
          (defaultKeyFunc env resourcePrefix isNamespaced)) } := by
  rcases store with ⟨qr, nf, nlf, cs, _ | krf, _ | kf, dcw, st⟩ <;>
    cases isNamespaced <;> rfl

/-- A second `DefaultKeyFunctions`, with any prefix and scope, changes nothing. -/
theorem defaultKeyFunctions_idem (resourcePrefix' : String) (isNamespaced' : Bool) :
    defaultKeyFunctions env (defaultKeyFunctions env store resourcePrefix isNamespaced)
        resourcePrefix' isNamespaced' =
      defaultKeyFunctions env store resourcePrefix isNamespaced := by
  simp only [defaultKeyFunctions_eq, Option.getD_some]

end KeyFunctions

theorem hasPrefix_rootedPrefix (resourcePrefix : String) :
    hasPrefix (rootedPrefix resourcePrefix) "/" = true := by
  unfold rootedPrefix
  split_ifs with h
  · exact h
  · simp [hasPrefix, List.isPrefixOf]

/-! ## ApplyOptions -/

/-- Everything `ApplyOptions` can do: refuse with the store untouched, every check coming
before the first write, or configure the store from the options the getter gives. -/
theorem applyOptions_spec (store : Store) (oldIsNamespaced : Bool) :
    (∃ err, applyOptions env store oldIsNamespaced = (some err, store)) ∨
      ∃ newKind listKind strategy opts,
        store.newFunc = some newKind ∧ store.newListFunc = some listKind ∧
        store.createStrategy = some strategy ∧ strategy.namespaceScoped = oldIsNamespaced ∧
        env.getRESTOptions store.qualifiedResource = .ok opts ∧
        applyOptions env store oldIsNamespaced =
          (none, { defaultKeyFunctions env store (rootedPrefix opts.resourcePrefix)
                  strategy.namespaceScoped with
                deleteCollectionWorkers := opts.deleteCollectionWorkers
                storage := some (opts.decorator (rootedPrefix opts.resourcePrefix) strategy
                  newKind listKind) }) := by
  unfold applyOptions
  by_cases hq : store.qualifiedResource.empty
  · exact .inl ⟨_, by rw [if_pos hq]⟩
  rw [if_neg hq]
  rcases hnf : store.newFunc with _ | newKind
  · exact .inl ⟨_, rfl⟩
  rcases hnlf : store.newListFunc with _ | listKind
  · exact .inl ⟨_, rfl⟩
  rcases hcs : store.createStrategy with _ | strategy
  · exact .inl ⟨_, rfl⟩
  dsimp only
  by_cases hs : strategy.namespaceScoped = oldIsNamespaced
  · rw [if_neg (not_not.mpr hs)]
    rcases hopts : env.getRESTOptions store.qualifiedResource with err | opts
    · exact .inl ⟨_, rfl⟩
    · exact .inr ⟨newKind, listKind, strategy, opts, rfl, rfl, rfl, hs, rfl, rfl⟩
  · exact .inl ⟨_, by rw [if_pos hs]⟩

/-- `ApplyOptions` succeeds exactly when the store names its resource, has `NewFunc`,
`NewListFunc` and a create strategy whose scope is the one the caller gives, and the options
getter answers for the resource. -/
theorem applyOptions_succeeds_iff (store : Store) (oldIsNamespaced : Bool) :
    (applyOptions env store oldIsNamespaced).1 = none ↔
      store.qualifiedResource.empty = false ∧ store.newFunc.isSome ∧
        store.newListFunc.isSome ∧
        (∃ strategy, store.createStrategy = some strategy ∧
          strategy.namespaceScoped = oldIsNamespaced) ∧
        (env.getRESTOptions store.qualifiedResource).isOk = true := by
  unfold applyOptions
  by_cases hq : store.qualifiedResource.empty
  · simp [hq]
  rw [if_neg hq]
  rcases store.newFunc with _ | newKind
  · simp
  rcases store.newListFunc with _ | listKind
  · simp
  rcases store.createStrategy with _ | strategy
  · simp
  dsimp only
  by_cases hs : strategy.namespaceScoped = oldIsNamespaced
  · rw [if_neg (not_not.mpr hs)]
    rcases env.getRESTOptions store.qualifiedResource with err | opts <;>
      simp [hq, hs, Except.isOk, Except.toBool]
  · simp [hs]

end OpenshiftVendoring.RestOptions
