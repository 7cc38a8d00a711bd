import Mathlib

/-!
# The origin discovery client

`pkg/client/discovery.go` wraps the Kubernetes discovery client so that the legacy group
version `v1` also lists the resources the origin API serves under `/oapi/v1`, tolerating a
server without that path, and so that `ServerResources` collects those lists for every group
version the server announces, stopping at the first error.

The server is what the client reads from it: the group list, the Kubernetes client's answer
for a group version, and the answer to a `GET` of an absolute path. A Go map is a function to
`Option`.

## Main definitions

* `serverResourcesForGroupVersion` - `DiscoveryClient.ServerResourcesForGroupVersion`.
* `serverResourcesLoop`, `serverResources` - `DiscoveryClient.ServerResources`.
-/

namespace OpenshiftVendoring.OriginClient

/-- `unversioned.APIResource`. -/
structure APIResource where
  name : String
  namespaced : Bool
  kind : String
  deriving DecidableEq, Repr

/-- `unversioned.APIResourceList`. -/
structure APIResourceList where
  groupVersion : String
  apiResources : List APIResource
  deriving DecidableEq, Repr

structure GroupVersionForDiscovery where
  groupVersion : String
  version : String
  deriving DecidableEq, Repr

structure APIGroup where
  name : String
  versions : List GroupVersionForDiscovery
  deriving DecidableEq, Repr

/-- The reason of an API status error, which `errors.IsNotFound` and `errors.IsForbidden`
read. -/
inductive StatusReason
  | notFound
  | forbidden
  | other (reason : String)
  deriving DecidableEq, Repr

structure APIError where
  reason : StatusReason
  message : String
  deriving DecidableEq, Repr

def isNotFound (err : APIError) : Bool := err.reason = .notFound

def isForbidden (err : APIError) : Bool := err.reason = .forbidden

/-- What the client reads from the server: `ServerGroups`, the wrapped Kubernetes client's
`ServerResourcesForGroupVersion`, and a `GET` of an absolute path decoded into a resource
list. -/
structure Server where
  serverGroups : Except APIError (List APIGroup)
  kubeResources : String → Except APIError APIResourceList
  get : String → Except APIError APIResourceList

/-- `DiscoveryClient.ServerResourcesForGroupVersion`: the Kubernetes client's list, and for
`v1` the resources of `/oapi/v1` after it; a `v1` server without that path (403 or 404) gives
the Kubernetes list alone. -/
def serverResourcesForGroupVersion (d : Server) (groupVersion : String) :
    Except APIError APIResourceList :=
  match d.kubeResources groupVersion with
  | .error err => .error err
  | .ok parentList =>
    if groupVersion ≠ "v1" then .ok parentList
    else
      match d.get ("/oapi/" ++ groupVersion) with
      | .error err =>
        if groupVersion = "v1" ∧ (isNotFound err ∨ isForbidden err) then .ok parentList
        else .error err
      | .ok originResources =>
        .ok { parentList with
          apiResources := parentList.apiResources ++ originResources.apiResources }

/-- `unversioned.ExtractGroupVersions`: the group versions of every group, in order. -/
def extractGroupVersions (groups : List APIGroup) : List String :=
  groups.flatMap fun g => g.versions.map (·.groupVersion)

/-- The loop of `ServerResources`: each group version's resources go into `result`, and the
first error ends the loop. -/
def serverResourcesLoop (d : Server) :
    List String → (String → Option APIResourceList) →
      Except APIError (String → Option APIResourceList)
  | [], result => .ok result
  | groupVersion :: groupVersions, result =>
    match serverResourcesForGroupVersion d groupVersion with
    | .error err => .error err
    | .ok resources =>
      serverResourcesLoop d groupVersions (Function.update result groupVersion (some resources))

/-- `DiscoveryClient.ServerResources`. -/
def serverResources (d : Server) : Except APIError (String → Option APIResourceList) :=
  match d.serverGroups with
  | .error err => .error err
  | .ok apiGroups => serverResourcesLoop d (extractGroupVersions apiGroups) fun _ => none

/-- A server announcing `v1` and `extensions/v1beta1`, whose Kubernetes client lists pods for
each and whose origin API serves builds under `/oapi/v1`. -/
def sampleServer : Server :=
  ⟨.ok [⟨"", [⟨"v1", "v1"⟩]⟩,
      ⟨"extensions", [⟨"extensions/v1beta1", "v1beta1"⟩]⟩],
    fun gv => .ok ⟨gv, [⟨"pods", true, "Pod"⟩]⟩,
    fun path => if path = "/oapi/v1" then .ok ⟨"v1", [⟨"builds", true, "Build"⟩]⟩
      else .error ⟨.notFound, "the server could not find the requested resource"⟩⟩

/-- The same server, with its Kubernetes client failing for `extensions/v1beta1`. -/
def unavailableServer : Server :=
  { sampleServer with
    kubeResources := fun gv => if gv = "v1" then .ok ⟨gv, [⟨"pods", true, "Pod"⟩]⟩
      else .error ⟨.other "ServiceUnavailable",
        "the server is currently unable to handle the request"⟩ }

/-! ## One group version -/

/-- The second `groupVersion == "v1"` test is always true where it stands: for `v1` the
client adds `/oapi/v1`, or tolerates its 403 or 404. -/
theorem serverResourcesForGroupVersion_v1 (d : Server) :
    serverResourcesForGroupVersion d "v1" =
      match d.kubeResources "v1" with
      | .error err => .error err
      | .ok parentList =>
        match d.get "/oapi/v1" with
        | .error err => if isNotFound err ∨ isForbidden err then .ok parentList else .error err
        | .ok originResources =>
          .ok { parentList with
            apiResources := parentList.apiResources ++ originResources.apiResources } := by
  unfold serverResourcesForGroupVersion
  rcases d.kubeResources "v1" with err | parentList
  · rfl
  · simp only [ne_eq, not_true_eq_false, if_false, true_and]
    rfl

/-- A group version other than `v1` gets the Kubernetes client's answer unchanged. -/
theorem serverResourcesForGroupVersion_of_ne (d : Server) {groupVersion : String}
    (h : groupVersion ≠ "v1") :
    serverResourcesForGroupVersion d groupVersion = d.kubeResources groupVersion := by
  unfold serverResourcesForGroupVersion
  rcases d.kubeResources groupVersion with err | parentList
  · rfl
  · simp [h]

/-- A successful answer extends the Kubernetes client's list: that list's resources come
first and in order, and only `v1` gets more. -/
theorem serverResourcesForGroupVersion_ok {d : Server} {groupVersion : String}
    {l : APIResourceList} (h : serverResourcesForGroupVersion d groupVersion = .ok l) :
    ∃ parentList, d.kubeResources groupVersion = .ok parentList ∧
      l.groupVersion = parentList.groupVersion ∧ parentList.apiResources <+: l.apiResources ∧
      (groupVersion ≠ "v1" → l = parentList) := by
  by_cases hv : groupVersion = "v1"
  · subst hv
    rw [serverResourcesForGroupVersion_v1] at h
    rcases hk : d.kubeResources "v1" with err | parentList <;> rw [hk] at h
    · cases h
    refine ⟨parentList, rfl, ?_⟩
    rcases hg : d.get "/oapi/v1" with err | originResources <;> simp only [hg] at h
    · split_ifs at h
      cases h
      exact ⟨rfl, List.prefix_refl _, fun h => absurd rfl h⟩
    · cases h
      exact ⟨rfl, List.prefix_append _ _, fun h => absurd rfl h⟩
  · rw [serverResourcesForGroupVersion_of_ne d hv] at h
    exact ⟨l, h, rfl, List.prefix_refl _, fun _ => rfl⟩

/-! ## All group versions -/

theorem exists_of_isOk {ε α : Type} {x : Except ε α} (h : x.isOk = true) :
    ∃ a, x = .ok a := by
  cases x with
  | error => simp [Except.isOk, Except.toBool] at h
  | ok a => exact ⟨a, rfl⟩

/-- When every group version answers, the loop returns `result` with each group version's
resources filled in. -/
theorem serverResourcesLoop_of_isOk (d : Server) (groupVersions : List String)
    (result : String → Option APIResourceList)
    (h : ∀ gv ∈ groupVersions, (serverResourcesForGroupVersion d gv).isOk = true) :
    serverResourcesLoop d groupVersions result =
      .ok fun k => if k ∈ groupVersions then (serverResourcesForGroupVersion d k).toOption
        else result k := by
  induction groupVersions generalizing result with
  | nil => simp [serverResourcesLoop]
  | cons gv gvs ih =>
    simp only [List.mem_cons, forall_eq_or_imp] at h
    obtain ⟨l, hl⟩ := exists_of_isOk h.1
    simp only [serverResourcesLoop, hl, ih _ h.2, Except.ok.injEq]
    funext k
    by_cases hk : k ∈ gvs
    · simp [hk]
    · by_cases hkv : k = gv
      · subst hkv; simp [hl, Except.toOption]
      · simp [hk, hkv]

/-- The loop stops at the first group version that fails, with its error. -/
theorem serverResourcesLoop_of_error (d : Server) (pre : List String) (gv : String)
    (post : List String) (result : String → Option APIResourceList) {err : APIError}
    (hpre : ∀ g ∈ pre, (serverResourcesForGroupVersion d g).isOk = true)
    (herr : serverResourcesForGroupVersion d gv = .error err) :
    serverResourcesLoop d (pre ++ gv :: post) result = .error err := by
  induction pre generalizing result with
  | nil => simp [serverResourcesLoop, herr]
  | cons g pre ih =>
    simp only [List.mem_cons, forall_eq_or_imp] at hpre
    obtain ⟨l, hl⟩ := exists_of_isOk hpre.1
    simp only [List.cons_append, serverResourcesLoop, hl]
    exact ih _ hpre.2

/-- When the group list and every announced group version answer, `ServerResources` maps
exactly the announced group versions, each to its resources. -/
theorem serverResources_of_isOk (d : Server) (groups : List APIGroup)
    (hgroups : d.serverGroups = .ok groups)
    (h : ∀ gv ∈ extractGroupVersions groups,
      (serverResourcesForGroupVersion d gv).isOk = true) :
    serverResources d = .ok fun k =>
      if k ∈ extractGroupVersions groups then (serverResourcesForGroupVersion d k).toOption
      else none := by
  simp only [serverResources, hgroups]
  exact serverResourcesLoop_of_isOk d _ _ h

theorem serverResources_of_isOk_sample :
    sampleServer.serverGroups =
        .ok [⟨"", [⟨"v1", "v1"⟩]⟩,
          ⟨"extensions", [⟨"extensions/v1beta1", "v1beta1"⟩]⟩] ∧
      (∀ gv ∈ extractGroupVersions
          [⟨"", [⟨"v1", "v1"⟩]⟩,
            ⟨"extensions", [⟨"extensions/v1beta1", "v1beta1"⟩]⟩],
        (serverResourcesForGroupVersion sampleServer gv).isOk = true) ∧
      serverResources sampleServer = .ok fun k =>
        if k ∈ extractGroupVersions
            [⟨"", [⟨"v1", "v1"⟩]⟩,
              ⟨"extensions", [⟨"extensions/v1beta1", "v1beta1"⟩]⟩] then
          (serverResourcesForGroupVersion sampleServer k).toOption
        else none :=
  ⟨rfl, by decide, serverResources_of_isOk _ _ rfl (by decide)⟩

/-- `ServerResources` fails with the error of the first announced group version that fails,
whatever the group versions after it would answer. -/
theorem serverResources_of_error (d : Server) (groups : List APIGroup)
    (hgroups : d.serverGroups = .ok groups) (pre : List String) (gv : String)
    (post : List String) (err : APIError) (hsplit : extractGroupVersions groups = pre ++ gv :: post)
    (hpre : ∀ g ∈ pre, (serverResourcesForGroupVersion d g).isOk = true)
    (herr : serverResourcesForGroupVersion d gv = .error err) :
    serverResources d = .error err := by
  simp only [serverResources, hgroups, hsplit]
  exact serverResourcesLoop_of_error d pre gv post _ hpre herr

theorem serverResources_of_error_sample :
    unavailableServer.serverGroups =
        .ok [⟨"", [⟨"v1", "v1"⟩]⟩,
          ⟨"extensions", [⟨"extensions/v1beta1", "v1beta1"⟩]⟩] ∧
      extractGroupVersions
          [⟨"", [⟨"v1", "v1"⟩]⟩,
            ⟨"extensions", [⟨"extensions/v1beta1", "v1beta1"⟩]⟩] =
        ["v1"] ++ "extensions/v1beta1" :: [] ∧
      (∀ g ∈ ["v1"], (serverResourcesForGroupVersion unavailableServer g).isOk = true) ∧
      serverResourcesForGroupVersion unavailableServer "extensions/v1beta1" =
        .error ⟨.other "ServiceUnavailable",
          "the server is currently unable to handle the request"⟩ ∧
      serverResources unavailableServer =
        .error ⟨.other "ServiceUnavailable",
          "the server is currently unable to handle the request"⟩ :=
  ⟨rfl, rfl, by decide, rfl, serverResources_of_error _ _ rfl ["v1"] "extensions/v1beta1" [] _
    (by rfl) (by decide) rfl⟩

end OpenshiftVendoring.OriginClient
