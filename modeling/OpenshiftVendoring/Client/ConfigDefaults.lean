import Mathlib

/-!
# The defaults of two generated API group clients

`NewForConfig` of the generated clients of `authentication.k8s.io` (internal version) and of
`authorization.k8s.io/v1beta1` copies the caller's `restclient.Config`, fills in the group's
defaults with `setConfigDefaults`, and builds a REST client from the result. The two
`setConfigDefaults` differ. The authentication client takes its group version from the
registered group, keeps the caller's group version when it is of that group, and defaults the
rate limits. The authorization client parses its fixed group version, refuses it unless it is
enabled, always sets it, and leaves the rate limits as they are.

The registry of API groups, `ParseGroupVersion`, the default user agent and `RESTClientFor` are
outside the source tree; they are the fields of `Registry` and an argument, and every result
here holds for all of them. A `float32` rate is a rational number, so NaN is left out.

## Main definitions

* `Config` - the fields of `restclient.Config` the two read or write.
* `authentication.setConfigDefaults`, `authorization.setConfigDefaults` - the defaults.
* `authentication.newForConfig`, `authorization.newForConfig` - `NewForConfig`.
-/

namespace OpenshiftVendoring.Client

/-- `unversioned.GroupVersion`. -/
structure GroupVersion where
  group : String
  version : String
  deriving DecidableEq, Repr

/-- The serializer a config negotiates with. -/
inductive NegotiatedSerializer
  /-- `api.Codecs`. -/
  | codecs
  /-- `serializer.DirectCodecFactory` over `api.Codecs`. -/
  | directCodecFactory
  /-- A serializer the caller set. -/
  | other (name : String)
  deriving DecidableEq, Repr

/-- The fields of `restclient.Config` that `setConfigDefaults` reads or writes; a nil group
version or serializer is `none`. -/
structure Config where
  apiPath : String
  userAgent : String
  groupVersion : Option GroupVersion
  negotiatedSerializer : Option NegotiatedSerializer
  qps : ℚ
  burst : Int
  deriving DecidableEq, Repr

/-- What the two clients ask of the API group registry and of the REST client library. -/
structure Registry where
  /-- `registered.Group`, by the preferred group version of the group. -/
  group : String → Except String GroupVersion
  isEnabledVersion : GroupVersion → Bool
  parseGroupVersion : String → Except String GroupVersion
  /-- `restclient.DefaultKubernetesUserAgent()`. -/
  defaultKubernetesUserAgent : String

variable (reg : Registry)

/-- The user agent, defaulted when the caller left it empty. -/
def Config.defaultUserAgent (config : Config) : Config :=
  if config.userAgent = "" then { config with userAgent := reg.defaultKubernetesUserAgent }
  else config

/-- `setConfigDefaults` of the authentication client. -/
def authentication.setConfigDefaults (config : Config) : Except String Config := do
  let g ← reg.group "authentication.k8s.io"
  let config := { config with apiPath := "/apis" }.defaultUserAgent reg
  let config := match config.groupVersion with
    | some gv => if gv.group ≠ g.group then { config with groupVersion := some g } else config
    | none => { config with groupVersion := some g }
  let config := { config with negotiatedSerializer := some .codecs }
  let config := if config.qps = 0 then { config with qps := 5 } else config
  return if config.burst = 0 then { config with burst := 10 } else config

/-- `setConfigDefaults` of the authorization client. -/
def authorization.setConfigDefaults (config : Config) : Except String Config := do
  let gv ← reg.parseGroupVersion "authorization.k8s.io/v1beta1"
  if !reg.isEnabledVersion gv then throw "authorization.k8s.io/v1beta1 is not enabled"
  let config := { config with apiPath := "/apis" }.defaultUserAgent reg
  return { config with groupVersion := some gv, negotiatedSerializer := some .directCodecFactory }

/-- `NewForConfig` of the authentication client: the REST client built from the defaulted copy
of the caller's config. -/
def authentication.newForConfig {γ : Type} (restClientFor : Config → Except String γ)
    (c : Config) : Except String γ :=
  authentication.setConfigDefaults reg c >>= restClientFor

def authorization.newForConfig {γ : Type} (restClientFor : Config → Except String γ)
    (c : Config) : Except String γ :=
  authorization.setConfigDefaults reg c >>= restClientFor

/-! ## The user agent -/

theorem Config.defaultUserAgent_eq (config : Config) :
    config.defaultUserAgent reg =
      { config with
        userAgent := if config.userAgent = "" then reg.defaultKubernetesUserAgent
          else config.userAgent } := by
  unfold Config.defaultUserAgent; split_ifs <;> simp_all

/-! ## The authentication client -/

/-- The group version the authentication client leaves: the caller's when it is of the
registered group, whatever its version, else the registered one. -/
def authentication.groupVersionFor (g : GroupVersion) : Option GroupVersion → GroupVersion
  | some gv => if gv.group = g.group then gv else g
  | none => g

theorem authentication.groupVersionFor_group (g : GroupVersion) (gv : Option GroupVersion) :
    (authentication.groupVersionFor g gv).group = g.group := by
  cases gv with
  | none => rfl
  | some gv => by_cases h : gv.group = g.group <;> simp [authentication.groupVersionFor, h]

theorem authentication.groupVersionFor_of_group {g gv : GroupVersion} (h : gv.group = g.group) :
    authentication.groupVersionFor g (some gv) = gv := if_pos h

theorem authentication.setConfigDefaults_eq (config : Config) :
    authentication.setConfigDefaults reg config =
      (reg.group "authentication.k8s.io").map fun g =>
        { apiPath := "/apis"
          userAgent := if config.userAgent = "" then reg.defaultKubernetesUserAgent
            else config.userAgent
          groupVersion := some (authentication.groupVersionFor g config.groupVersion)
          negotiatedSerializer := some .codecs
          qps := if config.qps = 0 then 5 else config.qps
          burst := if config.burst = 0 then 10 else config.burst } := by
  unfold authentication.setConfigDefaults
  rcases reg.group "authentication.k8s.io" with err | g
  · rfl
  simp only [bind, Except.bind, pure, Except.pure, Except.map, Except.ok.injEq]
  have hgv : ∀ c : Config, (match c.groupVersion with
      | some gv => if gv.group ≠ g.group then { c with groupVersion := some g } else c
      | none => { c with groupVersion := some g }) =
      { c with groupVersion := some (authentication.groupVersionFor g c.groupVersion) } := by
    rintro ⟨a, u, _ | gv, n, q, b⟩
    · rfl
    · by_cases h : gv.group = g.group <;> simp [h, authentication.groupVersionFor]
  rw [hgv, Config.defaultUserAgent_eq]
  by_cases hq : config.qps = 0 <;> by_cases hb : config.burst = 0 <;> simp [hq, hb]

/-- Defaulting a config the authentication client has defaulted changes nothing: the user agent
and the rates it set stay, and the group version it set is of the registered group. -/
theorem authentication.setConfigDefaults_idem {config config' : Config}
    (h : authentication.setConfigDefaults reg config = .ok config') :
    authentication.setConfigDefaults reg config' = .ok config' := by
  rw [authentication.setConfigDefaults_eq] at h ⊢
  rcases hg : reg.group "authentication.k8s.io" with err | g <;> rw [hg] at h
  · cases h
  cases h
  simp only [Except.map, Except.ok.injEq, Config.mk.injEq, true_and]
  refine ⟨?_, ?_, ?_, ?_⟩
  · split_ifs <;> simp_all
  · rw [authentication.groupVersionFor_of_group (authentication.groupVersionFor_group g _)]
  · split_ifs <;> norm_num at *
  · split_ifs <;> omega

/-- A registry whose authentication group prefers `v1beta1`. -/
def sampleRegistry : Registry where
  group _ := .ok ⟨"authentication.k8s.io", "v1beta1"⟩
  isEnabledVersion _ := true
  parseGroupVersion _ := .ok ⟨"authorization.k8s.io", "v1beta1"⟩
  defaultKubernetesUserAgent := "kubectl/v1.5.2"

/-- A caller who asks for `authentication.k8s.io/v1` and sets nothing else. -/
def sampleConfig : Config := ⟨"", "", some ⟨"authentication.k8s.io", "v1"⟩, none, 0, 0⟩

/-! ## The authorization client -/

theorem authorization.setConfigDefaults_eq (config : Config) :
    authorization.setConfigDefaults reg config =
      match reg.parseGroupVersion "authorization.k8s.io/v1beta1" with
      | .error err => .error err
      | .ok gv =>
        if reg.isEnabledVersion gv then
          .ok { config with
            apiPath := "/apis"
            userAgent := if config.userAgent = "" then reg.defaultKubernetesUserAgent
              else config.userAgent
            groupVersion := some gv
            negotiatedSerializer := some .directCodecFactory }
        else .error "authorization.k8s.io/v1beta1 is not enabled" := by
  unfold authorization.setConfigDefaults
  rcases reg.parseGroupVersion "authorization.k8s.io/v1beta1" with err | gv
  · rfl
  by_cases he : reg.isEnabledVersion gv <;>
    simp [he, bind, Except.bind, pure, Except.pure, throw, throwThe, MonadExceptOf.throw,
      Config.defaultUserAgent_eq]

/-- What follows from the two bodies' differences, on one config: the authentication client
keeps a group version of its registered group, whatever its version, and leaves rates that are
not zero, where the authorization client always sets the version it parsed and keeps the
caller's rates. -/
theorem setConfigDefaults_differ {config c₁ c₂ : Config}
    (h₁ : authentication.setConfigDefaults reg config = .ok c₁)
    (h₂ : authorization.setConfigDefaults reg config = .ok c₂) :
    (∃ g, reg.group "authentication.k8s.io" = .ok g ∧
        ∀ gv, config.groupVersion = some gv → gv.group = g.group → c₁.groupVersion = some gv) ∧
      c₁.qps ≠ 0 ∧ c₁.burst ≠ 0 ∧
      (∃ gv, reg.parseGroupVersion "authorization.k8s.io/v1beta1" = .ok gv ∧
        c₂.groupVersion = some gv) ∧
      c₂.qps = config.qps ∧ c₂.burst = config.burst := by
  rw [authentication.setConfigDefaults_eq] at h₁
  rw [authorization.setConfigDefaults_eq] at h₂
  rcases hg : reg.group "authentication.k8s.io" with err | g <;>
    simp only [hg, Except.map, reduceCtorEq, Except.ok.injEq] at h₁
  rcases hgv : reg.parseGroupVersion "authorization.k8s.io/v1beta1" with err | gv <;>
    simp only [hgv, reduceCtorEq] at h₂
  by_cases he : reg.isEnabledVersion gv <;>
    simp only [he, if_true, if_false, reduceCtorEq, Except.ok.injEq] at h₂
  subst h₁ h₂
  refine ⟨⟨g, rfl, fun gv hgv hgroup => ?_⟩, by dsimp only; split_ifs with hq <;> simp [hq],
    by dsimp only; split_ifs with hb <;> simp [hb], ⟨gv, rfl, rfl⟩, rfl, rfl⟩
  rw [hgv, authentication.groupVersionFor_of_group hgroup]

example :
    (authentication.setConfigDefaults sampleRegistry sampleConfig).map (·.groupVersion) =
        .ok (some ⟨"authentication.k8s.io", "v1"⟩) ∧
      authorization.setConfigDefaults sampleRegistry sampleConfig =
        .ok ⟨"/apis", "kubectl/v1.5.2", some ⟨"authorization.k8s.io", "v1beta1"⟩,
          some .directCodecFactory, 0, 0⟩ :=
  ⟨rfl, rfl⟩

end OpenshiftVendoring.Client
