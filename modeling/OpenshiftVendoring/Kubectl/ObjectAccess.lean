import Mathlib

/-!
# kubectl's access to objects by type

The methods of `ring0Factory` in `pkg/kubectl/cmd/util/factory_client_access.go` that switch
on the type of an object: which kinds can be exposed or autoscaled, the selector, ports and
protocols of an object, the pod spec that `UpdatePodSpecForObject` hands to its callback, and
pausing and resuming a deployment.

A Go type switch is a match on `Object`; a nil pointer is `none`, and dereferencing one is the
`panic` result. The helpers these methods call outside the source tree (`kubectl.MakeLabels`,
`getPorts` and the like, the scheme's `ObjectKinds`) are the fields of `Helpers`, and every
result here holds for all of them.

## Main definitions

* `canBeExposed`, `canBeAutoscaled` - the kinds `expose` and `autoscale` accept.
* `mapBasedSelectorForObject`, `portsForObject`, `protocolsForObject`.
* `updatePodSpecForObject`, `pauser`, `resumer`.
-/

namespace OpenshiftVendoring.Kubectl

/-- `unversioned.GroupKind`. -/
structure GroupKind where
  group : String
  kind : String
  deriving DecidableEq, Repr

/-- `GroupKind.String`: the kind, and `.` and the group unless the group is empty. -/
def GroupKind.string (gk : GroupKind) : String :=
  if gk.group = "" then gk.kind else gk.kind ++ "." ++ gk.group

/-- `unversioned.GroupVersionKind`. -/
structure GroupVersionKind where
  group : String
  version : String
  kind : String
  deriving DecidableEq, Repr

/-- `GroupVersionKind.String`. -/
def GroupVersionKind.string (gvk : GroupVersionKind) : String :=
  gvk.group ++ "/" ++ gvk.version ++ ", Kind=" ++ gvk.kind

/-- `api.Kind`: a kind of the core group. -/
def api.kind (kind : String) : GroupKind := ⟨"", kind⟩

/-- `extensions.Kind`. -/
def extensions.kind (kind : String) : GroupKind := ⟨"extensions", kind⟩

/-- `apps.Kind`. -/
def apps.kind (kind : String) : GroupKind := ⟨"apps", kind⟩

/-- `batch.Kind`. -/
def batch.kind (kind : String) : GroupKind := ⟨"batch", kind⟩

/-! ## Objects -/

/-- The containers of a pod spec, by name. The methods here pass a pod spec whole to helpers
or callbacks and never look inside it. -/
structure PodSpec where
  containers : List String
  deriving DecidableEq, Repr

/-- A pod template: its labels and the spec of the pods it makes. -/
structure PodTemplateSpec where
  labels : List (String × String)
  spec : PodSpec
  deriving DecidableEq, Repr

structure LabelSelectorRequirement where
  key : String
  operator : String
  values : List String
  deriving DecidableEq, Repr

structure LabelSelector where
  matchLabels : List (String × String)
  matchExpressions : List LabelSelectorRequirement
  deriving DecidableEq, Repr

structure Pod where
  labels : List (String × String)
  spec : PodSpec
  deriving DecidableEq, Repr

structure ReplicationControllerSpec where
  selector : List (String × String)
  template : Option PodTemplateSpec
  deriving DecidableEq, Repr

structure ReplicationController where
  spec : ReplicationControllerSpec
  deriving DecidableEq, Repr

/-- A service spec: its selector, a nil map or a map, and its port numbers. -/
structure ServiceSpec where
  selector : Option (List (String × String))
  ports : List Nat
  deriving DecidableEq, Repr

structure Service where
  spec : ServiceSpec
  deriving DecidableEq, Repr

structure DeploymentSpec where
  selector : Option LabelSelector
  template : PodTemplateSpec
  paused : Bool
  deriving DecidableEq, Repr

structure Deployment where
  spec : DeploymentSpec
  deriving DecidableEq, Repr

structure ReplicaSetSpec where
  selector : Option LabelSelector
  template : PodTemplateSpec
  deriving DecidableEq, Repr

structure ReplicaSet where
  spec : ReplicaSetSpec
  deriving DecidableEq, Repr

/-- A `runtime.Object` as the type switches see it: one of the internal types they name, or any
other type. A daemon set, a stateful set and a job are read only through their pod template. -/
inductive Object
  | pod (p : Pod)
  | replicationController (rc : ReplicationController)
  | service (s : Service)
  | deployment (d : Deployment)
  | daemonSet (template : PodTemplateSpec)
  | replicaSet (rs : ReplicaSet)
  | statefulSet (template : PodTemplateSpec)
  | job (template : PodTemplateSpec)
  /-- An object of any other Go type, by its name: another kind, or a versioned or unstructured
  object of any kind, a pod or a deployment included. -/
  | other (typeName : String)

/-- A call's result, or a Go runtime panic. -/
inductive Result (α : Type)
  | ok (a : α)
  | error (msg : String)
  | panic
  deriving DecidableEq, Repr

/-- What the methods call outside the source tree. -/
structure Helpers where
  makeLabels : List (String × String) → String
  getPorts : PodSpec → List String
  getServicePorts : ServiceSpec → List String
  getProtocols : PodSpec → List (String × String)
  getServiceProtocols : ServiceSpec → List (String × String)
  /-- fmt's rendering of match expressions with the verb `%+v`. -/
  formatExpressions : List LabelSelectorRequirement → String
  /-- The first of `api.Scheme.ObjectKinds`, or its error. -/
  objectKinds : Object → Except String GroupVersionKind

/-! ## Kinds that can be exposed or autoscaled -/

/-- The shape of `CanBeExposed` and `CanBeAutoscaled`: the listed kinds pass, any other is
refused with `cannot <verb> a <kind>`. -/
def acceptKinds (kinds : List GroupKind) (verb : String) (kind : GroupKind) : Except String Unit :=
  if kind ∈ kinds then .ok () else .error ("cannot " ++ verb ++ " a " ++ kind.string)

/-- `ring0Factory.CanBeExposed`. -/
def canBeExposed : GroupKind → Except String Unit :=
  acceptKinds [api.kind "ReplicationController", api.kind "Service", api.kind "Pod",
    extensions.kind "Deployment", extensions.kind "ReplicaSet"] "expose"

/-- `ring0Factory.CanBeAutoscaled`. -/
def canBeAutoscaled : GroupKind → Except String Unit :=
  acceptKinds [api.kind "ReplicationController", extensions.kind "Deployment",
    extensions.kind "ReplicaSet"] "autoscale"

theorem acceptKinds_eq_ok {kinds : List GroupKind} {verb : String} {kind : GroupKind} :
    acceptKinds kinds verb kind = .ok () ↔ kind ∈ kinds := by
  unfold acceptKinds
  split_ifs with h <;> simp [h]

/-! ## Selector, ports and protocols -/

section Extract

variable (h : Helpers)

/-- The default case of the switches: the scheme's error, or `cannot extract <what> from <gvk>`. -/
def cannotExtract {α : Type} (what : String) (o : Object) : Result α :=
  match h.objectKinds o with
  | .error err => .error err
  | .ok gvk => .error ("cannot extract " ++ what ++ " from " ++ gvk.string)

/-- The `Deployment` and `ReplicaSet` cases of `MapBasedSelectorForObject`, which read the
selector through a pointer. -/
def labelSelectorToMap (selector : Option LabelSelector) : Result String :=
  match selector with
  | none => .panic
  | some s =>
    if s.matchExpressions.length > 0 then
      .error ("couldn't convert expressions - \"" ++ h.formatExpressions s.matchExpressions ++
        "\" to map-based selector format")
    else .ok (h.makeLabels s.matchLabels)

/-- `ring0Factory.MapBasedSelectorForObject`. -/
def mapBasedSelectorForObject : Object → Result String
  | .replicationController rc => .ok (h.makeLabels rc.spec.selector)
  | .pod p =>
    if p.labels.length = 0 then .error "the pod has no labels and cannot be exposed"
    else .ok (h.makeLabels p.labels)
  | .service s =>
    match s.spec.selector with
    | none => .error "the service has no pod selector set"
    | some selector => .ok (h.makeLabels selector)
  | .deployment d => labelSelectorToMap h d.spec.selector
  | .replicaSet rs => labelSelectorToMap h rs.spec.selector
  | o => cannotExtract h "pod selector" o

/-- The shape of `PortsForObject` and `ProtocolsForObject`: one reading of a pod spec and one
of a service spec. A replication controller's template is read through a pointer. -/
def fromObject {α : Type} (ofPod : PodSpec → α) (ofService : ServiceSpec → α)
    (what : String) :
    Object → Result α
  | .replicationController rc =>
    match rc.spec.template with
    | none => .panic
    | some t => .ok (ofPod t.spec)
  | .pod p => .ok (ofPod p.spec)
  | .service s => .ok (ofService s.spec)
  | .deployment d => .ok (ofPod d.spec.template.spec)
  | .replicaSet rs => .ok (ofPod rs.spec.template.spec)
  | o => cannotExtract h what o

/-- `ring0Factory.PortsForObject`. -/
def portsForObject : Object → Result (List String) :=
  fromObject h h.getPorts h.getServicePorts "ports"

/-- `ring0Factory.ProtocolsForObject`. -/
def protocolsForObject : Object → Result (List (String × String)) :=
  fromObject h h.getProtocols h.getServiceProtocols "protocols"

end Extract

/-! ## Pod specs and pausing -/

/-- `ring0Factory.UpdatePodSpecForObject`, with a callback that edits the pod spec and may
fail: whether the object has a pod spec, the callback's error, and the object after the call.
A replication controller without a template is first given an empty one. -/
def updatePodSpecForObject (o : Object) (fn : PodSpec → PodSpec × Option String) :
    (Bool × Option String) × Object :=
  match o with
  | .pod p => ((true, (fn p.spec).2), .pod { p with spec := (fn p.spec).1 })
  | .replicationController rc =>
    let t := rc.spec.template.getD ⟨[], ⟨[]⟩⟩
    ((true, (fn t.spec).2),
      .replicationController { rc with spec.template := some { t with spec := (fn t.spec).1 } })
  | .deployment d =>
    ((true, (fn d.spec.template.spec).2),
      .deployment { d with spec.template.spec := (fn d.spec.template.spec).1 })
  | .daemonSet t => ((true, (fn t.spec).2), .daemonSet { t with spec := (fn t.spec).1 })
  | .replicaSet rs =>
    ((true, (fn rs.spec.template.spec).2),
      .replicaSet { rs with spec.template.spec := (fn rs.spec.template.spec).1 })
  | .statefulSet t => ((true, (fn t.spec).2), .statefulSet { t with spec := (fn t.spec).1 })
  | .job t => ((true, (fn t.spec).2), .job { t with spec := (fn t.spec).1 })
  | o => ((false, some "the object is not a pod or does not have a pod template"), o)

/-- The shape of `Pauser` and `Resumer`: a deployment whose `paused` is not yet `target` is
given it; one that has it already is refused with `already`, and any other object with
`unsupported`. -/
def setPaused (target : Bool) (already unsupported : String) :
    Object → (Bool × Option String) × Object
  | .deployment d =>
    if d.spec.paused = target then ((true, some already), .deployment d)
    else ((true, none), .deployment { d with spec.paused := target })
  | o => ((false, some unsupported), o)

/-- `ring0Factory.Pauser`. -/
def pauser : Object → (Bool × Option String) × Object :=
  setPaused true "is already paused" "pausing is not supported"

/-- `ring0Factory.Resumer`. -/
def resumer : Object → (Bool × Option String) × Object :=
  setPaused false "is not paused" "resuming is not supported"

/-! ## The default case and the selector -/

section Extract

variable (h : Helpers)

theorem cannotExtract_ne_ok {α : Type} (what : String) (o : Object) (a : α) :
    cannotExtract h what o ≠ .ok a := by
  unfold cannotExtract; split <;> simp

theorem cannotExtract_ne_panic {α : Type} (what : String) (o : Object) :
    (cannotExtract h what o : Result α) ≠ .panic := by
  unfold cannotExtract; split <;> simp

theorem labelSelectorToMap_error_iff (selector : Option LabelSelector) :
    (∃ msg, labelSelectorToMap h selector = .error msg) ↔
      ∃ sel, selector = some sel ∧ sel.matchExpressions ≠ [] := by
  rcases selector with _ | sel
  · simp [labelSelectorToMap]
  · by_cases hm : sel.matchExpressions = [] <;> simp [labelSelectorToMap, hm, List.length_pos]

end Extract

/-! ## Pausing and resuming -/

/-- Pause (`true`) and resume (`false`) requests one after another: the answers, and the
object after the last. -/
def pauseResume (o : Object) : List Bool → List (Bool × Option String) × Object
  | [] => ([], o)
  | target :: targets =>
    let r := if target then pauser o else resumer o
    let rest := pauseResume r.2 targets
    (r.1 :: rest.1, rest.2)

theorem pauser_or_resumer (target : Bool) (o : Object) :
    (if target then pauser o else resumer o) =
      setPaused target (if target then "is already paused" else "is not paused")
        (if target then "pausing is not supported" else "resuming is not supported") o := by
  cases target <;> rfl

/-- A request on a deployment is refused when `paused` is already its target; either way
`paused` is its target afterwards. -/
theorem setPaused_deployment (target : Bool) (already unsupported : String) (d : Deployment) :
    setPaused target already unsupported (.deployment d) =
      ((true, if d.spec.paused = target then some already else none),
        .deployment { d with spec.paused := target }) := by
  by_cases hp : d.spec.paused = target
  · subst hp; simp [setPaused]
  · simp [setPaused, hp]

/-- Over any run of pause and resume requests on a deployment, a request is refused exactly when
`paused` already has its target, and the deployment ends with the target of the last request;
nothing else of it changes. -/
theorem pauseResume_deployment (d : Deployment) (targets : List Bool) :
    pauseResume (.deployment d) targets =
      (List.zipWith (fun before target => (true, if before = target then
          some (if target then "is already paused" else "is not paused") else none))
          (d.spec.paused :: targets) targets,
        .deployment { d with spec.paused := targets.getLast?.getD d.spec.paused }) := by
  induction targets generalizing d with
  | nil => rfl
  | cons target targets ih =>
    simp only [pauseResume, pauser_or_resumer, setPaused_deployment, ih]
    cases targets <;> simp [List.getLast?_cons]

end OpenshiftVendoring.Kubectl
