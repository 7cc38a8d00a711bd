import Mathlib

/-!
# The port-forward command of kubectl

`kubectl port-forward` of `pkg/kubectl/cmd/portforward.go` runs three steps, and the first error
ends the command: `Complete` takes the pod from `-p` or from the first argument, the ports from
the remaining arguments, and the namespace and clients from the factory; `Validate` checks the
options; `RunPortForward` gets the pod, refuses one that is not running, and asks the forwarder
to forward the ports through the pod's `portforward` subresource.

The factory, the pods client, the forwarder and `UsageError` are outside the source tree; they
are the fields of `Collaborators`, and every result here holds for all of them. A nil pointer
is `none`, and a method call through one is `Outcome.panic`. The REST client's request is
given by the parts its URL is made from; the deprecation warning for `-p` and the signal
handler that closes the stop channel are left out.

## Main definitions

* `PortForwardOptions.complete`, `PortForwardOptions.validate`,
  `PortForwardOptions.runPortForward` - the three steps.
* `portForward` - the command, from the `-p` flag and the arguments.
-/

namespace OpenshiftVendoring.PortForward

/-- `api.PodPhase`. -/
inductive PodPhase
  | pending
  | running
  | succeeded
  | failed
  | unknown
  deriving DecidableEq, Repr

/-- What `%v` prints for a phase. -/
def PodPhase.string : PodPhase → String
  | .pending => "Pending"
  | .running => "Running"
  | .succeeded => "Succeeded"
  | .failed => "Failed"
  | .unknown => "Unknown"

/-- The parts of a pod that `RunPortForward` reads. -/
structure Pod where
  name : String
  phase : PodPhase
  deriving DecidableEq, Repr

/-- A request of the REST client, by the parts its URL is made from. -/
structure Request where
  verb : String
  resource : String
  ns : String
  name : String
  subResource : String
  deriving DecidableEq, Repr

/-- What the command calls outside the source tree. The pods client is given by its `Get`, from
the namespace and the name; the client config and the REST client only by whether the factory
gives them; the forwarder by `ForwardPorts`, from the method, the request and the ports. -/
structure Collaborators where
  defaultNamespace : Except String String
  clientSet : Except String (String → String → Except String Pod)
  clientConfig : Except String Unit
  restClient : Except String Unit
  forwardPorts : String → Request → List String → Option String
  /-- `cmdutil.UsageError` for the command, from the message. -/
  usageError : String → String

/-- The parts of `PortForwardOptions` the three steps read and write. -/
structure PortForwardOptions where
  ns : String
  podName : String
  restClient : Option Unit
  config : Option Unit
  podClient : Option (String → String → Except String Pod)
  ports : List String
  portForwarder : Option (String → Request → List String → Option String)

/-- What the command does: an error, a panic, or the call to `ForwardPorts` and its error. -/
inductive Outcome
  | error (err : String)
  | panic
  | forwarded (method : String) (request : Request) (ports : List String) (err : Option String)
  deriving DecidableEq, Repr

variable (env : Collaborators)

/-- `Complete`, given the `-p` flag: the pod is the flag, or else the first argument, which the
first check makes sure there is. -/
def PortForwardOptions.complete (o : PortForwardOptions) (podFlag : String)
    (args : List String) : Except String PortForwardOptions := do
  if podFlag.length = 0 ∧ args.length = 0 then
    throw (env.usageError "POD is required for port-forward")
  let (podName, ports) :=
    if podFlag.length ≠ 0 then (podFlag, args) else (args.headD "", args.tail)
  let ns ← env.defaultNamespace
  let podClient ← env.clientSet
  let config ← env.clientConfig
  let restClient ← env.restClient
  return { o with
    podName := podName, ports := ports, ns := ns, podClient := some podClient
    config := some config, restClient := some restClient }

def PortForwardOptions.validate (o : PortForwardOptions) : Option String :=
  if o.podName.length = 0 then some "pod name must be specified"
  else if o.ports.length < 1 then some "at least 1 PORT is required for port-forward"
  else if o.portForwarder.isNone || o.podClient.isNone || o.restClient.isNone ||
      o.config.isNone then
    some "client, client config, restClient, and portforwarder must be provided"
  else none

def PortForwardOptions.runPortForward (o : PortForwardOptions) : Outcome :=
  match o.podClient with
  | none => .panic
  | some getPod =>
    match getPod o.ns o.podName with
    | .error err => .error err
    | .ok pod =>
      if pod.phase ≠ .running then
        .error ("unable to forward port because pod is not running. Current status=" ++
          pod.phase.string)
      else
        match o.restClient, o.portForwarder with
        | some _, some forwardPorts =>
          let req : Request := ⟨"POST", "pods", o.ns, pod.name, "portforward"⟩
          .forwarded "POST" req o.ports (forwardPorts "POST" req o.ports)
        | _, _ => .panic

/-- The options `NewCmdPortForward` starts from: only the forwarder is set. -/
def initialOptions : PortForwardOptions :=
  ⟨"", "", none, none, none, [], some env.forwardPorts⟩

/-- The `Run` of the command: each step runs only if the one before did not fail. -/
def portForward (podFlag : String) (args : List String) : Outcome :=
  match (initialOptions env).complete env podFlag args with
  | .error err => .error err
  | .ok o =>
    match o.validate with
    | some err => .error (env.usageError err)
    | none => o.runPortForward

/-! ## The three steps -/

/-- The pod `Complete` takes: the `-p` flag, or else the first argument. -/
def podOf (podFlag : String) (args : List String) : String :=
  if podFlag.length ≠ 0 then podFlag else args.headD ""

/-- The ports `Complete` takes: every argument with `-p`, or else all but the first. -/
def portsOf (podFlag : String) (args : List String) : List String :=
  if podFlag.length ≠ 0 then args else args.tail

/-- `Complete` succeeds exactly when a pod is named and the factory gives all it is asked for;
it then sets the pod, the ports, the namespace and the three clients. -/
theorem complete_eq_ok_iff (o o' : PortForwardOptions) (podFlag : String) (args : List String) :
    o.complete env podFlag args = .ok o' ↔
      (podFlag.length ≠ 0 ∨ args.length ≠ 0) ∧
        ∃ ns getPod, env.defaultNamespace = .ok ns ∧
        env.clientSet = .ok getPod ∧ env.clientConfig = .ok () ∧ env.restClient = .ok () ∧
        o' = { o with
          podName := podOf podFlag args, ports := portsOf podFlag args, ns := ns
          podClient := some getPod, config := some (), restClient := some () } := by
  have hsel : (if podFlag.length ≠ 0 then (podFlag, args) else (args.headD "", args.tail)) =
      (podOf podFlag args, portsOf podFlag args) := by
    unfold podOf portsOf
    split_ifs <;> rfl
  unfold PortForwardOptions.complete
  by_cases hnone : podFlag.length = 0 ∧ args.length = 0
  · refine ⟨fun h => ?_, fun h => absurd h.1 (by omega)⟩
    simp only [hnone, and_self, if_true, throw, throwThe, MonadExceptOf.throw, bind,
      Except.bind] at h
    cases h
  have hsome : podFlag.length ≠ 0 ∨ args.length ≠ 0 := by omega
  simp only [hnone, hsome, if_false, true_and, hsel]
  rcases env.defaultNamespace with _ | ns
  · simp only [bind, Except.bind, pure, Except.pure, reduceCtorEq, false_and, and_false,
      exists_false, iff_self]
  rcases env.clientSet with _ | getPod
  · simp only [bind, Except.bind, pure, Except.pure, reduceCtorEq, false_and, and_false,
      exists_false, iff_self]
  rcases env.clientConfig with _ | ⟨⟩
  · simp only [bind, Except.bind, pure, Except.pure, reduceCtorEq, false_and, and_false,
      exists_false, iff_self]
  rcases env.restClient with _ | ⟨⟩
  · simp only [bind, Except.bind, pure, Except.pure, reduceCtorEq, false_and, and_false,
      exists_false, iff_self]
  simp only [bind, Except.bind, pure, Except.pure, Except.ok.injEq, exists_and_left,
    exists_eq_left', true_and, eq_comm]

/-- `RunPortForward` on options whose clients and forwarder are set: it gets the pod, and
forwards the ports through the pod's subresource if the pod is running. -/
theorem runPortForward_of_clients (o : PortForwardOptions)
    {getPod : String → String → Except String Pod}
    {forwardPorts : String → Request → List String → Option String}
    (hpod : o.podClient = some getPod) (hrest : o.restClient = some ())
    (hfwd : o.portForwarder = some forwardPorts) :
    o.runPortForward =
      match getPod o.ns o.podName with
      | .error err => .error err
      | .ok pod =>
        if pod.phase = .running then
          let req : Request := ⟨"POST", "pods", o.ns, pod.name, "portforward"⟩
          .forwarded "POST" req o.ports (forwardPorts "POST" req o.ports)
        else .error ("unable to forward port because pod is not running. Current status=" ++
          pod.phase.string) := by
  unfold PortForwardOptions.runPortForward
  rw [hpod, hrest, hfwd]
  dsimp only
  rcases getPod o.ns o.podName with err | pod
  · rfl
  · by_cases hrun : pod.phase = .running <;> simp [hrun]

/-! ## The command -/

/-- The command as a whole: `Complete`, `Validate` and `RunPortForward` with the options
`Complete` fills, whose forwarder is the one `NewCmdPortForward` set. -/
theorem portForward_eq_of_complete {podFlag : String} {args : List String} {ns : String}
    {getPod : String → String → Except String Pod}
    (h : (initialOptions env).complete env podFlag args = .ok
      { initialOptions env with
        podName := podOf podFlag args, ports := portsOf podFlag args, ns := ns
        podClient := some getPod, config := some (), restClient := some () }) :
    portForward env podFlag args =
      if (podOf podFlag args).length = 0 then .error (env.usageError "pod name must be specified")
      else if (portsOf podFlag args).length < 1 then
        .error (env.usageError "at least 1 PORT is required for port-forward")
      else
        match getPod ns (podOf podFlag args) with
        | .error err => .error err
        | .ok pod =>
          if pod.phase = .running then
            let req : Request := ⟨"POST", "pods", ns, pod.name, "portforward"⟩
            .forwarded "POST" req (portsOf podFlag args)
              (env.forwardPorts "POST" req (portsOf podFlag args))
          else .error ("unable to forward port because pod is not running. Current status=" ++
            pod.phase.string) := by
  unfold portForward
  rw [h]
  simp only [PortForwardOptions.validate, initialOptions, Option.isNone_some, Bool.or_false,
    Bool.false_eq_true, if_false]
  split_ifs
  · rfl
  · rfl
  · exact runPortForward_of_clients _ (by rfl) (by rfl) (by rfl)

/-- A named pod is named by the flag or by an argument. -/
theorem named_of_podOf {podFlag : String} {args : List String}
    (h : 0 < (podOf podFlag args).length) : podFlag.length ≠ 0 ∨ args.length ≠ 0 := by
  unfold podOf at h
  split_ifs at h with hp
  · exact .inl hp
  · cases args
    · simp at h
    · simp

/-- The command forwards exactly when a pod is named and a port given, the factory gives all
`Complete` asks for, and the pod is running. It then makes one call: `ForwardPorts` with `POST`,
the pod's `portforward` subresource in the default namespace, and the ports after the pod. -/
theorem portForward_eq_forwarded_iff (podFlag : String) (args : List String) (method : String)
    (req : Request) (ports : List String) (err : Option String) :
    portForward env podFlag args = .forwarded method req ports err ↔
      ∃ ns getPod pod, env.defaultNamespace = .ok ns ∧ env.clientSet = .ok getPod ∧
        env.clientConfig = .ok () ∧ env.restClient = .ok () ∧
        0 < (podOf podFlag args).length ∧ 0 < (portsOf podFlag args).length ∧
        getPod ns (podOf podFlag args) = .ok pod ∧ pod.phase = .running ∧
        method = "POST" ∧ req = ⟨"POST", "pods", ns, pod.name, "portforward"⟩ ∧
        ports = portsOf podFlag args ∧ err = env.forwardPorts "POST" req ports := by
  constructor
  · intro hfw
    rcases h : (initialOptions env).complete env podFlag args with e | o
    · simp [portForward, h] at hfw
    obtain ⟨-, ns, getPod, hns, hcs, hcc, hrc, rfl⟩ := (complete_eq_ok_iff env _ _ _ _).mp h
    rw [portForward_eq_of_complete env h] at hfw
    split_ifs at hfw with hname hports
    rcases hpod : getPod ns (podOf podFlag args) with e | pod <;> rw [hpod] at hfw
    · cases hfw
    dsimp only at hfw
    split_ifs at hfw with hrun
    cases hfw
    exact ⟨ns, getPod, pod, hns, hcs, hcc, hrc, by omega, by omega, hpod, hrun, rfl, rfl, rfl,
      rfl⟩
  · rintro ⟨ns, getPod, pod, hns, hcs, hcc, hrc, hname, hports, hpod, hrun, rfl, rfl, rfl, rfl⟩
    have h := (complete_eq_ok_iff env (initialOptions env) _ podFlag args).mpr
      ⟨named_of_podOf hname, ns, getPod, hns, hcs, hcc, hrc, rfl⟩
    rw [portForward_eq_of_complete env h, if_neg (by omega), if_neg (by omega), hpod]
    simp [hrun]

/-- A factory for the namespace `default` whose pods client knows the running pod `web`. -/
def sampleEnv : Collaborators where
  defaultNamespace := .ok "default"
  clientSet := .ok fun _ name =>
    if name = "web" then .ok ⟨"web", .running⟩ else .error ("pods " ++ name ++ " not found")
  clientConfig := .ok ()
  restClient := .ok ()
  forwardPorts _ _ _ := none
  usageError msg := msg

example :
    portForward sampleEnv "" ["web", "8080", "9090:80"] =
      .forwarded "POST" ⟨"POST", "pods", "default", "web", "portforward"⟩ ["8080", "9090:80"]
        none ∧
    portForward sampleEnv "web" [] = .error "at least 1 PORT is required for port-forward" ∧
    portForward sampleEnv "" ["", "8080"] = .error "pod name must be specified" := by
  decide

end OpenshiftVendoring.PortForward
