import Mathlib

/-!
# Importing the bootstrap objects

`ImportObjects` of `pkg/bootstrap/docker/openshift/import.go` creates on the server every object
of a bootstrap asset, and `createAndRefresh` counts an object that already exists as created.
So an import never changes an object the server holds, and stores every object the server
refuses in no state. When the server's refusals read only the object, an import can be run
again: it changes nothing the first run stored, and it reports the same errors.

The server is modelled by the store its `Create` writes, objects by namespace and name: a create
the server refuses for reasons of its own (validation, admission) fails with what `reject` says,
which reads the object and what the server holds, so that a quota or a namespace being deleted
can refuse it; a create of a taken name fails with `AlreadyExists`; any other create stores the
object. The validator, the asset decoded by the resource builder, the refusals
and `AddSourceToErr` are the fields of `Collaborators`, and every result here holds for all of
them. The builder visits every object and gathers the visitor's errors, as `ContinueOnError`
asks.

## Main definitions

* `Server.create` - `Create` on the store.
* `createAndRefresh` - one create, with `AlreadyExists` counted as success.
* `visitImport`, `importObjects` - the visit and `ImportObjects`.
-/

namespace OpenshiftVendoring.Bootstrap

/-- A decoded object of the asset: where it goes, the file it came from, and its content. -/
structure Info (α : Type) where
  ns : String
  name : String
  source : String
  object : α
  deriving DecidableEq, Repr

/-- The key the server stores an object under. -/
def Info.key {α : Type} (info : Info α) : String × String := (info.ns, info.name)

/-- An error of `Create`. -/
inductive StatusError
  | alreadyExists (ns name : String)
  | other (msg : String)
  deriving DecidableEq, Repr

/-- `errors.IsAlreadyExists`. -/
def StatusError.isAlreadyExists : StatusError → Bool
  | .alreadyExists _ _ => true
  | .other _ => false

/-- The objects the server stores, by namespace and name. -/
structure Server (α : Type) where
  objects : String × String → Option α

/-- What `ImportObjects` calls outside the source tree. -/
structure Collaborators (α : Type) where
  /-- `f.Validator`: the schema, or its error. -/
  validator : Except String Unit
  /-- `bootstrap.Asset` at a location, decoded by the builder with a default namespace. -/
  build : String → String → Except String (List (Info α))
  /-- The server's refusal of an object for reasons of its own, if any, given what it holds;
  it comes before the check for a taken name. -/
  reject : Server α → Info α → Option String
  /-- `cmdutil.AddSourceToErr`, from the verb, the source and the error. -/
  addSourceToErr : String → String → StatusError → String

variable {α : Type} (env : Collaborators α)

/-- `resource.Helper.Create` on the store: refused, taken, or stored. -/
def Server.create (s : Server α) (info : Info α) : Except StatusError (Server α) :=
  match env.reject s info with
  | some msg => .error (.other msg)
  | none =>
    match s.objects info.key with
    | some _ => .error (.alreadyExists info.ns info.name)
    | none => .ok ⟨Function.update s.objects info.key (some info.object)⟩

/-- `createAndRefresh`: the server after the create, and the error, `AlreadyExists` counting as
success. -/
def createAndRefresh (s : Server α) (info : Info α) : Server α × Option StatusError :=
  match s.create env info with
  | .error err => if err.isAlreadyExists then (s, none) else (s, some err)
  | .ok s => (s, none)

/-- The visitor of `ImportObjects` over every object, with the errors gathered. -/
def visitImport : Server α → List (Info α) → Server α × List String
  | s, [] => (s, [])
  | s, info :: infos =>
    let (s, err) := createAndRefresh env s info
    let (s, errs) := visitImport s infos
    (s, (err.map (env.addSourceToErr "creating" info.source)).toList ++ errs)

/-- `ImportObjects` into the namespace `ns` from `location`: the server after it, and the
errors it returns. -/
def importObjects (s : Server α) (ns location : String) : Server α × List String :=
  match env.validator with
  | .error err => (s, [err])
  | .ok () =>
    match env.build ns location with
    | .error err => (s, [err])
    | .ok infos => visitImport env s infos

/-! ## One create -/

/-- One create: a refused object leaves the server as it was and reports the refusal; any other
object is stored unless its name is taken, and reports nothing. -/
theorem createAndRefresh_spec (s : Server α) (info : Info α) :
    createAndRefresh env s info =
      match env.reject s info with
      | some msg => (s, some (.other msg))
      | none =>
        (if (s.objects info.key).isSome then s
          else ⟨Function.update s.objects info.key (some info.object)⟩, none) := by
  unfold createAndRefresh Server.create
  rcases env.reject s info with _ | msg
  · rcases s.objects info.key with _ | o <;> rfl
  · rfl

theorem createAndRefresh_snd (s : Server α) (info : Info α) :
    (createAndRefresh env s info).2 = (env.reject s info).map .other := by
  rw [createAndRefresh_spec]
  cases env.reject s info <;> rfl

/-- A create never changes an object the server holds. -/
theorem createAndRefresh_keeps {s : Server α} {k : String × String} {o : α}
    (h : s.objects k = some o) (info : Info α) :
    (createAndRefresh env s info).1.objects k = some o := by
  rw [createAndRefresh_spec]
  rcases env.reject s info with _ | msg
  · dsimp only
    split_ifs with hkey
    · exact h
    · show Function.update s.objects info.key (some info.object) k = some o
      rw [Function.update_noteq]
      · exact h
      · rintro rfl
        simp [h] at hkey
  · exact h

/-- After a create the server does not refuse, the object's key is taken. -/
theorem createAndRefresh_stored {s : Server α} {info : Info α} (h : env.reject s info = none) :
    ((createAndRefresh env s info).1.objects info.key).isSome := by
  rw [createAndRefresh_spec, h]
  dsimp only
  split_ifs with hkey
  · exact hkey
  · simp

/-- A create of a refused object, or of one whose key is taken, changes nothing. -/
theorem createAndRefresh_of_stored {s : Server α} {info : Info α}
    (h : env.reject s info = none → (s.objects info.key).isSome) :
    (createAndRefresh env s info).1 = s := by
  rw [createAndRefresh_spec]
  rcases hr : env.reject s info with _ | msg
  · exact if_pos (h hr)
  · rfl

/-! ## The visit -/

theorem visitImport_cons_fst (s : Server α) (info : Info α) (infos : List (Info α)) :
    (visitImport env s (info :: infos)).1 =
      (visitImport env (createAndRefresh env s info).1 infos).1 := rfl

/-- When the server refuses each object the same way whatever it holds, what the visit reports
does not depend on what the server held: one error per refused object, in order. -/
theorem visitImport_errors_indep (infos : List (Info α))
    (hstable : ∀ info ∈ infos, ∀ s₁ s₂ : Server α, env.reject s₁ info = env.reject s₂ info)
    (s s' : Server α) :
    (visitImport env s infos).2 = (visitImport env s' infos).2 := by
  induction infos generalizing s s' with
  | nil => rfl
  | cons info infos ih =>
    show ((createAndRefresh env s info).2.map _).toList ++ (visitImport env _ infos).2 =
      ((createAndRefresh env s' info).2.map _).toList ++ (visitImport env _ infos).2
    rw [createAndRefresh_snd, createAndRefresh_snd, hstable info (List.mem_cons_self _ _) s s',
      ih fun i hi => hstable i (List.mem_cons_of_mem _ hi)]

/-- The visit never changes an object the server holds. -/
theorem visitImport_keeps {s : Server α} {k : String × String} {o : α}
    (h : s.objects k = some o) (infos : List (Info α)) :
    (visitImport env s infos).1.objects k = some o := by
  induction infos generalizing s with
  | nil => exact h
  | cons info infos ih =>
    rw [visitImport_cons_fst]
    exact ih (createAndRefresh_keeps env h info)

/-- After the visit, every object the server never refuses has its key taken. -/
theorem visitImport_stored (s : Server α) (infos : List (Info α)) :
    ∀ info ∈ infos, (∀ s' : Server α, env.reject s' info = none) →
      ((visitImport env s infos).1.objects info.key).isSome := by
  induction infos generalizing s with
  | nil => simp
  | cons info' infos ih =>
    intro info hmem hr
    rw [visitImport_cons_fst]
    rcases List.mem_cons.mp hmem with rfl | hmem
    · obtain ⟨o, ho⟩ := Option.isSome_iff_exists.mp (createAndRefresh_stored env (hr s))
      rw [visitImport_keeps env ho]
      rfl
    · exact ih _ info hmem hr

/-- A visit in which every object is refused or has its key taken changes nothing. -/
theorem visitImport_of_stored {s : Server α} {infos : List (Info α)}
    (h : ∀ info ∈ infos, env.reject s info = none → (s.objects info.key).isSome) :
    (visitImport env s infos).1 = s := by
  induction infos with
  | nil => rfl
  | cons info infos ih =>
    rw [visitImport_cons_fst, createAndRefresh_of_stored env (h info (List.mem_cons_self _ _))]
    exact ih fun i hi => h i (List.mem_cons_of_mem _ hi)

/-! ## ImportObjects -/

section Stable

/- The server refuses an object, or not, whatever it holds. -/
variable (hstable : ∀ (s₁ s₂ : Server α) (info : Info α), env.reject s₁ info = env.reject s₂ info)
include hstable

/-- What an import reports does not depend on what the server holds when its refusals do not:
only the validator, the asset and the refusals decide it, and `AlreadyExists` is never
reported. -/
theorem importObjects_errors_indep (s s' : Server α) (ns location : String) :
    (importObjects env s ns location).2 = (importObjects env s' ns location).2 := by
  unfold importObjects
  rcases env.validator with err | ⟨⟩
  · rfl
  rcases env.build ns location with err | infos
  · rfl
  · exact visitImport_errors_indep env infos (fun info _ s₁ s₂ => hstable s₁ s₂ info) s s'

/-- When the server's refusals read only the object, running an import again leaves the server
as the first run left it and reports the same errors. -/
theorem importObjects_idem (s : Server α) (ns location : String) :
    importObjects env (importObjects env s ns location).1 ns location =
      importObjects env s ns location := by
  have herr :=
    importObjects_errors_indep env hstable (importObjects env s ns location).1 s ns location
  refine Prod.ext ?_ herr
  unfold importObjects
  rcases env.validator with err | ⟨⟩
  · rfl
  rcases env.build ns location with err | infos
  · rfl
  · exact visitImport_of_stored env fun info hmem hr =>
      visitImport_stored env s infos info hmem fun s' => (hstable s' _ info).trans hr

end Stable

/-- An asset of an image stream and of an empty template, which the server refuses. -/
def sampleAsset : List (Info String) :=
  [⟨"openshift", "ruby", "imagestreams.json", "ruby:2.3"⟩,
    ⟨"openshift", "broken", "templates.json", ""⟩]

def sampleEnv : Collaborators String where
  validator := .ok ()
  build _ _ := .ok sampleAsset
  reject _ info := if info.object = "" then some "the object is empty" else none
  addSourceToErr verb source _ := "error " ++ verb ++ " " ++ source

/-- A server that holds nothing. -/
def emptyServer : Server String := ⟨fun _ => none⟩

theorem importObjects_idem_sample :
    (∀ (s₁ s₂ : Server String) (info : Info String),
        sampleEnv.reject s₁ info = sampleEnv.reject s₂ info) ∧
      importObjects sampleEnv (importObjects sampleEnv emptyServer "openshift" "/bootstrap").1
          "openshift" "/bootstrap" =
        importObjects sampleEnv emptyServer "openshift" "/bootstrap" :=
  ⟨fun _ _ _ => rfl, importObjects_idem sampleEnv (fun _ _ _ => rfl) emptyServer _ _⟩

/-- The asset's image stream, on a server with a quota of one object: a second import reports
the refusal the first did not meet. -/
def quotaEnv : Collaborators String where
  validator := .ok ()
  build _ _ := .ok [⟨"openshift", "ruby", "imagestreams.json", "ruby:2.3"⟩]
  reject s _ := if (s.objects ("openshift", "ruby")).isSome then some "exceeded quota" else none
  addSourceToErr verb source _ := "error " ++ verb ++ " " ++ source

example :
    (importObjects quotaEnv emptyServer "openshift" "/bootstrap").2 = [] ∧
      (importObjects quotaEnv (importObjects quotaEnv emptyServer "openshift" "/bootstrap").1
        "openshift" "/bootstrap").2 = ["error creating imagestreams.json"] := by
  decide

end OpenshiftVendoring.Bootstrap
