import OpenshiftVendoring.Certificates.Strategy

/-!
# Certificate signing requests: lifecycle

A stored request is created through `csrStrategy.prepareForCreate` and then updated any
number of times, each update sent to one of the three endpoints and prepared against the
object stored before it. Over every such run the requester identity stays what the
creation context said, the approval conditions are those of the last `approval` update and
the certificate is that of the last `status` update.
-/

namespace OpenshiftVendoring.Certificates

/-- The three ways of updating a stored request: the resource and its two subresources. -/
inductive Endpoint
  | main
  | status
  | approval
  deriving DecidableEq, Repr

/-- The `PrepareForUpdate` of the strategy behind an endpoint (`Strategy`, `StatusStrategy`
and `ApprovalStrategy`). -/
def Endpoint.prepareForUpdate : Endpoint → CertificateSigningRequest →
    CertificateSigningRequest → CertificateSigningRequest
  | .main => csrStrategy.prepareForUpdate
  | .status => csrStatusStrategy.prepareForUpdate
  | .approval => csrApprovalStrategy.prepareForUpdate

/-- One client update: the object sent and the endpoint it is sent to. -/
structure Update where
  endpoint : Endpoint
  obj : CertificateSigningRequest
  deriving DecidableEq, Repr

/-- The stored object after the updates `us`, each prepared against the object stored
before it. -/
def applyUpdates (stored : CertificateSigningRequest) : List Update → CertificateSigningRequest
  | [] => stored
  | u :: us => applyUpdates (u.endpoint.prepareForUpdate u.obj stored) us

/-- The field `f` of the object carried by the last update sent to `e`, or `d` if none was. -/
def lastThrough {α : Type} (e : Endpoint) (f : CertificateSigningRequest → α) (d : α) :
    List Update → α
  | [] => d
  | u :: us => lastThrough e f (if u.endpoint = e then f u.obj else d) us

/-! ## One update -/

section Step

variable (e : Endpoint) (obj old : CertificateSigningRequest)

@[simp] theorem Endpoint.prepareForUpdate_spec : (e.prepareForUpdate obj old).spec = old.spec := by
  cases e <;> rfl

theorem Endpoint.prepareForUpdate_conditions :
    (e.prepareForUpdate obj old).status.conditions =
      if e = .approval then obj.status.conditions else old.status.conditions := by
  cases e <;> rfl

theorem Endpoint.prepareForUpdate_certificate :
    (e.prepareForUpdate obj old).status.certificate =
      if e = .status then obj.status.certificate else old.status.certificate := by
  cases e <;> rfl

@[simp] theorem Endpoint.prepareForUpdate_objectMeta :
    (e.prepareForUpdate obj old).objectMeta = obj.objectMeta := by
  cases e <;> rfl

@[simp] theorem Endpoint.prepareForUpdate_main_status :
    (Endpoint.main.prepareForUpdate obj old).status = old.status := rfl

end Step

/-! ## Whole runs -/

@[simp] theorem applyUpdates_spec (stored : CertificateSigningRequest) (us : List Update) :
    (applyUpdates stored us).spec = stored.spec := by
  induction us generalizing stored with
  | nil => rfl
  | cons u us ih => simp [applyUpdates, ih]

/-- The stored conditions are those of the last `approval` update. -/
theorem applyUpdates_conditions (stored : CertificateSigningRequest) (us : List Update) :
    (applyUpdates stored us).status.conditions =
      lastThrough .approval (·.status.conditions) stored.status.conditions us := by
  induction us generalizing stored with
  | nil => rfl
  | cons u us ih =>
    rw [applyUpdates, ih, Endpoint.prepareForUpdate_conditions]
    rfl

/-- The stored certificate is that of the last `status` update. -/
theorem applyUpdates_certificate (stored : CertificateSigningRequest) (us : List Update) :
    (applyUpdates stored us).status.certificate =
      lastThrough .status (·.status.certificate) stored.status.certificate us := by
  induction us generalizing stored with
  | nil => rfl
  | cons u us ih =>
    rw [applyUpdates, ih, Endpoint.prepareForUpdate_certificate]
    rfl

/-- The stored metadata is that of the last update, whatever its endpoint. -/
theorem applyUpdates_objectMeta (stored : CertificateSigningRequest) (us : List Update) :
    (applyUpdates stored us).objectMeta =
      (us.getLast?.map (·.obj.objectMeta)).getD stored.objectMeta := by
  induction us generalizing stored with
  | nil => rfl
  | cons u us ih =>
    rw [applyUpdates, ih]
    cases us <;> simp [List.getLast?_cons]

/-- From creation on, the requester identity is the creation context's user whatever the
client sent, the spec never changes, the conditions start empty and change only through
`approval`, the certificate starts empty and changes only through `status`, and an update of
the resource itself changes neither spec nor status. -/
theorem csr_identity_and_status_separation (ctx : Context) (obj : CertificateSigningRequest)
    (us : List Update) :
    let created := csrStrategy.prepareForCreate ctx obj
    let stored := applyUpdates created us
    (stored.spec.username = (ctx.user.map (·.name)).getD "" ∧
      stored.spec.uid = (ctx.user.map (·.uid)).getD "" ∧
      stored.spec.groups = (ctx.user.map (·.groups)).getD [] ∧
      stored.spec = created.spec) ∧
    created.status.conditions = [] ∧ created.status.certificate = [] ∧
    ∀ u : Update,
      (u.endpoint ≠ .approval →
        (u.endpoint.prepareForUpdate u.obj stored).status.conditions =
          stored.status.conditions) ∧
      (u.endpoint ≠ .status →
        (u.endpoint.prepareForUpdate u.obj stored).status.certificate =
          stored.status.certificate) ∧
      (u.endpoint = .main →
        (u.endpoint.prepareForUpdate u.obj stored).spec = stored.spec ∧
          (u.endpoint.prepareForUpdate u.obj stored).status = stored.status) := by
  intro created stored
  have hspec : stored.spec = created.spec := applyUpdates_spec _ _
  refine ⟨?_, rfl, rfl, fun u => ⟨fun h => ?_, fun h => ?_, fun h => ?_⟩⟩
  · simp only [hspec, created, csrStrategy.prepareForCreate_spec, and_self]
  · simp [Endpoint.prepareForUpdate_conditions, h]
  · simp [Endpoint.prepareForUpdate_certificate, h]
  · simp [h]

/-- What a run of updates leaves stored after creation: the conditions of the last `approval`
update and the certificate of the last `status` update, each empty if there was none, and the
metadata of the last update of any kind, or the client's at creation. -/
theorem csr_run_outcome (ctx : Context) (obj : CertificateSigningRequest) (us : List Update) :
    let stored := applyUpdates (csrStrategy.prepareForCreate ctx obj) us
    stored.status.conditions = lastThrough .approval (·.status.conditions) [] us ∧
      stored.status.certificate = lastThrough .status (·.status.certificate) [] us ∧
      stored.objectMeta = (us.getLast?.map (·.obj.objectMeta)).getD obj.objectMeta := by
  refine ⟨?_, ?_, ?_⟩
  · rw [applyUpdates_conditions]; rfl
  · rw [applyUpdates_certificate]; rfl
  · simp [applyUpdates_objectMeta]

end OpenshiftVendoring.Certificates
