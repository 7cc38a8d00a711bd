import Mathlib

/-!
# Certificate signing requests: registry strategies

The strategies of `pkg/registry/certificates/certificates/strategy.go`, which the generic
registry runs on a `CertificateSigningRequest` before it stores it: `PrepareForCreate` on
create, and one `PrepareForUpdate` for each way of updating a stored request (the resource
itself, its `status` subresource and its `approval` subresource).

A Go method mutating `*CertificateSigningRequest` in place is a function returning the new
value. The strategies' other methods either delegate to validation outside the source tree
or return constants.

## Main definitions

* `csrStrategy.prepareForCreate` - identity from the request context, cleared status.
* `csrStrategy.prepareForUpdate`, `csrStatusStrategy.prepareForUpdate`,
  `csrApprovalStrategy.prepareForUpdate` - what each endpoint keeps from the client's object.
-/

namespace OpenshiftVendoring.Certificates

/-- The parts of `user.Info` that the strategy reads. -/
structure UserInfo where
  name : String
  uid : String
  groups : List String
  deriving DecidableEq, Repr

/-- A request context as `api.UserFrom` sees it: the authenticated user, if any. -/
structure Context where
  user : Option UserInfo
  deriving DecidableEq, Repr

/-- The object metadata, which no strategy reads or writes. -/
structure ObjectMeta where
  name : String
  labels : List (String × String)
  deriving DecidableEq, Repr

inductive RequestConditionType
  | approved
  | denied
  deriving DecidableEq, Repr

structure CertificateSigningRequestCondition where
  type : RequestConditionType
  reason : String
  message : String
  deriving DecidableEq, Repr

/-- The requester's identity sits next to the PEM request itself. -/
structure CertificateSigningRequestSpec where
  request : List UInt8
  username : String
  uid : String
  groups : List String
  deriving DecidableEq, Repr

/-- The approval conditions and the issued certificate. -/
structure CertificateSigningRequestStatus where
  conditions : List CertificateSigningRequestCondition
  certificate : List UInt8
  deriving DecidableEq, Repr

structure CertificateSigningRequest where
  objectMeta : ObjectMeta
  spec : CertificateSigningRequestSpec
  status : CertificateSigningRequestStatus
  deriving DecidableEq, Repr

/-- The zero `CertificateSigningRequestStatus{}`; Go's nil and empty slices are both `[]`. -/
def CertificateSigningRequestStatus.zero : CertificateSigningRequestStatus :=
  { conditions := [], certificate := [] }

/-- `csrStrategy.PrepareForCreate`: the client's identity fields are replaced by the user of
the request context, and the status is cleared so that no request is created pre-approved. -/
def csrStrategy.prepareForCreate (ctx : Context) (csr : CertificateSigningRequest) :
    CertificateSigningRequest :=
  let csr := { csr with spec.username := "", spec.uid := "", spec.groups := [] }
  let csr := match ctx.user with
    | some user =>
      { csr with spec.username := user.name, spec.uid := user.uid, spec.groups := user.groups }
    | none => csr
  let csr := { csr with status := CertificateSigningRequestStatus.zero }
  { csr with status.conditions := [] }

/-- `csrStrategy.PrepareForUpdate`: spec and status both come from the stored object. -/
def csrStrategy.prepareForUpdate (newCSR oldCSR : CertificateSigningRequest) :
    CertificateSigningRequest :=
  let newCSR := { newCSR with spec := oldCSR.spec }
  { newCSR with status := oldCSR.status }

/-- `csrStrategy.Export`: the create preparation, and a cleared status unless `exact`. -/
def csrStrategy.export (ctx : Context) (csr : CertificateSigningRequest) (exact : Bool) :
    CertificateSigningRequest :=
  let csr := csrStrategy.prepareForCreate ctx csr
  if exact then csr else { csr with status := CertificateSigningRequestStatus.zero }

/-- `csrStatusStrategy.PrepareForUpdate`: only the issued certificate comes from the client;
spec and approval conditions stay as stored. -/
def csrStatusStrategy.prepareForUpdate (newCSR oldCSR : CertificateSigningRequest) :
    CertificateSigningRequest :=
  let newCSR := { newCSR with spec := oldCSR.spec }
  { newCSR with status.conditions := oldCSR.status.conditions }

/-- `csrApprovalStrategy.PrepareForUpdate`: only the conditions come from the client. The Go
code writes them into the old object and then copies its status; the old object is the
registry's freshly decoded copy, so that write is not visible after the call. -/
def csrApprovalStrategy.prepareForUpdate (newCSR oldCSR : CertificateSigningRequest) :
    CertificateSigningRequest :=
  let newCSR := { newCSR with spec := oldCSR.spec }
  let oldCSR := { oldCSR with status.conditions := newCSR.status.conditions }
  { newCSR with status := oldCSR.status }

section UpdateLemmas

variable (newCSR oldCSR : CertificateSigningRequest)

@[simp] theorem csrStrategy.prepareForUpdate_objectMeta :
    (csrStrategy.prepareForUpdate newCSR oldCSR).objectMeta = newCSR.objectMeta := rfl
@[simp] theorem csrStrategy.prepareForUpdate_spec :
    (csrStrategy.prepareForUpdate newCSR oldCSR).spec = oldCSR.spec := rfl
@[simp] theorem csrStrategy.prepareForUpdate_status :
    (csrStrategy.prepareForUpdate newCSR oldCSR).status = oldCSR.status := rfl

@[simp] theorem csrStatusStrategy.prepareForUpdate_objectMeta :
    (csrStatusStrategy.prepareForUpdate newCSR oldCSR).objectMeta = newCSR.objectMeta := rfl
@[simp] theorem csrStatusStrategy.prepareForUpdate_spec :
    (csrStatusStrategy.prepareForUpdate newCSR oldCSR).spec = oldCSR.spec := rfl
@[simp] theorem csrStatusStrategy.prepareForUpdate_conditions :
    (csrStatusStrategy.prepareForUpdate newCSR oldCSR).status.conditions =
      oldCSR.status.conditions := rfl
@[simp] theorem csrStatusStrategy.prepareForUpdate_certificate :
    (csrStatusStrategy.prepareForUpdate newCSR oldCSR).status.certificate =
      newCSR.status.certificate := rfl

@[simp] theorem csrApprovalStrategy.prepareForUpdate_objectMeta :
    (csrApprovalStrategy.prepareForUpdate newCSR oldCSR).objectMeta = newCSR.objectMeta := rfl
@[simp] theorem csrApprovalStrategy.prepareForUpdate_spec :
    (csrApprovalStrategy.prepareForUpdate newCSR oldCSR).spec = oldCSR.spec := rfl
@[simp] theorem csrApprovalStrategy.prepareForUpdate_conditions :
    (csrApprovalStrategy.prepareForUpdate newCSR oldCSR).status.conditions =
      newCSR.status.conditions := rfl
@[simp] theorem csrApprovalStrategy.prepareForUpdate_certificate :
    (csrApprovalStrategy.prepareForUpdate newCSR oldCSR).status.certificate =
      oldCSR.status.certificate := rfl

end UpdateLemmas

/-- The requester identity that `PrepareForCreate` records: the context's user, or the
empty identity when the context carries none. -/
theorem csrStrategy.prepareForCreate_spec (ctx : Context) (csr : CertificateSigningRequest) :
    (csrStrategy.prepareForCreate ctx csr).spec =
      { csr.spec with
        username := (ctx.user.map (·.name)).getD ""
        uid := (ctx.user.map (·.uid)).getD ""
        groups := (ctx.user.map (·.groups)).getD [] } := by
  cases h : ctx.user <;> simp [csrStrategy.prepareForCreate, h]

@[simp] theorem csrStrategy.prepareForCreate_objectMeta (ctx : Context)
    (csr : CertificateSigningRequest) :
    (csrStrategy.prepareForCreate ctx csr).objectMeta = csr.objectMeta := by
  cases h : ctx.user <;> simp [csrStrategy.prepareForCreate, h]

@[simp] theorem csrStrategy.prepareForCreate_status (ctx : Context)
    (csr : CertificateSigningRequest) :
    (csrStrategy.prepareForCreate ctx csr).status = CertificateSigningRequestStatus.zero := by
  cases h : ctx.user <;> simp [csrStrategy.prepareForCreate, h,
    CertificateSigningRequestStatus.zero]

end OpenshiftVendoring.Certificates
