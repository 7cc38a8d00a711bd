import Mathlib

/-!
# The subject review command of oc adm policy

`scc-subject-review` of `pkg/cmd/admin/policy/subject_review.go` asks the server, for the pod
template of each resource the user names, which security context constraint admits it: a
subject review for a user or service account and groups, or a self review for the current user.
It prints a line per answer. The human-readable printer writes its header on its first print
only: it clears its own flag, and the command keeps the one printer for every resource.

The resource builder, the review endpoints, the scheme, the template extraction and the
printers of kubectl are outside the source tree; they are the fields of `Collaborators`, and
every result here holds for all of them. The builder visits every resource and gathers the
visitor's errors, as `ContinueOnError` asks. What the tab writer makes of the cells is left
out: the text of a print is what it hands to the tab writer.

## Main definitions

* `getAllowedBy` - the constraint a review answer names.
* `SccSubjectReviewPrinter.print` - one print, and the printer it leaves.
* `visitInfo`, `visitAll`, `SccSubjectReviewOptions.run` - the visitor and `Run`.
* `completeFlags` - the checks `Complete` makes on the flags.
-/

namespace OpenshiftVendoring.Policy

/-- The status of a review answer, by the name of its `AllowedBy` reference, if set. -/
structure ReviewStatus where
  allowedBy : Option String
  deriving DecidableEq, Repr

/-- The objects the type switch of `getAllowedBy` tells apart. -/
inductive ReviewObject
  | podSecurityPolicySelfSubjectReview (status : ReviewStatus)
  | podSecurityPolicySubjectReview (status : ReviewStatus)
  /-- Any other object, with what `%T` prints for its type. -/
  | other (typeName : String)
  deriving DecidableEq, Repr

def getAllowedBy : ReviewObject → Except String String
  | .podSecurityPolicySelfSubjectReview status | .podSecurityPolicySubjectReview status =>
    .ok (status.allowedBy.getD "<none>")
  | .other typeName => .error ("unexpected object " ++ typeName)

/-- A resource the builder visits: its name and its object. -/
structure Info (α : Type) where
  name : String
  object : α
  deriving DecidableEq, Repr

/-- `PodSecurityPolicySubjectReviewSpec`. -/
structure SubjectReviewSpec (β : Type) where
  template : β
  user : String
  groups : List String
  deriving DecidableEq, Repr

/-- A review the command sends, with the namespace it is sent to. -/
inductive ReviewRequest (β : Type)
  | subjectReview (ns : String) (spec : SubjectReviewSpec β)
  | selfSubjectReview (ns : String) (template : β)
  deriving DecidableEq, Repr

/-- What the command calls outside the source tree, for objects `α` and pod templates `β`. -/
structure Collaborators (α β : Type) where
  /-- `kapi.Scheme.ObjectKind`, by the kind it finds. -/
  objectKind : α → Except String String
  getPodTemplateForObject : α → Except String β
  checkStatefulSetWithWolumeClaimTemplates : α → Option String
  /-- The create endpoints of the two reviews, by the status of their answer. -/
  createSubjectReview : String → SubjectReviewSpec β → Except String ReviewStatus
  createSelfSubjectReview : String → β → Except String ReviewStatus
  /-- `PrintObj` of the printer for an output format: the text it writes and its error. -/
  printObj : ReviewObject → String × Option String
  /-- The verb `%q`. -/
  quote : String → String

/-- The two printers of the command; the human-readable one carries its `noHeaders` flag. -/
inductive SccSubjectReviewPrinter
  | outputPrinter
  | humanReadablePrinter (noHeaders : Bool)
  deriving DecidableEq, Repr

/-- The header line: the columns joined by tabs, then a tab and a newline. -/
def headerLine : String := String.intercalate "\t" ["RESOURCE", "ALLOWED BY"] ++ "\t\n"

variable {α β : Type} (env : Collaborators α β)

/-- `print`, with the writes so far: the printer it leaves, the writes, and its error. -/
def SccSubjectReviewPrinter.print (info : Info α) (obj : ReviewObject) (out : List String) :
    SccSubjectReviewPrinter → SccSubjectReviewPrinter × List String × Option String
  | .outputPrinter =>
    let (text, err) := env.printObj obj
    (.outputPrinter, out ++ [text], err)
  | .humanReadablePrinter noHeaders =>
    let (noHeaders, out) :=
      if noHeaders = false then (true, out ++ [headerLine]) else (noHeaders, out)
    match env.objectKind info.object with
    | .error err => (.humanReadablePrinter noHeaders, out, some err)
    | .ok kind =>
      match getAllowedBy obj with
      | .error err => (.humanReadablePrinter noHeaders, out, some err)
      | .ok allowedBy =>
        (.humanReadablePrinter noHeaders,
          out ++ [kind ++ "/" ++ info.name ++ "\t" ++ allowedBy ++ "\t\n"], none)

/-- The parts of `sccSubjectReviewOptions` that `Run` reads. -/
structure SccSubjectReviewOptions where
  ns : String
  printer : SccSubjectReviewPrinter
  user : String
  groups : List String
  serviceAccount : String
  deriving DecidableEq, Repr

/-- The request `pspSubjectReview` sends, and the answer as the object it returns. -/
def pspSubjectReview (o : SccSubjectReviewOptions) (userOrSA : String) (podTemplateSpec : β) :
    ReviewRequest β × Except String ReviewObject :=
  let spec : SubjectReviewSpec β := ⟨podTemplateSpec, userOrSA, o.groups⟩
  (.subjectReview o.ns spec,
    (env.createSubjectReview o.ns spec).map .podSecurityPolicySubjectReview)

def pspSelfSubjectReview (o : SccSubjectReviewOptions) (podTemplateSpec : β) :
    ReviewRequest β × Except String ReviewObject :=
  (.selfSubjectReview o.ns podTemplateSpec,
    (env.createSelfSubjectReview o.ns podTemplateSpec).map .podSecurityPolicySelfSubjectReview)

/-- The review the visitor asks for: a subject review when a user, service account or group is
given, else a self review. -/
def reviewFor (o : SccSubjectReviewOptions) (userOrSA : String) (podTemplateSpec : β) :
    ReviewRequest β × Except String ReviewObject :=
  if 0 < userOrSA.length ∨ 0 < o.groups.length then
    pspSubjectReview env o userOrSA podTemplateSpec
  else pspSelfSubjectReview env o podTemplateSpec

/-- What `Run` holds across the visit: the printer, the writes, the print errors, and the
reviews sent so far. -/
structure RunState (β : Type) where
  printer : SccSubjectReviewPrinter
  out : List String
  allErrs : List String
  sent : List (ReviewRequest β)

/-- The visitor of `Run` for one resource: the state it leaves and its error. -/
def visitInfo (o : SccSubjectReviewOptions) (userOrSA : String) (s : RunState β)
    (info : Info α) : RunState β × Option String :=
  match env.getPodTemplateForObject info.object with
  | .error err => (s, some (" " ++ env.quote info.name ++ " cannot create pod: " ++ err))
  | .ok podTemplateSpec =>
    match env.checkStatefulSetWithWolumeClaimTemplates info.object with
    | some err => (s, some err)
    | none =>
      let (request, response) := reviewFor env o userOrSA podTemplateSpec
      let s := { s with sent := s.sent ++ [request] }
      match response with
      | .error err =>
        (s, some ("unable to compute Pod Security Policy Subject Review for " ++
          env.quote info.name ++ ": " ++ err))
      | .ok response =>
        let (printer, out, err) := s.printer.print env info response s.out
        ({ s with printer, out, allErrs := s.allErrs ++ err.toList }, none)

/-- The visit of every resource in order, with the visitor's errors gathered. -/
def visitAll (o : SccSubjectReviewOptions) (userOrSA : String) :
    RunState β → List (Info α) → RunState β × List String
  | s, [] => (s, [])
  | s, info :: infos =>
    let (s, err) := visitInfo env o userOrSA s info
    let (s, errs) := visitAll o userOrSA s infos
    (s, err.toList ++ errs)

/-- The user `Run` reviews for: the service account if one is given, else the user. -/
def SccSubjectReviewOptions.userOrSA (o : SccSubjectReviewOptions) : String :=
  if 0 < o.serviceAccount.length then o.serviceAccount else o.user

/-- `Run` on the builder's result and the writes so far: the state after the visit, and the
errors it aggregates, the print errors and then the visit's own. -/
def SccSubjectReviewOptions.run (o : SccSubjectReviewOptions) (r : Except String (List (Info α)))
    (out : List String) : Except String (RunState β × List String) :=
  match r with
  | .error err => .error err
  | .ok infos =>
    let (s, errs) := visitAll env o o.userOrSA ⟨o.printer, out, [], []⟩ infos
    .ok (s, s.allErrs ++ errs)

/-! ## One print -/

/-- The row the human-readable printer writes for a resource and an answer, if it gets that
far. -/
def rowFor (info : Info α) (obj : ReviewObject) : Option String :=
  match env.objectKind info.object, getAllowedBy obj with
  | .ok kind, .ok allowedBy => some (kind ++ "/" ++ info.name ++ "\t" ++ allowedBy ++ "\t\n")
  | _, _ => none

/-- The error the scheme gives for the kind of a resource, if any. -/
def kindError (info : Info α) : Option String :=
  match env.objectKind info.object with
  | .error err => some err
  | .ok _ => none

/-- A human-readable print of an answer `getAllowedBy` reads writes the header unless its flag
is set, then the row if the kind is known; it sets the flag, and fails only on the kind. -/
theorem print_humanReadablePrinter {obj : ReviewObject} {allowedBy : String}
    (hobj : getAllowedBy obj = .ok allowedBy) (noHeaders : Bool) (info : Info α)
    (out : List String) :
    (SccSubjectReviewPrinter.humanReadablePrinter noHeaders).print env info obj out =
      (.humanReadablePrinter true,
        out ++ (if noHeaders then [] else [headerLine]) ++ (rowFor env info obj).toList,
        kindError env info) := by
  unfold SccSubjectReviewPrinter.print rowFor kindError
  cases noHeaders <;> cases env.objectKind info.object <;> simp [hobj]

/-! ## One visit -/

/-- The pod template of a resource, if it has one and the stateful set check passes. -/
def templateFor (info : Info α) : Option β :=
  match env.getPodTemplateForObject info.object,
      env.checkStatefulSetWithWolumeClaimTemplates info.object with
  | .ok podTemplateSpec, none => some podTemplateSpec
  | _, _ => none

/-- The answer the visitor hands to the printer for a resource, if it gets that far. -/
def answerFor (o : SccSubjectReviewOptions) (userOrSA : String) (info : Info α) :
    Option ReviewObject :=
  (templateFor env info).bind fun t => (reviewFor env o userOrSA t).2.toOption

theorem reviewFor_fst (o : SccSubjectReviewOptions) (userOrSA : String) (t : β) :
    (reviewFor env o userOrSA t).1 =
      if 0 < userOrSA.length ∨ 0 < o.groups.length then
        .subjectReview o.ns ⟨t, userOrSA, o.groups⟩
      else .selfSubjectReview o.ns t := by
  unfold reviewFor
  split_ifs <;> rfl

/-- Every answer of a review endpoint is a review, whose constraint `getAllowedBy` reads. -/
theorem getAllowedBy_answerFor {o : SccSubjectReviewOptions} {userOrSA : String}
    {info : Info α} {obj : ReviewObject} (h : answerFor env o userOrSA info = some obj) :
    ∃ allowedBy, getAllowedBy obj = .ok allowedBy := by
  obtain ⟨t, -, ht⟩ := Option.bind_eq_some.mp h
  unfold reviewFor pspSubjectReview pspSelfSubjectReview at ht
  split_ifs at ht
  · cases hc : env.createSubjectReview o.ns ⟨t, userOrSA, o.groups⟩ <;>
      simp [hc, Except.map, Except.toOption] at ht
    exact ht ▸ ⟨_, rfl⟩
  · cases hc : env.createSelfSubjectReview o.ns t <;> simp [hc, Except.map, Except.toOption] at ht
    exact ht ▸ ⟨_, rfl⟩

/-- One visit: no review without a template; else the review is sent, and its answer, if any,
printed. -/
theorem visitInfo_state (o : SccSubjectReviewOptions) (userOrSA : String) (s : RunState β)
    (info : Info α) :
    (visitInfo env o userOrSA s info).1 =
      match templateFor env info with
      | none => s
      | some t =>
        let s := { s with sent := s.sent ++ [(reviewFor env o userOrSA t).1] }
        match (reviewFor env o userOrSA t).2 with
        | .error _ => s
        | .ok obj =>
          let (printer, out, err) := s.printer.print env info obj s.out
          { s with printer, out, allErrs := s.allErrs ++ err.toList } := by
  unfold visitInfo templateFor
  rcases env.getPodTemplateForObject info.object with err | t
  · rfl
  rcases env.checkStatefulSetWithWolumeClaimTemplates info.object with _ | err
  · dsimp only
    generalize reviewFor env o userOrSA t = r
    rcases r with ⟨request, err | obj⟩ <;> rfl
  · rfl

theorem visitInfo_sent (o : SccSubjectReviewOptions) (userOrSA : String) (s : RunState β)
    (info : Info α) :
    (visitInfo env o userOrSA s info).1.sent =
      s.sent ++ ((templateFor env info).map fun t => (reviewFor env o userOrSA t).1).toList := by
  rw [visitInfo_state]
  rcases templateFor env info with _ | t
  · simp
  · dsimp only
    rcases (reviewFor env o userOrSA t).2 with err | obj <;> rfl

/-! ## The whole visit -/

/-- The resources whose visit reaches the printer, with their answers. -/
def answered (o : SccSubjectReviewOptions) (userOrSA : String) (infos : List (Info α)) :
    List (Info α × ReviewObject) :=
  infos.filterMap fun info => (answerFor env o userOrSA info).map (info, ·)

theorem answered_cons (o : SccSubjectReviewOptions) (userOrSA : String) (info : Info α)
    (infos : List (Info α)) :
    answered env o userOrSA (info :: infos) =
      ((answerFor env o userOrSA info).map (info, ·)).toList ++ answered env o userOrSA infos := by
  simp only [answered, List.filterMap_cons]
  cases answerFor env o userOrSA info <;> rfl

theorem visitAll_cons_fst (o : SccSubjectReviewOptions) (userOrSA : String) (s : RunState β)
    (info : Info α) (infos : List (Info α)) :
    (visitAll env o userOrSA s (info :: infos)).1 =
      (visitAll env o userOrSA (visitInfo env o userOrSA s info).1 infos).1 := rfl

/-- Whatever the printer, the visit sends one review per resource with a template, in order. -/
theorem visitAll_sent (o : SccSubjectReviewOptions) (userOrSA : String) (s : RunState β)
    (infos : List (Info α)) :
    (visitAll env o userOrSA s infos).1.sent =
      s.sent ++ infos.filterMap fun info =>
        (templateFor env info).map fun t => (reviewFor env o userOrSA t).1 := by
  induction infos generalizing s with
  | nil => simp [visitAll]
  | cons info infos ih =>
    rw [visitAll_cons_fst, ih, visitInfo_sent]
    rcases ht : templateFor env info with _ | t <;> simp [ht]

/-- The human-readable printer over a whole visit: its flag is set once an answer is printed,
the header comes first and once unless the flag was set, then a row per answer whose kind is
known, and the print errors are those of the kinds. -/
theorem visitAll_humanReadablePrinter (o : SccSubjectReviewOptions) (userOrSA : String)
    (noHeaders : Bool) (out allErrs : List String) (sent : List (ReviewRequest β))
    (infos : List (Info α)) :
    (visitAll env o userOrSA ⟨.humanReadablePrinter noHeaders, out, allErrs, sent⟩
          infos).1.printer =
        .humanReadablePrinter (noHeaders || !(answered env o userOrSA infos).isEmpty) ∧
      (visitAll env o userOrSA ⟨.humanReadablePrinter noHeaders, out, allErrs, sent⟩
          infos).1.out =
        out ++
          (if noHeaders || (answered env o userOrSA infos).isEmpty then [] else [headerLine]) ++
          (answered env o userOrSA infos).filterMap (fun a => rowFor env a.1 a.2) ∧
      (visitAll env o userOrSA ⟨.humanReadablePrinter noHeaders, out, allErrs, sent⟩
          infos).1.allErrs =
        allErrs ++ (answered env o userOrSA infos).filterMap (fun a => kindError env a.1) := by
  induction infos generalizing noHeaders out allErrs sent with
  | nil => simp [visitAll, answered]
  | cons info infos ih =>
    rw [visitAll_cons_fst, visitInfo_state]
    rcases ht : templateFor env info with _ | t
    · have hans : answerFor env o userOrSA info = none := by simp [answerFor, ht]
      simpa only [answered_cons, hans, Option.map_none', Option.toList_none, List.nil_append]
        using ih noHeaders out allErrs sent
    dsimp only
    rcases hr : (reviewFor env o userOrSA t).2 with err | obj
    · have hans : answerFor env o userOrSA info = none := by
        simp [answerFor, ht, hr, Except.toOption]
      simpa only [answered_cons, hans, Option.map_none', Option.toList_none, List.nil_append]
        using ih noHeaders out allErrs _
    have hans : answerFor env o userOrSA info = some obj := by
      simp [answerFor, ht, hr, Except.toOption]
    obtain ⟨allowedBy, hobj⟩ := getAllowedBy_answerFor env hans
    simp only [print_humanReadablePrinter env hobj]
    refine ⟨?_, ?_, ?_⟩
    · rw [(ih _ _ _ _).1]
      simp [answered_cons, hans]
    · rw [(ih _ _ _ _).2.1]
      simp only [answered_cons, hans, Option.map_some', Option.toList_some, List.singleton_append,
        List.filterMap_cons]
      cases noHeaders <;> cases rowFor env info obj <;> simp
    · rw [(ih _ _ _ _).2.2]
      simp only [answered_cons, hans, Option.map_some', Option.toList_some, List.singleton_append,
        List.filterMap_cons]
      cases kindError env info <;> simp

/-! ## Run -/

/-- `Run` with the human-readable printer, on any list of resources: the header comes first and
once, unless `--no-headers` was given, and only when some answer comes; then a row per answer
whose kind is known, in order. The print errors are the scheme's errors for those kinds:
`getAllowedBy` never fails on an answer. -/
theorem run_humanReadablePrinter (o : SccSubjectReviewOptions) (noHeaders : Bool)
    (infos : List (Info α)) (out : List String) :
    (SccSubjectReviewOptions.run env { o with printer := .humanReadablePrinter noHeaders }
        (.ok infos) out).map
        (fun r : RunState β × List String => (r.1.printer, r.1.out, r.1.allErrs)) =
      .ok (SccSubjectReviewPrinter.humanReadablePrinter
          (noHeaders || !(answered env o o.userOrSA infos).isEmpty),
        out ++
          (if noHeaders || (answered env o o.userOrSA infos).isEmpty then [] else [headerLine]) ++
          (answered env o o.userOrSA infos).filterMap (fun a => rowFor env a.1 a.2),
        (answered env o o.userOrSA infos).filterMap fun a => kindError env a.1) := by
  have h := visitAll_humanReadablePrinter env { o with printer := .humanReadablePrinter noHeaders }
    o.userOrSA noHeaders out [] [] infos
  simp only [SccSubjectReviewOptions.run, Except.map]
  exact congrArg Except.ok (Prod.ext h.1 (Prod.ext h.2.1 h.2.2))

/-- Objects named by their kind, each its own pod template; the server admits every subject
review by `restricted`. -/
def sampleEnv : Collaborators String String where
  objectKind o := if o = "Pod" then .ok o else .error "no kind is registered"
  getPodTemplateForObject o := .ok o
  checkStatefulSetWithWolumeClaimTemplates _ := none
  createSubjectReview _ _ := .ok ⟨some "restricted"⟩
  createSelfSubjectReview _ _ := .ok ⟨none⟩
  printObj _ := ("", none)
  quote s := s

example :
    (SccSubjectReviewOptions.run sampleEnv ⟨"ns", .humanReadablePrinter false, "bob", [], ""⟩
        (.ok [⟨"web", "Pod"⟩, ⟨"db", "Widget"⟩, ⟨"api", "Pod"⟩]) []).map
      (fun r : RunState String × List String => (r.1.out, r.1.allErrs)) =
    .ok ([headerLine, "Pod/web\trestricted\t\n", "Pod/api\trestricted\t\n"],
      ["no kind is registered"]) := rfl

/-- Whatever the printer, `Run` sends, in order, one review per resource with a pod template
that passes the stateful set check, to the options' namespace: a subject review for the
service account, or else the user, and the groups when any of these is given, else a self
review. -/
theorem run_reviews_sent (o : SccSubjectReviewOptions) (infos : List (Info α))
    (out : List String) :
    (o.run env (.ok infos) out).map (fun r : RunState β × List String => r.1.sent) =
      .ok (infos.filterMap fun info => (templateFor env info).map fun t =>
        if 0 < o.userOrSA.length ∨ 0 < o.groups.length then
          .subjectReview o.ns ⟨t, o.userOrSA, o.groups⟩
        else .selfSubjectReview o.ns t) := by
  simp only [SccSubjectReviewOptions.run, Except.map, visitAll_sent, reviewFor_fst]
  simp

/-! ## The flags -/

/-- `serviceaccount.ServiceAccountUsernamePrefix`. -/
def serviceAccountUsernamePrefix : String := "system:serviceaccount:"

/-- The checks `Complete` makes on the flags before it asks the factory for anything: an error,
or the service account `Run` reviews for, made a bare name when it came as a user name.
`strings.Split` with a one-character separator is `List.splitOn`, `strings.HasPrefix` is
`List.isPrefixOf`, and `usageError` is the error `UsageError` makes for the command. -/
def completeFlags (usageError : String)
    (splitUsername : String → Except String (String × String))
    (args filenames : List String) (user serviceAccount : String) : Except String String :=
  if args.length = 0 ∧ filenames.length = 0 then .error usageError
  else if 0 < user.length ∧ 0 < serviceAccount.length then
    .error "--user and --serviceaccount are mutually exclusive"
  else if 0 < serviceAccount.length then
    if 1 < (serviceAccount.data.splitOn ',').length then
      .error "only one Service Account is supported"
    else if serviceAccountUsernamePrefix.data.isPrefixOf serviceAccount.data then
      match splitUsername serviceAccount with
      | .error err => .error err
      | .ok (_, user) => .ok user
    else .ok serviceAccount
  else .ok serviceAccount

theorem length_eq_zero_iff {s : String} : s.length = 0 ↔ s = "" := by
  rw [String.ext_iff, ← String.length_data, List.length_eq_zero]

/-- A list splits into more than one part exactly when it holds the separator. -/
theorem one_lt_length_splitOn_iff (c : Char) (l : List Char) :
    1 < (l.splitOn c).length ↔ c ∈ l := by
  induction l with
  | nil => simp [List.splitOn]
  | cons a l ih =>
    have hne : (l.splitOn c) ≠ [] := List.splitOnP_ne_nil _ _
    simp only [List.splitOn, List.splitOnP_cons, List.mem_cons] at ih ⊢
    by_cases hac : a = c
    · subst hac
      simp only [beq_self_eq_true, if_true, List.length_cons, true_or, iff_true]
      exact Nat.succ_lt_succ (List.length_pos.mpr hne)
    · have hca : c ≠ a := Ne.symm hac
      simp [hac, hca, ih]

/-- When `Complete`'s checks pass, a resource or file was named, the user and the service account
were not both given, and the service account names one account. -/
theorem completeFlags_ok {usageError : String}
    {splitUsername : String → Except String (String × String)} {args filenames : List String}
    {user serviceAccount sa : String}
    (h : completeFlags usageError splitUsername args filenames user serviceAccount = .ok sa) :
    (args ≠ [] ∨ filenames ≠ []) ∧ (user = "" ∨ serviceAccount = "") ∧
      ',' ∉ serviceAccount.data := by
  unfold completeFlags at h
  by_cases hempty : args.length = 0 ∧ filenames.length = 0
  · rw [if_pos hempty] at h; cases h
  rw [if_neg hempty] at h
  by_cases hboth : 0 < user.length ∧ 0 < serviceAccount.length
  · rw [if_pos hboth] at h; cases h
  rw [if_neg hboth] at h
  have hcomma : ',' ∉ serviceAccount.data := by
    rw [← one_lt_length_splitOn_iff]
    intro hc
    have hsa : 0 < serviceAccount.length := by
      rw [← String.length_data]
      rcases serviceAccount with ⟨_ | _⟩
      · simp [List.splitOn] at hc
      · simp
    rw [if_pos hsa, if_pos hc] at h
    cases h
  simp only [ne_eq, ← List.length_eq_zero, ← length_eq_zero_iff]
  exact ⟨by omega, by omega, hcomma⟩

/-! ## Complete and the command -/

/-- What `Complete` and the command ask of the factory, the flags and the resource builder, for
the resources `α` the builder yields. The client config, `OutputVersion` and
`PrinterForCommand` are given by their errors: the versioned printer they make is
`Collaborators.printObj`. -/
structure Factory (α : Type) where
  /-- `kcmdutil.UsageError` for the command. -/
  usageError : String
  splitUsername : String → Except String (String × String)
  /-- `f.DefaultNamespace`: the namespace and whether it is enforced. -/
  defaultNamespace : Except String (String × Bool)
  clients : Except String Unit
  clientConfig : Except String Unit
  outputVersion : Except String Unit
  printerForCommand : Except String Unit
  /-- The `--output` and `--no-headers` flags. -/
  output : String
  noHeaders : Bool
  /-- The builder's result for the namespace, whether it is enforced, the file names and the
  arguments. -/
  build : String → Bool → List String → List String → Except String (List (Info α))

/-- The printer `Complete` picks: the versioned printer of the output format when `--output` is
given, else the human-readable one with `--no-headers`. -/
def Factory.printer (f : Factory α) : Except String SccSubjectReviewPrinter :=
  if f.output.length ≠ 0 then do
    f.clientConfig
    f.outputVersion
    f.printerForCommand
    pure .outputPrinter
  else pure (.humanReadablePrinter f.noHeaders)

/-- `Complete`: the options `Run` reads, with whether the namespace is enforced, or the first
error. -/
def SccSubjectReviewOptions.complete (f : Factory α) (args filenames : List String)
    (user : String) (groups : List String) (serviceAccount : String) :
    Except String (SccSubjectReviewOptions × Bool) := do
  let serviceAccount ←
    completeFlags f.usageError f.splitUsername args filenames user serviceAccount
  let (ns, enforceNamespace) ← f.defaultNamespace
  f.clients.mapError ("unable to obtain client: " ++ ·)
  let printer ← f.printer
  return (⟨ns, printer, user, groups, serviceAccount⟩, enforceNamespace)

/-- The `Run` of `NewCmdSccSubjectReview`: `Complete`, then `Run` on what the builder makes of
the namespace, the files and the arguments, each stopped by `CheckErr` at its first error. -/
def sccSubjectReview (f : Factory α) (args filenames : List String) (user : String)
    (groups : List String) (serviceAccount : String) (out : List String) :
    Except String (RunState β × List String) := do
  let (o, enforceNamespace) ←
    SccSubjectReviewOptions.complete f args filenames user groups serviceAccount
  o.run env (f.build o.ns enforceNamespace filenames args) out

theorem except_bind_eq_ok {ε γ δ : Type} {x : Except ε γ} {g : γ → Except ε δ} {d : δ} :
    x >>= g = .ok d ↔ ∃ c, x = .ok c ∧ g c = .ok d := by
  cases x <;> simp [bind, Except.bind]

/-- When `Complete` succeeds, the options hold the default namespace, the printer the flags
pick, the user and groups as given, and the service account the flag checks leave. -/
theorem complete_eq_ok {f : Factory α} {args filenames : List String} {user : String}
    {groups : List String} {serviceAccount : String} {o : SccSubjectReviewOptions} {e : Bool}
    (h : SccSubjectReviewOptions.complete f args filenames user groups serviceAccount =
      .ok (o, e)) :
    ∃ sa ns printer,
      completeFlags f.usageError f.splitUsername args filenames user serviceAccount = .ok sa ∧
        f.defaultNamespace = .ok (ns, e) ∧ f.printer = .ok printer ∧
        o = ⟨ns, printer, user, groups, sa⟩ := by
  obtain ⟨sa, hsa, h⟩ := except_bind_eq_ok.mp h
  obtain ⟨⟨ns, e'⟩, hns, h⟩ := except_bind_eq_ok.mp h
  obtain ⟨-, -, h⟩ := except_bind_eq_ok.mp h
  obtain ⟨printer, hp, h⟩ := except_bind_eq_ok.mp h
  cases h
  exact ⟨sa, ns, printer, hsa, hns, hp, rfl⟩

/-- A service account given as a user name passes the flag checks as its bare name. -/
theorem completeFlags_of_username {usageError : String}
    {splitUsername : String → Except String (String × String)} {args filenames : List String}
    {serviceAccount saNamespace name sa : String}
    (hpre : serviceAccountUsernamePrefix.data.isPrefixOf serviceAccount.data = true)
    (hsplit : splitUsername serviceAccount = .ok (saNamespace, name))
    (h : completeFlags usageError splitUsername args filenames "" serviceAccount = .ok sa) :
    sa = name := by
  have hsa : 0 < serviceAccount.length := by
    rw [← String.length_data]
    rcases serviceAccount with ⟨_ | _⟩
    · simp [serviceAccountUsernamePrefix, List.isPrefixOf] at hpre
    · simp
  unfold completeFlags at h
  split_ifs at h
  simp only [hsplit, Except.ok.injEq] at h
  exact h.symm

/-- A service account given by its user name, `system:serviceaccount:<namespace>:<name>`, is
reviewed as `<name>` in the command's namespace: whatever namespace the user name holds, every
review the command sends is a subject review for the bare name, to the namespace the factory
defaults to, one per resource with a pod template. -/
theorem sccSubjectReview_serviceAccountUsername {f : Factory α}
    {args filenames groups : List String} {serviceAccount saNamespace name : String}
    {out : List String} {r : RunState β × List String}
    (hpre : serviceAccountUsernamePrefix.data.isPrefixOf serviceAccount.data = true)
    (hsplit : f.splitUsername serviceAccount = .ok (saNamespace, name)) (hname : name ≠ "")
    (h : sccSubjectReview env f args filenames "" groups serviceAccount out = .ok r) :
    ∃ ns e infos, f.defaultNamespace = .ok (ns, e) ∧ f.build ns e filenames args = .ok infos ∧
      r.1.sent = infos.filterMap fun info =>
        (templateFor env info).map fun t => .subjectReview ns ⟨t, name, groups⟩ := by
  obtain ⟨⟨o, e⟩, hc, h⟩ := except_bind_eq_ok.mp h
  obtain ⟨sa, ns, printer, hsa, hns, -, rfl⟩ := complete_eq_ok hc
  cases completeFlags_of_username hpre hsplit hsa
  have hlen : 0 < name.length := by
    rw [← String.length_data, List.length_pos, ne_eq, ← String.ext_iff]
    exact hname
  rcases hb : f.build ns e filenames args with err | infos <;>
    simp only [hb, SccSubjectReviewOptions.run, reduceCtorEq] at h
  refine ⟨ns, e, infos, hns, hb, ?_⟩
  cases h
  simp [visitAll_sent, reviewFor_fst, SccSubjectReviewOptions.userOrSA, hlen]

/-- A factory for the project `myproject`, whose builder yields the pod `web`, and which reads
every service account user name as the account `builder` of the namespace `other`. -/
def sampleFactory : Factory String where
  usageError := "usage"
  splitUsername _ := .ok ("other", "builder")
  defaultNamespace := .ok ("myproject", false)
  clients := .ok ()
  clientConfig := .ok ()
  outputVersion := .ok ()
  printerForCommand := .ok ()
  output := ""
  noHeaders := false
  build _ _ _ _ := .ok [⟨"web", "Pod"⟩]

theorem sccSubjectReview_serviceAccountUsername_sample :
    ∃ r : RunState String × List String,
      sccSubjectReview sampleEnv sampleFactory ["pod/web"] [] "" []
          "system:serviceaccount:other:builder" [] = .ok r ∧
        ∃ ns e infos, sampleFactory.defaultNamespace = .ok (ns, e) ∧
          sampleFactory.build ns e [] ["pod/web"] = .ok infos ∧
          r.1.sent = infos.filterMap fun info =>
            (templateFor sampleEnv info).map fun t => .subjectReview ns ⟨t, "builder", []⟩ :=
  have h : sccSubjectReview sampleEnv sampleFactory ["pod/web"] [] "" []
      "system:serviceaccount:other:builder" [] = .ok _ := rfl
  ⟨_, h, sccSubjectReview_serviceAccountUsername sampleEnv (by decide) rfl (by decide) h⟩

end OpenshiftVendoring.Policy
