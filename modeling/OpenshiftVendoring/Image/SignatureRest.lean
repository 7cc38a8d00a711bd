import OpenshiftVendoring.Image.Signature

/-!
# Image signatures: the REST storage

`REST.Create` and `REST.Delete` of `pkg/image/registry/imagesignature/rest.go`, over the
image client of `OpenshiftVendoring.Image.Signature`. Each returns its result together with
the client after the call, so that a failed call still shows what it sent.

`rest.BeforeCreate` with the signature strategy and `imageapi.SplitImageSignatureName` are
outside the source tree; they are the fields of `Collaborators`, and every result here holds
for all of them.

## Main statements

* `REST.create_spec`, `REST.delete_spec` - everything a call can do to the client.
* `REST.create_of_fresh`, `REST.create_of_taken` - create on a stored image.
* `REST.delete_of_found`, `REST.delete_of_not_found` - delete on a stored image.
-/

namespace OpenshiftVendoring.ImageRegistry

/-- What the storage calls outside the source tree: `rest.BeforeCreate` with the signature
strategy, which may rewrite the signature or reject it, and
`imageapi.SplitImageSignatureName`, which gives image and signature name or an error. -/
structure Collaborators where
  beforeCreate : ImageSignature → Except StatusError ImageSignature
  splitImageSignatureName : String → Except String (String × String)

/-- Go's built-in `copy(s[dstLo:dstHi], s[srcLo:srcHi])` for two slices of one backing array
`s`: as many elements as the shorter slice holds move, all read before any is written. -/
def copySlices {α : Type} (s : List α) (dstLo dstHi srcLo srcHi : Nat) : List α :=
  let n := min (dstHi - dstLo) (srcHi - srcLo)
  s.take dstLo ++ (s.drop srcLo).take n ++ s.drop (dstLo + n)

/-- Delete's `copy(s[index:size-1], s[index+1:size])` followed by `s[0:size-1]` removes the
entry at `index`. -/
theorem copySlices_take_pred {α : Type} (l : List α) {i : Nat} (hi : i < l.length) :
    (copySlices l i (l.length - 1) (i + 1) l.length).take (l.length - 1) =
      l.take i ++ l.drop (i + 1) := by
  have hn : min (l.length - 1 - i) (l.length - (i + 1)) = l.length - (i + 1) := by omega
  have htake : (l.drop (i + 1)).take (l.length - (i + 1)) = l.drop (i + 1) :=
    List.take_of_length_le (by simp)
  simp only [copySlices, hn, htake]
  exact List.take_left' (by simp; omega)

section REST

variable (env : Collaborators)

/-- `REST.Create`: prepare the signature, find its image, refuse a signature whose name or
whose type and content is already there, append it and store the image, then return the
stored entry. -/
def REST.create (c : ImageClient) (obj : ImageSignature) :
    Except StatusError ImageSignature × ImageClient :=
  match env.beforeCreate obj with
  | .error err => (.error err, c)
  | .ok signature =>
  match env.splitImageSignatureName signature.name with
  | .error err => (.error (.badRequest err), c)
  | .ok (imageName, _) =>
  match c.get imageName with
  | .error err => (.error err, c)
  | .ok image =>
  let byName := indexOfImageSignatureByName image.signatures signature.name
  let byContent := indexOfImageSignature image.signatures signature.type signature.content
  if byName ≥ 0 ∨ byContent ≥ 0 then
    (.error (.alreadyExists "imageSignatures" signature.name), c)
  else
  match c.update { image with signatures := image.signatures ++ [signature] } with
  | (.error err, c) => (.error err, c)
  | (.ok image, c) =>
    let byName := indexOfImageSignatureByName image.signatures signature.name
    if h : byName < 0 then (.error (.internalError "failed to store given signature"), c)
    else (.ok (image.signatures.get ⟨byName.toNat, indexFrom_toNat_lt _ h⟩), c)

/-- `REST.Delete`: find the image, remove the first entry of that name by copying the tail
down one place and reslicing, and store the image. -/
def REST.delete (c : ImageClient) (name : String) : Except StatusError Status × ImageClient :=
  match env.splitImageSignatureName name with
  | .error _ =>
    (.error (.badRequest "ImageSignatures must be accessed with <imageName>@<signatureName>"), c)
  | .ok (imageName, _) =>
  match c.get imageName with
  | .error err => (.error err, c)
  | .ok image =>
  let index := indexOfImageSignatureByName image.signatures name
  if index < 0 then (.error (.notFound "imageSignatures" name), c)
  else
  let size := image.signatures.length
  let signatures := copySlices image.signatures index.toNat (size - 1) (index.toNat + 1) size
  let image := { image with signatures := signatures.take (size - 1) }
  match c.update image with
  | (.error err, c) => (.error err, c)
  | (.ok _, c) => (.ok statusSuccess, c)

end REST

/-! ## What a call can do -/

section Calls

variable {env : Collaborators} {c : ImageClient}

theorem ImageClient.get_eq_ok_iff {name : String} {image : Image} :
    c.get name = .ok image ↔ ∃ signatures, c.images name = some signatures ∧
      image = ⟨name, signatures⟩ := by
  cases h : c.images name <;> simp [ImageClient.get, h, eq_comm]

/-- Delete where the image holds an entry of that name: the first one is cut out and the
image is sent in one `Update`, whose answer is the call's. -/
theorem REST.delete_of_found {name imageName sn : String} {pre post : List ImageSignature}
    {s : ImageSignature} (hsplit : env.splitImageSignatureName name = .ok (imageName, sn))
    (himage : c.images imageName = some (pre ++ s :: post)) (hs : s.name = name)
    (hpre : ∀ t ∈ pre, t.name ≠ name) :
    REST.delete env c name =
      ((c.update ⟨imageName, pre ++ post⟩).1.map fun _ => statusSuccess,
        (c.update ⟨imageName, pre ++ post⟩).2) := by
  have hindex : indexOfImageSignatureByName (pre ++ s :: post) name = pre.length :=
    (indexFrom_split _ 0 pre s post (by simpa using hpre) (by simpa using hs)).trans (by simp)
  have hcut : ((copySlices (pre ++ s :: post) pre.length ((pre ++ s :: post).length - 1)
      (pre.length + 1) (pre ++ s :: post).length).take ((pre ++ s :: post).length - 1)) =
        pre ++ post := by
    rw [copySlices_take_pred _ (by simp)]
    simp [List.drop_append]
  simp only [REST.delete, hsplit, ImageClient.get_of_images himage, hindex]
  rw [if_neg (by omega)]
  simp only [Int.toNat_ofNat, hcut]
  rcases c.update ⟨imageName, pre ++ post⟩ with ⟨_ | _, _⟩ <;> rfl

/-- Delete where the image holds no entry of that name: `NotFound`, and nothing is sent. -/
theorem REST.delete_of_not_found {name imageName sn : String} {signatures : List ImageSignature}
    (hsplit : env.splitImageSignatureName name = .ok (imageName, sn))
    (himage : c.images imageName = some signatures)
    (hnone : ∀ s ∈ signatures, s.name ≠ name) :
    REST.delete env c name = (.error (.notFound "imageSignatures" name), c) := by
  have hindex : indexOfImageSignatureByName signatures name < 0 :=
    (indexFrom_neg_iff _ _ _).2 (by simpa using hnone)
  simp only [REST.delete, hsplit, ImageClient.get_of_images himage, if_pos hindex]

/-- Create of a signature whose name and whose type and content are both new on its image:
the image with the signature appended is sent in one `Update`; if the server stores it, the
appended entry is returned. -/
theorem REST.create_of_fresh {obj signature : ImageSignature} {imageName sn : String}
    {signatures : List ImageSignature} (hprep : env.beforeCreate obj = .ok signature)
    (hsplit : env.splitImageSignatureName signature.name = .ok (imageName, sn))
    (himage : c.images imageName = some signatures)
    (hname : ∀ t ∈ signatures, t.name ≠ signature.name)
    (hcontent :
      ∀ t ∈ signatures, ¬(t.type = signature.type ∧ t.content = signature.content)) :
    REST.create env c obj =
      ((c.update ⟨imageName, signatures ++ [signature]⟩).1.map fun _ => signature,
        (c.update ⟨imageName, signatures ++ [signature]⟩).2) := by
  have hbyName : indexOfImageSignatureByName signatures signature.name < 0 :=
    (indexFrom_neg_iff _ _ _).2 (by simpa using hname)
  have hbyContent : indexOfImageSignature signatures signature.type signature.content < 0 :=
    (indexFrom_neg_iff _ _ _).2 (by simpa using hcontent)
  have hstored : indexOfImageSignatureByName (signatures ++ [signature]) signature.name =
      signatures.length := by
    simpa using indexFrom_split (fun s : ImageSignature => decide (s.name = signature.name)) 0
      signatures signature [] (by simpa using hname) (by simp)
  simp only [REST.create, hprep, hsplit, ImageClient.get_of_images himage]
  rw [if_neg (by omega)]
  rcases (c.update_cases ⟨imageName, signatures ++ [signature]⟩).2 with
    ⟨-, hu⟩ | ⟨err, -, hu⟩
  · simp only [hu, hstored]
    rw [dif_neg (by omega)]
    simp [Except.map]
  · simp [hu, Except.map]

/-- Create of a signature whose name or whose type and content is already on its image:
`AlreadyExists`, and nothing is sent. -/
theorem REST.create_of_taken {obj signature : ImageSignature} {imageName sn : String}
    {signatures : List ImageSignature} (hprep : env.beforeCreate obj = .ok signature)
    (hsplit : env.splitImageSignatureName signature.name = .ok (imageName, sn))
    (himage : c.images imageName = some signatures)
    (htaken : ¬((∀ t ∈ signatures, t.name ≠ signature.name) ∧
      ∀ t ∈ signatures, ¬(t.type = signature.type ∧ t.content = signature.content))) :
    REST.create env c obj = (.error (.alreadyExists "imageSignatures" signature.name), c) := by
  have hindex : ¬(indexOfImageSignatureByName signatures signature.name < 0 ∧
      indexOfImageSignature signatures signature.type signature.content < 0) := fun ⟨hn, hc⟩ =>
    htaken ⟨by simpa using (indexFrom_neg_iff _ _ _).1 hn,
      by simpa using (indexFrom_neg_iff _ _ _).1 hc⟩
  simp only [REST.create, hprep, hsplit, ImageClient.get_of_images himage]
  rw [if_pos (by omega)]

/-- Everything a create can do: fail with the client untouched, or send the image with the
prepared signature appended, which is new on it by name and by type and content. -/
theorem REST.create_spec (env : Collaborators) (c : ImageClient) (obj : ImageSignature) :
    (∃ err, REST.create env c obj = (.error err, c)) ∨
      ∃ signature imageName sn signatures, env.beforeCreate obj = .ok signature ∧
        env.splitImageSignatureName signature.name = .ok (imageName, sn) ∧
        c.images imageName = some signatures ∧
        (∀ t ∈ signatures, t.name ≠ signature.name) ∧
        (∀ t ∈ signatures, ¬(t.type = signature.type ∧ t.content = signature.content)) ∧
        REST.create env c obj =
          ((c.update ⟨imageName, signatures ++ [signature]⟩).1.map fun _ => signature,
            (c.update ⟨imageName, signatures ++ [signature]⟩).2) := by
  rcases hprep : env.beforeCreate obj with err | signature
  · exact .inl ⟨err, by simp [REST.create, hprep]⟩
  rcases hsplit : env.splitImageSignatureName signature.name with err | ⟨imageName, sn⟩
  · exact .inl ⟨.badRequest err, by simp [REST.create, hprep, hsplit]⟩
  rcases himage : c.images imageName with _ | signatures
  · exact .inl ⟨.notFound "images" imageName,
      by simp [REST.create, hprep, hsplit, ImageClient.get, himage]⟩
  by_cases hfresh : (∀ t ∈ signatures, t.name ≠ signature.name) ∧
      ∀ t ∈ signatures, ¬(t.type = signature.type ∧ t.content = signature.content)
  · exact .inr ⟨signature, imageName, sn, signatures, rfl, hsplit, himage, hfresh.1, hfresh.2,
      REST.create_of_fresh hprep hsplit himage hfresh.1 hfresh.2⟩
  · exact .inl ⟨_, REST.create_of_taken hprep hsplit himage hfresh⟩

/-- Everything a delete can do: fail with the client untouched, or send a stored image with
its first entry of that name cut out. -/
theorem REST.delete_spec (env : Collaborators) (c : ImageClient) (name : String) :
    (∃ err, REST.delete env c name = (.error err, c)) ∨
      ∃ imageName sn pre s post, env.splitImageSignatureName name = .ok (imageName, sn) ∧
        c.images imageName = some (pre ++ s :: post) ∧ s.name = name ∧
        (∀ t ∈ pre, t.name ≠ name) ∧
        REST.delete env c name =
          ((c.update ⟨imageName, pre ++ post⟩).1.map fun _ => statusSuccess,
            (c.update ⟨imageName, pre ++ post⟩).2) := by
  rcases hsplit : env.splitImageSignatureName name with _ | ⟨imageName, sn⟩
  · exact .inl ⟨_, by simp only [REST.delete, hsplit]; rfl⟩
  rcases himage : c.images imageName with _ | signatures
  · exact .inl ⟨.notFound "images" imageName,
      by simp [REST.delete, hsplit, ImageClient.get, himage]⟩
  by_cases hfound : ∃ s ∈ signatures, s.name = name
  · obtain ⟨pre, s, post, rfl, hpre, hs⟩ :=
      exists_first_split (fun s : ImageSignature => s.name = name) (by simpa using hfound)
    have hs : s.name = name := by simpa using hs
    have hpre : ∀ t ∈ pre, t.name ≠ name := by simpa using hpre
    exact .inr ⟨imageName, sn, pre, s, post, rfl, himage, hs, hpre,
      REST.delete_of_found hsplit himage hs hpre⟩
  · exact .inl ⟨_, REST.delete_of_not_found hsplit himage (by simpa using hfound)⟩

end Calls

end OpenshiftVendoring.ImageRegistry
