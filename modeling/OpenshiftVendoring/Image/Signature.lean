import Mathlib

/-!
# Image signatures: data and the image client

The data that `pkg/image/registry/imagesignature/rest.go` reads and writes: the signatures
stored on an image, the two lookups `IndexOfImageSignatureByName` and
`IndexOfImageSignature`, and the image client it stores through.

The lookups live in `pkg/image/api`, outside the source tree; they are modelled from their
documented contract, the first matching index or `-1`. The image client is a store of the
signature lists by image name: `Get` reads it back, and each `Update` is sent, then answered
by the server, which either stores the image or rejects it with an error.
-/

namespace OpenshiftVendoring.ImageRegistry

/-- An `ImageSignature` as the storage sees it: its name `<imageName>@<signatureName>`,
its type and its opaque content. -/
structure ImageSignature where
  name : String
  type : String
  content : List UInt8
  deriving DecidableEq, Repr

structure Image where
  name : String
  signatures : List ImageSignature
  deriving DecidableEq, Repr

/-- The API errors of `kapierrors`, by constructor; `other` stands for any error a
collaborator returns that the storage only passes on. -/
inductive StatusError
  | badRequest (message : String)
  | notFound (resource name : String)
  | alreadyExists (resource name : String)
  | internalError (message : String)
  | other (reason message : String)
  deriving DecidableEq, Repr

/-- `unversioned.Status`, reduced to its status string. -/
structure Status where
  status : String
  deriving DecidableEq, Repr

def statusSuccess : Status := ⟨"Success"⟩

/-! ## Lookups -/

/-- The `for i := range` loop of the lookups from index `i` on: the first index whose entry
satisfies `p`, or `-1`. -/
def indexFrom {α : Type} (p : α → Bool) (i : Nat) : List α → Int
  | [] => -1
  | a :: as => if p a then i else indexFrom p (i + 1) as

/-- `imageapi.IndexOfImageSignatureByName`. -/
def indexOfImageSignatureByName (signatures : List ImageSignature) (name : String) : Int :=
  indexFrom (fun s => s.name = name) 0 signatures

/-- `imageapi.IndexOfImageSignature`, matching type and content. -/
def indexOfImageSignature (signatures : List ImageSignature) (sType : String)
    (sContent : List UInt8) : Int :=
  indexFrom (fun s => s.type = sType ∧ s.content = sContent) 0 signatures

section IndexFrom

variable {α : Type} (p : α → Bool)

theorem indexFrom_neg_iff (i : Nat) (l : List α) :
    indexFrom p i l < 0 ↔ ∀ a ∈ l, p a = false := by
  induction l generalizing i with
  | nil => simp [indexFrom]
  | cons a as ih => by_cases h : p a <;> simp [indexFrom, h, ih]

theorem indexFrom_eq_neg_one_of_neg {i : Nat} {l : List α} (h : indexFrom p i l < 0) :
    indexFrom p i l = -1 := by
  induction l generalizing i with
  | nil => rfl
  | cons a as ih =>
    by_cases ha : p a
    · simp [indexFrom, ha] at h; omega
    · simp only [indexFrom, ha] at h ⊢; exact ih h

/-- A non-negative answer is an index into the list, shifted by the start. -/
theorem indexFrom_lt {i : Nat} {l : List α} (h : ¬indexFrom p i l < 0) :
    i ≤ indexFrom p i l ∧ indexFrom p i l < i + l.length := by
  induction l generalizing i with
  | nil => simp [indexFrom] at h
  | cons a as ih =>
    by_cases ha : p a
    · simp [indexFrom, ha]
    · simp only [indexFrom, ha] at h ⊢
      have := ih h
      simp only [List.length_cons]
      omega

theorem indexFrom_toNat_lt {l : List α} (h : ¬indexFrom p 0 l < 0) :
    (indexFrom p 0 l).toNat < l.length := by
  have := indexFrom_lt p h
  omega

/-- The lookup on a list cut at its first match. -/
theorem indexFrom_split (i : Nat) (pre : List α) (a : α) (post : List α)
    (hpre : ∀ b ∈ pre, p b = false) (ha : p a = true) :
    indexFrom p i (pre ++ a :: post) = i + pre.length := by
  induction pre generalizing i with
  | nil => simp [indexFrom, ha]
  | cons b bs ih =>
    simp only [List.mem_cons, forall_eq_or_imp] at hpre
    rw [List.cons_append, indexFrom, if_neg (by simp [hpre.1]), ih _ hpre.2, List.length_cons]
    omega

end IndexFrom

/-- A list with a matching entry splits at the first one. -/
theorem exists_first_split {α : Type} (p : α → Bool) {l : List α}
    (h : ∃ a ∈ l, p a = true) :
    ∃ pre a post, l = pre ++ a :: post ∧ (∀ b ∈ pre, p b = false) ∧ p a = true := by
  induction l with
  | nil => simp at h
  | cons x xs ih =>
    by_cases hx : p x
    · exact ⟨[], x, xs, rfl, by simp, hx⟩
    · obtain ⟨a, ha, hpa⟩ := h
      have hxs : ∃ a ∈ xs, p a = true := by
        rcases List.mem_cons.1 ha with rfl | ha
        · exact absurd hpa hx
        · exact ⟨a, ha, hpa⟩
      obtain ⟨pre, b, post, rfl, hpre, hb⟩ := ih hxs
      refine ⟨x :: pre, b, post, rfl, ?_, hb⟩
      simpa [hx] using hpre

/-! ## The image client -/

/-- The image client as the signature storage uses it: the signature lists stored under
each image name, the server's answer to the `n`-th `Update` (`none` stores the image), and
the images sent in `Update` requests so far, oldest first. -/
structure ImageClient where
  images : String → Option (List ImageSignature)
  answer : Nat → Option StatusError
  sent : List Image

/-- `ImageInterface.Get`: the image stored under the name, or `NotFound`. -/
def ImageClient.get (c : ImageClient) (name : String) : Except StatusError Image :=
  match c.images name with
  | some signatures => .ok ⟨name, signatures⟩
  | none => .error (.notFound "images" name)

/-- `ImageInterface.Update`: the request is sent; the server's answer decides whether the
image is stored under its name and returned. -/
def ImageClient.update (c : ImageClient) (image : Image) :
    Except StatusError Image × ImageClient :=
  let c' := { c with sent := c.sent ++ [image] }
  match c.answer c.sent.length with
  | some err => (.error err, c')
  | none =>
    let images := Function.update c.images image.name (some image.signatures)
    (.ok image, { c' with images := images })

theorem ImageClient.get_eq_ok {c : ImageClient} {name : String} {image : Image}
    (h : c.get name = .ok image) :
    image = ⟨name, image.signatures⟩ ∧ c.images name = some image.signatures := by
  unfold ImageClient.get at h
  split at h <;> simp_all [eq_comm]

theorem ImageClient.get_of_images {c : ImageClient} {name : String}
    {signatures : List ImageSignature} (h : c.images name = some signatures) :
    c.get name = .ok ⟨name, signatures⟩ := by
  simp [ImageClient.get, h]

/-- What an `Update` can do: the request is always recorded, and the image is stored exactly
when the server accepts it. -/
theorem ImageClient.update_cases (c : ImageClient) (image : Image) :
    (c.update image).2.sent = c.sent ++ [image] ∧
      ((c.answer c.sent.length = none ∧ c.update image =
          (.ok image, { c with
            sent := c.sent ++ [image]
            images := Function.update c.images image.name (some image.signatures) })) ∨
        ∃ err, c.answer c.sent.length = some err ∧
          c.update image = (.error err, { c with sent := c.sent ++ [image] })) := by
  unfold ImageClient.update
  split <;> simp_all

end OpenshiftVendoring.ImageRegistry
