import OpenshiftVendoring.Image.SignatureRest

/-!
# Image signatures: what the storage guarantees

Over any sequence of `REST.Create` and `REST.Delete` calls, whatever the collaborators and
whatever the server answers to each `Update`, an image whose signatures have distinct names
and distinct (type, content) pairs keeps them so. A delete removes exactly the first entry
of its name, and undoes a successful create of that signature when the server stores the
delete's `Update`; when the server rejects it, the delete fails and the signature stays.
-/

namespace OpenshiftVendoring.ImageRegistry

/-- No two entries share a name, and no two share type and content. -/
def SignaturesDistinct (signatures : List ImageSignature) : Prop :=
  (signatures.map (·.name)).Nodup ∧ (signatures.map fun s => (s.type, s.content)).Nodup

instance : DecidablePred SignaturesDistinct := fun _ => inferInstanceAs (Decidable (_ ∧ _))

theorem SignaturesDistinct.append {signatures : List ImageSignature} {s : ImageSignature}
    (h : SignaturesDistinct signatures) (hname : ∀ t ∈ signatures, t.name ≠ s.name)
    (hcontent : ∀ t ∈ signatures, ¬(t.type = s.type ∧ t.content = s.content)) :
    SignaturesDistinct (signatures ++ [s]) := by
  refine ⟨?_, ?_⟩ <;> simp only [List.map_append, List.map_singleton, List.nodup_append,
    List.nodup_singleton, List.disjoint_singleton, List.mem_map, not_exists, not_and]
  · exact ⟨h.1, trivial, fun t ht => hname t ht⟩
  · exact ⟨h.2, trivial, fun t ht he => hcontent t ht (by simpa using he)⟩

theorem SignaturesDistinct.cut {pre post : List ImageSignature} {s : ImageSignature}
    (h : SignaturesDistinct (pre ++ s :: post)) : SignaturesDistinct (pre ++ post) :=
  have hsub : List.Sublist (pre ++ post) (pre ++ s :: post) :=
    (List.sublist_cons_self s post).append_left pre
  ⟨h.1.sublist (hsub.map _), h.2.sublist (hsub.map _)⟩

/-! ## Runs of calls -/

/-- A call of the storage. -/
inductive Call
  | create (obj : ImageSignature)
  | delete (name : String)
  deriving DecidableEq, Repr

/-- The client after a call, whether it succeeded or not. -/
def Call.run (env : Collaborators) (c : ImageClient) : Call → ImageClient
  | .create obj => (REST.create env c obj).2
  | .delete name => (REST.delete env c name).2

def runCalls (env : Collaborators) (c : ImageClient) : List Call → ImageClient
  | [] => c
  | call :: calls => runCalls env (call.run env c) calls

/-- Collaborators that keep each signature as sent and file every name under the image
`img`. -/
def sampleEnv : Collaborators := ⟨.ok, fun name => .ok ("img", name)⟩

/-- A client storing only `img`, with the given signatures, and storing every `Update`. -/
def sampleClient (signatures : List ImageSignature) : ImageClient :=
  ⟨fun n => if n = "img" then some signatures else none, fun _ => none, []⟩

/-- The image `k` is stored with distinct signatures. -/
def StoredDistinct (k : String) (c : ImageClient) : Prop :=
  ∃ signatures, c.images k = some signatures ∧ SignaturesDistinct signatures

theorem StoredDistinct.update {k : String} {c : ImageClient} {image : Image}
    (h : StoredDistinct k c) (himage : image.name = k → SignaturesDistinct image.signatures) :
    StoredDistinct k (c.update image).2 := by
  obtain ⟨signatures, hk, hd⟩ := h
  rcases (c.update_cases image).2 with ⟨-, hu⟩ | ⟨err, -, hu⟩ <;> rw [hu]
  · by_cases hn : image.name = k
    · subst hn
      exact ⟨image.signatures, by simp, himage rfl⟩
    · exact ⟨signatures, by simp [Function.update_apply, Ne.symm hn, hk], hd⟩
  · exact ⟨signatures, hk, hd⟩

theorem StoredDistinct.run (env : Collaborators) {k : String} {c : ImageClient}
    (h : StoredDistinct k c) (call : Call) : StoredDistinct k (call.run env c) := by
  obtain ⟨signatures, hk, hd⟩ := h
  cases call with
  | create obj =>
    rcases REST.create_spec env c obj with ⟨err, he⟩ | ⟨s, imageName, sn, sigs, -, -, himage,
      hname, hcontent, he⟩ <;> simp only [Call.run, he]
    · exact ⟨signatures, hk, hd⟩
    · refine StoredDistinct.update ⟨signatures, hk, hd⟩ fun hn => ?_
      obtain rfl : sigs = signatures := by simpa [← hn, himage] using hk
      exact hd.append hname hcontent
  | delete name =>
    rcases REST.delete_spec env c name with
      ⟨err, he⟩ | ⟨imageName, sn, pre, s, post, -, himage, -, -, he⟩ <;>
      simp only [Call.run, he]
    · exact ⟨signatures, hk, hd⟩
    · refine StoredDistinct.update ⟨signatures, hk, hd⟩ fun hn => ?_
      obtain rfl : pre ++ s :: post = signatures := by simpa [← hn, himage] using hk
      exact hd.cut

/-- An image whose signatures have distinct names and distinct (type, content) pairs stays
stored with both properties through every sequence of creates and deletes, each of which may
succeed or fail. -/
theorem signatures_stay_distinct (env : Collaborators) (c : ImageClient) (calls : List Call)
    (k : String) (signatures : List ImageSignature) (hk : c.images k = some signatures)
    (hd : SignaturesDistinct signatures) :
    ∃ signatures', (runCalls env c calls).images k = some signatures' ∧
      SignaturesDistinct signatures' := by
  induction calls generalizing c signatures with
  | nil => exact ⟨signatures, hk, hd⟩
  | cons call calls ih =>
    obtain ⟨signatures', hk', hd'⟩ := StoredDistinct.run env ⟨signatures, hk, hd⟩ call
    exact ih _ _ hk' hd'

theorem signatures_stay_distinct_sample :
    ∃ signatures', (runCalls sampleEnv (sampleClient [⟨"img@a", "t", [1]⟩])
      [.create ⟨"img@b", "t", [2]⟩, .create ⟨"img@c", "t", [2]⟩, .delete "img@a"]).images
        "img" =
      some signatures' ∧ SignaturesDistinct signatures' :=
  signatures_stay_distinct _ _ _ "img" _ rfl (by decide)

/-! ## Delete -/

/-- Delete of a name on a stored image: if an entry has that name, exactly one `Update` is
sent, carrying the list with the first such entry cut out and the others in their order; if
none has, the answer is `NotFound` and nothing is sent. -/
theorem delete_removes_first_match (env : Collaborators) (c : ImageClient)
    (name imageName sn : String) (signatures : List ImageSignature)
    (hsplit : env.splitImageSignatureName name = .ok (imageName, sn))
    (himage : c.images imageName = some signatures) :
    ((∃ s ∈ signatures, s.name = name) →
      ∃ pre s post, signatures = pre ++ s :: post ∧ s.name = name ∧
        (∀ t ∈ pre, t.name ≠ name) ∧
        (REST.delete env c name).2.sent = c.sent ++ [⟨imageName, pre ++ post⟩] ∧
        (pre ++ post).length + 1 = signatures.length) ∧
    ((∀ s ∈ signatures, s.name ≠ name) →
      REST.delete env c name = (.error (.notFound "imageSignatures" name), c)) := by
  refine ⟨fun hfound => ?_, REST.delete_of_not_found hsplit himage⟩
  obtain ⟨pre, s, post, rfl, hpre, hs⟩ :=
    exists_first_split (fun s : ImageSignature => s.name = name) (by simpa using hfound)
  have hs : s.name = name := by simpa using hs
  have hpre : ∀ t ∈ pre, t.name ≠ name := by simpa using hpre
  refine ⟨pre, s, post, rfl, hs, hpre, ?_, by simp; omega⟩
  rw [REST.delete_of_found hsplit himage hs hpre]
  exact (c.update_cases _).1

theorem delete_removes_first_match_sample :
    ((∃ s ∈ [⟨"img@a", "t", [1]⟩, ⟨"img@b", "t", [2]⟩, ⟨"img@b", "u", [3]⟩],
        ImageSignature.name s = "img@b") →
      ∃ pre s post, [⟨"img@a", "t", [1]⟩, ⟨"img@b", "t", [2]⟩, ⟨"img@b", "u", [3]⟩] =
          pre ++ s :: post ∧ s.name = "img@b" ∧ (∀ t ∈ pre, t.name ≠ "img@b") ∧
        (REST.delete sampleEnv (sampleClient [⟨"img@a", "t", [1]⟩, ⟨"img@b", "t", [2]⟩,
          ⟨"img@b", "u", [3]⟩]) "img@b").2.sent = [] ++ [⟨"img", pre ++ post⟩] ∧
        (pre ++ post).length + 1 = 3) ∧
    ((∀ s ∈ [⟨"img@a", "t", [1]⟩, ⟨"img@b", "t", [2]⟩, ⟨"img@b", "u", [3]⟩],
        ImageSignature.name s ≠ "img@b") →
      REST.delete sampleEnv (sampleClient [⟨"img@a", "t", [1]⟩, ⟨"img@b", "t", [2]⟩,
          ⟨"img@b", "u", [3]⟩]) "img@b" =
        (.error (.notFound "imageSignatures" "img@b"), sampleClient [⟨"img@a", "t", [1]⟩,
          ⟨"img@b", "t", [2]⟩, ⟨"img@b", "u", [3]⟩])) :=
  delete_removes_first_match sampleEnv _ "img@b" "img" "img@b" _ rfl rfl

/-- Whether a call returned an error. -/
def Call.failed (env : Collaborators) (c : ImageClient) : Call → Bool
  | .create obj => !(REST.create env c obj).1.isOk
  | .delete name => !(REST.delete env c name).1.isOk

/-- A call fails with the client untouched, or it sends one image, and then fails exactly when
the server refuses that image. -/
theorem Call.run_cases (env : Collaborators) (c : ImageClient) (call : Call) :
    (call.failed env c = true ∧ call.run env c = c) ∨
      ∃ image, call.run env c = (c.update image).2 ∧
        call.failed env c = !(c.update image).1.isOk := by
  cases call with
  | create obj =>
    rcases REST.create_spec env c obj with
      ⟨err, he⟩ | ⟨s, imageName, _, sigs, -, -, -, -, -, he⟩
    · exact .inl ⟨by simp [Call.failed, he, Except.isOk, Except.toBool],
        by simp [Call.run, he]⟩
    · refine .inr ⟨⟨imageName, sigs ++ [s]⟩, by simp [Call.run, he], ?_⟩
      simp only [Call.failed, he]
      cases (c.update _).1 <;> rfl
  | delete name =>
    rcases REST.delete_spec env c name with
      ⟨err, he⟩ | ⟨imageName, _, pre, _, post, -, -, -, -, he⟩
    · exact .inl ⟨by simp [Call.failed, he, Except.isOk, Except.toBool],
        by simp [Call.run, he]⟩
    · refine .inr ⟨⟨imageName, pre ++ post⟩, by simp [Call.run, he], ?_⟩
      simp only [Call.failed, he]
      cases (c.update _).1 <;> rfl

/-- A call that returns an error leaves every stored image as it was, even when the error is
the server's answer to an `Update` it sent. -/
theorem failed_call_keeps_images (env : Collaborators) (c : ImageClient) (call : Call)
    (h : call.failed env c = true) : (call.run env c).images = c.images := by
  rcases Call.run_cases env c call with ⟨-, hrun⟩ | ⟨image, hrun, hfail⟩
  · rw [hrun]
  rw [hrun]
  rw [hfail] at h
  rcases (c.update_cases image).2 with ⟨-, hu⟩ | ⟨err, -, hu⟩ <;> rw [hu] at h ⊢
  simp [Except.isOk, Except.toBool] at h

end OpenshiftVendoring.ImageRegistry
