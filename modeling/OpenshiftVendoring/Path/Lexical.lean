import OpenshiftVendoring.Path.Clean

/-!
# Lexical paths: what `Clean` computes

The elements of a path are the runs between its separators (`List.splitOn`). Cleaning keeps
a stack of elements, the last one on top: empty and `.` elements change nothing, `..` removes
the element below it, or is kept at the start of a relative path, or is dropped at the root,
and any other element is pushed. `spell` writes a stack back as a path.

`OpenshiftVendoring.Path.Refinement` shows that Go's loop computes exactly this.
-/

namespace OpenshiftVendoring.Path

/-- What one path element does to the elements kept so far (the last one first). -/
def step (rooted : Bool) (st : List (List Char)) (e : List Char) : List (List Char) :=
  if e = [] ∨ e = ['.'] then st
  else if e = ['.', '.'] then
    match st with
    | top :: rest => if top ≠ ['.', '.'] then rest else if rooted then st else e :: st
    | [] => if rooted then st else e :: st
  else e :: st

/-- The elements kept after reading the elements `es` onto the stack `st`. -/
def resolve (rooted : Bool) (st : List (List Char)) (es : List (List Char)) :
    List (List Char) :=
  es.foldl (step rooted) st

/-- The path a stack spells: the root if `rooted`, then the elements from the bottom of the
stack up, a separator between two of them. -/
def spell (rooted : Bool) : List (List Char) → List Char
  | [] => if rooted then ['/'] else []
  | e :: st => addSeparator rooted (spell rooted st) ++ e

/-- Lexical cleaning: resolve the elements of the path, spell what is kept, and write `.`
for the empty path. -/
def lexicalClean (path : List Char) : List Char :=
  let rooted := path.head? = some '/'
  let out := spell rooted (resolve rooted [] (path.splitOn '/'))
  if out = [] then ['.'] else out

/-- The elements a path names, in order: the runs between its separators, without the empty
ones and `.`. -/
def elements (path : List Char) : List (List Char) :=
  (path.splitOn '/').filter fun e => e ≠ [] ∧ e ≠ ['.']

/-- A stack that cleaning builds: no element is empty, holds a separator or is `.`; the `..`
elements sit at the bottom, and a rooted stack has none. -/
def StackOk (rooted : Bool) : List (List Char) → Prop
  | [] => True
  | e :: st => e ≠ [] ∧ '/' ∉ e ∧ e ≠ ['.'] ∧
      (e = ['.', '.'] → rooted = false ∧ ∀ x ∈ st, x = ['.', '.']) ∧ StackOk rooted st

/-! ## Stacks -/

section Stacks

variable {rooted : Bool}

@[simp] theorem resolve_nil (st : List (List Char)) : resolve rooted st [] = st := rfl

@[simp] theorem resolve_cons (st : List (List Char)) (e : List Char) (es : List (List Char)) :
    resolve rooted st (e :: es) = resolve rooted (step rooted st e) es := rfl

theorem resolve_append (st : List (List Char)) (es es' : List (List Char)) :
    resolve rooted st (es ++ es') = resolve rooted (resolve rooted st es) es' :=
  List.foldl_append _ _ _ _

@[simp] theorem spell_cons (e : List Char) (st : List (List Char)) :
    spell rooted (e :: st) = addSeparator rooted (spell rooted st) ++ e := rfl

theorem spell_length_le_append (st st' : List (List Char)) :
    (spell rooted st').length ≤ (spell rooted (st ++ st')).length := by
  induction st with
  | nil => rfl
  | cons e st ih =>
    simp only [List.cons_append, spell_cons, List.length_append]
    have := @length_le_addSeparator rooted (spell rooted (st ++ st'))
    omega

theorem StackOk.step {st : List (List Char)} {e : List Char} (h : StackOk rooted st)
    (he : '/' ∉ e) : StackOk rooted (step rooted st e) := by
  unfold Path.step
  by_cases h1 : e = [] ∨ e = ['.']
  · rw [if_pos h1]; exact h
  rw [if_neg h1]
  by_cases h2 : e = ['.', '.']
  · rw [if_pos h2]
    subst h2
    cases st with
    | nil => cases rooted <;> simp [StackOk]
    | cons top rest =>
      obtain ⟨-, -, -, htop, hrest⟩ := id h
      by_cases h3 : top = ['.', '.']
      · subst h3
        cases rooted
        · refine ⟨by simp, by simp, by simp, fun _ => ⟨rfl, ?_⟩, by simpa using h⟩
          simpa using (htop rfl).2
        · simpa using h
      · simpa [h3] using hrest
  · rw [if_neg h2]
    push_neg at h1
    exact ⟨h1.1, he, h1.2, fun h3 => absurd h3 h2, h⟩

theorem StackOk.resolve {st : List (List Char)} {es : List (List Char)} (h : StackOk rooted st)
    (hes : ∀ e ∈ es, '/' ∉ e) : StackOk rooted (resolve rooted st es) := by
  induction es generalizing st with
  | nil => exact h
  | cons e es ih =>
    simp only [List.mem_cons, forall_eq_or_imp] at hes
    exact ih (h.step hes.1) hes.2

end Stacks

/-! ## Elements -/

/-- Every path is an element up to its first separator, then the rest. -/
theorem exists_element_split (s : List Char) :
    ∃ e rest, s = e ++ rest ∧ '/' ∉ e ∧ (rest = [] ∨ ∃ r, rest = '/' :: r) := by
  induction s with
  | nil => exact ⟨[], [], rfl, by simp, .inl rfl⟩
  | cons c s ih =>
    by_cases hc : c = '/'
    · exact ⟨[], c :: s, rfl, by simp, .inr ⟨s, by rw [hc]⟩⟩
    · obtain ⟨e, rest, rfl, he, hrest⟩ := ih
      exact ⟨c :: e, rest, rfl, by simp [he, Ne.symm hc], hrest⟩

theorem splitOn_of_not_mem {e : List Char} (he : '/' ∉ e) : e.splitOn '/' = [e] :=
  List.splitOnP_eq_single _ _ (by intro x hx hxe; simp at hxe; exact he (hxe ▸ hx))

/-- A separator between two paths separates their elements. -/
theorem splitOn_append_sep (a b : List Char) :
    (a ++ '/' :: b).splitOn '/' = a.splitOn '/' ++ b.splitOn '/' := by
  induction a with
  | nil => simp [List.splitOn]
  | cons c a ih =>
    simp only [List.splitOn, List.cons_append, List.splitOnP_cons] at ih ⊢
    split
    · simp [ih]
    · rw [ih]
      obtain ⟨x, xs, hxs⟩ := List.exists_cons_of_ne_nil (List.splitOnP_ne_nil (· == '/') a)
      rw [hxs]
      rfl

/-! ## Reading a spelled stack back -/

section Spelling

variable {rooted : Bool}

theorem spell_length_pos_of_rooted (st : List (List Char)) : 0 < (spell true st).length := by
  simpa using @spell_length_le_append true st []

/-- Between a non-empty stack and the next element stands a separator. -/
theorem addSeparator_spell_cons {e : List Char} {st : List (List Char)}
    (h : StackOk rooted (e :: st)) :
    addSeparator rooted (spell rooted (e :: st)) = spell rooted (e :: st) ++ ['/'] := by
  have he : 0 < e.length := List.length_pos.2 h.1
  have hle := @length_le_addSeparator rooted (spell rooted st)
  have hroot := spell_length_pos_of_rooted st
  have hlen : (spell rooted (e :: st)).length =
      (addSeparator rooted (spell rooted st)).length + e.length := by
    rw [spell_cons, List.length_append]
  unfold addSeparator
  rw [if_pos]
  cases rooted <;> simp only [hlen, Bool.true_and, Bool.false_and, Bool.not_true, Bool.not_false,
    Bool.false_or, Bool.or_false, bne_iff_ne, ne_eq] <;> omega

theorem elements_spell {st : List (List Char)} (h : StackOk rooted st) :
    elements (spell rooted st) = st.reverse := by
  induction st with
  | nil => cases rooted <;> rfl
  | cons e st ih =>
    obtain ⟨hne, hsep, hdot, -, hst⟩ := h
    cases st with
    | nil =>
      have hsplit := splitOn_of_not_mem hsep
      simp only [List.splitOn] at hsplit
      cases rooted <;> simp [elements, addSeparator, spell, hsplit, hne, hdot, List.splitOn,
        List.splitOnP_cons]
    | cons e' st =>
      rw [spell_cons, addSeparator_spell_cons hst, List.append_assoc, List.singleton_append,
        elements, splitOn_append_sep, splitOn_of_not_mem hsep, List.filter_append, ← elements,
        ih hst]
      simp [hne, hdot]

theorem head_spell {st : List (List Char)} (h : StackOk rooted st) :
    (spell rooted st).head? = some '/' ↔ rooted = true := by
  induction st with
  | nil => cases rooted <;> simp [spell]
  | cons e st ih =>
    obtain ⟨hne, hsep, -, -, hst⟩ := h
    cases st with
    | nil =>
      obtain ⟨c, w, rfl⟩ := List.exists_cons_of_ne_nil hne
      have hc : c ≠ '/' := fun hc => hsep (by simp [hc])
      cases rooted <;> simp [addSeparator, spell, hc]
    | cons e' st =>
      have hne' : spell rooted (e' :: st) ≠ [] := by
        rw [spell_cons]; exact List.append_ne_nil_of_right_ne_nil _ hst.1
      rw [spell_cons, addSeparator_spell_cons hst, List.append_assoc,
        List.head?_append_of_ne_nil _ hne', ih hst]

end Spelling

/-! ## Elements that stay below their start -/

section Relative

variable {rooted : Bool}

/-- A `..` kept on a relative path is never removed again. -/
theorem dotDot_mem_step {st : List (List Char)} (h : ['.', '.'] ∈ st) (e : List Char) :
    ['.', '.'] ∈ step false st e := by
  unfold step
  by_cases h1 : e = [] ∨ e = ['.']
  · rw [if_pos h1]; exact h
  rw [if_neg h1]
  by_cases h2 : e = ['.', '.']
  · rw [if_pos h2]
    cases st with
    | nil => simp at h
    | cons top rest =>
      by_cases htop : top = ['.', '.']
      · simp [htop]
      · simpa [htop, eq_comm] using h
  · rw [if_neg h2]; exact List.mem_cons_of_mem _ h

theorem dotDot_mem_resolve {st : List (List Char)} (h : ['.', '.'] ∈ st) (es : List (List Char)) :
    ['.', '.'] ∈ resolve false st es := by
  induction es generalizing st with
  | nil => exact h
  | cons e es ih => exact ih (dotDot_mem_step h e)

/-- Elements whose `..` never climb above where they start are resolved the same on top of
any stack. -/
theorem resolve_append_of_not_mem {R S : List (List Char)} {es : List (List Char)}
    (hR : ['.', '.'] ∉ R) (h : ['.', '.'] ∉ resolve false R es) :
    resolve rooted (R ++ S) es = resolve false R es ++ S := by
  induction es generalizing R with
  | nil => rfl
  | cons e es ih =>
    have hR' : ['.', '.'] ∉ step false R e := fun hm => h (dotDot_mem_resolve hm es)
    have hstep : step rooted (R ++ S) e = step false R e ++ S := by
      by_cases h2 : e = ['.', '.']
      · subst h2
        cases R with
        | nil => simp [step] at hR'
        | cons top rest =>
          have htop : top ≠ ['.', '.'] := fun ht => hR (by simp [ht])
          simp [step, htop]
      · unfold step
        by_cases h1 : e = [] ∨ e = ['.']
        · simp only [if_pos h1]
        · simp only [if_neg h1, if_neg h2, List.cons_append]
    rw [resolve_cons, resolve_cons, hstep]
    exact ih hR' h

end Relative

/-! ## Cleaning a path -/

section LexicalClean

theorem sep_not_mem_of_mem_splitOn {s e : List Char} (he : e ∈ s.splitOn '/') : '/' ∉ e := by
  induction s generalizing e with
  | nil => simp_all [List.splitOn]
  | cons c s ih =>
    simp only [List.splitOn, List.splitOnP_cons] at he ih
    obtain ⟨x, xs, hxs⟩ := List.exists_cons_of_ne_nil (List.splitOnP_ne_nil (· == '/') s)
    rw [hxs] at he ih
    split at he
    · simp only [List.mem_cons] at he
      rcases he with rfl | rfl | he
      · simp
      · exact ih (List.mem_cons_self _ _)
      · exact ih (List.mem_cons_of_mem _ he)
    · simp only [List.modifyHead_cons, List.mem_cons] at he
      rcases he with rfl | he
      · simpa [Ne.symm (by simpa using ‹¬(c == '/') = true›)] using
          ih (List.mem_cons_self _ _)
      · exact ih (List.mem_cons_of_mem _ he)

theorem stackOk_resolve_splitOn (rooted : Bool) (path : List Char) :
    StackOk rooted (resolve rooted [] (path.splitOn '/')) :=
  StackOk.resolve trivial fun _ => sep_not_mem_of_mem_splitOn

/-- The elements of a cleaned path are the stack its elements resolve to. -/
theorem elements_lexicalClean (path : List Char) :
    elements (lexicalClean path) =
      (resolve (path.head? = some '/') [] (path.splitOn '/')).reverse := by
  have h := elements_spell (stackOk_resolve_splitOn (path.head? = some '/') path)
  dsimp only [lexicalClean]
  split_ifs with hout
  · rw [hout] at h; rw [← h]; rfl
  · exact h

/-- Cleaning keeps a path rooted or relative. -/
theorem head_lexicalClean (path : List Char) :
    (lexicalClean path).head? = some '/' ↔ path.head? = some '/' := by
  have h := head_spell (stackOk_resolve_splitOn (path.head? = some '/') path)
  dsimp only [lexicalClean]
  split_ifs with hout
  · rw [hout] at h; simpa [eq_comm] using h
  · simpa using h

/-- A path whose elements never climb above their start, appended after a separator, puts its
resolved elements on top of those of the path before it. -/
theorem resolve_splitOn_append_sep (rooted : Bool) (p : List Char) {s : List Char}
    (hs : ['.', '.'] ∉ resolve false [] (s.splitOn '/')) :
    resolve rooted [] ((p ++ '/' :: s).splitOn '/') =
      resolve false [] (s.splitOn '/') ++ resolve rooted [] (p.splitOn '/') := by
  rw [splitOn_append_sep, resolve_append]
  simpa using @resolve_append_of_not_mem rooted [] (resolve rooted [] (p.splitOn '/')) _
    (List.not_mem_nil _) hs

/-- The elements of a spelled stack resolve back to the stack. -/
theorem resolve_splitOn_spell {rooted : Bool} {st : List (List Char)} (h : StackOk rooted st) :
    resolve rooted [] ((spell rooted st).splitOn '/') = st := by
  induction st with
  | nil => cases rooted <;> rfl
  | cons e st ih =>
    obtain ⟨hne, hsep, hdot, hdd, hst⟩ := h
    have hpush : step rooted st e = e :: st := by
      unfold step
      rw [if_neg (not_or.2 ⟨hne, hdot⟩)]
      by_cases h2 : e = ['.', '.']
      · obtain ⟨rfl, hall⟩ := hdd h2
        rw [if_pos h2]
        cases st with
        | nil => rfl
        | cons top rest => simp [hall top (List.mem_cons_self _ _), h2]
      · rw [if_neg h2]
    cases st with
    | nil =>
      cases rooted
      · show resolve false [] (e.splitOn '/') = [e]
        rw [splitOn_of_not_mem hsep]; exact hpush
      · show resolve true [] (([] ++ '/' :: e).splitOn '/') = [e]
        rw [splitOn_append_sep, splitOn_of_not_mem hsep]; exact hpush
    | cons e' st =>
      rw [spell_cons, addSeparator_spell_cons hst, List.append_assoc, List.singleton_append,
        splitOn_append_sep, splitOn_of_not_mem hsep, resolve_append, ih hst]
      exact hpush

theorem lexicalClean_spell {rooted : Bool} {st : List (List Char)} (h : StackOk rooted st)
    (hne : spell rooted st ≠ []) : lexicalClean (spell rooted st) = spell rooted st := by
  have hr : decide ((spell rooted st).head? = some '/') = rooted := by
    have := head_spell h; cases rooted <;> simpa using this
  simp only [lexicalClean, hr, resolve_splitOn_spell h, if_neg hne]

/-- Cleaning a clean path changes nothing. -/
theorem lexicalClean_lexicalClean (path : List Char) :
    lexicalClean (lexicalClean path) = lexicalClean path := by
  set rooted : Bool := decide (path.head? = some '/')
  set st := resolve rooted [] (path.splitOn '/')
  have hst : StackOk rooted st := stackOk_resolve_splitOn _ path
  have h : lexicalClean path = if spell rooted st = [] then ['.'] else spell rooted st := rfl
  rw [h]
  split_ifs with hout
  · decide
  · exact lexicalClean_spell hst hout

end LexicalClean

end OpenshiftVendoring.Path
