import OpenshiftVendoring.Path.Lexical

/-!
# `Clean` refines lexical cleaning

Go's loop keeps, at each element boundary, the state of a stack of `Lexical`: the buffer is
the stack spelled out, and `dotdot` is `stopIndex`, where the stack's leading `..` elements
(or the root) end. One lemma per case of the loop's `switch` shows that reading an element
is `step`; `cleanChars_eq_lexicalClean` follows by induction on the path.
-/

namespace OpenshiftVendoring.Path

/-- Where `Clean`'s backtracking stops for a stack: after the root, or after the leading `..`
elements of a relative path. -/
def stopIndex (rooted : Bool) (st : List (List Char)) : Nat :=
  if rooted then 1 else (spell false (st.dropWhile (· ≠ ['.', '.']))).length

/-! ## The loop's state -/

section State

variable {rooted : Bool}

theorem stopIndex_nil : stopIndex rooted [] = (spell rooted []).length := by
  cases rooted <;> rfl

theorem stopIndex_cons_of_ne {e : List Char} (he : e ≠ ['.', '.']) (st : List (List Char)) :
    stopIndex rooted (e :: st) = stopIndex rooted st := by
  simp [stopIndex, List.dropWhile_cons, he]

theorem stopIndex_cons_dotDot (st : List (List Char)) :
    stopIndex false (['.', '.'] :: st) = (spell false (['.', '.'] :: st)).length := by
  simp [stopIndex, List.dropWhile_cons]

theorem stopIndex_le (st : List (List Char)) :
    stopIndex rooted st ≤ (spell rooted st).length := by
  cases rooted
  · have := @spell_length_le_append false (st.takeWhile (· ≠ ['.', '.']))
      (st.dropWhile (· ≠ ['.', '.']))
    rwa [List.takeWhile_append_dropWhile] at this
  · simpa using @spell_length_le_append true st []

/-- Backtracking is possible exactly when the top of the stack is a real element. -/
theorem stopIndex_lt_iff {st : List (List Char)} (h : StackOk rooted st) :
    stopIndex rooted st < (spell rooted st).length ↔
      ∃ top rest, st = top :: rest ∧ top ≠ ['.', '.'] := by
  cases st with
  | nil => simp [stopIndex_nil]
  | cons top rest =>
    by_cases htop : top = ['.', '.']
    · obtain ⟨-, -, -, hdd, -⟩ := h
      obtain rfl := (hdd htop).1
      subst htop
      simp [stopIndex_cons_dotDot]
    · have hne : top ≠ [] := h.1
      have := @stopIndex_le rooted rest
      have := @length_le_addSeparator rooted (spell rooted rest)
      have : 0 < top.length := List.length_pos.2 hne
      rw [stopIndex_cons_of_ne htop, spell_cons, List.length_append]
      exact iff_of_true (by omega) ⟨top, rest, rfl, htop⟩

/-- Stepping back over non-separators above `dotdot`. -/
theorem backtrack_append {p x : List Char} {dotdot : Nat} (hx : '/' ∉ x)
    (hlt : dotdot < p.length) :
    ∀ m ≤ x.length,
      backtrack (p ++ x) dotdot (p.length + m) = backtrack (p ++ x) dotdot p.length
  | 0, _ => rfl
  | m + 1, hm => by
    have hc : (p ++ x)[p.length + m]? ≠ some '/' := by
      rw [List.getElem?_append_right (by omega), Nat.add_sub_cancel_left]
      intro hget
      exact hx (List.getElem?_mem hget)
    rw [← Nat.add_assoc, backtrack, if_pos ⟨by omega, hc⟩]
    exact backtrack_append hx hlt m (by omega)

/-- Backtracking from the end of a spelled stack whose top is a real element stops where the
rest of the stack ends. -/
theorem backtrack_spell {top : List Char} {rest : List (List Char)}
    (h : StackOk rooted (top :: rest)) (htop : top ≠ ['.', '.']) :
    backtrack (spell rooted (top :: rest)) (stopIndex rooted (top :: rest))
      (spell rooted (top :: rest)).length = (spell rooted rest).length := by
  obtain ⟨hne, hsep, -, -, -⟩ := h
  have hle := @stopIndex_le rooted rest
  rw [stopIndex_cons_of_ne htop, spell_cons]
  rcases @addSeparator_cases rooted (spell rooted rest) with ⟨hadd, -⟩ | ⟨hadd, hcond⟩
  · -- a separator stands between the rest and the top element: back up to it
    rw [hadd, List.length_append, backtrack_append hsep (by simp; omega) _ le_rfl,
      List.length_append, List.length_singleton, backtrack, if_neg]
    rw [List.append_assoc, List.getElem?_append_right le_rfl]
    simp
  · -- the top element is the first one: back up to the root or the leading `..` elements
    have hdd : stopIndex rooted rest = (spell rooted rest).length := by
      cases rooted
      · have : (spell false rest).length = 0 := by simpa using hcond
        omega
      · simp [stopIndex] at hcond ⊢; omega
    obtain ⟨c, w, rfl⟩ := List.exists_cons_of_ne_nil hne
    have hw : '/' ∉ w := fun hw => hsep (List.mem_cons_of_mem c hw)
    have hsplit : spell rooted rest ++ c :: w = (spell rooted rest ++ [c]) ++ w := by simp
    have hlen : (spell rooted rest ++ c :: w).length =
        (spell rooted rest ++ [c]).length + w.length := by simp; omega
    rw [hadd, hlen, hsplit, backtrack_append hw (by simp; omega) _ le_rfl, List.length_append,
      List.length_singleton, backtrack, if_neg (by omega)]

/-- `Clean`'s `..` case on a spelled stack is `step` with a `..` element. -/
theorem dotDot_spell {st : List (List Char)} (h : StackOk rooted st) :
    dotDot rooted (spell rooted st) (stopIndex rooted st) =
      (spell rooted (step rooted st ['.', '.']), stopIndex rooted (step rooted st ['.', '.'])) := by
  by_cases hpop : ∃ top rest, st = top :: rest ∧ top ≠ ['.', '.']
  · obtain ⟨top, rest, rfl, htop⟩ := hpop
    have hstep : step rooted (top :: rest) ['.', '.'] = rest := by simp [step, htop]
    rw [dotDot, if_pos ((stopIndex_lt_iff h).2 ⟨top, rest, rfl, htop⟩), backtrack_spell h htop,
      hstep, stopIndex_cons_of_ne htop, spell_cons]
    rcases @addSeparator_cases rooted (spell rooted rest) with ⟨hadd, -⟩ | ⟨hadd, -⟩ <;>
      simp [hadd]
  · have hge := mt (stopIndex_lt_iff h).1 hpop
    have hstep : step rooted st ['.', '.'] = if rooted then st else ['.', '.'] :: st := by
      cases st with
      | nil => cases rooted <;> rfl
      | cons top rest =>
        obtain rfl : top = ['.', '.'] := by simpa using hpop
        cases rooted <;> simp [step]
    rw [dotDot, if_neg hge, hstep]
    cases rooted
    · simp only [Bool.not_false, if_true, Bool.false_eq_true, if_false, stopIndex_cons_dotDot,
        spell_cons, addSeparator, Bool.false_and, Bool.true_and, Bool.false_or, bne_iff_ne, ne_eq,
        List.length_eq_zero, Nat.pos_iff_ne_zero]
    · rfl

end State

section Refinement

variable {rooted : Bool}

/-- Reading one element, up to the separator after it or the end of the path, is `step`. -/
theorem cleanLoop_element {st : List (List Char)} {e rest : List Char} (h : StackOk rooted st)
    (he : '/' ∉ e) (hrest : rest = [] ∨ ∃ r, rest = '/' :: r) :
    cleanLoop rooted false (e ++ rest) (spell rooted st) (stopIndex rooted st) =
      cleanLoop rooted false rest (spell rooted (step rooted st e))
        (stopIndex rooted (step rooted st e)) := by
  have hhead : rest = [] ∨ rest.head? = some '/' := by
    rcases hrest with rfl | ⟨r, rfl⟩ <;> simp
  by_cases h1 : e = [] ∨ e = ['.']
  · rcases h1 with rfl | rfl
    · simp [step]
    · simpa [step] using cleanLoop_dot hhead
  by_cases h2 : e = ['.', '.']
  · subst h2
    rw [List.cons_append, List.cons_append, List.nil_append, cleanLoop_dotDot hhead, dotDot_spell h]
  push_neg at h1
  have hstep : step rooted st e = e :: st := by simp [step, h1.1, h1.2, h2]
  obtain ⟨c, w, rfl⟩ := List.exists_cons_of_ne_nil h1.1
  simp only [List.mem_cons, not_or] at he
  have hw : c = '.' → ∃ d w', w = d :: w' ∧ d ≠ '/' ∧ (d = '.' → w' ≠ []) := by
    rintro rfl
    obtain ⟨d, w', rfl⟩ :=
      List.exists_cons_of_ne_nil (show w ≠ [] from fun hw => h1.2 (by rw [hw]))
    simp only [List.mem_cons, not_or] at he
    exact ⟨d, w', rfl, Ne.symm he.2.1, by rintro rfl rfl; exact h2 rfl⟩
  have hdot : ¬(c = '.' ∧ (w ++ rest = [] ∨ (w ++ rest).head? = some '/')) := by
    rintro ⟨hc, hnil⟩
    obtain ⟨d, w', rfl, hd, -⟩ := hw hc
    simp [hd] at hnil
  have hdotDot :
      ¬(c = '.' ∧ ∃ r', w ++ rest = '.' :: r' ∧ (r' = [] ∨ r'.head? = some '/')) := by
    rintro ⟨hc, r', hr', hend⟩
    obtain ⟨d, w', rfl, -, hw'⟩ := hw hc
    simp only [List.cons_append, List.cons.injEq] at hr'
    obtain ⟨c', w'', rfl⟩ := List.exists_cons_of_ne_nil (hw' hr'.1)
    rw [← hr'.2] at hend
    simp only [List.cons_append, reduceCtorEq, List.head?_cons, Option.some.injEq,
      false_or] at hend
    exact he.2 (by simp [hend])
  rw [hstep, stopIndex_cons_of_ne h2, List.cons_append, cleanLoop_elem (Ne.symm he.1) hdot hdotDot,
    cleanLoop_copying_append he.2, spell_cons]
  rcases hrest with rfl | ⟨r, rfl⟩ <;> simp

/-- Go's loop, started on a state that spells a stack, ends in the spelled stack of all the
elements it reads. -/
theorem cleanLoop_spell (s : List Char) {st : List (List Char)} (h : StackOk rooted st) :
    cleanLoop rooted false s (spell rooted st) (stopIndex rooted st) =
      spell rooted (resolve rooted st (s.splitOn '/')) := by
  obtain ⟨e, rest, hs, he, hrest⟩ := exists_element_split s
  rcases hrest with rfl | ⟨r, rfl⟩
  · rw [hs, cleanLoop_element h he (.inl rfl), List.append_nil, splitOn_of_not_mem he]
    simp
  · rw [hs, cleanLoop_element h he (.inr ⟨r, rfl⟩), cleanLoop_sep, splitOn_append_sep,
      splitOn_of_not_mem he, List.singleton_append, resolve_cons, cleanLoop_spell r (h.step he)]
termination_by s.length
decreasing_by simp [hs]; omega

/-- Go's `Clean` is lexical cleaning. -/
theorem cleanChars_eq_lexicalClean (path : List Char) : cleanChars path = lexicalClean path := by
  rcases path with _ | ⟨c, r⟩
  · rfl
  by_cases hc : c = '/'
  · subst hc
    have := @cleanLoop_spell true r [] trivial
    simp only [spell, stopIndex, if_true] at this
    simp [cleanChars, lexicalClean, this, List.splitOn, step]
  · have := @cleanLoop_spell false (c :: r) [] trivial
    simp only [spell, stopIndex, Bool.false_eq_true, if_false, List.dropWhile_nil,
      List.length_nil] at this
    simp [cleanChars, lexicalClean, this, hc]

/-- Go's `Clean` is lexical cleaning: resolve the elements on a stack, spell the stack, and
write `.` for an empty result. -/
theorem clean_eq_lexicalClean (path : String) : (clean path).data = lexicalClean path.data :=
  cleanChars_eq_lexicalClean path.data

/-- `Clean` is idempotent. -/
theorem clean_clean (path : String) : clean (clean path) = clean path := by
  simp only [clean, cleanChars_eq_lexicalClean, lexicalClean_lexicalClean]

/-- `Join` returns a clean path unless every element is empty. -/
theorem clean_join {es : List String} (h : ∃ e ∈ es, e ≠ "") : clean (join es) = join es := by
  induction es with
  | nil => simp at h
  | cons e es ih =>
    unfold join
    split_ifs with he
    · exact ih (by simpa [he] using h)
    · simp only [clean, cleanChars_eq_lexicalClean, lexicalClean_lexicalClean]

end Refinement

end OpenshiftVendoring.Path
