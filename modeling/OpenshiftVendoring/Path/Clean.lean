import Mathlib

/-!
# Go's `path/filepath` on Unix: `Clean` and `Join`

The lexical path functions that `computeDiscoverCacheDir` calls, as Go's standard library
computes them on Unix. A Go string is modelled by the characters of a `String`; the
separator and the dots are ASCII, so scanning the bytes as Go does and scanning the
characters agree.

`Clean` is one loop over the path with an output buffer `out`, whose length is Go's write
index `out.w`, and a backtracking limit `dotdot`. The loop's `switch` looks ahead up to
three bytes; the inner loop of its default case, which copies a real element, is the
`copying` mode of `cleanLoop`, so that every call recurses on a suffix of the input.

## Main definitions

* `cleanLoop` - the main loop of `Clean`.
* `clean` - `filepath.Clean`.
* `join` - `filepath.Join`.
-/

namespace OpenshiftVendoring.Path

/-- The default case's `if rooted && out.w != 1 || !rooted && out.w != 0`: a separator goes
before the next element unless the buffer is empty or is just the root. -/
def addSeparator (rooted : Bool) (out : List Char) : List Char :=
  if rooted && out.length != 1 || !rooted && out.length != 0 then out ++ ['/'] else out

/-- The `..` case's `out.w--` and the loop after it, from the write index `w`: step back
while above `dotdot` and not at a separator. The result is the new write index. -/
def backtrack (out : List Char) (dotdot : Nat) : Nat → Nat
  | 0 => 0
  | w + 1 => if w > dotdot ∧ out[w]? ≠ some '/' then backtrack out dotdot w else w

/-- The `..` case: back up over the last element if there is one above `dotdot`; otherwise a
relative path gets a `..` element and `dotdot` moves past it, and a rooted path is left as
it is. -/
def dotDot (rooted : Bool) (out : List Char) (dotdot : Nat) : List Char × Nat :=
  if out.length > dotdot then (out.take (backtrack out dotdot out.length), dotdot)
  else if !rooted then
    let out := (if out.length > 0 then out ++ ['/'] else out) ++ ['.', '.']
    (out, out.length)
  else (out, dotdot)

/-- The main loop of `Clean` over the bytes still to read, with the output buffer `out` and
the backtracking limit `dotdot`. `copying` holds inside the default case's inner loop, which
copies a real element up to the next separator; the outer loop then skips that separator as
an empty element. -/
def cleanLoop (rooted : Bool) : Bool → List Char → List Char → Nat → List Char
  | _, [], out, _ => out
  | true, c :: r, out, dotdot =>
    if c = '/' then cleanLoop rooted false r out dotdot
    else cleanLoop rooted true r (out ++ [c]) dotdot
  | false, c :: r, out, dotdot =>
    let copy := cleanLoop rooted true r (addSeparator rooted out ++ [c]) dotdot
    if c = '/' then cleanLoop rooted false r out dotdot
    else if c = '.' ∧ (r = [] ∨ r.head? = some '/') then cleanLoop rooted false r out dotdot
    else match c, r with
      | '.', '.' :: r' =>
        if r' = [] ∨ r'.head? = some '/' then
          let (out, dotdot) := dotDot rooted out dotdot
          cleanLoop rooted false r' out dotdot
        else copy
      | _, _ => copy

/-- `filepath.Clean` on the characters of a path: a rooted path starts with the separator
already in the buffer and `dotdot` after it; an empty result is `.`. -/
def cleanChars (path : List Char) : List Char :=
  let out := match path with
    | [] => []
    | '/' :: r => cleanLoop true false r ['/'] 1
    | path => cleanLoop false false path [] 0
  if out = [] then ['.'] else out

/-- `filepath.Clean`. -/
def clean (path : String) : String := ⟨cleanChars path.data⟩

/-- `filepath.Join` on Unix: the elements from the first non-empty one on, joined by
separators and cleaned; the empty string when all are empty. -/
def join : List String → String
  | [] => ""
  | e :: es =>
    if e = "" then join es else ⟨cleanChars (['/'].intercalate ((e :: es).map String.data))⟩

/-! ## The separator before an element -/

section AddSeparator

variable {rooted : Bool}

theorem addSeparator_cases (out : List Char) :
    (addSeparator rooted out = out ++ ['/'] ∧
      (rooted && out.length != 1 || !rooted && out.length != 0)) ∨
      (addSeparator rooted out = out ∧
        ¬(rooted && out.length != 1 || !rooted && out.length != 0)) := by
  unfold addSeparator
  split <;> simp_all

theorem length_le_addSeparator (out : List Char) :
    out.length ≤ (addSeparator rooted out).length := by
  unfold addSeparator; split <;> simp

end AddSeparator

/-! ## One step of the loop -/

section Steps

variable {rooted : Bool} {out : List Char} {dotdot : Nat}

@[simp] theorem cleanLoop_nil (copying : Bool) : cleanLoop rooted copying [] out dotdot = out := by
  cases copying <;> rfl

@[simp] theorem cleanLoop_copying_sep (r : List Char) :
    cleanLoop rooted true ('/' :: r) out dotdot = cleanLoop rooted false r out dotdot := by
  simp [cleanLoop]

theorem cleanLoop_copying_char {c : Char} (hc : c ≠ '/') (r : List Char) :
    cleanLoop rooted true (c :: r) out dotdot = cleanLoop rooted true r (out ++ [c]) dotdot := by
  simp [cleanLoop, hc]

@[simp] theorem cleanLoop_sep (r : List Char) :
    cleanLoop rooted false ('/' :: r) out dotdot = cleanLoop rooted false r out dotdot := by
  simp [cleanLoop]

/-- A `.` element is skipped. -/
theorem cleanLoop_dot {r : List Char} (hr : r = [] ∨ r.head? = some '/') :
    cleanLoop rooted false ('.' :: r) out dotdot = cleanLoop rooted false r out dotdot := by
  rw [cleanLoop.eq_4 _ _ _ _ _ (by rintro r' - rfl; simp at hr)]
  simp [hr]

/-- A `..` element backs up, or is kept on a relative path. -/
theorem cleanLoop_dotDot {r : List Char} (hr : r = [] ∨ r.head? = some '/') :
    cleanLoop rooted false ('.' :: '.' :: r) out dotdot =
      cleanLoop rooted false r (dotDot rooted out dotdot).1 (dotDot rooted out dotdot).2 := by
  rw [cleanLoop.eq_3]
  simp [hr]

/-- A real element: the separator before it, then its first byte, and the inner loop copies
the rest. -/
theorem cleanLoop_elem {c : Char} {r : List Char} (hsep : c ≠ '/')
    (hdot : ¬(c = '.' ∧ (r = [] ∨ r.head? = some '/')))
    (hdotDot : ¬(c = '.' ∧ ∃ r', r = '.' :: r' ∧ (r' = [] ∨ r'.head? = some '/'))) :
    cleanLoop rooted false (c :: r) out dotdot =
      cleanLoop rooted true r (addSeparator rooted out ++ [c]) dotdot := by
  by_cases h : c = '.' ∧ ∃ r', r = '.' :: r'
  · obtain ⟨rfl, r', rfl⟩ := h
    simp only [true_and, List.cons.injEq, exists_eq_left', not_true_eq_false] at hdotDot
    rw [cleanLoop.eq_3]
    simp [hdotDot]
  · rw [cleanLoop.eq_4 _ _ _ _ _ (fun r' hc hr => h ⟨hc, r', hr⟩), if_neg hsep, if_neg hdot]

/-- The inner loop copies a run of non-separators. -/
theorem cleanLoop_copying_append {w : List Char} (hw : '/' ∉ w) (r : List Char) :
    cleanLoop rooted true (w ++ r) out dotdot = cleanLoop rooted true r (out ++ w) dotdot := by
  induction w generalizing out with
  | nil => simp
  | cons c w ih =>
    simp only [List.mem_cons, not_or] at hw
    rw [List.cons_append, cleanLoop_copying_char (Ne.symm hw.1), ih hw.2]
    simp

end Steps

/-! ## Join -/

section Join

theorem cleanChars_ne_nil (path : List Char) : cleanChars path ≠ [] := by
  dsimp only [cleanChars]
  split_ifs with h
  · simp
  · exact h

/-- Joining a non-empty path and another cleans the two with a separator between them. -/
theorem join_pair {a : String} (ha : a ≠ "") (b : String) :
    join [a, b] = ⟨cleanChars (a.data ++ '/' :: b.data)⟩ := by
  simp [join, ha, List.intercalate]

theorem join_ne_empty {es : List String} (h : ∃ e ∈ es, e ≠ "") : join es ≠ "" := by
  induction es with
  | nil => simp at h
  | cons e es ih =>
    unfold join
    split_ifs with he
    · exact ih (by simpa [he] using h)
    · exact fun hj => cleanChars_ne_nil _ (congrArg String.data hj)

end Join

end OpenshiftVendoring.Path
