import ProfilePicker.Proofs.Turns

/-!
# Pieces of a text

The reader takes a text in pieces: a name up to a bracket, a key up to a delimiter, a value up to
the end of its line. A character that a backslash protects does not end a piece. So a text comes
back as one piece when nothing within it ends the piece, and what is taken is always such a text.
-/
namespace ProfilePicker.Ini

open Text (OneLine placedAfter)

/-- Whether some character of a text ends a piece that begins with the text. -/
def endsWithin (ends : Char → Bool) : Text → Bool
  | [] => false
  | [c] => ends c
  | c :: d :: rest =>
    if c = '\\' then ends c || endsWithin ends rest else ends c || endsWithin ends (d :: rest)

section Within

variable {ends : Char → Bool}

/-- Any character but a backslash is looked at by itself. -/
theorem endsWithin_cons {c : Char} (free : c ≠ '\\') (s : Text) :
    endsWithin ends (c :: s) = (ends c || endsWithin ends s) := by
  cases s with
  | nil => simp [endsWithin]
  | cons d rest => simp [endsWithin, free]

/-- No character ends a piece in a text without such characters. -/
theorem endsWithin_eq_false {s : Text} (goesOn : ∀ c ∈ s, ends c = false) :
    endsWithin ends s = false := by
  fun_induction endsWithin ends s with
  | case1 => rfl
  | case2 c => exact goesOn c List.mem_cons_self
  | case3 d rest ih =>
    simp [goesOn '\\' List.mem_cons_self, ih fun c member => goesOn c (by simp [member])]
  | case4 c d rest free ih =>
    simp [goesOn c List.mem_cons_self, ih fun e member => goesOn e (List.mem_cons_of_mem c member)]

/-- What ends a piece within the beginning of a text ends it within the text. -/
theorem endsWithin_of_append {s t : Text} (whole : endsWithin ends (s ++ t) = false) :
    endsWithin ends s = false := by
  fun_induction endsWithin ends s with
  | case1 => rfl
  | case2 c =>
    cases t with
    | nil => exact whole
    | cons d t =>
      simp only [List.cons_append, List.nil_append, endsWithin] at whole
      split at whole <;> exact (Bool.or_eq_false_iff.1 whole).1
  | case3 d rest ih =>
    simp only [List.cons_append, endsWithin, if_true, Bool.or_eq_false_iff] at whole ⊢
    exact ⟨whole.1, ih whole.2⟩
  | case4 c d rest free ih =>
    simp only [List.cons_append, endsWithin, free, if_false, Bool.or_eq_false_iff] at whole ⊢
    exact ⟨whole.1, ih whole.2⟩

/-- What stands behind a text that leaves nothing open is looked at by itself. -/
theorem endsWithin_append_closed {s : Text} (closed : leavesOpen s = false) (t : Text) :
    endsWithin ends (s ++ t) = (endsWithin ends s || endsWithin ends t) := by
  fun_induction leavesOpen s with
  | case1 => rfl
  | case2 c =>
    have free : c ≠ '\\' := by simpa using closed
    rw [List.singleton_append, endsWithin_cons free]
    rfl
  | case3 d rest ih => simp [endsWithin, ih closed, Bool.or_assoc]
  | case4 c d rest free ih =>
    rw [List.cons_append, endsWithin_cons free, ih closed, endsWithin_cons free, Bool.or_assoc]

/-- A text that leaves something open protects the character behind it. -/
theorem endsWithin_append_open (slash : ends '\\' = false) {s : Text}
    (opened : leavesOpen s = true) (c : Char) (t : Text) :
    endsWithin ends (s ++ c :: t) = (endsWithin ends s || endsWithin ends t) := by
  fun_induction leavesOpen s with
  | case1 => cases opened
  | case2 d =>
    obtain rfl : d = '\\' := by simpa using opened
    simp [endsWithin, slash]
  | case3 d rest ih => simp [endsWithin, ih opened, Bool.or_assoc]
  | case4 d e rest free ih =>
    rw [List.cons_append, endsWithin_cons free, ih opened, endsWithin_cons free, Bool.or_assoc]

/-- Trimming leaves nothing that ends a piece if there was nothing before. -/
theorem endsWithin_trim {s : Text} (whole : endsWithin ends s = false) :
    endsWithin ends s.trim = false := by
  have start : endsWithin ends s.trimStart = false := by
    induction s with
    | nil => exact whole
    | cons c s ih =>
      by_cases blank : isBlank c = true
      · have free : c ≠ '\\' := by
          rintro rfl
          exact absurd blank (by decide)
        rw [endsWithin_cons free, Bool.or_eq_false_iff] at whole
        simpa [Text.trimStart, List.dropWhile_cons, blank] using ih whole.2
      · simpa [Text.trimStart, List.dropWhile_cons, blank] using whole
  obtain ⟨back, shape⟩ : s.trim <+: s.trimStart := by
    rw [← List.reverse_suffix, Text.trim, Text.trimEnd, List.reverse_reverse]
    exact List.dropWhile_suffix _
  rw [← shape] at start
  exact endsWithin_of_append start

/-- Nothing ends a piece within one that is taken. -/
theorem endsWithin_takeUntil (slash : ends '\\' = false) (s : List Placed) :
    endsWithin ends (takeUntil ends s).1 = false := by
  fun_induction takeUntil ends s with
  | case1 => rfl
  | case2 => rfl
  | case3 p goesOn => simpa [endsWithin] using goesOn
  | case4 => rfl
  | case5 p q rest goesOn protects piece after taken feed ih =>
    rw [taken] at ih
    exact ih
  | case6 p q rest goesOn protects piece after taken feed ih =>
    rw [taken] at ih
    simp [endsWithin, protects, slash, ih]
  | case7 p q rest goesOn free piece after taken ih =>
    rw [taken] at ih
    rw [endsWithin_cons free, ih, Bool.or_false]
    simpa using goesOn

/-- A piece takes everything when nothing in it ends a piece. -/
theorem takeUntil_eq_nil_iff {s : List Placed} :
    (takeUntil ends s).2 = [] ↔ endsWithin ends (s.map Placed.char) = false := by
  fun_induction takeUntil ends s with
  | case1 => simp [endsWithin]
  | case2 p stops => simp [endsWithin, stops]
  | case3 p goesOn => simpa [endsWithin] using goesOn
  | case4 p q rest stops => simp [endsWithin, stops]
  | case5 p q rest goesOn protects piece after taken feed ih =>
    rw [taken] at ih
    rw [protects] at goesOn
    simp [ih, endsWithin, protects, goesOn]
  | case6 p q rest goesOn protects piece after taken feed ih =>
    rw [taken] at ih
    rw [protects] at goesOn
    simp [ih, endsWithin, protects, goesOn]
  | case7 p q rest goesOn free piece after taken ih =>
    rw [taken] at ih
    rw [List.map_cons, endsWithin_cons free]
    simp [ih, goesOn]

end Within

/-! ## Texts that come back as one piece -/

section Whole

variable {ends : Char → Bool} (slash : ends '\\' = false) {s : Text} (noFeed : '\n' ∉ s)
  (within : endsWithin ends s = false)

include slash noFeed within in
/-- A text that leaves nothing open is taken as a whole. -/
theorem takeUntil_whole (closed : leavesOpen s = false) (line column : Nat) (t : Text) :
    takeUntil ends (placedAfter line column (s ++ t)) =
      (s ++ (takeUntil ends (placedAfter line (column + s.length) t)).1,
        (takeUntil ends (placedAfter line (column + s.length) t)).2) := by
  -- A backslash is passed together with what it protects, by the reader as in this recursion.
  fun_induction leavesOpen s generalizing column with
  | case1 => rfl
  | case2 c =>
    have free : c ≠ '\\' := by simpa using closed
    have goesOn : ends c = false := within
    have feed : c ≠ '\n' := fun same => noFeed (by simp [same])
    simp only [List.cons_append, List.nil_append, placedAfter, feed, if_false,
      List.length_singleton]
    rw [takeUntil_goOn goesOn free]
  | case3 d rest ih =>
    have feed : d ≠ '\n' := fun same => noFeed (by simp [same])
    simp only [endsWithin, if_true, Bool.or_eq_false_iff] at within
    have later := ih (fun member => noFeed (by simp [member])) within.2 closed (column + 1 + 1)
    have slashNoFeed : ('\\' : Char) ≠ '\n' := by decide
    simp only [List.cons_append, placedAfter, feed, slashNoFeed, if_false, List.length_cons]
    rw [takeUntil_protected slash rfl feed, later,
      show column + 1 + 1 + rest.length = column + (rest.length + 1 + 1) by omega]
  | case4 c d rest free ih =>
    have feed : c ≠ '\n' := fun same => noFeed (by simp [same])
    rw [endsWithin_cons free, Bool.or_eq_false_iff] at within
    have later := ih (fun member => noFeed (List.mem_cons_of_mem c member)) within.2 closed
      (column + 1)
    rw [show column + 1 + (d :: rest).length = column + (c :: d :: rest).length by
      simp only [List.length_cons]; omega] at later
    rw [List.cons_append]
    simp only [placedAfter.eq_2, feed, if_false]
    rw [takeUntil_goOn within.1 free, later]
    rfl

include slash noFeed within in
/-- A text that leaves something open is taken up to the backslash, which acts on what follows. -/
theorem takeUntil_slash (opened : leavesOpen s = true) (line column : Nat) (t : Text) :
    ∃ p : Placed, p.char = '\\' ∧ ∃ after : Nat,
      takeUntil ends (placedAfter line column (s ++ t)) =
        (s.dropLast ++ (takeUntil ends (p :: placedAfter line after t)).1,
          (takeUntil ends (p :: placedAfter line after t)).2) := by
  fun_induction leavesOpen s generalizing column with
  | case1 => simp at opened
  | case2 c =>
    have same : c = '\\' := by simpa using opened
    have feed : c ≠ '\n' := fun same => noFeed (by simp [same])
    refine ⟨⟨c, line, column + 1⟩, same, column + 1, ?_⟩
    simp only [List.cons_append, List.nil_append, placedAfter, feed, if_false,
      List.dropLast_singleton]
  | case3 d rest ih =>
    have feed : d ≠ '\n' := fun same => noFeed (by simp [same])
    simp only [endsWithin, if_true, Bool.or_eq_false_iff] at within
    obtain ⟨p, protects, after, later⟩ :=
      ih (fun member => noFeed (by simp [member])) within.2 opened (column + 1 + 1)
    have nonempty : rest ≠ [] := fun nothing => by simp [nothing, leavesOpen] at opened
    have slashNoFeed : ('\\' : Char) ≠ '\n' := by decide
    refine ⟨p, protects, after, ?_⟩
    simp only [List.cons_append, placedAfter, feed, slashNoFeed, if_false]
    rw [takeUntil_protected slash rfl feed, later]
    simp [List.dropLast_cons_of_ne_nil, nonempty]
  | case4 c d rest free ih =>
    have feed : c ≠ '\n' := fun same => noFeed (by simp [same])
    rw [endsWithin_cons free, Bool.or_eq_false_iff] at within
    obtain ⟨p, protects, after, later⟩ :=
      ih (fun member => noFeed (List.mem_cons_of_mem c member)) within.2 opened (column + 1)
    refine ⟨p, protects, after, ?_⟩
    rw [List.cons_append]
    simp only [placedAfter.eq_2, feed, if_false]
    rw [takeUntil_goOn within.1 free, later]
    rfl

end Whole

end ProfilePicker.Ini
