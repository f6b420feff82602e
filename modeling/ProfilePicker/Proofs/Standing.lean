import ProfilePicker.Proofs.Turns

/-!
# Where the reader stands behind whole lines

A text that goes on behind some whole lines, with a visible character, can be cut there: what
the reader makes of the lines does not depend on how the text goes on. It may be done with them,
or still be inside a key, a header or a value that has begun in them, or have failed. Nothing
else is possible, whatever the lines say.
-/
namespace ProfilePicker.Ini

open Text (placedAfter)

/-- The characters of whole lines: the last one, if there is any, is a line feed. -/
def Ended (u : List Placed) : Prop := ∀ p, u.getLast? = some p → p.char = '\n'

/-- What goes on with a visible character. -/
def Begins (w : List Placed) : Prop := ∃ p rest, w = p :: rest ∧ isBlank p.char = false

/-- The reading ends with a problem, wherever one at the end of the text is reported. -/
def Fails (key : Text) (q : List Placed) : Prop :=
  ∀ last, ∃ problem, itemsFrom last key q = .error problem

/-- Where the reader fails, it fails from wherever it has come. -/
theorem Comes.fails {key key' : Text} {q q' : List Placed} {found : List Item}
    (comes : Comes key q found key' q') (fails : Fails key' q') : Fails key q := by
  intro last
  obtain ⟨problem, failed⟩ := fails last
  exact ⟨problem, by rw [comes last, failed]; rfl⟩

/-- A turn that fails ends the reading. -/
theorem Fails.of_turn {key : Text} {p : Placed} {rest : List Placed}
    (failed : ∀ last, ∃ problem, turn last key p rest = .error problem) :
    Fails key (p :: rest) := by
  intro last
  obtain ⟨problem, failed⟩ := failed last
  exact ⟨problem, itemsFrom_of_problem failed⟩

/-! ## Cutting pieces and gaps -/

/-- What is left of whole lines are whole lines. -/
theorem Ended.of_suffix {u v : List Placed} (ended : Ended u) (part : v <:+ u) : Ended v := by
  obtain ⟨front, rfl⟩ := part
  intro p last
  apply ended p
  rw [List.getLast?_append, last]
  rfl

/-- Behind a character that is no line feed, whole lines go on. -/
theorem Ended.ne_nil {p : Placed} {u : List Placed} (ended : Ended (p :: u))
    (noFeed : p.char ≠ '\n') : u ≠ [] := by
  rintro rfl
  exact noFeed (ended p rfl)

/-- A piece leaves the end of what it is taken from. -/
theorem takeUntil_suffix (ends : Char → Bool) (s : List Placed) :
    (takeUntil ends s).2 <:+ s := by
  fun_induction takeUntil ends s with
  | case1 => exact List.suffix_rfl
  | case2 => exact List.suffix_rfl
  | case3 => exact List.nil_suffix
  | case4 => exact List.suffix_rfl
  | case5 p q rest _ _ piece after taken _ ih =>
    rw [taken] at ih
    exact ih.trans ((List.suffix_cons q rest).trans (List.suffix_cons p (q :: rest)))
  | case6 p q rest _ _ piece after taken _ ih =>
    rw [taken] at ih
    exact ih.trans ((List.suffix_cons q rest).trans (List.suffix_cons p (q :: rest)))
  | case7 p q rest _ _ piece after taken ih =>
    rw [taken] at ih
    exact ih.trans (List.suffix_cons p (q :: rest))

/-- A piece stops at a character that ends it. -/
theorem ends_of_takeUntil {ends : Char → Bool} {s rest : List Placed} {piece : Text} {q : Placed}
    (taken : takeUntil ends s = (piece, q :: rest)) : ends q.char = true := by
  fun_induction takeUntil ends s generalizing piece with
  | case1 => cases taken
  | case2 p stops =>
    cases taken
    exact stops
  | case3 => cases taken
  | case4 p q rest stops =>
    cases taken
    exact stops
  | case5 p q rest _ _ piece after inner _ ih =>
    cases taken
    exact ih inner
  | case6 p q rest _ _ piece after inner _ ih =>
    cases taken
    exact ih inner
  | case7 p q rest _ _ piece after inner ih =>
    cases taken
    exact ih inner

/-- A gap leaves the end of what it is passed over in. -/
theorem skipGap_suffix (s : List Placed) : skipGap s <:+ s := by
  fun_induction skipGap s with
  | case1 => exact List.suffix_rfl
  | case2 => exact List.nil_suffix
  | case3 => exact List.suffix_rfl
  | case4 => exact List.suffix_rfl
  | case5 p q rest => exact List.suffix_cons p (q :: rest)
  | case6 p q rest _ _ ih => exact ih.trans (List.suffix_cons p (q :: rest))

/-- What follows the end of the line is the end of the text. -/
theorem afterLine_suffix (s : List Placed) : afterLine s <:+ s :=
  (List.drop_suffix 1 _).trans (List.dropWhile_suffix _)

section Cut

variable {u w : List Placed} (ended : Ended u) (begins : Begins w)

include ended in
/-- A piece ends within whole lines, or takes them and goes on behind them. -/
theorem takeUntil_append (ends : Char → Bool) (w : List Placed) :
    takeUntil ends (u ++ w) =
      if (takeUntil ends u).2 = [] then
        ((takeUntil ends u).1 ++ (takeUntil ends w).1, (takeUntil ends w).2)
      else ((takeUntil ends u).1, (takeUntil ends u).2 ++ w) := by
  fun_induction takeUntil ends u with
  | case1 => simp
  | case2 p stops =>
    rw [List.singleton_append, takeUntil_end stops]
    simp
  | case3 p goesOn =>
    have feed : p.char = '\n' := ended p rfl
    have free : p.char ≠ '\\' := by rw [feed]; decide
    rw [List.singleton_append, takeUntil_goOn (by simpa using goesOn) free]
    simp
  | case4 p q rest stops =>
    rw [List.cons_append, takeUntil_end stops]
    simp
  | case5 p q rest goesOn protects piece after taken feed ih =>
    have later := ih (ended.of_suffix ⟨[p, q], rfl⟩)
    rw [taken] at later
    rw [List.cons_append, List.cons_append,
      takeUntil_joined (by simpa [protects] using goesOn) protects feed, later]
  | case6 p q rest goesOn protects piece after taken noFeed ih =>
    have later := ih (ended.of_suffix ⟨[p, q], rfl⟩)
    rw [taken] at later
    rw [List.cons_append, List.cons_append,
      takeUntil_protected (by simpa [protects] using goesOn) protects noFeed, later]
    by_cases nothing : after = [] <;> simp [nothing]
  | case7 p q rest goesOn free piece after taken ih =>
    have later := ih (ended.of_suffix (List.suffix_cons p (q :: rest)))
    rw [taken] at later
    rw [List.cons_append, takeUntil_goOn (by simpa using goesOn) free, later]
    by_cases nothing : after = [] <;> simp [nothing]

include ended in
/-- A piece that takes whole lines goes on behind them. -/
theorem takeUntil_append_of_nil {ends : Char → Bool} {piece : Text}
    (taken : takeUntil ends u = (piece, [])) (w : List Placed) :
    takeUntil ends (u ++ w) = (piece ++ (takeUntil ends w).1, (takeUntil ends w).2) := by
  rw [takeUntil_append ended, taken, if_pos rfl]

include ended in
/-- A piece that ends within whole lines ends there however they go on. -/
theorem takeUntil_append_of_cons {ends : Char → Bool} {piece : Text} {q : Placed}
    {rest : List Placed} (taken : takeUntil ends u = (piece, q :: rest)) (w : List Placed) :
    takeUntil ends (u ++ w) = (piece, q :: (rest ++ w)) := by
  rw [takeUntil_append ended, taken, if_neg (List.cons_ne_nil q rest)]
  rfl

include begins in
/-- A gap does not reach into what goes on with a visible character. -/
theorem skipGap_append (u : List Placed) : skipGap (u ++ w) = skipGap u ++ w := by
  obtain ⟨first, more, rfl, visible⟩ := begins
  have noIndent : isIndent first.char = false := by
    cases indents : isIndent first.char with
    | false => rfl
    | true => rw [isBlank_of_isIndent indents] at visible; cases visible
  fun_induction skipGap u with
  | case1 => exact skipGap_visible visible more
  | case2 p blank =>
    rw [List.singleton_append, skipGap]
    simp [blank, noIndent, skipGap_visible visible]
  | case3 p visible' =>
    rw [List.singleton_append, skipGap_visible (by simpa using visible')]
  | case4 p q rest visible' =>
    rw [List.cons_append, skipGap_visible (by simpa using visible')]
  | case5 p q rest blank stops =>
    simp only [List.cons_append, skipGap, blank, stops, Bool.false_eq_true, if_false, if_true]
  | case6 p q rest blank goesOn ih =>
    simp only [List.cons_append, skipGap, blank, goesOn, Bool.false_eq_true, if_false]
    exact ih

include begins in
/-- Neither do blanks that are dropped. -/
theorem dropWhile_append_begins {drops : Char → Bool}
    (blank : ∀ c, drops c = true → isBlank c = true) (u : List Placed) :
    (u ++ w).dropWhile (drops ·.char) = u.dropWhile (drops ·.char) ++ w := by
  obtain ⟨first, more, rfl, visible⟩ := begins
  have stays : drops first.char = false := by
    cases dropped : drops first.char with
    | false => rfl
    | true => rw [blank _ dropped] at visible; cases visible
  induction u with
  | nil => simp [stays]
  | cons p u ih =>
    by_cases dropped : drops p.char = true
    · simpa [dropped] using ih
    · simp [dropped]

include ended in
/-- The line feed that ends the line is found in whole lines if there are any. -/
theorem afterLine_append (nonempty : u ≠ []) (w : List Placed) :
    afterLine (u ++ w) = afterLine u ++ w := by
  obtain ⟨front, p, rfl⟩ := List.eq_nil_or_concat u |>.resolve_left nonempty
  have feed : p.char = '\n' := ended p (by simp)
  induction front with
  | nil => simp [afterLine, feed]
  | cons q front ih =>
    have later := ih (ended.of_suffix (List.suffix_cons q _)) (by simp)
    by_cases same : q.char = '\n'
    · simp [afterLine, same]
    · simpa [afterLine, same] using later

end Cut

/-! ## The ways to stand -/

/-- Where the reader stands behind some characters, however they go on. -/
inductive Stands (key : Text) (u : List Placed) : Prop
  /-- It is done with them. -/
  | atLine (found : List Item) (key' : Text)
      (comes : ∀ w, Begins w → Comes key (u ++ w) found key' w)
  /-- It is inside a key, which a delimiter ends. -/
  | inKey (found : List Item) (begun : Text)
      (comes : ∀ w name q rest, Begins w → takeUntil isDelimiter w = (name, q :: rest) →
        Comes key (u ++ w) found (Text.trim (begun ++ name)) (q :: rest))
  /-- It is inside a header, which has to be closed. -/
  | inHeader (found : List Item) (key' begun : Text)
      (comes : ∀ w name q rest, Begins w → takeUntil (· = ']') w = (name, q :: rest) →
        Comes key (u ++ w) (found ++ [.header (Text.trim (begun ++ name))]) key' (skipGap rest))
      (fails : ∀ w name, Begins w → takeUntil (· = ']') w = (name, []) → Fails key (u ++ w))
  /-- It is inside a value, which the end of a line ends. -/
  | inValue (found : List Item) (key' begun : Text)
      (comes : ∀ w, Begins w → Comes key (u ++ w)
        (found ++ [.entry key' (Text.trim (begun ++ (takeUntil isLineEnd w).1))]) []
        (skipGap (takeUntil isLineEnd w).2))
  /-- It has failed. -/
  | lost (fails : ∀ w, Begins w → Fails key (u ++ w))

/-- The reader stands where it stands when it goes on from where it has come. -/
theorem Stands.of_comes {key key' : Text} {u v : List Placed} (found : List Item)
    (comes : ∀ w, Begins w → Comes key (u ++ w) found key' (v ++ w)) (later : Stands key' v) :
    Stands key u := by
  cases later with
  | atLine more key'' inner =>
    exact .atLine (found ++ more) key'' fun w begins => (comes w begins).trans (inner w begins)
  | inKey more begun inner =>
    exact .inKey (found ++ more) begun fun w name q rest begins taken =>
      (comes w begins).trans (inner w name q rest begins taken)
  | inHeader more key'' begun inner fails =>
    refine .inHeader (found ++ more) key'' begun (fun w name q rest begins taken => ?_)
      fun w name begins taken => (comes w begins).fails (fails w name begins taken)
    rw [List.append_assoc]
    exact (comes w begins).trans (inner w name q rest begins taken)
  | inValue more key'' begun inner =>
    refine .inValue (found ++ more) key'' begun fun w begins => ?_
    rw [List.append_assoc]
    exact (comes w begins).trans (inner w begins)
  | lost fails => exact .lost fun w begins => (comes w begins).fails (fails w begins)

section Tokens

variable {key : Text} {p : Placed} {front u : List Placed} (ended : Ended u)
  (later : ∀ v, v <:+ u → ∀ key, Stands key v)

include ended later in
/-- A header that begins in whole lines ends there or goes on behind them. -/
theorem stands_of_header (turns : ∀ last w, Begins w →
    turn last key p (front ++ w) = header last key (u ++ w)) : Stands key (p :: front) := by
  rcases taken : takeUntil (· = ']') u with ⟨name, rest⟩
  cases rest with
  | nil =>
    refine .inHeader [] key name (fun w more q rest begins closed => ?_)
      fun w more begins opened => ?_
    · rw [List.cons_append]
      refine .of_item fun last => ?_
      rw [turns last w begins, header, takeUntil_append_of_nil ended taken, closed]
    · rw [List.cons_append]
      refine .of_turn fun last => ⟨.at last .openHeader, ?_⟩
      rw [turns last w begins, header, takeUntil_append_of_nil ended taken, opened]
  | cons q rest =>
    have part : skipGap rest <:+ u := by
      have := takeUntil_suffix (· = ']') u
      rw [taken] at this
      exact (skipGap_suffix rest).trans ((List.suffix_cons q rest).trans this)
    refine (later _ part key).of_comes [.header name.trim] fun w begins => ?_
    rw [List.cons_append]
    refine .of_item fun last => ?_
    rw [turns last w begins, header, takeUntil_append_of_cons ended taken]
    simp only [skipGap_append begins]

include ended later in
/-- So does a value. -/
theorem stands_of_value (turns : ∀ last w, Begins w →
    turn last key p (front ++ w) = .ok (value key (u ++ w))) : Stands key (p :: front) := by
  have inLine : ∀ c, (isBlank c && !isLineEnd c) = true → isBlank c = true := fun c both => by
    simp only [Bool.and_eq_true] at both
    exact both.1
  have startPart := List.dropWhile_suffix (l := u) fun p => isBlank p.char && !isLineEnd p.char
  have startEnded := ended.of_suffix startPart
  have values : ∀ w, Begins w → value key (u ++ w) =
      ⟨some (.entry key (takeUntil isLineEnd
        (u.dropWhile (fun p => isBlank p.char && !isLineEnd p.char) ++ w)).1.trim), [],
        skipGap (takeUntil isLineEnd
          (u.dropWhile (fun p => isBlank p.char && !isLineEnd p.char) ++ w)).2⟩ := by
    intro w begins
    rw [value, dropWhile_append_begins begins inLine]
  generalize u.dropWhile (fun p => isBlank p.char && !isLineEnd p.char) = start at *
  rcases taken : takeUntil isLineEnd start with ⟨written, rest⟩
  cases rest with
  | nil =>
    refine .inValue [] key written fun w begins => ?_
    rw [List.cons_append]
    refine .of_item fun last => ?_
    rw [turns last w begins, values w begins, takeUntil_append_of_nil startEnded taken]
  | cons q rest =>
    have part : skipGap (q :: rest) <:+ u := by
      have := takeUntil_suffix isLineEnd start
      rw [taken] at this
      exact (skipGap_suffix (q :: rest)).trans (this.trans startPart)
    refine (later _ part []).of_comes [.entry key written.trim] fun w begins => ?_
    rw [List.cons_append]
    refine .of_item fun last => ?_
    rw [turns last w begins, values w begins, takeUntil_append_of_cons startEnded taken,
      ← List.cons_append, skipGap_append begins]

include ended in
/-- So does a key. -/
theorem stands_of_key (later : ∀ q rest, q :: rest <:+ u → isDelimiter q.char = true →
      ∀ key, Stands key (q :: rest))
    (turns : ∀ last w name q rest, Begins w →
    takeUntil isDelimiter (u ++ w) = (name, q :: rest) →
      turn last key p (front ++ w) = .ok ⟨none, name.trim, skipGap (q :: rest)⟩) :
    Stands key (p :: front) := by
  have stops : ∀ {w : List Placed} {name : Text} {q : Placed} {rest : List Placed},
      takeUntil isDelimiter w = (name, q :: rest) → skipGap (q :: rest) = q :: rest := by
    intro w name q rest taken
    have delimits := ends_of_takeUntil taken
    have known : q.char = '=' ∨ q.char = ':' := by simpa [isDelimiter] using delimits
    refine skipGap_visible ?_ rest
    rcases known with same | same <;> rw [same] <;> decide
  rcases taken : takeUntil isDelimiter u with ⟨begun, rest⟩
  cases rest with
  | nil =>
    refine .inKey [] begun fun w name q rest begins closed => ?_
    rw [List.cons_append]
    refine .of_silent fun last => ?_
    have whole := takeUntil_append_of_nil ended taken w
    rw [closed] at whole
    rw [turns last w _ q rest begins whole, stops whole]
  | cons q rest =>
    have part : q :: rest <:+ u := by
      have := takeUntil_suffix isDelimiter u
      rwa [taken] at this
    refine (later q rest part (ends_of_takeUntil taken) begun.trim).of_comes [] fun w begins => ?_
    rw [List.cons_append]
    refine .of_silent fun last => ?_
    have whole := takeUntil_append_of_cons ended taken w
    rw [turns last w _ q _ begins whole, stops whole]
    rfl

end Tokens

section Starts

variable {key : Text} {p : Placed} {u : List Placed} (ended : Ended (p :: u)) (rest : Ended u)
  (later : ∀ v, v <:+ u → ∀ key, Stands key v)

include ended rest later in
/-- So does a comment, or it is where the reader fails. -/
theorem stands_of_comment (marks : startsComment p.char = true) : Stands key (p :: u) := by
  have noFeed : p.char ≠ '\n' := fun same => by
    rw [same] at marks
    cases marks
  by_cases early : p.column ≤ 1
  · refine (later _ ((skipGap_suffix _).trans (afterLine_suffix u)) key).of_comes []
      fun w begins => .of_silent fun last => ?_
    rw [List.append_eq, turn_comment marks early, afterLine_append rest (ended.ne_nil noFeed),
      skipGap_append begins]
  · refine .lost fun w _ => .of_turn fun last => ⟨.at p .inlineComment, ?_⟩
    simp [turn, marks, Nat.lt_of_not_le early]

include rest later in
/-- So does a delimiter, or it is where the reader fails. -/
theorem stands_of_delimiter (delimits : isDelimiter p.char = true) : Stands key (p :: u) := by
  by_cases waiting : key = []
  · subst waiting
    exact .lost fun w _ => .of_turn fun last => ⟨_, turn_missingKey delimits⟩
  · exact stands_of_value rest later fun last w _ => turn_value delimits waiting

include ended rest in
/-- The indentation of a line is not all that whole lines end with. -/
theorem dropWhile_isIndent_ne_nil (indents : isIndent p.char = true) :
    u.dropWhile (isIndent ·.char) ≠ [] := by
  intro nothing
  have noFeed : p.char ≠ '\n' := fun same => by
    rw [same] at indents
    cases indents
  have last := List.getLast?_eq_some_getLast (ended.ne_nil noFeed)
  have feed := rest _ last
  have indented := List.dropWhile_eq_nil_iff.1 nothing _ (List.mem_of_getLast? last)
  rw [feed] at indented
  cases indented

include ended rest later in
/-- So does an indented line. -/
theorem stands_of_indented (indents : isIndent p.char = true) : Stands key (p :: u) := by
  have inner : ∀ last w, Begins w → turn last key p (u ++ w) =
      indented last key (u.dropWhile (isIndent ·.char) ++ w) := fun last w begins => by
    rw [turn_indented indents, dropWhile_append_begins begins (fun c => isBlank_of_isIndent)]
  have part := List.dropWhile_suffix (l := u) (isIndent ·.char)
  have filled := dropWhile_isIndent_ne_nil ended rest indents
  have innerEnded := rest.of_suffix part
  generalize u.dropWhile (isIndent ·.char) = v at *
  obtain ⟨c, v, rfl⟩ := List.exists_cons_of_ne_nil filled
  have behind : Ended v := innerEnded.of_suffix (List.suffix_cons c v)
  have last : ∀ x, x <:+ v → ∀ key, Stands key x := fun x inside =>
    later x (inside.trans ((List.suffix_cons c v).trans part))
  by_cases opens : c.char = '['
  · refine stands_of_header behind last fun last w begins => ?_
    rw [inner last w begins, List.cons_append, indented, if_pos opens]
  by_cases closes : isLineEnd c.char = true
  · refine (last v List.suffix_rfl key).of_comes [] fun w begins => ?_
    rw [List.cons_append]
    refine .of_silent fun last => ?_
    rw [inner last w begins, List.cons_append, indented, if_neg opens, if_pos closes]
  · refine stands_of_key innerEnded (fun q rest inside _ => later _ (inside.trans part))
      fun last w name q rest begins taken => ?_
    rw [inner last w begins, List.cons_append, indented, if_neg opens, if_neg closes,
      ← List.cons_append, taken]

end Starts

/-- Behind whole lines, the reader stands in one of these ways, whatever the lines say. -/
theorem stands {u : List Placed} (ended : Ended u) (key : Text) : Stands key u := by
  obtain ⟨n, size⟩ : ∃ n, u.length = n := ⟨_, rfl⟩
  induction n using Nat.strong_induction_on generalizing u key with
  | _ n ih =>
    cases u with
    | nil => exact .atLine [] key fun w _ => .refl key w
    | cons p u =>
      have rest : Ended u := ended.of_suffix (List.suffix_cons p u)
      have later : ∀ v, v <:+ u → ∀ key, Stands key v := fun v part key =>
        ih v.length (by have := part.length_le; simp only [List.length_cons] at size; omega)
          (rest.of_suffix part) key rfl
      -- The cases are those of a turn, in its order.
      by_cases marks : startsComment p.char = true
      · exact stands_of_comment ended rest later marks
      by_cases opens : p.char = '['
      · exact stands_of_header rest later fun last w _ => turn_header opens
      by_cases delimits : isDelimiter p.char = true
      · exact stands_of_delimiter rest later delimits
      by_cases indents : isIndent p.char = true
      · exact stands_of_indented ended rest later indents
      by_cases closes : isLineEnd p.char = true
      · refine (later _ (skipGap_suffix u) key).of_comes [] fun w begins =>
          .of_silent fun last => ?_
        rw [List.append_eq, turn_lineEnd closes, skipGap_append begins]
      have plain : beginsKey p.char = true := by
        simp [beginsKey, marks, opens, delimits, indents, closes]
      refine stands_of_key ended (fun q rest part delimiter => ?_)
        fun last w name q rest begins taken => ?_
      · rcases List.suffix_cons_iff.1 part with same | inside
        · cases same
          exact absurd delimiter delimits
        · exact later _ inside
      · rw [turn_key plain, ← List.cons_append, taken]

/-! ## Texts of whole lines -/

/-- A text of whole lines: its last character, if there is any, is a line feed. -/
def WholeLines (front : Text) : Prop := ∀ c, front.getLast? = some c → c = '\n'

/-- The places behind whole lines are those on the line after them. -/
theorem placedAfter_append_wholeLines {front : Text} (whole : WholeLines front) (line column : Nat)
    (start : front = [] → column = 0) :
    ∃ line', ∀ s, placedAfter line column (front ++ s) =
      placedAfter line column front ++ placedAfter line' 0 s := by
  induction front generalizing line column with
  | nil =>
    rw [start rfl]
    exact ⟨line, fun s => rfl⟩
  | cons c front ih =>
    have later : WholeLines front := fun d last => whole d (by simp [List.getLast?_cons, last])
    by_cases feed : c = '\n'
    · obtain ⟨line', rest⟩ := ih later (line + 1) 0 fun _ => rfl
      exact ⟨line', fun s => by simp [placedAfter, feed, rest]⟩
    · have more : front ≠ [] := fun nothing => feed (whole c (by simp [nothing]))
      obtain ⟨line', rest⟩ := ih later line (column + 1) fun nothing => absurd nothing more
      exact ⟨line', fun s => by simp [placedAfter, feed, rest]⟩

/-- A text of whole lines can be cut from the text that goes on behind it. -/
theorem placed_append_wholeLines {front : Text} (whole : WholeLines front) :
    Ended front.placed ∧ ∃ line, ∀ s, Text.placed (front ++ s) =
      front.placed ++ placedAfter line 0 s := by
  refine ⟨fun p last => whole p.char ?_, placedAfter_append_wholeLines whole 0 0 fun _ => rfl⟩
  have chars := Text.map_char_placed front
  rw [← chars, List.getLast?_map, last]
  rfl

/-- Joined lines are whole lines. -/
theorem wholeLines_joinLines {ending : Text} (known : Text.IsEnding ending) (ls : List Text) :
    WholeLines (Text.joinLines ending ls) := by
  have feed : ending.getLast? = some '\n' := by
    rcases known with rfl | rfl <;> rfl
  induction ls with
  | nil => exact fun c last => by cases last
  | cons line ls ih =>
    intro c last
    rw [Text.joinLines_cons, List.getLast?_append, List.getLast?_append, feed] at last
    cases more : (Text.joinLines ending ls).getLast? with
    | none =>
      rw [more] at last
      simpa using last.symm
    | some d =>
      rw [more] at last
      cases last
      exact ih c more

/-! ## Reading succeeds or fails wherever problems are reported -/

/-- A turn succeeds or fails wherever problems at the end of the text are reported. -/
theorem turn_uniform (key : Text) (p : Placed) (rest : List Placed) :
    (∃ t, ∀ last, turn last key p rest = .ok t) ∨
      ∀ last, ∃ problem, turn last key p rest = .error problem := by
  have headers : ∀ s, (∃ t, ∀ last, header last key s = .ok t) ∨
      ∀ last, ∃ problem, header last key s = .error problem := by
    intro s
    rcases taken : takeUntil (· = ']') s with ⟨name, after⟩
    cases after with
    | nil => exact .inr fun last => ⟨.at last .openHeader, by rw [header, taken]⟩
    | cons q after => exact .inl ⟨_, fun last => by rw [header, taken]⟩
  simp only [turn]
  split
  · split
    · exact .inr fun _ => ⟨_, rfl⟩
    · exact .inl ⟨_, fun _ => rfl⟩
  split
  · exact headers rest
  split
  · split
    · exact .inr fun _ => ⟨_, rfl⟩
    · exact .inl ⟨_, fun _ => rfl⟩
  split
  · cases rest.dropWhile (isIndent ·.char) with
    | nil => exact .inl ⟨_, fun _ => rfl⟩
    | cons q after =>
      simp only [indented]
      split
      · exact headers after
      split <;> exact .inl ⟨_, fun _ => rfl⟩
  split
  · exact .inl ⟨_, fun _ => rfl⟩
  · split
    · exact .inr fun last => ⟨.at last .keyWithoutValue, rfl⟩
    · exact .inl ⟨_, fun _ => rfl⟩

/-- What is left to read yields the given items, wherever problems at its end are reported. -/
def Reads (key : Text) (q : List Placed) (found : List Item) : Prop :=
  ∀ last, itemsFrom last key q = .ok found

/-- The reader goes on from where it has come. -/
theorem Comes.reads {key key' : Text} {q q' : List Placed} {found more : List Item}
    (comes : Comes key q found key' q') (reads : Reads key' q' more) :
    Reads key q (found ++ more) := by
  intro last
  rw [comes last, reads last]
  rfl

/-- What is read in one way is read in no other. -/
theorem Reads.unique {key : Text} {q : List Placed} {found more : List Item}
    (reads : Reads key q found) (reads' : Reads key q more) : found = more :=
  Except.ok.inj ((reads none).symm.trans (reads' none))

/-- What cannot be read is not read. -/
theorem Fails.not_reads {key : Text} {q : List Placed} (fails : Fails key q) (found : List Item) :
    ¬ Reads key q found := by
  intro reads
  obtain ⟨problem, failed⟩ := fails none
  rw [reads none] at failed
  cases failed

/-- A text fails where its characters do. -/
theorem Fails.items {s : Text} (fails : Fails [] s.placed) :
    ∃ problem, Ini.items s = .error problem := fails s.placed.getLast?

/-- What is left to read can be read or not, wherever problems at its end are reported. -/
theorem reads_or_fails (key : Text) (q : List Placed) :
    (∃ found, Reads key q found) ∨ Fails key q := by
  obtain ⟨n, size⟩ : ∃ n, q.length = n := ⟨_, rfl⟩
  induction n using Nat.strong_induction_on generalizing q key with
  | _ n ih =>
    cases q with
    | nil => exact .inl ⟨[], fun last => itemsFrom_nil last key⟩
    | cons p rest =>
      rcases turn_uniform key p rest with ⟨t, done⟩ | failed
      · have comes : Comes key (p :: rest) t.item.toList t.key t.rest :=
          fun last => itemsFrom_of_turn (done last)
        have shorter := turn_length_le (done none)
        rcases ih t.rest.length (by simp at size; omega) t.key t.rest rfl with ⟨more, reads⟩ | fails
        · exact .inl ⟨_, comes.reads reads⟩
        · exact .inr (comes.fails fails)
      · exact .inr (.of_turn failed)

/-- What can be read is still read where the reader comes on the way. -/
theorem Comes.of_reads {key key' : Text} {q q' : List Placed} {found all : List Item}
    (comes : Comes key q found key' q') (reads : Reads key q all) :
    ∃ more, Reads key' q' more ∧ all = found ++ more := by
  rcases reads_or_fails key' q' with ⟨more, rest⟩ | fails
  · exact ⟨more, rest, reads.unique (comes.reads rest)⟩
  · exact absurd reads ((comes.fails fails).not_reads all)

/-- The items of a text are those that are read from its first character on. -/
theorem reads_iff_items {s : Text} {found : List Item} :
    Reads [] s.placed found ↔ items s = .ok found := by
  refine ⟨fun reads => reads _, fun read => ?_⟩
  rcases reads_or_fails [] s.placed with ⟨all, reads⟩ | fails
  · cases read.symm.trans (reads s.placed.getLast?)
    exact reads
  · obtain ⟨problem, failed⟩ := fails.items
    rw [failed] at read
    cases read

end ProfilePicker.Ini
