import ProfilePicker.Naming
import ProfilePicker.Proofs.SmallLetters

/-!
# Small letters stay small

A text that has been written small has no capital letter left, so writing it small once more changes
nothing: names that differ in small letters differ for good. The name of the default profile comes
from its own letters and their capital ones alone, since no other letter of any alphabet becomes one
of them.
-/
namespace ProfilePicker

/-! ## Single characters -/

/-- No small letter of one run is a capital letter of another: they end before those, begin behind
them, or lie between them. -/
def CaseRun.clears (run other : CaseRun) : Bool :=
  (run.small + run.count * run.stride).blt (other.first + run.stride) ||
    (other.first + other.count * other.stride).blt (run.small + other.stride) ||
      other.stride.beq 2 && (run.stride.beq 2 || run.count.beq 1) &&
        ((run.small + other.first) % 2).beq 1

/-- So it is with all runs of the table, in which letters follow one another or every second one is
a capital letter. -/
theorem clears_caseRuns : (caseRuns.all fun run =>
    (run.stride.beq 1 || run.stride.beq 2) && caseRuns.all run.clears) = true := by
  decide +kernel

/-- A small letter stands in no run that clears it. -/
theorem CaseRun.covers_eq_false {run other : CaseRun} {c d : Char}
    (stride : run.stride = 1 ∨ run.stride = 2) (stride' : other.stride = 1 ∨ other.stride = 2)
    (clears : run.clears other = true) (covers : run.covers c = true)
    (number : d.toNat = run.small + (c.toNat - run.first)) : other.covers d = false := by
  by_contra covered
  rw [Bool.not_eq_false] at covered
  simp only [CaseRun.covers, Bool.and_eq_true, decide_eq_true_eq] at covers covered
  simp only [CaseRun.clears, Bool.or_eq_true, Bool.and_eq_true, Nat.blt_eq, Nat.beq_eq] at clears
  rw [number] at covered
  rcases stride with one | two <;> rcases stride' with one' | two' <;>
    simp only [*] at * <;> omega

/-- A small letter is its own small letter. -/
theorem smallLetter_smallLetter (c : Char) : smallLetter (smallLetter c) = smallLetter c := by
  rcases smallLetter_cases c with same | ⟨run, member, covers, number⟩
  · rw [same, same]
  · have table : ∀ run ∈ caseRuns, (run.stride = 1 ∨ run.stride = 2) ∧
        ∀ other ∈ caseRuns, run.clears other = true := by
      simpa using clears_caseRuns
    have uncovered : caseRuns.find? (·.covers (smallLetter c)) = none := by
      rw [List.find?_eq_none]
      intro other otherMember
      obtain ⟨stride, clears⟩ := table run member
      have free := CaseRun.covers_eq_false stride (table other otherMember).1
        (clears other otherMember) covers number
      simp [free]
    rw [smallLetter, uncovered]

/-- A capital letter of the table is not the dotted capital I, whose small form is none of its small
letters either. -/
theorem smallLetter_ne_dotted {c : Char} (other : c ≠ 'İ') : smallLetter c ≠ 'İ' := by
  have apart : ∀ run ∈ caseRuns, 0x130 < run.small ∨ run.small + run.count * run.stride ≤ 0x130 ∨
      run.stride = 2 ∧ run.small % 2 = 1 := by decide +kernel
  intro dotted
  rcases smallLetter_cases c with same | ⟨run, member, covers, number⟩
  · exact other (same ▸ dotted)
  · have place : ('İ').toNat = 0x130 := rfl
    have outside := apart run member
    simp only [CaseRun.covers, Bool.and_eq_true, decide_eq_true_eq] at covers
    rw [dotted, place] at number
    rcases outside with above | below | ⟨two, odd⟩
    · omega
    · omega
    · rw [two] at covers
      omega

namespace Text

variable {before after s : Text} {c d : Char}

/-- A character that is written small as itself, whatever stands around it. -/
def StaysSmall (c : Char) : Prop := ∀ before after, smallForm before c after = [c]

/-- Whatever a character is written small as stays so. -/
theorem staysSmall_of_mem_smallForm (member : d ∈ smallForm before c after) : StaysSmall d := by
  have letters : ∀ d ∈ ['ς', 'σ', 'i', '\u0307'], d ≠ 'Σ' ∧ d ≠ 'İ' ∧ smallLetter d = d := by
    decide +kernel
  have stays : d ≠ 'Σ' → d ≠ 'İ' → smallLetter d = d → StaysSmall d := by
    intro noSigma noDot small before after
    rw [smallForm, if_neg noSigma, if_neg noDot, small]
  by_cases known : d ∈ ['ς', 'σ', 'i', '\u0307']
  · obtain ⟨noSigma, noDot, small⟩ := letters d known
    exact stays noSigma noDot small
  · -- No other character comes from the two letters that need more than the table.
    rw [smallForm] at member
    split at member
    · split at member <;> simp_all
    · split at member
      · simp_all
      · rename_i noSigma noDot
        rw [List.mem_singleton] at member
        subst member
        refine stays (fun sigma => ?_) (smallLetter_ne_dotted noDot) (smallLetter_smallLetter c)
        have again := smallLetter_smallLetter c
        rw [sigma] at again
        exact absurd again (by decide +kernel)

/-- What a text is written small as stays so, character for character. -/
theorem staysSmall_of_mem_toLower (member : d ∈ s.toLower) : StaysSmall d := by
  have rest : ∀ (s before : Text), d ∈ toLowerAfter before s → StaysSmall d := by
    intro s
    induction s with
    | nil =>
      intro before member
      cases member
    | cons c s ih =>
      intro before member
      rw [toLowerAfter, List.mem_append] at member
      rcases member with here | later
      · exact staysSmall_of_mem_smallForm here
      · exact ih (c :: before) later
  exact rest s [] member

/-- A text of such characters is written small as itself. -/
theorem toLower_of_staysSmall (stays : ∀ c ∈ s, StaysSmall c) : s.toLower = s := by
  have rest : ∀ (s before : Text), (∀ c ∈ s, StaysSmall c) → toLowerAfter before s = s := by
    intro s
    induction s with
    | nil =>
      intro before stays
      rfl
    | cons c s ih =>
      intro before stays
      have later := ih (c :: before) fun d member => stays d (List.mem_cons_of_mem c member)
      rw [toLowerAfter, stays c List.mem_cons_self, later]
      rfl
  exact rest s [] stays

/-- Writing a text small twice is writing it small once. -/
theorem toLower_toLower (s : Text) : s.toLower.toLower = s.toLower :=
  toLower_of_staysSmall fun _ member => staysSmall_of_mem_toLower member

/-! ## The default profile in small letters -/

/-- A character that reads as a letter of the default profile is that letter or its capital one. -/
theorem mem_of_toLower_mem (member : c.toLower ∈ defaultProfile) :
    c ∈ defaultProfile ++ "DEFAULT" := by
  have capitals : ∀ n < 91, 65 ≤ n → (Char.ofNat n).toLower ∈ defaultProfile →
      Char.ofNat n ∈ (defaultProfile ++ "DEFAULT" : Text) := by decide +kernel
  have same : Char.ofNat c.toNat = c := Char.ofNat_toNat c
  by_cases bounds : c.val ≥ 'A'.val ∧ c.val ≤ 'Z'.val
  · have low : 65 ≤ c.toNat := UInt32.le_iff_toNat_le.1 bounds.1
    have high : c.toNat ≤ 90 := UInt32.le_iff_toNat_le.1 bounds.2
    have known := capitals c.toNat (by omega) low
    rw [same] at known
    exact known member
  · have kept : c.toLower = c := dif_neg bounds
    exact List.mem_append_left _ (kept ▸ member)

/-- The small form of such a character is its small letter, whatever stands around it. -/
theorem smallForm_of_toLower_mem (member : c.toLower ∈ defaultProfile)
    (before after : Text) : smallForm before c after = [c.toLower] := by
  have letters : ∀ c ∈ (defaultProfile ++ "DEFAULT" : Text),
      smallLetter c = c.toLower ∧ c ≠ 'Σ' ∧ c ≠ 'İ' := by decide +kernel
  obtain ⟨small, noSigma, noDot⟩ := letters c (mem_of_toLower_mem member)
  rw [smallForm, if_neg noSigma, if_neg noDot, small]

/-- Only such a character has a small form with a letter of the default profile in it. -/
theorem toLower_mem_of_mem_smallForm (member : d ∈ smallForm before c after)
    (letter : d ∈ defaultProfile) : c.toLower ∈ defaultProfile := by
  -- Among the small letters of the table, these letters are the small forms of their own capital
  -- ones alone.
  have runs : ∀ run ∈ caseRuns,
      run.first = 65 ∧ run.count * run.stride = 26 ∧ run.small = 97 ∨
        ∀ letter ∈ defaultProfile, letter.toNat < run.small ∨
          run.small + run.count * run.stride ≤ letter.toNat := by decide +kernel
  have capitals : ∀ n < 91, 65 ≤ n → (Char.ofNat n).toLower = smallLetter (Char.ofNat n) := by
    decide +kernel
  have kept : ∀ d ∈ defaultProfile, d.toLower = d := by decide
  rw [smallForm] at member
  split at member
  · split at member <;> rw [List.mem_singleton] at member <;> subst member <;>
      exact absurd letter (by decide)
  · split at member
    · rcases List.mem_pair.1 member with rfl | rfl <;> exact absurd letter (by decide)
    · rw [List.mem_singleton] at member
      subst member
      rcases smallLetter_cases c with same | ⟨run, table, covers, number⟩
      · rw [same] at letter
        rwa [kept c letter]
      · simp only [CaseRun.covers, Bool.and_eq_true, decide_eq_true_eq] at covers
        rcases runs run table with ⟨first, size, small⟩ | away
        · have known := capitals c.toNat (by omega) (by omega)
          rw [Char.ofNat_toNat] at known
          rwa [known]
        · have outside := away _ letter
          omega

/-- A text of such characters is written small one character at a time. -/
theorem toLower_of_basic (basic : ∀ c ∈ s, c.toLower ∈ defaultProfile) :
    s.toLower = s.map Char.toLower := by
  have rest : ∀ (s before : Text), (∀ c ∈ s, c.toLower ∈ defaultProfile) →
      toLowerAfter before s = s.map Char.toLower := by
    intro s
    induction s with
    | nil =>
      intro before basic
      rfl
    | cons c s ih =>
      intro before basic
      rw [toLowerAfter, smallForm_of_toLower_mem (basic c List.mem_cons_self),
        ih _ fun d member => basic d (List.mem_cons_of_mem c member)]
      rfl
  exact rest s [] basic

/-- Only a text of such characters has no other letters when it is written small. -/
theorem basic_of_toLower (letters : ∀ d ∈ s.toLower, d ∈ defaultProfile) :
    ∀ c ∈ s, c.toLower ∈ defaultProfile := by
  have rest : ∀ (s before : Text), (∀ d ∈ toLowerAfter before s, d ∈ defaultProfile) →
      ∀ c ∈ s, c.toLower ∈ defaultProfile := by
    intro s
    induction s with
    | nil => simp
    | cons c s ih =>
      intro before letters
      rw [toLowerAfter, List.forall_mem_append] at letters
      obtain ⟨d, member⟩ := List.exists_mem_of_ne_nil _ (smallForm_ne_nil before c s)
      rw [List.forall_mem_cons]
      exact ⟨toLower_mem_of_mem_smallForm member (letters.1 d member), ih _ letters.2⟩
  exact rest s [] letters

/-- A name is the default profile in small letters exactly when it reads so but for basic letter
case. -/
theorem toLower_eq_defaultProfile_iff :
    s.toLower = defaultProfile ↔ s.equalsIgnoringBasicCase defaultProfile = true := by
  have bare : defaultProfile.map Char.toLower = defaultProfile := by decide
  rw [equalsIgnoringBasicCase, beq_iff_eq, bare]
  constructor
  · intro small
    have basic := basic_of_toLower (s := s) fun d member => small ▸ member
    rw [← toLower_of_basic basic, small]
  · intro same
    have basic : ∀ c ∈ s, c.toLower ∈ defaultProfile := fun c member =>
      same ▸ List.mem_map_of_mem member
    rw [toLower_of_basic basic, same]

end Text

end ProfilePicker
