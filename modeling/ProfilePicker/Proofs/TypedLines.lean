import ProfilePicker.Proofs.Runs
import ProfilePicker.Terminal

/-!
# What a terminal lets a user type

The characters that end a line end a reply, so no text that is typed at a terminal holds one of
them: it stands on one line, and so does the reply to a question whose suggestion does.
-/
namespace ProfilePicker.Terminal

open Text (OneLine)

/-- No key puts the end of a line into a text. -/
theorem oneLine_of_mem_keys {s : Text} {c : Char} (typed : .char c ∈ keys s) : OneLine [c] := by
  fun_induction keys s with
  | case1 => cases typed
  | case2 rest ih | case3 rest ih | case4 rest _ _ ih | case5 rest ih | case6 rest ih
  | case7 rest ih | case8 rest ih => exact ih (by simpa using typed)
  | case9 d rest _ _ _ _ _ _ _ _ ih => exact ih typed
  | case10 d rest noUp noDown noEscape noInterrupt noReturn noFeed noDelete visible ih =>
    rcases List.mem_cons.1 typed with same | member
    · cases same
      intro e inside
      obtain rfl := List.mem_singleton.1 inside
      exact ⟨noFeed, noReturn⟩
    · exact ih member

/-- A key leaves a text on one line unless it puts the end of a line into it. -/
theorem oneLine_edited {typed : Text} {key : Key} (oneLine : OneLine typed)
    (fits : ∀ c, key = .char c → OneLine [c]) : OneLine (edited typed key) := by
  cases key with
  | char c => exact Text.oneLine_append.2 ⟨oneLine, fits c rfl⟩
  | backspace =>
    intro c member
    obtain ⟨cluster, inside, here⟩ := List.mem_flatten.1 member
    have found : c ∈ typed.clusters.flatten :=
      List.mem_flatten.2 ⟨cluster, List.dropLast_subset _ inside, here⟩
    rw [Text.clusters_flatten] at found
    exact oneLine c found
  | enter | up | down | cancel => exact oneLine

/-- What is read from a text on one line is read from the text that is typed. -/
theorem exists_oneLine_of_typedReply {α : Type} {read? : Text → Option α} {typed : Text}
    {pressed : List Key} {a : α} (oneLine : OneLine typed)
    (fits : ∀ c, .char c ∈ pressed → OneLine [c])
    (done : typedReply read? typed pressed = .ok a) :
    ∃ t : Text, OneLine t ∧ read? t = some a := by
  fun_induction typedReply read? typed pressed with
  | case1 | case2 => cases done
  | case3 typed rest value read =>
    cases done
    exact ⟨typed, oneLine, read⟩
  | case4 typed rest unread ih =>
    exact ih oneLine (fun c member => fits c (List.mem_cons_of_mem _ member)) done
  | case5 typed key rest noCancel noEnter ih =>
    have edits : OneLine (edited typed key) :=
      oneLine_edited oneLine fun c same => fits c (by simp [same])
    exact ih edits (fun c member => fits c (List.mem_cons_of_mem _ member)) done

/-- A text that is typed without being shown stands on one line. -/
theorem oneLine_password {s title typed : Text}
    (done : reply (keys s) (.password title) = .ok typed) : OneLine typed := by
  obtain ⟨t, oneLine, read⟩ := exists_oneLine_of_typedReply (by simp [OneLine])
    (fun c member => oneLine_of_mem_keys member) done
  cases read
  exact oneLine

/-- So does one that is typed openly, when the text that is suggested does. -/
theorem oneLine_input {s title suggestion typed : Text} (suggested : OneLine suggestion)
    (done : reply (keys s) (.input title suggestion) = .ok typed) : OneLine typed := by
  obtain ⟨t, oneLine, read⟩ := exists_oneLine_of_typedReply (by simp [OneLine])
    (fun c member => oneLine_of_mem_keys member) done
  cases read
  split
  · exact suggested
  · exact oneLine

/-! ## Replies in a run -/

/-- At a terminal, a reply in a run is what some keys amount to. -/
theorem exists_keys_of_replied {entries : List Text} {asked : List Question} {q : Question}
    {given : q.Reply} (replied : (typing entries).Replied asked q given) :
    ∃ s, reply (keys s) q = .ok given := by
  obtain ⟨before, after, -, answered⟩ := replied
  simp only [typing] at answered
  split at answered
  · rename_i s _
    exact ⟨s, answered⟩
  · cases answered

section Replied

variable {entries : List Text} {asked : List Question} {typed : Text}

/-- So the name of a key is typed on one line. -/
theorem oneLine_id (replied : (typing entries).Replied asked Credentials.idQuestion typed) :
    OneLine typed := by
  obtain ⟨s, done⟩ := exists_keys_of_replied replied
  exact oneLine_input (by simp [OneLine]) done

/-- So is a secret. -/
theorem oneLine_secret
    (replied : (typing entries).Replied asked Credentials.secretQuestion typed) :
    OneLine typed := by
  obtain ⟨s, done⟩ := exists_keys_of_replied replied
  exact oneLine_password done

/-- So is a region, when the one that is suggested stands on one line. -/
theorem oneLine_region {suggestion : Text} (suggested : OneLine suggestion)
    (replied : (typing entries).Replied asked (.input "Region" suggestion) typed) :
    OneLine typed.trim := by
  obtain ⟨s, done⟩ := exists_keys_of_replied replied
  have whole := oneLine_input suggested done
  intro c member
  exact whole c (Text.mem_of_mem_trim member)

end Replied

end ProfilePicker.Terminal
