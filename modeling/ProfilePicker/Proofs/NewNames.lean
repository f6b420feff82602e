import ProfilePicker.Proofs.Effects
import ProfilePicker.Proofs.HarmlessValues
import ProfilePicker.Proofs.NewSections
import ProfilePicker.Proofs.PlainEdits
import ProfilePicker.Proofs.Taken

/-!
# Names for new profiles

A profile that is made has any name that the user types, and its keys are stored in the section of
that name. Whether the keys come back depends on the name alone: they do, in all plain files, when
no bracket is in it and no backslash at its end is without another one to protect it. With any other
name they do not even come back from a file that has just been made.
-/
namespace ProfilePicker.Credentials

open Ini (Document PlainName PlainText PlainValue NoIndented closedDocument endsWithin firstBlock
  leavesOpen)
open Text (OneLine Trimmed)

variable {store : Store} {prompt again : Prompt} {s : Session} {profile t : Text} {c : Credentials}
  {d : Document}

/-- The pair that is stored in a document is read back from its text. -/
def ReadsPair (t profile : Text) (c : Credentials) : Prop :=
  ∃ d, Document.parse (Ini.setLine (Ini.setLine t profile idKey c.id) profile secretKey c.secret) =
    .ok d ∧ ofDocument? d profile = some c

/-! ## Names that can be read back -/

section Reads

variable (plain : PlainText t) (id : PlainValue c.id) (secret : PlainValue c.secret)

include plain id secret in
/-- In a plain text, the keys of a plain name are read back. -/
theorem readsPair_of_plainName (plainName : PlainName profile)
    (noId : NoIndented idKey (firstBlock profile t.lines))
    (noSecret : NoIndented secretKey (firstBlock profile t.lines)) : ReadsPair t profile c := by
  let edits : List Ini.Edit := [⟨profile, idKey, c.id⟩, ⟨profile, secretKey, c.secret⟩]
  have plainId : Ini.PlainKey idKey := by decide
  have plainSecret : Ini.PlainKey secretKey := by decide
  have plainEdits : ∀ e ∈ edits, e.Plain := by
    simpa [edits] using ⟨⟨plainName, plainId, id⟩, ⟨plainName, plainSecret, secret⟩⟩
  have noIndented : ∀ e ∈ edits, NoIndented e.key (firstBlock e.name t.lines) := by
    simpa [edits] using ⟨noId, noSecret⟩
  have inStep := plain.inStep.editAll plainEdits noIndented
  obtain ⟨again, parsed, -, values⟩ := inStep.reread
  refine ⟨again, parsed, ofDocument?_eq_some_iff.2 ⟨?_, ?_⟩⟩
  · rw [values, Document.get?_editAll]
    simp [edits, Ini.lastValue, show idKey ≠ secretKey by decide]
  · rw [values, Document.get?_editAll]
    simp [edits, Ini.lastValue]

include plain id secret in
/-- So are those of any name that the editor finds again and the reader takes as it is. -/
theorem readsPair_of_noBracket (trimmed : Trimmed profile) (oneLine : OneLine profile)
    (noId : NoIndented idKey (firstBlock profile t.lines))
    (noSecret : NoIndented secretKey (firstBlock profile t.lines))
    (noBracket : ']' ∉ profile) (closed : leavesOpen profile = false) :
    ReadsPair t profile c := by
  -- A section that is there has a plain name, as all sections of a plain text have. One that is not
  -- comes at the end, where the name may hold backslashes.
  by_cases there : ∃ line ∈ t.lines, Ini.headerName? line = some profile
  · obtain ⟨line, member, heads⟩ := there
    exact readsPair_of_plainName plain id secret ((plain.plainLine member).plainName heads) noId
      noSecret
  · have absent : ∀ line ∈ t.lines, Ini.headerName? line ≠ some profile :=
      fun line member heads => there ⟨line, member, heads⟩
    have plainId : Ini.PlainKey idKey := by decide
    have plainSecret : Ini.PlainKey secretKey := by decide
    have listed := Ini.items_of_noBracket trimmed oneLine plainId plainSecret id secret closed plain
      absent noBracket (by decide)
    have fresh := Ini.not_mem_headersIn absent
    refine ⟨_, Document.parse_of_items listed, ofDocument?_eq_some_iff.2 ⟨?_, ?_⟩⟩
    · exact (Ini.get?_ofItems _ _ _).trans ((Ini.valueIn_append_header fresh _ _).trans rfl)
    · exact (Ini.get?_ofItems _ _ _).trans ((Ini.valueIn_append_header fresh _ _).trans rfl)

end Reads

/-! ## Names that cannot -/

/-- A name that closes its header early is not read from any text. -/
theorem not_readsPair_of_within (within : endsWithin (· = ']') profile = true) :
    ¬ ReadsPair t profile c := by
  rintro ⟨d, parsed, found⟩
  obtain ⟨all, listed, rfl⟩ := Document.items_of_parse parsed
  have stored := (ofDocument?_eq_some_iff.1 found).1
  have member := (Ini.mem_of_valueIn ((Ini.get?_ofItems _ _ _).symm.trans stored)).1
  rw [(Ini.taken_of_mem_headersIn listed member).2] at within
  cases within

/-- From a new file, the keys of a name with a bracket or an open end are not read back. -/
theorem not_readsPair (trimmed : Trimmed profile) (oneLine : OneLine profile)
    (bad : ']' ∈ profile ∨ leavesOpen profile = true) :
    ¬ ReadsPair [] profile ⟨"AKIA", "abcd"⟩ := by
  by_cases within : endsWithin (· = ']') profile = true
  · exact not_readsPair_of_within within
  have within : endsWithin (· = ']') profile = false := by simpa using within
  have plainId : Ini.PlainKey idKey := by decide
  have plainSecret : Ini.PlainKey secretKey := by decide
  have plainValue : PlainValue "AKIA" := by decide
  have plainValue' : PlainValue "abcd" := by decide
  rintro ⟨d, parsed, found⟩
  obtain ⟨all, listed, rfl⟩ := Document.items_of_parse parsed
  -- Behind an open end the header goes on. Else a bracket that is protected in it hides the header
  -- from the editor, which adds a second one; the reader looks into the first.
  by_cases opened : leavesOpen profile = true
  · have free : ']' ∉ Ini.entryLine idKey "AKIA" := by decide
    have free' : ']' ∉ Ini.entryLine secretKey "abcd" := by decide
    obtain ⟨problem, failed⟩ := Ini.items_of_open trimmed oneLine plainId plainValue opened within
      free free' (by decide)
    cases failed.symm.trans listed
  · have bracket : ']' ∈ profile := bad.resolve_right opened
    have twice := Ini.items_of_bracket trimmed oneLine plainId plainSecret plainValue plainValue'
      (by simpa using opened) bracket within
    obtain rfl := Except.ok.inj (twice.symm.trans listed)
    have second := (ofDocument?_eq_some_iff.1 found).2
    rw [Document.get?, Ini.get?_ofItems] at second
    simp [Ini.valueIn, Ini.entryIn, show idKey ≠ secretKey by decide] at second

/-! ## What comes back from a store -/

/-- No pair can be retrieved for a profile: the file is missing, or it has none. -/
def Unstored (store : Store) (profile : Text) (prompt : Prompt) (s : Session) : Prop :=
  ((retrieve store profile).outcome prompt s).1 = .error (.missingFile store.path) ∨
    ((retrieve store profile).outcome prompt s).1 = .error (.notFound (Fault.keysOf profile))

/-- The keys that a user gives for a new profile come back: from every file that is absent or plain
and where no indented line of the section sets one of them. -/
def KeysReturn (profile : Text) : Prop :=
  ∀ (store : Store) (prompt again : Prompt) (s : Session) (c : Credentials),
    s.disk.Plain store.path →
    NoIndented idKey (firstBlock profile (store.text s.disk).lines) →
    NoIndented secretKey (firstBlock profile (store.text s.disk).lines) →
    Unstored store profile prompt s → PlainValue c.id → PlainValue c.secret →
    Gives prompt s.asked c →
    ∃ s' s'', (createProfile store profile).outcome prompt s = (.ok (), s') ∧
      (∃ d, store.find s'.disk = .ok d) ∧
      (retrieve store profile).outcome again s' = (.ok c, s'')

/-- A profile for which no pair can be retrieved has none in the document of the file. -/
theorem ofDocument?_of_unstored {content : Option Text} (holds : s.disk.Holds store.path content)
    (read : documentOf content = .ok d) (unstored : Unstored store profile prompt s) :
    ofDocument? d profile = none := by
  cases content with
  | none =>
    cases read
    rfl
  | some t =>
    cases stored : ofDocument? d profile with
    | none => rfl
    | some c =>
      obtain ⟨log, retrieved⟩ := outcome_retrieve_of_holds store prompt profile holds read
      rw [Unstored, retrieved, stored] at unstored
      rcases unstored with missing | absent
      · cases missing
      · cases absent

/-- The keys that are stored for a profile come back exactly when they are read back from the text
that is written. -/
theorem createProfile_returns {content : Option Text} (holds : s.disk.Holds store.path content)
    (read : documentOf content = .ok d) (unstored : ofDocument? d profile = none)
    (gives : Gives prompt s.asked c) (again : Prompt) :
    (∃ s' s'', (createProfile store profile).outcome prompt s = (.ok (), s') ∧
      (∃ d, store.find s'.disk = .ok d) ∧
      (retrieve store profile).outcome again s' = (.ok c, s'')) ↔
    ReadsPair (content.getD []) profile c := by
  obtain ⟨written, log, rewrites, made⟩ :=
    gives.outcome_createProfile_of_unstored holds read unstored
  have text : (c.storeIn profile d).text =
      Ini.setLine (Ini.setLine (content.getD []) profile idKey c.id) profile secretKey
        c.secret := by
    rw [← text_of_documentOf read]
    rfl
  let after : Session :=
    ⟨written, s.asked ++ [agreement] ++ [idQuestion] ++ [secretQuestion], log⟩
  have holds' : after.disk.Holds store.path (some _) := rewrites.holds
  rw [text] at holds'
  constructor
  · rintro ⟨s', s'', same, ⟨d', found⟩, retrieved⟩
    cases made.symm.trans same
    obtain ⟨t, finds, parsed⟩ := Store.parse_of_find found
    rw [Option.some.inj (finds.finds.unique holds'.finds)] at parsed
    obtain ⟨log', ended⟩ := outcome_retrieve_of_holds store again profile holds' parsed
    refine ⟨d', parsed, ?_⟩
    have answer := congrArg Prod.fst (ended.symm.trans retrieved)
    cases stored : ofDocument? d' profile with
    | none =>
      rw [stored] at answer
      cases answer
    | some c' =>
      rw [stored] at answer
      cases answer
      rfl
  · rintro ⟨d', parsed, stored⟩
    obtain ⟨log', ended⟩ := outcome_retrieve_of_holds store again profile holds' parsed
    rw [stored] at ended
    exact ⟨after, _, made, ⟨d', Store.find_of_finds holds'.finds parsed⟩, ended⟩

/-- Where a pair that the user gives for a profile is read back from every plain text, it comes back
from every plain file. -/
theorem keysReturn_of_noBracket (trimmed : Trimmed profile) (oneLine : OneLine profile)
    (noBracket : ']' ∉ profile) (closed : leavesOpen profile = false) : KeysReturn profile := by
  intro store prompt again s c plain noId noSecret unstored id secret gives
  obtain ⟨plainText, -, content, holds, -, read⟩ := store.plain_cases plain
  have text : (closedDocument (store.text s.disk)).text = content.getD [] :=
    text_of_documentOf read
  refine (createProfile_returns holds read (ofDocument?_of_unstored holds read unstored) gives
    again).2 ?_
  rw [← text]
  exact readsPair_of_noBracket plainText id secret trimmed oneLine noId noSecret noBracket closed

/-- The keys of a name with a bracket or an open end do not come back from a file that the flow has
made itself. -/
theorem not_keysReturn (trimmed : Trimmed profile) (oneLine : OneLine profile)
    (bad : ']' ∈ profile ∨ leavesOpen profile = true) : ¬ KeysReturn profile := by
  intro law
  let store : Store := ⟨"/credentials", true⟩
  let s : Session := .start (.ofFiles none none)
  have holds : s.disk.Holds store.path none := Disk.holds_credentials_ofFiles none none
  have read : documentOf none = .ok .empty := rfl
  have gives : Gives (Selection.setsUp "AKIA" "abcd" []) s.asked ⟨"AKIA", "abcd"⟩ :=
    Selection.gives_setsUp rfl [] []
  have nothing : store.text s.disk = [] := by
    rw [Store.text, Store.contents_eq store holds read]
    rfl
  have noIndented : ∀ key, NoIndented key (firstBlock profile (store.text s.disk).lines) := by
    rw [nothing]
    exact fun key _ member => absurd member List.not_mem_nil
  have missing : Unstored store profile (Selection.setsUp "AKIA" "abcd" []) s := by
    rw [Unstored, retrieve_missing store _ profile holds]
    exact .inl rfl
  have returned := law store _ .accepting s ⟨"AKIA", "abcd"⟩ ⟨none, holds, by simp⟩
    (noIndented idKey) (noIndented secretKey) missing (by decide) (by decide) gives
  exact not_readsPair trimmed oneLine bad
    ((createProfile_returns holds read rfl gives .accepting).1 returned)

/-- **The keys of a new profile come back exactly when its name has no bracket and no open end.**
The name can be any text that is trimmed and stands on one line. -/
theorem keysReturn_iff (trimmed : Trimmed profile) (oneLine : OneLine profile) :
    KeysReturn profile ↔ ']' ∉ profile ∧ leavesOpen profile = false := by
  constructor
  · intro law
    refine ⟨fun bracket => not_keysReturn trimmed oneLine (.inl bracket) law, ?_⟩
    cases opened : leavesOpen profile with
    | false => rfl
    | true => exact absurd law (not_keysReturn trimmed oneLine (.inr opened))
  · rintro ⟨noBracket, closed⟩
    exact keysReturn_of_noBracket trimmed oneLine noBracket closed

/-- A name with a backslash that protects a letter. -/
theorem keysReturn_backslash :
    Trimmed "corp\\dev" ∧ OneLine "corp\\dev" ∧ KeysReturn "corp\\dev" :=
  ⟨by decide, by decide, (keysReturn_iff (by decide) (by decide)).2 ⟨by decide, by decide⟩⟩

/-- A name that ends in a backslash: the pair is stored, and the file cannot be loaded any more. -/
theorem not_keysReturn_open :
    Trimmed "work\\" ∧ OneLine "work\\" ∧ ¬ KeysReturn "work\\" ∧
      ((createProfile ⟨"/credentials", true⟩ "work\\").outcome (Selection.setsUp "AKIA" "abcd" [])
        (.start (.ofFiles none none))).1 = .ok () ∧
      Store.find ⟨"/credentials", true⟩ ((createProfile ⟨"/credentials", true⟩ "work\\").outcome
        (Selection.setsUp "AKIA" "abcd" []) (.start (.ofFiles none none))).2.disk =
          .error (.unreadable "/credentials" 4 1 Ini.Cause.openHeader.message) := by
  refine ⟨by decide, by decide, not_keysReturn (by decide) (by decide) (.inr (by decide)), ?_, ?_⟩
  · decide +kernel
  · decide +kernel

end ProfilePicker.Credentials
