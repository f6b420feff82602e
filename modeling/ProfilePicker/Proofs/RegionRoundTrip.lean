import ProfilePicker.Proofs.Hosts
import ProfilePicker.Proofs.WrittenValues

/-!
# The region that comes back

A region that has been resolved for a profile should be the one that is stored for it: it can
be loaded, and whoever resolves it again is offered it. Whether that is so depends on the config
file alone, on where the section is and what else it says there, and not on the region.
-/
namespace ProfilePicker

open Ini (Document PlainName PlainText PlainValue NoIndented ReadsAs ReadsBack closedDocument
  firstBlock)
open Text (OneLine)

namespace Region

variable {store : Store} {prompt : Prompt} {s s' : Session} {content : Option Text} {d : Document}
  {suggested profile region : Text}

/-- A region that has been resolved is trimmed, and the file has been written with it. -/
theorem ok_of_resolve (finds : s.disk.Finds store.path content) (read : documentOf content = .ok d)
    (done : (resolve store suggested profile).outcome prompt s = (.ok region, s')) :
    region ≠ [] ∧ Text.Trimmed region ∧
      s'.disk.Holds store.path (some (storeIn region profile d).text) := by
  obtain ⟨_, failed, -⟩ | ⟨_, content', d', same, nonempty, trimmed, finds', read', puts⟩ :=
    resolve_cases done
  · cases failed
  · cases same
    obtain rfl := finds.unique finds'
    obtain rfl := Except.ok.inj (read.symm.trans read')
    exact ⟨nonempty, trimmed, .text puts.read⟩

/-- The region that is resolved for a profile comes back from a file that holds the given text,
or nothing: it can be loaded, and the next one who accepts the suggestion is offered it. -/
def RoundTrips (content : Option Text) (profile : Text) : Prop :=
  ∀ (store : Store) (prompt again : Prompt) (s s' : Session) (suggested other region : Text),
    s.disk.Finds store.path content →
    (resolve store suggested profile).outcome prompt s = (.ok region, s') →
    OneLine region → region.getLast? ≠ some '\\' →
    (∀ asked title (suggestion : Text),
      again.answer asked (.input title suggestion) = .ok suggestion) →
    ∃ d s'', store.find s'.disk = .ok d ∧
      d.get? (Naming.prefixed.sectionFor profile) key = some region ∧
      (resolve store other profile).outcome again s' = (.ok region, s'') ∧
      s''.asked = s'.asked ++ [.input "Region" region]

/-- A value comes back in the document of the text that it has been written into. -/
theorem readsAs_iff {t name region : Text} :
    ReadsAs t name key region ↔ ∃ d, Document.parse (Ini.setLine t name key region) = .ok d ∧
      d.get? name key = some region := by
  constructor
  · rintro ⟨all, read, valued⟩
    exact ⟨_, Document.parse_of_items read, (Ini.get?_ofItems name key all).trans valued⟩
  · rintro ⟨d, read, valued⟩
    obtain ⟨all, found, rfl⟩ := Document.items_of_parse read
    exact ⟨all, found, (Ini.get?_ofItems name key all).symm.trans valued⟩

/-- A region comes back from where it is read. -/
theorem roundTrips_of_readsBack (read : documentOf content = .ok d)
    (readsBack : ReadsBack (content.getD []) (Naming.prefixed.sectionFor profile) key) :
    RoundTrips content profile := by
  intro store prompt again s s' suggested other region finds done oneLine noBackslash accepts
  obtain ⟨nonempty, trimmed, holds⟩ := ok_of_resolve finds read done
  rw [text_storeIn read] at holds
  obtain ⟨d', parsed, valued⟩ := readsAs_iff.1
    ((Ini.readsBack_iff (by decide) (by decide)).1 readsBack region
      ⟨trimmed, oneLine, noBackslash⟩ nonempty)
  have found : store.find s'.disk = .ok d' := Store.find_of_finds holds.finds parsed
  have offered : suggestionFor d' other profile = region := by
    rw [suggestionFor, valued]
    rfl
  have answered : again.answer s'.asked (question d' other profile) = .ok region :=
    (accepts s'.asked "Region" (suggestionFor d' other profile)).trans (congrArg Except.ok offered)
  obtain ⟨written, log, -, resolved⟩ := resolve_answered store again other profile holds parsed
    answered (by rw [trimmed]; exact nonempty)
  rw [trimmed] at resolved
  exact ⟨d', _, found, valued, resolved, by rw [question, offered]⟩

/-- A region that comes back is written where it is read. -/
theorem readsBack_of_roundTrips (read : documentOf content = .ok d)
    (law : RoundTrips content profile) :
    ReadsBack (content.getD []) (Naming.prefixed.sectionFor profile) key := by
  refine (Ini.readsBack_iff (by decide) (by decide)).2 fun region fits nonempty => ?_
  let store : Store := ⟨"/config", false⟩
  have holds : (Disk.ofFiles none content).Holds store.path content :=
    Disk.holds_config_ofFiles none content
  obtain ⟨written, log, rewrites, resolved⟩ := resolve_answered store (.entering region)
    (s := .start (Disk.ofFiles none content)) [] profile holds read rfl
    (by rw [fits.trimmed]; exact nonempty)
  rw [fits.trimmed] at rewrites resolved
  obtain ⟨d', s'', found, valued, -⟩ := law store (.entering region) .accepting _ _ [] [] region
    holds.finds resolved fits.oneLine fits.noBackslash fun _ _ _ => rfl
  obtain ⟨t, holds', parsed⟩ := Store.parse_of_find found
  have same : t =
      Ini.setLine (content.getD []) (Naming.prefixed.sectionFor profile) key region := by
    rw [← text_storeIn read]
    exact Except.ok.inj (holds'.read.symm.trans rewrites.holds.read)
  rw [same] at parsed
  exact readsAs_iff.2 ⟨d', parsed, valued⟩

/-- A region comes back from a plain file, or from a new one, whose section has no indented
line that sets it. -/
theorem roundTrips_of_plain (plain : ∀ t, content = some t → PlainText t)
    (plainName : PlainName profile)
    (noIndented : NoIndented key
      (firstBlock (Naming.prefixed.sectionFor profile) (content.getD []).lines)) :
    RoundTrips content profile := by
  have plainText : PlainText (content.getD []) := by
    cases content with
    | none => exact Ini.plainText_nil
    | some t => exact plain t rfl
  have read : documentOf content = .ok (closedDocument (content.getD [])) := by
    cases content with
    | none => rfl
    | some t => exact plainText.closed.parse_closedDocument
  have section_ := Naming.prefixed.plainName_sectionFor plainName
  refine roundTrips_of_readsBack read
    ((Ini.readsBack_iff (by decide) (by decide)).2 fun region fits _ => ?_)
  have plainKey : Ini.PlainKey key := by decide
  have closed : (content.getD []).lineEnding = Text.shortEnding → Ini.leavesOpen region = false :=
    fun _ => Ini.leavesOpen_eq_false fits.noBackslash
  have lines := (plainText.closed.setLine_lines section_ plainKey fits.oneLine closed).1
  refine ⟨_, (plainText.closed.setLine section_ plainKey fits.oneLine closed).items_eq, ?_⟩
  rw [lines, plainText.closed.valueIn_self section_ plainKey region noIndented, fits.trimmed]

/-- **A region comes back from a config file exactly when the file takes it where it is read.** The
file can be any one that can be loaded, or one that is still to be made. It takes a region where
it is read when the line of the edit comes to stand in the section of the profile, which has no
region so far for the reader, and when what follows this line can be read. -/
theorem roundTrips_iff (read : documentOf content = .ok d) (profile : Text) :
    RoundTrips content profile ↔
      ReadsBack (content.getD []) (Naming.prefixed.sectionFor profile) key :=
  ⟨readsBack_of_roundTrips read, roundTrips_of_readsBack read⟩

/-- A file that is not plain, with a colon and without an end of its last line, takes a region. -/
theorem roundTrips_other_colon :
    (∃ d, documentOf (some "[default]\noutput: json") = .ok d) ∧
      RoundTrips (some "[default]\noutput: json") defaultProfile := by
  have items : Ini.items "[default]\noutput: json" =
      .ok [.header defaultProfile, .entry "output" "json"] := by decide +kernel
  have read : documentOf (some "[default]\noutput: json") = .ok _ := Document.parse_of_items items
  refine ⟨⟨_, read⟩, (roundTrips_iff read defaultProfile).2
    ⟨⟨[.header defaultProfile, .entry "output" "json"], ?_, ?_, ?_⟩, ?_⟩⟩
  · decide +kernel
  · decide
  · decide
  · exact ⟨[.header defaultProfile, .entry "output" "json", .entry key []], by decide +kernel⟩

/-- A region behind a colon: the edit does not know the line, and the reader prefers it. -/
theorem not_roundTrips_colon :
    (∃ d, documentOf (some "[default]\nregion: eu-west-1\n") = .ok d) ∧ PlainName defaultProfile ∧
      ¬ RoundTrips (some "[default]\nregion: eu-west-1\n") defaultProfile := by
  have items : Ini.items "[default]\nregion: eu-west-1\n" =
      .ok [.header defaultProfile, .entry key "eu-west-1"] := by decide +kernel
  have read : documentOf (some "[default]\nregion: eu-west-1\n") = .ok _ :=
    Document.parse_of_items items
  have tried : Ini.items (Ini.textBefore "[default]\nregion: eu-west-1\n" defaultProfile key ++
      Ini.trial) = .ok ([.header defaultProfile, .entry key "eu-west-1"] ++ [.entry ['x'] []]) := by
    decide +kernel
  refine ⟨⟨_, read⟩, by decide, fun law => ?_⟩
  obtain ⟨⟨found, place, -, unset⟩, -⟩ := readsBack_of_roundTrips read law
  obtain ⟨rfl, -⟩ := List.append_inj' (Except.ok.inj (tried.symm.trans place)) rfl
  cases unset

end Region

end ProfilePicker
