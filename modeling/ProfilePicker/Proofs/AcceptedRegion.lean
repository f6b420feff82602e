import ProfilePicker.Proofs.Blocks
import ProfilePicker.Proofs.MixedBreaks
import ProfilePicker.Proofs.PickedProfiles
import ProfilePicker.Proofs.PlainEdits
import ProfilePicker.Proofs.RegionRoundTrip

/-!
# Accepting the region that is stored

Whoever accepts the region that is stored for a profile wants nothing changed. The region is written
all the same, and the text is put together from its lines again. The file stays what it is when its
line breaks are all of one kind, the last line has one, and the line in which the edit puts the
region says the same already. Otherwise it changes, and if that line says the same, then in nothing
but its line breaks.
-/
namespace ProfilePicker

open Text (EvenBreaks IsLine joinLines)

namespace Ini

variable {t name key value : Text} {ls : List Text}

/-- Writing the line that is there leaves the lines as they are, and writing another does not. -/
theorem setInLines_eq_self_iff (written : entryLine key value ∈ firstBlock name ls)
    (sets : keyName? (entryLine key value) = some key) :
    setInLines name key value ls = ls ↔
      replacedLine? name key ls = some (entryLine key value) := by
  obtain ⟨before, old, after, rfl, found, edited⟩ := setInLines_of_set ⟨_, written, sets⟩
  rw [edited value, found, Option.some.injEq]
  refine ⟨fun same => ?_, fun same => by rw [same]⟩
  have tails := List.append_cancel_left same
  exact (List.cons.inj tails).1.symm

/-- Writing a line that is there leaves the lines of the text closed by its ending. -/
theorem isLine_of_written {ending : Text} (isLine : ∀ line ∈ ls, IsLine ending line)
    (written : entryLine key value ∈ firstBlock name ls)
    (sets : keyName? (entryLine key value) = some key) :
    ∀ line ∈ setInLines name key value ls, IsLine ending line := by
  obtain ⟨before, old, after, whole, -, edited⟩ := setInLines_of_set ⟨_, written, sets⟩
  have closed := isLine _ (mem_of_mem_firstBlock written)
  intro line member
  rw [edited value, List.mem_append, List.mem_cons] at member
  rw [whole] at isLine
  rcases member with inFront | rfl | inBack
  · exact isLine line (by simp [inFront])
  · exact closed
  · exact isLine line (by simp [inBack])

/-- A text stays as it is exactly when its line breaks are all of one kind and the line in which the
edit puts the value says the same already. -/
theorem setLine_eq_self_iff (written : entryLine key value ∈ firstBlock name t.lines)
    (sets : keyName? (entryLine key value) = some key) :
    setLine t name key value = t ↔
      EvenBreaks t ∧ replacedLine? name key t.lines = some (entryLine key value) := by
  have known := Text.isEnding_lineEnding t
  rw [← setInLines_eq_self_iff written sets]
  constructor
  · intro same
    have joined : joinLines t.lineEnding (setInLines name key value t.lines) = t := same
    -- What is joined ends with a line feed, so all lines of the text are closed.
    have last := Text.getLast?_joinLines known (setInLines_ne_nil name key value t.lines)
    rw [joined] at last
    have isLine := isLine_of_written (Text.isLine_lines (by simp [last])) written sets
    have closes := Text.closedBy_joinLines known isLine
    have lines := Text.lines_joinLines known isLine
    rw [joined] at closes lines
    exact ⟨closes.evenBreaks known, lines.symm⟩
  · rintro ⟨even, same⟩
    rw [setLine, same]
    exact (even.closedBy.lines known).1

end Ini

namespace Region

open Ini (Document firstBlock replacedLine? keyName? entryLine)

variable {s : Session} {t profile region : Text} {settings : Document}

/-- **Accepting the stored region keeps the file exactly when its line breaks are even.** The config
file can be loaded, and its first section for the profile has a line with the stored region as an
edit writes it. Whoever accepts the region is asked once and gets it. The file is written; its text
is as before if and only if all its line breaks are of one kind, one of them at the end, and the
first line there that sets the region is that line. If it is, then the lines are as before in any
case, and nothing but their ends can change. -/
theorem accepting_keeps_iff (store : Store) (prompt : Prompt) (suggested : Text)
    (holds : s.disk.Holds store.path (some t)) (read : Document.parse t = .ok settings)
    (stored : settings.get? (Naming.prefixed.sectionFor profile) key = some region)
    (nonempty : region ≠ [])
    (written : entryLine key region ∈ firstBlock (Naming.prefixed.sectionFor profile) t.lines)
    (accepted : prompt.answer s.asked (.input "Region" region) = .ok region) :
    ∃ s' t', (resolve store suggested profile).outcome prompt s = (.ok region, s') ∧
      s'.asked = s.asked ++ [.input "Region" region] ∧ s.disk.Rewrites store.path t' s'.disk ∧
      (t' = t ↔ EvenBreaks t ∧ replacedLine? (Naming.prefixed.sectionFor profile) key t.lines =
        some (entryLine key region)) ∧
      (replacedLine? (Naming.prefixed.sectionFor profile) key t.lines =
        some (entryLine key region) → t' = joinLines t.lineEnding t.lines) := by
  obtain ⟨reply, s', ran, asked, accepts⟩ :=
    resolve_stored store prompt suggested holds read stored nonempty
  obtain ⟨rfl, rewrites⟩ := accepts accepted
  have parsed : documentOf (some t) = .ok settings := read
  have text : (storeIn region profile settings).text =
      Ini.setLine t (Naming.prefixed.sectionFor profile) key region := text_storeIn parsed
  rw [text] at rewrites
  have sets : keyName? (entryLine key region) = some key :=
    Ini.EntryKey.keyName?_entryLine (by decide) region
  refine ⟨s', _, ran, asked, rewrites, Ini.setLine_eq_self_iff written sets, fun first => ?_⟩
  rw [Ini.setLine, (Ini.setInLines_eq_self_iff written sets).2 first]

/-- A file with long line ends stays as it is, with a comment and a section that cannot be told from
the one of the profile by its beginning. -/
theorem accepting_keeps_long :
    ∃ s', (resolve Selection.atRoot.configStore "us-east-1" "b").outcome .accepting
        (.start (.ofFiles none (some "; note\r\n[profile bc]\r\n[profile b]\r\nregion = eu\r\n"))) =
        (.ok "eu", s') ∧
      s'.disk.read "/config" =
        .ok "; note\r\n[profile bc]\r\n[profile b]\r\nregion = eu\r\n" := by
  have items : Ini.items "; note\r\n[profile bc]\r\n[profile b]\r\nregion = eu\r\n" =
      .ok [.header "profile bc", .header "profile b", .entry key "eu"] := by decide +kernel
  have even : EvenBreaks "; note\r\n[profile bc]\r\n[profile b]\r\nregion = eu\r\n" := by
    have oneLine : ∀ line ∈ (["; note", "[profile bc]", "[profile b]", "region = eu"] : List Text),
        Text.OneLine line := by decide
    exact .inr (Text.closedBy_joinLines (.inr rfl) fun line member =>
      (oneLine line member).isLine _)
  have block : firstBlock (Naming.prefixed.sectionFor "b")
      (Text.lines "; note\r\n[profile bc]\r\n[profile b]\r\nregion = eu\r\n") =
        [entryLine key "eu"] := by decide +kernel
  have nonempty : ("eu" : Text) ≠ [] := by decide
  have written : entryLine key "eu" ∈ firstBlock (Naming.prefixed.sectionFor "b")
      (Text.lines "; note\r\n[profile bc]\r\n[profile b]\r\nregion = eu\r\n") := by
    rw [block]
    exact List.mem_cons_self
  obtain ⟨s', t', ran, -, rewrites, keeps, -⟩ := accepting_keeps_iff Selection.atRoot.configStore
    .accepting (s := .start (.ofFiles none (some _))) "us-east-1"
    (Disk.holds_config_ofFiles none (some _)) (Document.parse_of_items items) rfl nonempty written
    rfl
  have same := keeps.2 ⟨even, by rw [replacedLine?, block]; decide +kernel⟩
  rw [same] at rewrites
  exact ⟨s', ran, rewrites.holds.read⟩

/-- A file with a short line end before a long one: the region is stored as an edit writes it, in
the one section of the profile, and whoever accepts it changes the first line end. -/
theorem not_accepting_keeps_mixed :
    (Document.parse "[default]\nregion = us-east-1\r\n").map
        (fun d => d.get? (Naming.prefixed.sectionFor "default") key) = .ok (some "us-east-1") ∧
      ("[default]\nregion = us-east-1\r\n" : Text).getLast? = some '\n' ∧
      firstBlock (Naming.prefixed.sectionFor "default")
        (Text.lines "[default]\nregion = us-east-1\r\n") = ["region = us-east-1"] ∧
      entryLine key "us-east-1" = "region = us-east-1" ∧
      ∃ s', (resolve Selection.atRoot.configStore [] "default").outcome .accepting
          (.start (.ofFiles none (some "[default]\nregion = us-east-1\r\n"))) =
          (.ok "us-east-1", s') ∧
        s'.disk.read "/config" = .ok "[default]\r\nregion = us-east-1\r\n" ∧
        ("[default]\r\nregion = us-east-1\r\n" : Text) ≠
          "[default]\nregion = us-east-1\r\n" := by
  refine ⟨by decide +kernel, by decide, by decide +kernel, by decide, _,
    Prod.ext (by decide +kernel) rfl, by decide +kernel, by decide⟩

end Region

end ProfilePicker
