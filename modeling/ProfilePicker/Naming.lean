import ProfilePicker.Text.Basic

/-!
# Sections and profiles

How the two shared files name the section of a profile. The credentials file uses the name of
the profile. The config file puts a word before it, except for the default profile, and holds
other sections too, which belong to no profile.
-/
namespace ProfilePicker

/-- The name of the default profile. -/
def defaultProfile : Text := "default"

/-- What stands before the name of a profile in the config file. -/
def profileWord : Text := "profile "

/-- How a file names sections. -/
inductive Naming where
  /-- By the name of the profile. -/
  | verbatim
  /-- By the name of the profile after a word, except for the default profile. -/
  | prefixed
deriving Repr, DecidableEq

namespace Naming

/-- The section of a profile. -/
def sectionFor : Naming → Text → Text
  | verbatim, profile => profile
  | prefixed, profile =>
    if profile = defaultProfile then profile else profileWord ++ profile

/-- The profile of a section, if it belongs to one. -/
def profileFor? : Naming → Text → Option Text
  | verbatim, name => some name
  | prefixed, name =>
    if name = defaultProfile then some name else Text.dropStart? profileWord name

/-- No section that begins with the word is the one of the default profile. -/
theorem profileWord_append_ne (profile : Text) : profileWord ++ profile ≠ defaultProfile := by
  have word : profileWord = ['p', 'r', 'o', 'f', 'i', 'l', 'e', ' '] := rfl
  have bare : defaultProfile = ['d', 'e', 'f', 'a', 'u', 'l', 't'] := rfl
  simp [word, bare]

/-- The section of a profile belongs to it, whatever the profile is called. -/
theorem profileFor?_sectionFor (naming : Naming) (profile : Text) :
    naming.profileFor? (naming.sectionFor profile) = some profile := by
  cases naming with
  | verbatim => rfl
  | prefixed =>
    by_cases bare : profile = defaultProfile
    · simp [sectionFor, profileFor?, bare]
    · have worded : profileWord ++ profile ≠ defaultProfile := profileWord_append_ne profile
      simp only [sectionFor, profileFor?, bare, worded, if_false]
      exact Text.dropStart?_eq_some_iff.2 rfl

/-- Two profiles never share a section. -/
theorem sectionFor_injective (naming : Naming) {profile other : Text}
    (same : naming.sectionFor profile = naming.sectionFor other) : profile = other := by
  have := congrArg naming.profileFor? same
  simpa [profileFor?_sectionFor] using this

end Naming

end ProfilePicker
