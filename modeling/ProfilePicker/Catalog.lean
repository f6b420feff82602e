import ProfilePicker.Distinct
import ProfilePicker.Locations
import ProfilePicker.Naming
import ProfilePicker.Text.LetterCase

/-!
# The catalog of profiles

The profiles that the two shared files know, in small letters and each once: first those of
the credentials file and then those of the config file, in the order in which they are met.
-/
namespace ProfilePicker

/-- The known profiles. -/
structure Catalog where
  /-- Their names, in small letters. -/
  names : List Text
deriving Repr, DecidableEq

namespace Catalog

/-- The catalog of some names. -/
def ofNames (names : List Text) : Catalog := ⟨distinct (names.map Text.toLower)⟩

/-- How the catalog spells a profile, whatever its letter case. -/
def find? (c : Catalog) (profile : Text) : Option Text :=
  c.names.find? (· = profile.toLower)

/-- Whether a profile is known, whatever its letter case. -/
def contains (c : Catalog) (profile : Text) : Bool := (c.find? profile).isSome

/-- The profiles among the sections of a document; the others are noted in the log. -/
def profilesIn (naming : Naming) (store : Store) (d : Ini.Document) : Flow (List Text) :=
  d.sections.filterMapM fun name =>
    match naming.profileFor? name with
    | some profile => return some profile
    | none => do
      Flow.debug ("ignoring section [" ++ name ++ "] in " ++ store.path)
      return none

/-- The profiles of one file; a file that does not exist has none. -/
def profilesOf (naming : Naming) (store : Store) : Flow (List Text) := do
  match ← store.load.attempt with
  | .ok d => profilesIn naming store d
  | .error (.missingFile path) =>
    Flow.debug ("skipping " ++ path ++ ", file does not exist")
    return []
  | .error fault => throw fault

/-- The catalog of the profiles in both shared files. -/
def discover (l : Locations) : Flow Catalog := do
  let keyed ← profilesOf .verbatim l.credentialsStore
  let configured ← profilesOf .prefixed l.configStore
  let catalog := ofNames (keyed ++ configured)
  Flow.debug ("discovered " ++ Text.ofNat catalog.names.length ++ " profiles")
  return catalog

end Catalog

end ProfilePicker
