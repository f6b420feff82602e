import ProfilePicker.Naming
import ProfilePicker.Store

/-!
# The region of a profile

The region of a profile is asked for, with the stored one as the suggestion, and the answer is
stored in the section of the profile.
-/
namespace ProfilePicker.Region

/-- The key of the region in a config file. -/
def key : Text := "region"

/-- The fault of an answer that is blank. -/
def emptyRegion : Fault := .invalid "region cannot be empty"

/-- What is suggested for a profile: its stored region, or else the given one. -/
def suggestionFor (d : Ini.Document) (suggested profile : Text) : Text :=
  (d.get? (Naming.prefixed.sectionFor profile) key).getD suggested

/-- Ask for the region of a profile and store the answer. -/
def resolve (store : Store) (suggested profile : Text) : Flow Text := do
  let d ← store.loadOrEmpty
  let name := Naming.prefixed.sectionFor profile
  let typed ← Flow.ask (.input "Region" (suggestionFor d suggested profile))
  let region := Text.trim typed
  if region.isEmpty then throw emptyRegion
  if !d.has name then
    Flow.info ("adding section [" ++ name ++ "] to " ++ store.path)
  store.save (d.set name key region)
  Flow.info ("region for profile " ++ profile.quoted ++ " set to " ++ region)
  return region

end ProfilePicker.Region
