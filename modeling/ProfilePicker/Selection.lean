import ProfilePicker.Catalog
import ProfilePicker.Credentials
import ProfilePicker.Region
import ProfilePicker.Text.JsonString

/-!
# Selecting a profile and its region

The heart of the program. A profile that is named has to be known; without one the user picks
from the catalog or makes a new profile. A region that is named is taken as it is; without one
the region of the profile is asked for and stored. The result is a context for other tools, in
which the default profile has no name, and a description of it.
-/
namespace ProfilePicker

/-- What the user asks for. An empty profile or region counts as none. -/
structure Wishes where
  /-- The profile. -/
  profile : Option Text
  /-- The region. -/
  region : Option Text
  /-- What the context is for. -/
  description : Text
deriving Repr, DecidableEq

/-- A profile and its region. The default profile has the empty name. -/
structure Context where
  /-- The profile. -/
  profile : Text
  /-- The region. -/
  region : Text
deriving Repr, DecidableEq

namespace Context

/-- The context of a profile and a region. -/
def of (profile region : Text) : Context :=
  ⟨if profile = defaultProfile then [] else profile, region⟩

/-- The description of a context: the region in brackets after what the user says. -/
def describe (region description : Text) : Text :=
  Text.trim (description ++ " (" ++ region ++ ")")

/-- A context as an object of JSON, with a line for each field. -/
def toJsonText (c : Context) : Text :=
  "\x7b\n  \"profile\": " ++ c.profile.jsonString ++ ",\n  \"region\": " ++
    c.region.jsonString ++ "\n\x7d"

end Context

namespace Selection

/-- The entry of the list that stands for a profile still to be made. -/
def newProfile : Text := "new profile"

/-- The fault of a profile that no file knows. -/
def unknownProfile (profile : Text) : Fault := .notFound ("profile " ++ profile.quoted)

/-- The fault of a name that is blank. -/
def emptyName : Fault := .invalid "profile name cannot be empty"

/-- The fault of a choice beyond the end of the list. -/
def noSuchOption (index : Nat) : Fault :=
  .prompt ("no profile option at index " ++ Text.ofNat index)

/-- The known spelling of a profile that the user names. The default profile is always known. -/
def validate (catalog : Catalog) (profile : Text) : Except Fault Text :=
  if Text.equalsIgnoringBasicCase profile defaultProfile then .ok defaultProfile
  else
    match catalog.find? profile with
    | some name => .ok name
    | none => .error (unknownProfile profile)

/-- The list to choose from: a profile still to be made, then the catalog. -/
def options (catalog : Catalog) : List Text := newProfile :: catalog.names

/-- Ask for the name of a new profile and for its keys. -/
def create (l : Locations) (catalog : Catalog) : Flow Text := do
  let suggestion := if catalog.contains defaultProfile then [] else defaultProfile
  let typed ← Flow.ask (.input "profile name" suggestion)
  let name := Text.trim typed
  if name.isEmpty then throw emptyName
  Flow.info ("creating profile " ++ name.quoted)
  Credentials.createProfile l.credentialsStore name
  return name

/-- Let the user choose a profile. -/
def choose (l : Locations) (catalog : Catalog) : Flow Text := do
  match ← Flow.ask (.select "Select AWS Profile" (options catalog)) with
  | 0 => create l catalog
  | index =>
    match (options catalog)[index]? with
    | some name => return name
    | none => throw (noSuchOption index)

/-- The profile that the user names or else chooses. -/
def settleProfile (l : Locations) (catalog : Catalog) (wish : Option Text) : Flow Text :=
  match wish.filter (· ≠ []) with
  | some profile =>
    match validate catalog profile with
    | .ok name => return name
    | .error fault => throw fault
  | none => choose l catalog

/-- The region that the user names or else is asked for. -/
def settleRegion (l : Locations) (suggested profile : Text) (wish : Option Text) : Flow Text :=
  match wish.filter (· ≠ []) with
  | some region => return region
  | none => Region.resolve l.configStore suggested profile

/-- Settle the profile and its region, and describe the context. -/
def run (l : Locations) (suggested : Text) (wishes : Wishes) : Flow (Context × Text) := do
  let catalog ← Catalog.discover l
  let profile ← settleProfile l catalog wishes.profile
  let region ← settleRegion l suggested profile wishes.region
  return (.of profile region, Context.describe region wishes.description)

end Selection

end ProfilePicker
