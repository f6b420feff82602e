import ProfilePicker.Naming
import ProfilePicker.Store

/-!
# Keys of a profile

A pair of an access key and its secret, and the file that holds one pair for each profile. A
pair that is stored is never replaced; a section that lacks half of its pair is completed in
place. The secret goes into the file and nowhere else: no message and no log line shows it.
-/
namespace ProfilePicker

/-- An access key and its secret. -/
structure Credentials where
  /-- The name of the access key. -/
  id : Text
  /-- The secret. -/
  secret : Text
deriving DecidableEq

namespace Credentials

/-- The key of the name in a credentials file. -/
def idKey : Text := "aws_access_key_id"

/-- The key of the secret in a credentials file. -/
def secretKey : Text := "aws_secret_access_key"

/-- The least number of characters in each half of a pair. -/
def leastLength : Nat := 4

/-- The fault of a pair with a half that is too short. -/
def tooShort : Fault := .invalid "AWS Access/Secret Access Key must have more than 3 characters"

/-- A pair of which neither half is too short. -/
def ofTyped (id secret : Text) : Except Fault Credentials :=
  if id.length < leastLength || secret.length < leastLength then .error tooShort
  else .ok ⟨id, secret⟩

/-- What stands for the secret wherever a pair is shown. -/
def redacted : Text := "** redacted **"

/-- A pair shown on one line, without its secret. -/
def shown (c : Credentials) : Text :=
  "StaticCredentials \x7b access_key_id: " ++ c.id.quoted ++ ", secret_access_key: " ++
    redacted.quoted ++ " \x7d"

/-- A pair shown with a line for each half, without its secret. -/
def shownInLines (c : Credentials) : Text :=
  "StaticCredentials \x7b\n    access_key_id: " ++ c.id.quoted ++
    ",\n    secret_access_key: " ++ redacted.quoted ++ ",\n\x7d"

/-- The pair that a document holds for a profile, if both halves are there. -/
def ofDocument? (d : Ini.Document) (profile : Text) : Option Credentials := do
  let name := Naming.verbatim.sectionFor profile
  let id ← d.get? name idKey
  let secret ← d.get? name secretKey
  return ⟨id, secret⟩

/-- A document after storing a pair for a profile. -/
def storeIn (c : Credentials) (profile : Text) (d : Ini.Document) : Ini.Document :=
  let name := Naming.verbatim.sectionFor profile
  (d.set name idKey c.id).set name secretKey c.secret

/-- The stored pair of a profile. -/
def retrieve (store : Store) (profile : Text) : Flow Credentials := do
  match ofDocument? (← store.load) profile with
  | some c => return c
  | none => throw (.notFound (Fault.keysOf profile))

/-- Store a pair for a profile that has none. -/
def save (store : Store) (profile : Text) (c : Credentials) : Flow Unit := do
  match ← (retrieve store profile).attempt with
  | .ok _ => throw (.alreadyExists (Fault.keysOf profile))
  | .error (.missingFile _) => store.createEmpty
  | .error (.notFound _) => pure ()
  | .error fault => throw fault
  store.save (c.storeIn profile (← store.load))
  Flow.info ("stored credentials for profile " ++ profile.quoted ++ " in " ++ store.path)

/-- Ask for a pair; the user may decline. -/
def ask : Flow (Option Credentials) := do
  if ← Flow.ask (.confirm "Enter AWS credentials" false) then
    let id ← Flow.ask (.input "AWS Access Key ID" [])
    let secret ← Flow.ask (.password "Enter AWS Secret Access Key")
    match ofTyped id secret with
    | .ok c => return some c
    | .error fault => throw fault
  else
    return none

/-- Ask for a pair and store it for a profile, unless the user declines. -/
def createProfile (store : Store) (profile : Text) : Flow Unit := do
  match ← ask with
  | some c => save store profile c
  | none => Flow.info ("no credentials stored for profile " ++ profile.quoted)

end Credentials

end ProfilePicker
