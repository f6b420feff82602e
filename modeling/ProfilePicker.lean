import ProfilePicker.Main
import ProfilePicker.Proofs.AbsentFiles
import ProfilePicker.Proofs.AcceptedRegion
import ProfilePicker.Proofs.CommutingEdits
import ProfilePicker.Proofs.CompletedSteps
import ProfilePicker.Proofs.FoldedNames
import ProfilePicker.Proofs.HarmlessValues
import ProfilePicker.Proofs.KnownNames
import ProfilePicker.Proofs.LastWrites
import ProfilePicker.Proofs.Ledger
import ProfilePicker.Proofs.LinesRead
import ProfilePicker.Proofs.LocalEdits
import ProfilePicker.Proofs.LongBreaks
import ProfilePicker.Proofs.NewNames
import ProfilePicker.Proofs.NewSections
import ProfilePicker.Proofs.PickedProfiles
import ProfilePicker.Proofs.PlainEdits
import ProfilePicker.Proofs.Precedence
import ProfilePicker.Proofs.RegionRoundTrip
import ProfilePicker.Proofs.SavedKeys
import ProfilePicker.Proofs.Secrecy
import ProfilePicker.Proofs.Taken
import ProfilePicker.Proofs.WaysToPick
import ProfilePicker.Script
