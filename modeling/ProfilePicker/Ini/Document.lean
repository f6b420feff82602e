import ProfilePicker.Ini.Contents
import ProfilePicker.Ini.Line

/-!
# Settings documents

A document is a settings text together with what it says. Look-ups go to what it says; a
change is made twice, as an edit of one line of the text and as a change of the contents.
-/
namespace ProfilePicker.Ini

/-- A settings text and its contents. -/
structure Document where
  /-- The text. -/
  text : Text
  /-- What the text says. -/
  contents : Contents
deriving Repr, DecidableEq

namespace Document

/-- The document without any text. -/
def empty : Document := ⟨[], .empty⟩

/-- The document of a text that can be read. -/
def parse (s : Text) : Except Problem Document :=
  (items s).map fun found => ⟨s, .ofItems found⟩

/-- The names of the sections, each once, in the order of the text. -/
def sections (d : Document) : List Text := d.contents.names

/-- Whether there is a section of that name. -/
def has (d : Document) (name : Text) : Bool := d.contents.has name

/-- The value of a key in a section. -/
def get? (d : Document) (name key : Text) : Option Text := d.contents.get? name key

/-- The document after giving a key of a section a value. -/
def set (d : Document) (name key value : Text) : Document :=
  ⟨setLine d.text name key value, d.contents.set name key value⟩

end Document

end ProfilePicker.Ini
