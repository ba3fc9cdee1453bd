import TimelineFilter.Text.AsciiCase

namespace TimelineFilter

/-- A closed set of entries with their spellings, in canonical order. -/
class Catalogue (α : Type) where
  entries : List α
  spellings : α → List String

namespace Catalogue

variable {α : Type} [Catalogue α]

def name (a : α) : String := (spellings a).headD ""

def aliases (a : α) : List String := (spellings a).tail

def findBy (agrees : String → Bool) : Option α :=
  entries.find? fun a => (spellings a).any agrees

/-- The entry with this spelling in any ASCII case. -/
def find? (text : String) : Option α := findBy (Text.sameIgnoringCase text)

def findExact? (text : String) : Option α := findBy (text == ·)

end Catalogue

def Catalogue.allSpellings (α : Type) [Catalogue α] : List String :=
  (Catalogue.entries : List α).flatMap Catalogue.spellings

end TimelineFilter
