namespace TimelineFilter.Text

def lowerAscii (text : String) : String := String.ofList (text.toList.map Char.toLower)

def sameIgnoringCase (a b : String) : Bool :=
  a.toList.map Char.toLower == b.toList.map Char.toLower

theorem sameIgnoringCase_iff {a b : String} :
    sameIgnoringCase a b = true ↔ a.toList.map Char.toLower = b.toList.map Char.toLower := by
  simp [sameIgnoringCase]

end TimelineFilter.Text
