import TimelineFilter.Text.Ranges

namespace TimelineFilter.Text

def blankRanges : Ranges :=
  [(0x9, 0xD), (0x20, 0x20), (0x85, 0x85), (0xA0, 0xA0), (0x1680, 0x1680),
   (0x2000, 0x200A), (0x2028, 0x2029), (0x202F, 0x202F), (0x205F, 0x205F), (0x3000, 0x3000)]

def isBlank (c : Char) : Bool := blankRanges.has c.toNat

def words (cs : List Char) : List (List Char) :=
  match h : cs.dropWhile isBlank with
  | [] => []
  | c :: rest =>
    have : (rest.dropWhile (!isBlank ·)).length < cs.length := by
      have shrinks : (c :: rest).length ≤ cs.length := h ▸ (List.dropWhile_suffix isBlank).length_le
      have tail := (List.dropWhile_suffix (!isBlank ·) (l := rest)).length_le
      simp only [List.length_cons] at shrinks
      omega
    (c :: rest.takeWhile (!isBlank ·)) :: words (rest.dropWhile (!isBlank ·))
termination_by cs.length

def singleLine (text : String) : String :=
  " ".intercalate ((words text.toList).map String.ofList)

def trimBlanks (cs : List Char) : List Char := cs.dropWhile isBlank

example : singleLine " line one\n\tline  two " = "line one line two" := by cbv

end TimelineFilter.Text
