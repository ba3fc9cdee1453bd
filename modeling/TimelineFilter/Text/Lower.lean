import TimelineFilter.Text.Lower.Table

/-!
Full lower-casing of text. One character has a lower form of two characters, and the lower form
of a capital sigma depends on its neighbours; all other characters are mapped one by one.
-/
namespace TimelineFilter.Text

def lowerChar (c : Char) : List Char :=
  if c.toNat < 128 then [c.toLower]
  else if c = 'İ' then ['i', '\u0307']
  else [Char.ofNat (shifted lowerShifts c.toNat)]

def meetsCased (cs : List Char) : Bool :=
  match cs.dropWhile (caseIgnorableRanges.has ·.toNat) with
  | [] => false
  | c :: _ => casedRanges.has c.toNat

/-- A sigma ends a word when a cased character comes before it and none after it. -/
def endsWord (before after : List Char) : Bool := meetsCased before && !meetsCased after

/-- Lower-cases `cs`; `before` holds the characters in front of it, nearest first. -/
def lowerAfter (before : List Char) : List Char → List Char
  | [] => []
  | c :: rest =>
    (if c = 'Σ' then [if endsWord before rest then 'ς' else 'σ'] else lowerChar c)
      ++ lowerAfter (c :: before) rest

def lowerChars (cs : List Char) : List Char := lowerAfter [] cs

def lower (text : String) : String := String.ofList (lowerChars text.toList)

@[simp] theorem toList_lower (text : String) : (lower text).toList = lowerChars text.toList := by
  simp [lower]

end TimelineFilter.Text
