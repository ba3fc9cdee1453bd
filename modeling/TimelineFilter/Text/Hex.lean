namespace TimelineFilter.Text

def hexDigit? (c : Char) : Option Nat :=
  if c.isDigit then some (c.toNat - '0'.toNat)
  else if 'a' ≤ c ∧ c ≤ 'f' then some (c.toNat - 'a'.toNat + 10)
  else if 'A' ≤ c ∧ c ≤ 'F' then some (c.toNat - 'A'.toNat + 10)
  else none

def hexNumber? (cs : List Char) : Option Nat :=
  if cs.isEmpty then none
  else (cs.mapM hexDigit?).map fun digits => digits.foldl (fun n d => n * 16 + d) 0

def charOf? (point : Nat) : Option Char :=
  if point.isValidChar then some (Char.ofNat point) else none

example : hexNumber? ['1', 'F', 'a'] = some 0x1FA := by decide
example : (hexNumber? "d800".toList).bind charOf? = none := by decide

end TimelineFilter.Text
