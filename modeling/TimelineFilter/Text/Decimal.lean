namespace TimelineFilter.Text

def decimalChars : Int → List Char
  | .ofNat n => Nat.toDigits 10 n
  | .negSucc n => '-' :: Nat.toDigits 10 (n + 1)

def decimal (n : Int) : String := String.ofList (decimalChars n)

def natural? (cs : List Char) : Option Nat :=
  if !cs.isEmpty && cs.all Char.isDigit then some (Nat.ofDigitChars 10 cs 0) else none

def natural64? (cs : List Char) : Option Int64 :=
  match natural? cs with
  | some n => if (n : Int) ≤ Int64.maxValue.toInt then some (Int64.ofNat n) else none
  | none => none

def padRight (width : Nat) (text : String) : String :=
  text ++ String.ofList (List.replicate (width - text.toList.length) ' ')

def zeroPadded (width n : Nat) : String :=
  let digits := Nat.toDigits 10 n
  String.ofList (List.replicate (width - digits.length) '0' ++ digits)

theorem natural?_toDigits (n : Nat) : natural? (Nat.toDigits 10 n) = some n := by
  have digits : (Nat.toDigits 10 n).all Char.isDigit = true := by
    rw [List.all_eq_true]
    exact fun c mem => Nat.isDigit_of_mem_toDigits (by decide) (by decide) mem
  simp [natural?, digits, Nat.toDigits_ne_nil, Nat.ofDigitChars_ten_toDigits]

end TimelineFilter.Text
