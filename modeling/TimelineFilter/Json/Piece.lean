import TimelineFilter.Json
import TimelineFilter.Json.Malformed
import TimelineFilter.Text.Hex
import TimelineFilter.Token.Scan

/-!
The pieces of a JSON text: brackets, separators, words, numbers and strings. Reading goes on to the
end of the text or to the first piece that is broken. Strings and numbers of correct form may still
have no value: a string with half a surrogate pair, a number beyond the doubles.
-/
namespace TimelineFilter.Json

inductive Piece
  | openArray | closeArray | openObject | closeObject | comma | colon
  | null
  | bool (b : Bool)
  | whole (n : Int)
  | real (x : Double)
  | text (t : String)
  /-- A string or number of correct form without a value. -/
  | void (why : Malformed)
  | broken (why : Malformed)
deriving DecidableEq, Repr

/-! Strings -/

/-- A part of a string: a character, or a UTF-16 unit given by its number. -/
inductive TextPart
  | char (c : Char)
  | unit (n : Nat)
deriving DecidableEq, Repr

def escaped? (letter : Char) : Option Char :=
  match letter with
  | '"' => some '"'
  | '\\' => some '\\'
  | '/' => some '/'
  | 'b' => some '\x08'
  | 'f' => some '\x0c'
  | 'n' => some '\n'
  | 'r' => some '\r'
  | 't' => some '\t'
  | _ => none

def withPart (p : TextPart) : List TextPart × List Char → List TextPart × List Char
  | (parts, after) => (p :: parts, after)

def readParts : List Char → Except Malformed (List TextPart × List Char)
  | [] => .error .endInText
  | '"' :: rest => .ok ([], rest)
  | '\\' :: 'u' :: a :: b :: c :: d :: rest =>
    match Text.hexNumber? [a, b, c, d] with
    | some n => (readParts rest).map (withPart (.unit n))
    | none => .error .invalidEscape
  | '\\' :: 'u' :: rest => .error (if byteLength rest < 4 then .endInText else .invalidEscape)
  | ['\\'] => .error .endInText
  | '\\' :: letter :: rest =>
    match escaped? letter with
    | some c => (readParts rest).map (withPart (.char c))
    | none => .error .invalidEscape
  | c :: rest =>
    if c.toNat < 32 then .error .controlCharacter
    else (readParts rest).map (withPart (.char c))

theorem withPart_eq_ok {p : TextPart} {read : Except Malformed (List TextPart × List Char)}
    {parts : List TextPart} {after : List Char}
    (found : read.map (withPart p) = .ok (parts, after)) :
    ∃ behind, read = .ok (behind, after) ∧ parts = p :: behind := by
  cases read with
  | error e => simp [Except.map] at found
  | ok result =>
    obtain ⟨behind, rest⟩ := result
    obtain ⟨rfl, rfl⟩ := Prod.mk.inj (Except.ok.inj found)
    exact ⟨behind, rfl, rfl⟩

theorem readParts_shorter {cs : List Char} {parts : List TextPart} {after : List Char}
    (read : readParts cs = .ok (parts, after)) : after.length ≤ cs.length := by
  fun_induction readParts cs generalizing parts after with
  | case1 | case4 | case5 | case6 | case8 | case9 => simp at read
  | case2 => simp_all
  | case3 _ _ _ _ _ _ _ ih | case7 _ _ _ _ _ _ ih | case10 _ _ _ _ _ _ _ _ ih =>
    obtain ⟨_, found, _⟩ := withPart_eq_ok read
    have := ih found
    simp only [List.length_cons]
    omega

/-- The characters of a string. Two units of a surrogate pair make one character. -/
def joinParts : List TextPart → Except Malformed (List Char)
  | [] => .ok []
  | .char c :: rest => (joinParts rest).map (c :: ·)
  | .unit n :: rest =>
    if n < 0xD800 ∨ 0xDFFF < n then (joinParts rest).map (Char.ofNat n :: ·)
    else if 0xDC00 ≤ n then .error .loneSurrogate
    else
      match rest with
      | .unit m :: rest =>
        if 0xDC00 ≤ m ∧ m ≤ 0xDFFF then
          (joinParts rest).map
            (Char.ofNat (0x10000 + (n - 0xD800) * 0x400 + (m - 0xDC00)) :: ·)
        else .error .loneSurrogate
      | _ => .error .unfinishedSurrogate

def Piece.ofParts (parts : List TextPart) : Piece :=
  match joinParts parts with
  | .ok cs => .text (String.ofList cs)
  | .error why => .void why

/-! Numbers -/

structure Numeral where
  whole : List Char
  fraction : List Char
  exponent : Option Int

def readDigits (cs : List Char) : Except Malformed (List Char × List Char) :=
  match cs with
  | [] => .error .endInValue
  | c :: _ =>
    if c.isDigit then .ok (cs.takeWhile Char.isDigit, cs.dropWhile Char.isDigit)
    else .error .invalidNumber

def readWhole (cs : List Char) : Except Malformed (List Char × List Char) :=
  match readDigits cs with
  | .ok ('0' :: _ :: _, _) => .error .invalidNumber
  | read => read

def readFraction (cs : List Char) : Except Malformed (List Char × List Char) :=
  match cs with
  | '.' :: rest => readDigits rest
  | _ => .ok ([], cs)

def readSigned (sign : Int) (cs : List Char) : Except Malformed (Option Int × List Char) :=
  match readDigits cs with
  | .error why => .error why
  | .ok (digits, after) => .ok (some (sign * Nat.ofDigitChars 10 digits 0), after)

def readExponent (cs : List Char) : Except Malformed (Option Int × List Char) :=
  match cs with
  | c :: rest =>
    if c = 'e' ∨ c = 'E' then
      match rest with
      | '-' :: rest => readSigned (-1) rest
      | '+' :: rest => readSigned 1 rest
      | rest => readSigned 1 rest
    else .ok (none, c :: rest)
  | [] => .ok (none, [])

def readNumeral (cs : List Char) : Except Malformed (Numeral × List Char) :=
  match readWhole cs with
  | .error why => .error why
  | .ok (units, cs) =>
    match readFraction cs with
    | .error why => .error why
    | .ok (parts, cs) =>
      match readExponent cs with
      | .error why => .error why
      | .ok (power, cs) => .ok (⟨units, parts, power⟩, cs)

theorem readDigits_shorter {cs digits after : List Char}
    (read : readDigits cs = .ok (digits, after)) : after.length ≤ cs.length := by
  unfold readDigits at read
  split at read
  · simp at read
  · split at read
    · obtain ⟨_, rfl⟩ := Prod.mk.inj (Except.ok.inj read)
      exact (List.dropWhile_suffix _).length_le
    · simp at read

theorem readWhole_shorter {cs digits after : List Char}
    (read : readWhole cs = .ok (digits, after)) : after.length ≤ cs.length := by
  unfold readWhole at read
  split at read
  · simp at read
  · exact readDigits_shorter read

theorem readFraction_shorter {cs digits after : List Char}
    (read : readFraction cs = .ok (digits, after)) : after.length ≤ cs.length := by
  unfold readFraction at read
  split at read
  · exact Nat.le_succ_of_le (readDigits_shorter read)
  · obtain ⟨_, rfl⟩ := Prod.mk.inj (Except.ok.inj read)
    exact Nat.le_refl _

theorem readSigned_shorter {sign : Int} {cs after : List Char} {power : Option Int}
    (read : readSigned sign cs = .ok (power, after)) : after.length ≤ cs.length := by
  unfold readSigned at read
  split at read
  · simp at read
  · rename_i digits rest found
    obtain ⟨_, rfl⟩ := Prod.mk.inj (Except.ok.inj read)
    exact readDigits_shorter found

theorem readExponent_shorter {cs after : List Char} {power : Option Int}
    (read : readExponent cs = .ok (power, after)) : after.length ≤ cs.length := by
  unfold readExponent at read
  split at read
  · split at read
    · split at read
      all_goals
        have := readSigned_shorter read
        simp only [List.length_cons] at this ⊢
        omega
    · obtain ⟨_, rfl⟩ := Prod.mk.inj (Except.ok.inj read)
      exact Nat.le_refl _
  · obtain ⟨_, rfl⟩ := Prod.mk.inj (Except.ok.inj read)
    exact Nat.le_refl _

theorem readNumeral_shorter {cs after : List Char} {n : Numeral}
    (read : readNumeral cs = .ok (n, after)) : after.length ≤ cs.length := by
  unfold readNumeral at read
  split at read
  · simp at read
  · rename_i digits behindWhole first
    split at read
    · simp at read
    · rename_i parts behindFraction second
      split at read
      · simp at read
      · rename_i power behindExponent third
        obtain ⟨_, rfl⟩ := Prod.mk.inj (Except.ok.inj read)
        exact Nat.le_trans (readExponent_shorter third)
          (Nat.le_trans (readFraction_shorter second) (readWhole_shorter first))

theorem readNumeral_digit_shorter {c : Char} {rest after : List Char} {n : Numeral}
    (digit : c.isDigit = true) (read : readNumeral (c :: rest) = .ok (n, after)) :
    after.length ≤ rest.length := by
  unfold readNumeral at read
  split at read
  · simp at read
  · rename_i digits behindWhole first
    have taken : behindWhole.length ≤ rest.length := by
      unfold readWhole at first
      split at first
      · simp at first
      · simp only [readDigits, digit, if_true] at first
        obtain ⟨_, rfl⟩ := Prod.mk.inj (Except.ok.inj first)
        rw [List.dropWhile_cons_of_pos digit]
        exact (List.dropWhile_suffix _).length_le
    split at read
    · simp at read
    · rename_i parts behindFraction second
      split at read
      · simp at read
      · rename_i power behindExponent third
        obtain ⟨_, rfl⟩ := Prod.mk.inj (Except.ok.inj read)
        exact Nat.le_trans (readExponent_shorter third)
          (Nat.le_trans (readFraction_shorter second) taken)

/-- Takes digits into a significand of 64 bits as long as it fits, and returns the digits that are
left over. -/
def absorb (significand : Nat) : List Char → Nat × List Char
  | [] => (significand, [])
  | c :: rest =>
    let next := significand * 10 + (c.toNat - '0'.toNat)
    if next < UInt64.size then absorb next rest else (significand, c :: rest)

def divideByPower (x : Float) (power : Nat) : Float :=
  if power ≤ 308 then x / Float.ofScientific 1 false power
  else if x == 0 then 0
  else divideByPower (x / 1e308) (power - 308)
termination_by power

/-- The double near `significand · 10^exponent`, rounded at each step, unless it is too large. -/
def scaled? (significand : Nat) (exponent : Int) : Option Float :=
  let x := Float.ofNat significand
  if exponent < 0 then some (divideByPower x exponent.natAbs)
  else if significand = 0 then some 0
  else if 308 < exponent then none
  else
    let y := x * Float.ofScientific 1 false exponent.toNat
    if y.isInf then none else some y

def Piece.ofReal (negative : Bool) (n : Numeral) : Piece :=
  let (significand, dropped) := absorb 0 n.whole
  let (significand, ignored) := absorb significand n.fraction
  let used := n.fraction.length - ignored.length
  match scaled? significand ((dropped.length : Int) - used + n.exponent.getD 0) with
  | some x => .real (Double.ofFloat (if negative then -x else x))
  | none => .void .numberOutOfRange

/-- Whole numbers of 64 bits, signed or unsigned, are kept exactly. The negative zero is real. -/
def Piece.ofNumeral (negative : Bool) (n : Numeral) : Piece :=
  if n.fraction.isEmpty && n.exponent.isNone then
    let value := Nat.ofDigitChars 10 n.whole 0
    if negative then
      if 0 < value ∧ Int64.minValue.toInt ≤ -(value : Int) then .whole (-value)
      else Piece.ofReal true n
    else if value < UInt64.size then .whole value
    else Piece.ofReal false n
  else Piece.ofReal negative n

/-! Texts -/

def isBlank (c : Char) : Bool := c == ' ' || c == '\n' || c == '\t' || c == '\r'

def readWord (word : List Char) (piece : Piece) (cs : List Char) : Piece × List Char :=
  if word.isPrefixOf cs then (piece, cs.drop word.length)
  else if cs.isPrefixOf word then (.broken .endInValue, [])
  else (.broken .expectedWord, [])

def readText (cs : List Char) : Piece × List Char :=
  match readParts cs with
  | .ok (parts, after) => (Piece.ofParts parts, after)
  | .error why => (.broken why, [])

def readNumber (negative : Bool) (cs : List Char) : Piece × List Char :=
  match readNumeral cs with
  | .ok (n, after) => (Piece.ofNumeral negative n, after)
  | .error why => (.broken why, [])

def readPiece (c : Char) (rest : List Char) : Piece × List Char :=
  match c with
  | '[' => (.openArray, rest)
  | ']' => (.closeArray, rest)
  | '{' => (.openObject, rest)
  | '}' => (.closeObject, rest)
  | ',' => (.comma, rest)
  | ':' => (.colon, rest)
  | 'n' => readWord ['u', 'l', 'l'] .null rest
  | 't' => readWord ['r', 'u', 'e'] (.bool true) rest
  | 'f' => readWord ['a', 'l', 's', 'e'] (.bool false) rest
  | '"' => readText rest
  | '-' => readNumber true rest
  | c => if c.isDigit then readNumber false (c :: rest) else (.broken .expectedValue, [])

theorem readWord_shorter (word : List Char) (piece : Piece) (cs : List Char) :
    (readWord word piece cs).2.length ≤ cs.length := by
  unfold readWord
  split
  · simp
  · split <;> exact Nat.zero_le _

theorem readText_shorter (cs : List Char) : (readText cs).2.length ≤ cs.length := by
  unfold readText
  split
  · rename_i read
    exact readParts_shorter read
  · exact Nat.zero_le _

theorem readNumber_shorter (negative : Bool) (cs : List Char) :
    (readNumber negative cs).2.length ≤ cs.length := by
  unfold readNumber
  split
  · rename_i read
    exact readNumeral_shorter read
  · exact Nat.zero_le _

theorem readPiece_shorter (c : Char) (rest : List Char) :
    (readPiece c rest).2.length ≤ rest.length := by
  unfold readPiece
  split
  case h_7 | h_8 | h_9 => exact readWord_shorter _ _ _
  case h_10 => exact readText_shorter _
  case h_11 => exact readNumber_shorter _ _
  case h_12 =>
    split
    · rename_i digit
      unfold readNumber
      split
      · rename_i read
        exact readNumeral_digit_shorter digit read
      · exact Nat.zero_le _
    · exact Nat.zero_le _
  all_goals exact Nat.le_refl _

def pieces (cs : List Char) : List Piece :=
  match cs with
  | [] => []
  | c :: rest =>
    if isBlank c then pieces rest
    else (readPiece c rest).1 :: pieces (readPiece c rest).2
termination_by cs.length
decreasing_by
  · simp
  · have := readPiece_shorter c rest
    simp only [List.length_cons]
    omega

end TimelineFilter.Json
