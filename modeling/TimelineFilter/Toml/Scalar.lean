import TimelineFilter.Timeline.Date
import TimelineFilter.Text.Hex
import TimelineFilter.Toml

namespace TimelineFilter.Toml

def isScalarChar (c : Char) : Bool :=
  c.isAlphanum || c == '+' || c == '-' || c == '_' || c == '.' || c == ':'

def digitsOf? (isDigit : Char → Bool) : List Char → Option (List Char)
  | [] => none
  | [d] => if isDigit d then some [d] else none
  | d :: '_' :: rest =>
    if isDigit d then (digitsOf? isDigit rest).map (d :: ·) else none
  | d :: rest => if isDigit d then (digitsOf? isDigit rest).map (d :: ·) else none

def leadDigitsOf? (cs : List Char) : Option (List Char) :=
  match digitsOf? Char.isDigit cs with
  | some ('0' :: _ :: _) => none
  | found => found

def fits64 (n : Int) : Option Int :=
  if Int64.minValue.toInt ≤ n ∧ n ≤ Int64.maxValue.toInt then some n else none

def signOf : List Char → Bool × List Char
  | '-' :: rest => (true, rest)
  | '+' :: rest => (false, rest)
  | cs => (false, cs)

def inBase? (base : Nat) (cs : List Char) : Option Int :=
  (digitsOf? (fun c => (Text.hexDigit? c).any (· < base)) cs).bind fun digits =>
    let n : Nat := (digits.filterMap Text.hexDigit?).foldl (fun n d => n * base + d) 0
    fits64 n

/-- A whole number. Only decimal numbers have a sign. -/
def whole? (cs : List Char) : Option Int :=
  match cs with
  | '0' :: 'x' :: rest => inBase? 16 rest
  | '0' :: 'o' :: rest => inBase? 8 rest
  | '0' :: 'b' :: rest => inBase? 2 rest
  | cs =>
    let (negative, rest) := signOf cs
    (leadDigitsOf? rest).bind fun digits =>
      let n : Int := Nat.ofDigitChars 10 digits 0
      fits64 (if negative then -n else n)

def powerOf? (cs : List Char) : Option Int :=
  let (negative, rest) := signOf cs
  (digitsOf? Char.isDigit rest).map fun digits =>
    let n : Int := Nat.ofDigitChars 10 digits 0
    if negative then -n else n

def nearest? (digits : List Char) (power : Int) : Option Float :=
  let n := Nat.ofDigitChars 10 digits 0
  let size := (Nat.toDigits 10 n).length + power
  if n = 0 ∨ size < -400 then some 0
  else if 400 < size then none
  else
    let x :=
      if power < 0 then Float.ofScientific n true power.natAbs
      else Float.ofScientific n false power.natAbs
    if x.isInf then none else some x

def isPower (c : Char) : Bool := c == 'e' || c == 'E'

def decimal? (cs : List Char) : Option Float :=
  let mantissa := cs.takeWhile (!isPower ·)
  let power :=
    match cs.dropWhile (!isPower ·) with
    | [] => some none
    | _ :: rest => (powerOf? rest).map some
  let lead := mantissa.takeWhile (· != '.')
  let fraction :=
    match mantissa.dropWhile (· != '.') with
    | [] => some none
    | _ :: rest => (digitsOf? Char.isDigit rest).map some
  match leadDigitsOf? lead, fraction, power with
  | some units, some none, some (some e) => nearest? units e
  | some units, some (some part), some e =>
    nearest? (units ++ part) (e.getD 0 - (part.length : Int))
  | _, _, _ => none

def real? (cs : List Char) : Option Double :=
  let (negative, rest) := signOf cs
  let magnitude :=
    if rest = ['i', 'n', 'f'] then some (1 / 0 : Float)
    else if rest = ['n', 'a', 'n'] then some (0 / 0 : Float)
    else decimal? rest
  magnitude.map fun x => Double.ofFloat (if negative then -x else x)

def pair? (low high : Nat) (a b : Char) : Option Nat :=
  if a.isDigit && b.isDigit then
    let n := Nat.ofDigitChars 10 [a, b] 0
    if low ≤ n ∧ n ≤ high then some n else none
  else none

def date? : List Char → Option (List Char × List Char)
  | y :: z :: u :: v :: '-' :: m :: n :: '-' :: d :: e :: rest =>
    if [y, z, u, v].all Char.isDigit then
      match pair? 1 12 m n, pair? 1 31 d e with
      | some month, some day =>
        if (Date.ofNumbers? (Nat.ofDigitChars 10 [y, z, u, v] 0) month day).isSome then
          some ([y, z, u, v, '-', m, n, '-', d, e], rest)
        else none
      | _, _ => none
    else none
  | _ => none

/-- The fraction of a second: nine digits count, and zeros at the end are dropped. -/
def fractionText (digits : List Char) : List Char :=
  match ((digits.take 9).reverse.dropWhile (· == '0')).reverse with
  | [] => []
  | kept => '.' :: kept

def clock? : List Char → Option (List Char × List Char)
  | h :: i :: ':' :: m :: n :: ':' :: s :: t :: rest =>
    match pair? 0 23 h i, pair? 0 59 m n, pair? 0 60 s t with
    | some _, some _, some _ =>
      let head := [h, i, ':', m, n, ':', s, t]
      match rest with
      | '.' :: c :: more =>
        if c.isDigit then
          some (head ++ fractionText ((c :: more).takeWhile Char.isDigit),
            (c :: more).dropWhile Char.isDigit)
        else none
      | rest => some (head, rest)
    | _, _, _ => none
  | _ => none

def offset? : List Char → Option (List Char)
  | [] => some []
  | ['Z'] | ['z'] => some ['Z']
  | [sign, h, i, ':', m, n] =>
    if sign == '+' || sign == '-' then
      match pair? 0 23 h i, pair? 0 59 m n with
      | some _, some _ => some [sign, h, i, ':', m, n]
      | _, _ => none
    else none
  | _ => none

def time? (cs : List Char) : Option (List Char) :=
  match date? cs with
  | some (date, []) => some date
  | some (date, c :: rest) =>
    if c == 'T' || c == 't' || c == ' ' then
      (clock? rest).bind fun (clock, after) =>
        (offset? after).map fun offset => date ++ 'T' :: (clock ++ offset)
    else none
  | none =>
    match clock? cs with
    | some (clock, []) => some clock
    | _ => none

def scalar? (word : List Char) : Option Toml :=
  if word = "true".toList then some (.bool true)
  else if word = "false".toList then some (.bool false)
  else
    match whole? word, real? word, time? word with
    | some n, _, _ => some (.whole n)
    | none, some x, _ => some (.real x)
    | none, none, some t => some (.time (String.ofList t))
    | none, none, none => none

/-- The word of a scalar at the front, with a time of day behind a date, and what follows. -/
def readScalar (cs : List Char) : Option (Toml × List Char) :=
  let word := cs.takeWhile isScalarChar
  let rest := cs.dropWhile isScalarChar
  let longer :=
    match rest with
    | ' ' :: more =>
      if (date? word).isSome && word.length == 10 then
        (time? (word ++ ' ' :: more.takeWhile isScalarChar)).map fun t =>
          (Toml.time (String.ofList t), more.dropWhile isScalarChar)
      else none
    | _ => none
  match longer with
  | some found => some found
  | none => (scalar? word).map (·, rest)

example : (whole? "-1_000".toList) = some (-1000) := by decide
example : (time? "1979-05-27t07:32:00.500z".toList) = some "1979-05-27T07:32:00.5Z".toList := by
  decide

end TimelineFilter.Toml
