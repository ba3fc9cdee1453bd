import TimelineFilter.Text.Blank
import TimelineFilter.Text.Decimal
import TimelineFilter.Timeline.Date

/-!
Points in time with a resolution of nanoseconds, in universal time. A leap second is the second
after the last one of its minute: its nanoseconds go on beyond a thousand million.

`Instant.ofText` reads date, time and offset in the order of RFC 3339, with blanks allowed between
the parts; `Instant.render` writes them without blanks.
-/
namespace TimelineFilter

structure Instant where
  date : Date
  second : Nat
  nano : Nat
  second_lt : second < 86400
  nano_lt : nano < 2000000000
  leap : 1000000000 ≤ nano → second % 60 = 59
deriving DecidableEq

inductive TimeProblem
  | outOfRange | impossible | invalid | tooShort | trailing
deriving DecidableEq, Repr

def TimeProblem.message : TimeProblem → String
  | .outOfRange => "input is out of range"
  | .impossible => "no possible date and time matching input"
  | .invalid => "input contains invalid characters"
  | .tooShort => "premature end of input"
  | .trailing => "trailing input"

namespace Instant

abbrev Part (α : Type) := Except TimeProblem (α × List Char)

def readDigits (width : Nat) (cs : List Char) : Part (List Char) :=
  match cs with
  | [] => .error .tooShort
  | c :: _ =>
    if c.isDigit then
      let digits := (cs.take width).takeWhile Char.isDigit
      .ok (digits, cs.drop digits.length)
    else .error .invalid

/-- A number of at most `width` digits behind blanks, with a value between `low` and `high`. -/
def readNumber (width low high : Nat) (cs : List Char) : Part Nat :=
  match readDigits width (Text.trimBlanks cs) with
  | .error e => .error e
  | .ok (digits, rest) =>
    let n := Nat.ofDigitChars 10 digits 0
    if low ≤ n ∧ n ≤ high then .ok (n, rest) else .error .outOfRange

/-- A year of four digits, or of any number of digits behind a sign. -/
def readYear (cs : List Char) : Part Int :=
  let signed (sign : Int) (rest : List Char) : Part Int :=
    match readDigits rest.length rest with
    | .error e => .error e
    | .ok (digits, after) =>
      let year := sign * Nat.ofDigitChars 10 digits 0
      if -2147483648 ≤ year ∧ year ≤ 2147483647 then .ok (year, after) else .error .outOfRange
  match Text.trimBlanks cs with
  | '-' :: rest => signed (-1) rest
  | '+' :: rest => signed 1 rest
  | rest =>
    match readDigits 4 rest with
    | .error e => .error e
    | .ok (digits, after) => .ok (Nat.ofDigitChars 10 digits 0, after)

def readSeparator (c : Char) (cs : List Char) : Part Unit :=
  match Text.trimBlanks cs with
  | [] => .error .tooShort
  | d :: rest => if d = c then .ok ((), Text.trimBlanks rest) else .error .invalid

/-- The optional fraction of a second, in nanoseconds. Digits beyond the ninth are dropped. -/
def readFraction (cs : List Char) : Part Nat :=
  match cs with
  | '.' :: rest =>
    match readDigits 9 rest with
    | .error e => .error e
    | .ok (digits, after) =>
      .ok (Nat.ofDigitChars 10 digits 0 * Nat.pow 10 (9 - digits.length),
        after.dropWhile Char.isDigit)
  | cs => .ok (0, cs)

def readOffsetMinutes (cs : List Char) : Part Nat :=
  match cs with
  | [] => .error .tooShort
  | [c] => if c.utf8Size = 1 then .error .tooShort else .error .invalid
  | c :: d :: rest =>
    if d.isDigit then
      if '0' ≤ c ∧ c ≤ '5' then .ok (Nat.ofDigitChars 10 [c, d] 0, rest)
      else if '6' ≤ c ∧ c ≤ '9' then .error .outOfRange
      else .error .invalid
    else .error .invalid

def readSignedOffset (sign : Int) (cs : List Char) : Part Int :=
  match cs with
  | [] => .error .tooShort
  | [c] => if c.utf8Size = 1 then .error .tooShort else .error .invalid
  | c :: d :: rest =>
    if c.isDigit && d.isDigit then
      match readOffsetMinutes (rest.dropWhile fun e => e == ':' || Text.isBlank e) with
      | .error e => .error e
      | .ok (minutes, after) =>
        .ok (sign * (Nat.ofDigitChars 10 [c, d] 0 * 3600 + minutes * 60), after)
    else .error .invalid

def readOffset (cs : List Char) : Part Int :=
  match Text.trimBlanks cs with
  | [] => .error .tooShort
  | c :: rest =>
    if c.toLower = 'z' then .ok (0, rest)
    else if c.toLower = 'u' ∧ (rest.take 2).map Char.toLower = ['t', 'c'] then .ok (0, rest.drop 2)
    else if c = '+' then readSignedOffset 1 rest
    else if c = '-' ∨ c = '−' then readSignedOffset (-1) rest
    else .error .invalid

structure Numbers where
  year : Int
  month : Nat
  day : Nat
  hour : Nat
  minute : Nat
  second : Nat
  nano : Nat
  offset : Int

def readMiddle (cs : List Char) : Part Unit :=
  match cs with
  | [] => .error .tooShort
  | c :: rest => if c = 'T' ∨ c = 't' ∨ c = ' ' then .ok ((), rest) else .error .invalid

def readNumbers (cs : List Char) : Except TimeProblem Numbers := do
  let (year, cs) ← readYear cs
  let (_, cs) ← readSeparator '-' cs
  let (month, cs) ← readNumber 2 1 12 cs
  let (_, cs) ← readSeparator '-' cs
  let (day, cs) ← readNumber 2 1 31 cs
  let (_, cs) ← readMiddle cs
  let (hour, cs) ← readNumber 2 0 23 cs
  let (_, cs) ← readSeparator ':' cs
  let (minute, cs) ← readNumber 2 0 59 cs
  let (_, cs) ← readSeparator ':' cs
  let (second, cs) ← readNumber 2 0 60 cs
  let (nano, cs) ← readFraction cs
  let (offset, cs) ← readOffset cs
  match Text.trimBlanks cs with
  | [] => .ok ⟨year, month, day, hour, minute, second, nano, offset⟩
  | _ => .error .trailing

def yearInRange (year : Int) : Bool := -262143 ≤ year && year ≤ 262142

/-- The time of a date and a second of that day, where the second may lie up to a day outside. -/
def ofLocal (date : Date) (second : Int) (nano : Nat) (nano_lt : nano < 2000000000)
    (leap : 1000000000 ≤ nano → second % 60 = 59) : Instant :=
  let moved := if second < 0 then date.previous else if 86400 ≤ second then date.next else date
  ⟨moved, (second % 86400).toNat, nano, by omega, nano_lt, by omega⟩

def ofNumbers (n : Numbers) : Except TimeProblem Instant :=
  if !yearInRange n.year then .error .outOfRange
  else
    match Date.ofNumbers? n.year n.month n.day with
    | none => .error .outOfRange
    | some date =>
      if n.offset ≤ -86400 ∨ 86400 ≤ n.offset then .error .outOfRange
      else
        let isLeap := n.second = 60
        let second : Int :=
          n.hour * 3600 + n.minute * 60 + (if isLeap then 59 else n.second) - n.offset
        let nano := if isLeap then n.nano + 1000000000 else n.nano
        if valid : nano < 2000000000 ∧ (1000000000 ≤ nano → second % 60 = 59) then
          let found := ofLocal date second nano valid.1 valid.2
          if yearInRange found.date.year then .ok found else .error .impossible
        else .error .outOfRange

def ofText (text : String) : Except TimeProblem Instant := readNumbers text.toList >>= ofNumbers

def ofNanoseconds (n : Nat) : Instant :=
  let seconds := n / 1000000000
  ⟨Date.epoch.plus (seconds / 86400), seconds % 86400, n % 1000000000, by omega, by omega,
    by omega⟩

/-- A year as four digits, or with a sign outside of the years 0 to 9999. -/
def renderYear (year : Int) : String :=
  if 0 ≤ year ∧ year ≤ 9999 then Text.zeroPadded 4 year.toNat
  else (if year < 0 then "-" else "+") ++ Text.zeroPadded 4 year.natAbs

/-- The fraction of a second with no, three, six or nine digits, whichever are needed. -/
def renderFraction (nano : Nat) : String :=
  if nano = 0 then ""
  else if nano % 1000000 = 0 then "." ++ Text.zeroPadded 3 (nano / 1000000)
  else if nano % 1000 = 0 then "." ++ Text.zeroPadded 6 (nano / 1000)
  else "." ++ Text.zeroPadded 9 nano

def render (t : Instant) : String :=
  let extra := if 1000000000 ≤ t.nano then 1 else 0
  renderYear t.date.year ++ "-" ++ Text.zeroPadded 2 t.date.month ++ "-"
    ++ Text.zeroPadded 2 t.date.day ++ "T" ++ Text.zeroPadded 2 (t.second / 3600) ++ ":"
    ++ Text.zeroPadded 2 (t.second / 60 % 60) ++ ":" ++ Text.zeroPadded 2 (t.second % 60 + extra)
    ++ renderFraction (t.nano % 1000000000) ++ "Z"

/-- The nanoseconds from `a` to `b`. A leap second counts when it lies between two times of one
day. -/
def nanosecondsFrom (a b : Instant) : Int :=
  let days := b.date.number - a.date.number
  let counted : Int :=
    if a.second < b.second ∧ 1000000000 ≤ a.nano then 1
    else if b.second < a.second ∧ 1000000000 ≤ b.nano then -1
    else 0
  (days * 86400 + (b.second - a.second) + counted) * 1000000000 + (b.nano - a.nano)

def secondsFrom (a b : Instant) : Int := (nanosecondsFrom a b).tdiv 1000000000

end Instant

end TimelineFilter
