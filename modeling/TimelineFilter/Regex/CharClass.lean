import TimelineFilter.Text.Blank
import TimelineFilter.Text.Fold
import TimelineFilter.Text.Word

namespace TimelineFilter.Regex

inductive CharClass
  | none
  | ranges (ranges : Text.Ranges)
  | digit
  | blank
  | word
  | alphabetic
  | union (a b : CharClass)
  | intersection (a b : CharClass)
  | complement (a : CharClass)
  /-- The class and everything that differs from a member only in case. -/
  | folded (a : CharClass)
  | asciiFolded (a : CharClass)
deriving DecidableEq, Repr

namespace CharClass

def asciiSwap (point : Nat) : Nat :=
  if 0x41 ≤ point ∧ point ≤ 0x5A then point + 32
  else if 0x61 ≤ point ∧ point ≤ 0x7A then point - 32
  else point

def has : CharClass → Nat → Bool
  | .none, _ => false
  | .ranges rs, point => rs.any fun (first, last) => first ≤ point && point ≤ last
  | .digit, point => Text.digitRanges.has point
  | .blank, point => Text.blankRanges.has point
  | .word, point => Text.isWordPoint point
  | .alphabetic, point => Text.isAlphabetic point
  | .union a b, point => a.has point || b.has point
  | .intersection a b, point => a.has point && b.has point
  | .complement a, point => !a.has point
  | .folded a, point => (Text.foldClass point).any a.has
  | .asciiFolded a, point => a.has point || a.has (asciiSwap point)

def single (c : Char) : CharClass := .ranges [(c.toNat, c.toNat)]

def symmetricDifference (a b : CharClass) : CharClass :=
  .union (.intersection a (.complement b)) (.intersection b (.complement a))

def asciiDigit : CharClass := .ranges [(0x30, 0x39)]

def asciiBlank : CharClass := .ranges [(0x09, 0x0D), (0x20, 0x20)]

def asciiWord : CharClass := .ranges [(0x30, 0x39), (0x41, 0x5A), (0x5F, 0x5F), (0x61, 0x7A)]

def named? : String → Option CharClass
  | "alnum" => some (.ranges [(0x30, 0x39), (0x41, 0x5A), (0x61, 0x7A)])
  | "alpha" => some (.ranges [(0x41, 0x5A), (0x61, 0x7A)])
  | "ascii" => some (.ranges [(0x00, 0x7F)])
  | "blank" => some (.ranges [(0x09, 0x09), (0x20, 0x20)])
  | "cntrl" => some (.ranges [(0x00, 0x1F), (0x7F, 0x7F)])
  | "digit" => some asciiDigit
  | "graph" => some (.ranges [(0x21, 0x7E)])
  | "lower" => some (.ranges [(0x61, 0x7A)])
  | "print" => some (.ranges [(0x20, 0x7E)])
  | "punct" => some (.ranges [(0x21, 0x2F), (0x3A, 0x40), (0x5B, 0x60), (0x7B, 0x7E)])
  | "space" => some asciiBlank
  | "upper" => some (.ranges [(0x41, 0x5A)])
  | "word" => some asciiWord
  | "xdigit" => some (.ranges [(0x30, 0x39), (0x41, 0x46), (0x61, 0x66)])
  | _ => Option.none

end CharClass

end TimelineFilter.Regex
