/-!
Likeness of two words between 0 and 1: matching characters within a window, the order of the
matches, and a bonus for a common beginning. Computed in doubles, so the value of a borderline
case is the rounded one.
-/
namespace TimelineFilter.Text

def markFirst (c : Char) (low high : Nat) : Nat → List (Char × Bool) → Option (List (Char × Bool))
  | _, [] => none
  | place, (d, taken) :: rest =>
    if place ≥ high then none
    else if low ≤ place && d == c && !taken then some ((d, true) :: rest)
    else (markFirst c low high (place + 1) rest).map ((d, taken) :: ·)

/-- The characters of the first word that find a partner in the second, and the second word with
its partners marked. -/
def matched (window : Nat) : Nat → List Char → List (Char × Bool) →
    List Char × List (Char × Bool)
  | _, [], marks => ([], marks)
  | place, c :: rest, marks =>
    match markFirst c (place - window) (place + window + 1) 0 marks with
    | some marks' =>
      let (found, last) := matched window (place + 1) rest marks'
      (c :: found, last)
    | none => matched window (place + 1) rest marks

/-- The mean of three shares: matches in each word and matches in the same order. -/
def likenessBase (a b : List Char) : Float :=
  if a.isEmpty && b.isEmpty then 1
  else
    let window := max a.length b.length / 2 - 1
    let (left, marks) := matched window 0 a (b.map (·, false))
    let right := (marks.filter (·.2)).map (·.1)
    let count := left.length
    let moved := ((left.zip right).filter fun (x, y) => x != y).length / 2
    if count == 0 then 0
    else
      (Float.ofNat count / Float.ofNat a.length + Float.ofNat count / Float.ofNat b.length
        + Float.ofNat (count - moved) / Float.ofNat count) / 3

def commonStart (a b : List Char) : Nat :=
  (((a.take 4).zip b).takeWhile fun (x, y) => x == y).length

/-- The likeness of two words. Words that are alike by more than 0.7 gain by a common start. -/
def likeness (a b : String) : Float :=
  let base := likenessBase a.toList b.toList
  if base > 0.7 then
    base + 0.1 * Float.ofNat (commonStart a.toList b.toList) * (1 - base)
  else base

end TimelineFilter.Text
