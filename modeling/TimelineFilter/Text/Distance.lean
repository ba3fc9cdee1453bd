namespace TimelineFilter.Text

/-- Given the distances of every suffix of a word to `ys`, longest suffix first, the distances of
the same suffixes to `y :: ys`. -/
def distanceRow (y : Char) : List Char → List Nat → List Nat
  | [], row => [row.headD 0 + 1]
  | x :: xs, row =>
    let below := distanceRow y xs row.tail
    let kept := row.tail.headD 0 + (if x = y then 0 else 1)
    min kept (min (row.headD 0 + 1) (below.headD 0 + 1)) :: below

def lengthRow : List Char → List Nat
  | [] => [0]
  | _ :: xs => (xs.length + 1) :: lengthRow xs

def distance (xs ys : List Char) : Nat :=
  (ys.foldr (fun y row => distanceRow y xs row) (lengthRow xs)).headD 0

example : distance "kitten".toList "sitting".toList = 3 := by decide
example : distance "".toList "abc".toList = 3 := by decide

end TimelineFilter.Text
