namespace TimelineFilter.Text

abbrev Ranges := List (Nat × Nat)

def Ranges.has : Ranges → Nat → Bool
  | [], _ => false
  | (first, last) :: rest, point =>
    if point < first then false else point ≤ last || Ranges.has rest point

/-- Every `stride`-th code point from `first` to `last`, moved by `shift`. -/
structure Shift where
  first : Nat
  last : Nat
  stride : Nat
  shift : Int
deriving Repr, DecidableEq

def Shift.covers (run : Shift) (point : Nat) : Bool :=
  run.first ≤ point && point ≤ run.last && (point - run.first) % run.stride == 0

def Shift.image (run : Shift) (point : Nat) : Nat := ((point : Int) + run.shift).toNat

/-- The image of a code point under a list of disjoint runs; points outside all of them stay. -/
def shifted (runs : List Shift) (point : Nat) : Nat :=
  match runs.find? (·.covers point) with
  | some run => run.image point
  | none => point

def shiftSources (runs : List Shift) (point : Nat) : List Nat :=
  runs.filterMap fun run =>
    let source := ((point : Int) - run.shift).toNat
    if run.covers source && run.image source == point then some source else none

end TimelineFilter.Text
