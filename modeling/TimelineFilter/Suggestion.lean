import TimelineFilter.Text.Distance
import TimelineFilter.Text.Lower

namespace TimelineFilter

/-- The first candidate with the least cost, and that cost. -/
def leastBy (cost : String → Nat) : List String → Option (String × Nat)
  | [] => none
  | c :: rest =>
    match leastBy cost rest with
    | some (best, d) => if d < cost c then some (best, d) else some (c, cost c)
    | none => some (c, cost c)

def nameDistance (a b : String) : Nat :=
  Text.distance (Text.lowerChars a.toList) (Text.lowerChars b.toList)

def suggest (name : String) (candidates : List String) : Option String :=
  match leastBy (nameDistance name) (candidates.filter (· ≠ "")) with
  | some (best, d) => if 0 < d ∧ d ≤ 2 then some best else none
  | none => none

example : suggest "hmoe" ["local", "home"] = some "home" := by cbv

end TimelineFilter
