import TimelineFilter.Regex.CharClass

/-!
Patterns and what they match. A pattern relates places in a text: `reached` takes the set of places
where a match may start to the set of places where it may end. Whether a text has a match at all
does not depend on which of several repetitions is preferred, so no preference is kept.
-/
namespace TimelineFilter.Regex

inductive Assertion
  | textStart | textEnd
  | lineStart | lineEnd
  | mixedLineStart | mixedLineEnd
  | boundary (cls : CharClass)
  | notBoundary (cls : CharClass)
  | wordStart (cls : CharClass)
  | wordEnd (cls : CharClass)
  | wordStartHalf (cls : CharClass)
  | wordEndHalf (cls : CharClass)
deriving DecidableEq, Repr

inductive Pattern
  | empty
  | char (cls : CharClass)
  | assert (a : Assertion)
  | seq (a b : Pattern)
  | alt (a b : Pattern)
  | repeat (p : Pattern) (least : Nat) (most : Option Nat)
deriving DecidableEq, Repr

structure Place where
  before : Option Char
  after : Option Char

def placesAfter (before : Option Char) : List Char → List Place
  | [] => [⟨before, none⟩]
  | c :: rest => ⟨before, some c⟩ :: placesAfter (some c) rest

def places (text : List Char) : List Place := placesAfter none text

def Place.has (side : Option Char) (cls : CharClass) : Bool := side.any (cls.has ·.toNat)

def Assertion.holds (p : Place) : Assertion → Bool
  | .textStart => p.before.isNone
  | .textEnd => p.after.isNone
  | .lineStart => p.before.isNone || p.before == some '\n'
  | .lineEnd => p.after.isNone || p.after == some '\n'
  | .mixedLineStart =>
    p.before.isNone || p.before == some '\n' || (p.before == some '\r' && p.after != some '\n')
  | .mixedLineEnd =>
    p.after.isNone || p.after == some '\r' || (p.after == some '\n' && p.before != some '\r')
  | .boundary w => Place.has p.before w != Place.has p.after w
  | .notBoundary w => Place.has p.before w == Place.has p.after w
  | .wordStart w => !Place.has p.before w && Place.has p.after w
  | .wordEnd w => Place.has p.before w && !Place.has p.after w
  | .wordStartHalf w => !Place.has p.before w
  | .wordEndHalf w => !Place.has p.after w

/-- A set of places of a text: one flag for each. -/
abbrev PlaceSet := List Bool

def PlaceSet.union (s t : PlaceSet) : PlaceSet := List.zipWith (· || ·) s t

def PlaceSet.advance (cls : CharClass) (text : List Place) (s : PlaceSet) : PlaceSet :=
  (false :: List.zipWith (fun here p => here && Place.has p.after cls) s text).dropLast

def PlaceSet.grow (step : PlaceSet → PlaceSet) : Nat → PlaceSet → PlaceSet
  | 0, s => s
  | times + 1, s =>
    let t := s.union (step s)
    if t = s then s else grow step times t

def PlaceSet.iterate (step : PlaceSet → PlaceSet) : Nat → PlaceSet → PlaceSet
  | 0, s => s
  | times + 1, s =>
    let t := step s
    if t = s then s else iterate step times t

/-- The places where a match that starts in `s` can end. -/
def Pattern.reached (text : List Place) : Pattern → PlaceSet → PlaceSet
  | .empty, s => s
  | .char cls, s => s.advance cls text
  | .assert a, s => List.zipWith (fun here p => here && a.holds p) s text
  | .seq a b, s => b.reached text (a.reached text s)
  | .alt a b, s => (a.reached text s).union (b.reached text s)
  | .repeat p least most, s =>
    let more := match most with
      | some n => n - least
      | none => text.length
    (s.iterate (p.reached text) least).grow (p.reached text) more

def Pattern.matchesIn (p : Pattern) (text : String) : Bool :=
  let all := places text.toList
  (p.reached all (all.map fun _ => true)).any id

end TimelineFilter.Regex
