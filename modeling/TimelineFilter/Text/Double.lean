/-!
Decimal text of a double: the fewest digits that read back as the same double, and of those the
nearest to its value. Everything is computed in whole numbers from the bits, so nothing is rounded
on the way.
-/
namespace TimelineFilter

structure Double where
  bits : UInt64
deriving DecidableEq, Repr

namespace Double

def ofFloat (x : Float) : Double := ⟨x.toBits⟩

def toFloat (x : Double) : Float := Float.ofBits x.bits

def isNegative (x : Double) : Bool := x.bits.toNat ≥ Nat.pow 2 63

def isFinite (x : Double) : Bool := x.bits.toNat / Nat.pow 2 52 % Nat.pow 2 11 != 2047

/-- The reals that round to one double, each boundary as a multiple of the same unit: a power of
two, given as a fraction. -/
structure Rounding where
  low : Nat
  value : Nat
  high : Nat
  closed : Bool
  unitNum : Nat
  unitDen : Nat

/-- What rounds to the magnitude of a finite double. The gap below a power of two is half as wide
as the gap above. -/
def rounding (x : Double) : Rounding :=
  let fraction := x.bits.toNat % Nat.pow 2 52
  let scale := x.bits.toNat / Nat.pow 2 52 % Nat.pow 2 11
  let m := if scale = 0 then fraction else Nat.pow 2 52 + fraction
  let q := if scale = 0 then 1 else scale
  { low := 4 * m - (if fraction = 0 ∧ 1 < scale then 1 else 2)
    value := 4 * m
    high := 4 * m + 2
    closed := m % 2 == 0
    unitNum := if 1077 ≤ q then Nat.pow 2 (q - 1077) else 1
    unitDen := if 1077 ≤ q then 1 else Nat.pow 2 (1077 - q) }

def Rounding.admits (r : Rounding) (n : Nat) (e : Int) : Bool :=
  let left := n * Nat.pow 10 e.toNat * r.unitDen
  let scaled (bound : Nat) := bound * r.unitNum * Nat.pow 10 (-e).toNat
  if r.closed then scaled r.low ≤ left && left ≤ scaled r.high
  else scaled r.low < left && left < scaled r.high

def Rounding.magnitude (r : Rounding) : Int :=
  let num := r.value * r.unitNum
  if r.unitDen ≤ num then ((Nat.toDigits 10 (num / r.unitDen)).length : Int) - 1
  else
    match (List.range 330).find? fun j => r.unitDen ≤ num * Nat.pow 10 (j + 1) with
    | some j => -(j + 1 : Int)
    | none => -330

/-- Of the two neighbours of the value on the grid `10^e`, the nearer one that rounds to it. -/
def Rounding.onGrid? (r : Rounding) (e : Int) : Option Nat :=
  let num := r.value * r.unitNum * Nat.pow 10 (-e).toNat
  let den := r.unitDen * Nat.pow 10 e.toNat
  let below := num / den
  let remainder := num % den
  let nearBelow := 2 * remainder < den || (2 * remainder == den && below % 2 == 0)
  match r.admits below e, r.admits (below + 1) e with
  | true, true => some (if nearBelow then below else below + 1)
  | true, false => some below
  | false, true => some (below + 1)
  | false, false => none

def Rounding.shortest (r : Rounding) : Nat × Int :=
  let top := r.magnitude
  ((List.range 17).findSome? fun (places : Nat) =>
    (r.onGrid? (top - places)).map fun n => (n, top - (places : Int))).getD (0, 0)

def trimZeros (n : Nat) (e : Int) : List Char × Int :=
  let digits := Nat.toDigits 10 n
  let kept := (digits.reverse.dropWhile (· == '0')).reverse
  (kept, e + (digits.length - kept.length : Nat))

/-- How digits with an exponent are written: positionally from `10^-5` up to `10^16`, and with one
digit in front of the point beyond. -/
def layout (digits : List Char) (e : Int) : List Char :=
  let point : Int := digits.length + e
  if 0 ≤ e ∧ point ≤ 16 then digits ++ List.replicate e.toNat '0' ++ ['.', '0']
  else if 0 < point ∧ point ≤ 16 then
    digits.take point.toNat ++ '.' :: digits.drop point.toNat
  else if -5 < point ∧ point ≤ 0 then
    '0' :: '.' :: (List.replicate (-point).toNat '0' ++ digits)
  else
    let mantissa :=
      match digits with
      | [d] => [d]
      | d :: rest => d :: '.' :: rest
      | [] => []
    let power := point - 1
    mantissa ++ 'e' :: ((if power < 0 then ['-'] else []) ++ Nat.toDigits 10 power.natAbs)

def render (x : Double) : String :=
  let sign := if x.isNegative then ['-'] else []
  let r := x.rounding
  String.ofList <| sign ++
    if r.value = 0 then ['0', '.', '0']
    else
      let (n, e) := r.shortest
      let (digits, e) := trimZeros n e
      layout digits e

end Double

example : (Double.mk 0x3FF8000000000000).rounding.shortest = (15, -1) := by decide +kernel
example : (Double.mk 1).rounding.shortest = (5, -324) := by decide +kernel
example : Double.layout ['1', '5'] (-1) = ['1', '.', '5'] := by decide

end TimelineFilter
