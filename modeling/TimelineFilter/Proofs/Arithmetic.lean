import TimelineFilter.Proofs.FirstFault
import TimelineFilter.Standalone
import Mathlib.Data.Int.ModEq

namespace TimelineFilter

/-- What an operator computes with integers of any size. Only for a quotient are they cut to those
that can be stored. -/
def BinaryOp.unbounded? : BinaryOp → Option (Int → Int → Int)
  | .add => some (· + ·)
  | .subtract => some (· - ·)
  | .multiply => some (· * ·)
  | .divide => some fun x y => (Int64.ofInt x).toInt.tdiv (Int64.ofInt y).toInt
  | _ => none

/-- What a numeric tree computes with integers of any size. -/
def Predicate.unbounded? : Predicate → Option (Meaning Int)
  | .binary op left right =>
    match op.unbounded?, left.unbounded?, right.unbounded? with
    | some compute, some x, some y => some fun s c => compute (x s c) (y s c)
    | _, _, _ => none
  | .unary .negate operand => operand.unbounded?.map fun x s c => -x s c
  | .unary .caseful operand => operand.unbounded?
  | .bracket inner => inner.unbounded?
  | .value v =>
    match TypedMeaning.ofValue v with
    | .numeric f => some fun s c => (f s c).toInt
    | _ => none
  | _ => none

theorem ofInt_eq_iff {x : Int} {n : Int64} : Int64.ofInt x = n ↔ n.toInt ≡ x [ZMOD 2 ^ 64] := by
  have least := n.le_toInt
  have most := n.toInt_lt
  rw [Int64.ofInt_eq_iff_bmod_eq_toInt, Int.bmod_eq_iff (by decide), Int.modEq_comm,
    Int.modEq_iff_dvd]
  constructor
  · rintro ⟨-, -, divides⟩
    exact divides
  · intro divides
    exact ⟨least, most, divides⟩

namespace TypedMeaning

theorem toInt_quotient {a b : Int64} (nonzero : b ≠ 0)
    (fits : ¬ (a = Int64.minValue ∧ b = -1)) :
    (quotient a b).toInt = a.toInt.tdiv b.toInt := by
  rw [quotient, if_neg nonzero]
  by_cases least : a = Int64.minValue
  · apply Int64.toInt_div_of_ne_right
    intro negative
    exact fits ⟨least, negative⟩
  · exact Int64.toInt_div_of_ne_left a b least

theorem quotient_eq_ofInt (a b : Int64) : quotient a b = .ofInt (a.toInt.tdiv b.toInt) := by
  by_cases zero : b = 0
  · subst zero
    rw [quotient, if_pos rfl, Int64.toInt_zero, Int.tdiv_zero]
    rfl
  · rw [quotient, if_neg zero, ← Int64.toInt_inj, Int64.toInt_div, Int64.toInt_ofInt]

def stored (x : Meaning Int) : TypedMeaning := .numeric fun s c => .ofInt (x s c)

variable [Regex.Engine]

/-- It makes no difference whether operands are cut to size before or the result afterwards. -/
theorem ofBinary_stored {op : BinaryOp} {a b : ValueType} (typed : op.Typed a b .numeric)
    (caseful : Bool) (constant : Option String) :
    a = .numeric ∧ b = .numeric ∧ ∃ compute, op.unbounded? = some compute ∧ ∀ x y,
      ofBinary op caseful constant (stored x) (stored y) =
        .ok (stored fun s c => compute (x s c) (y s c)) := by
  cases op with
  | add =>
    obtain ⟨-, -, impossible⟩ | ⟨rfl, rfl, -⟩ := typed
    · cases impossible
    · refine ⟨rfl, rfl, _, rfl, fun x y => ?_⟩
      simp only [stored, Int64.ofInt_add]
      rfl
  | subtract | multiply | divide =>
    obtain ⟨rfl, rfl, -⟩ := typed
    refine ⟨rfl, rfl, _, rfl, fun x y => ?_⟩
    simp only [stored, Int64.ofInt_sub, Int64.ofInt_mul, ← quotient_eq_ofInt]
    rfl
  | equals | notEquals | contains | containedIn => cases typed.2
  | _ => cases typed.2.2

end TypedMeaning

namespace Predicate

open TypedMeaning (stored)

section

variable [Regex.Engine]

theorem HasType.denote_stored {p : Predicate} (typed : HasType p .numeric) (caseful : Bool) :
    ∃ x, p.unbounded? = some x ∧ p.denote caseful = .ok (stored x) := by
  -- Nothing but numbers goes into a number, so the hypothesis on the type is handed down.
  generalize numeric : ValueType.numeric = t at typed
  induction typed generalizing caseful with
  | @binary op left right a b t first second typed ih ih' =>
    subst numeric
    obtain ⟨rfl, rfl, compute, exact, computed⟩ := TypedMeaning.ofBinary_stored typed
      (casefulAt caseful left right) right.constantText?
    obtain ⟨x, exactly, denoted⟩ := ih caseful rfl
    obtain ⟨y, exactly', denoted'⟩ := ih' caseful rfl
    refine ⟨fun s c => compute (x s c) (y s c), ?_, ?_⟩
    · simp only [unbounded?, exact, exactly, exactly']
    · rw [denote_binary denoted denoted', computed]
  | negate _ ih =>
    obtain ⟨x, exactly, denoted⟩ := ih _ rfl
    refine ⟨fun s c => -x s c, ?_, ?_⟩
    · rw [unbounded?, exactly]
      rfl
    · rw [denote, denoted]
      simp only [stored, Int64.ofInt_neg]
      rfl
  | caseful _ ih =>
    obtain ⟨x, exactly, denoted⟩ := ih _ numeric
    refine ⟨x, exactly, ?_⟩
    rw [denote, denoted]
    rfl
  | bracket _ ih => exact ih caseful numeric
  | @value v =>
    rw [← TypedMeaning.ofValue_type] at numeric
    rw [unbounded?, denote]
    cases denoted : TypedMeaning.ofValue v with
    | numeric f =>
      refine ⟨fun s c => (f s c).toInt, rfl, ?_⟩
      simp only [stored, Int64.ofInt_toInt]
    | _ =>
      rw [denoted] at numeric
      cases numeric
  | not | always | set => cases numeric

/-- A numeric tree has a value for every status. It is the one stored number that is congruent to
what arithmetic without bounds gives. Quotients are cut toward zero, with zero for those by zero and
the least number for the one that is too large. -/
theorem arithmetic_wraps (caseful : Bool) :
    (∀ p, HasType p .numeric → ∃ f x, p.denote caseful = .ok (.numeric f) ∧ p.unbounded? = some x ∧
      ∀ s c n, f s c = n ↔ n.toInt ≡ x s c [ZMOD 2 ^ 64]) ∧
    ∀ left right, HasType left .numeric → HasType right .numeric → ∃ a b q,
      left.denote caseful = .ok (.numeric a) ∧ right.denote caseful = .ok (.numeric b) ∧
      (binary .divide left right).denote caseful = .ok (.numeric q) ∧
      ∀ s c, (b s c = 0 → q s c = 0) ∧
        (a s c = Int64.minValue → b s c = -1 → q s c = Int64.minValue) ∧
        (b s c ≠ 0 → ¬ (a s c = Int64.minValue ∧ b s c = -1) →
          (q s c).toInt = (a s c).toInt.tdiv (b s c).toInt) := by
  constructor
  · intro p typed
    obtain ⟨x, exactly, denoted⟩ := typed.denote_stored caseful
    exact ⟨_, x, denoted, exactly, fun s c n => ofInt_eq_iff⟩
  · intro left right typed typed'
    obtain ⟨x, -, first⟩ := typed.denote_stored caseful
    obtain ⟨y, -, second⟩ := typed'.denote_stored caseful
    refine ⟨_, _, _, first, second, denote_binary first second, fun s c => ⟨?_, ?_, ?_⟩⟩
    · intro zero
      exact if_pos zero
    · intro least negative
      dsimp only
      rw [least, negative]
      decide
    · exact TypedMeaning.toInt_quotient

end

open scoped Standalone

/-- `user.followers * 2 + 1` for the largest count there is, and a status with the least id divided
by that. -/
theorem arithmetic_wraps_followers :
    let count := binary .add
      (.binary .multiply (.value (.personField .author .followers)) (.value (.number 2)))
      (.value (.number 1))
    let s : Status := .plain (.basic Int64.minValue
      { User.basic 7 "ann" with followersCount := Int64.maxValue } "hi")
    ∃ f x q, count.denote false = .ok (.numeric f) ∧ count.unbounded? = some x ∧
      (∀ s c n, f s c = n ↔ n.toInt ≡ x s c [ZMOD 2 ^ 64]) ∧
      (binary .divide (.value (.field .id)) count).denote false = .ok (.numeric q) ∧
      x s ⟨[], []⟩ = 18446744073709551615 ∧ f s ⟨[], []⟩ = -1 ∧
      q s ⟨[], []⟩ = Int64.minValue := by
  intro count s
  have typed : HasType count .numeric :=
    .binary (.binary .value .value ⟨rfl, rfl, rfl⟩) .value (.inr ⟨rfl, rfl, rfl⟩)
  obtain ⟨values, quotients⟩ := arithmetic_wraps false
  obtain ⟨f, x, denoted, exactly, congruent⟩ := values count typed
  obtain ⟨a, b, q, first, second, divided, parts⟩ :=
    quotients (.value (.field .id)) count .value typed
  obtain rfl := TypedMeaning.numeric.inj (Except.ok.inj (denoted.symm.trans second))
  obtain rfl := TypedMeaning.numeric.inj (Except.ok.inj first)
  obtain rfl := TypedMeaning.numeric.inj (Except.ok.inj denoted)
  obtain rfl := Option.some.inj exactly
  refine ⟨_, _, q, denoted, exactly, congruent, divided, by decide, by decide, ?_⟩
  exact (parts s ⟨[], []⟩).2.1 rfl (by decide)

end Predicate

end TimelineFilter
