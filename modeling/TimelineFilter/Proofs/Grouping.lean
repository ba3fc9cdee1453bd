import TimelineFilter.Meaning
import TimelineFilter.Standalone

namespace TimelineFilter.Predicate

def ungrouped : Predicate → Predicate
  | .binary op left right => .binary op left.ungrouped right.ungrouped
  | .unary op operand => .unary op operand.ungrouped
  | .bracket inner => inner.ungrouped
  | p => p

theorem mentionsCaseful_ungrouped (p : Predicate) :
    p.ungrouped.mentionsCaseful = p.mentionsCaseful := by
  induction p with
  | binary op left right ih ih' => rw [ungrouped, mentionsCaseful, mentionsCaseful, ih, ih']
  | unary op operand ih => rw [ungrouped, mentionsCaseful, mentionsCaseful, ih]
  | bracket inner ih => exact ih
  | always | set | value => rfl

theorem constantText?_ungrouped (p : Predicate) : p.ungrouped.constantText? = p.constantText? := by
  induction p with
  | unary op operand ih =>
    cases op with
    | caseful => exact ih
    | not | negate => rfl
  | bracket inner ih => exact ih
  | binary | always | set | value => rfl

section

variable [Regex.Engine]

theorem denote_ungrouped (p : Predicate) (caseful : Bool) :
    p.ungrouped.denote caseful = p.denote caseful := by
  induction p generalizing caseful with
  | binary op left right ih ih' =>
    rw [ungrouped, denote, denote, ih, ih', mentionsCaseful_ungrouped, mentionsCaseful_ungrouped,
      constantText?_ungrouped]
  | unary op operand ih => rw [ungrouped, denote, denote, ih]
  | bracket inner ih => exact ih caseful
  | always | set | value => rfl

/-- Trees that differ by nothing but the brackets around their parts stand for the same test, or
have the same problem. -/
theorem meaning_regrouped {p q : Predicate} (same : p.ungrouped = q.ungrouped) :
    p.meaning = q.meaning := by
  rw [meaning, meaning, ← denote_ungrouped p, ← denote_ungrouped q, same]

end

open scoped Standalone

/-- `text regex ((caseful ("(")))` and `((text) regex caseful "(")`: the constant pattern, which is
no pattern, is found behind the brackets. -/
theorem meaning_regrouped_pattern :
    let p := binary .regex (.value (.field .text))
      (.bracket (.bracket (.unary .caseful (.bracket (.value (.text "("))))))
    let q := bracket (.binary .regex (.bracket (.value (.field .text)))
      (.unary .caseful (.value (.text "("))))
    p.ungrouped = q.ungrouped ∧ p.meaning = q.meaning ∧
      q.meaning = .error (.inTree (.invalidPattern "(" "not a pattern")) := by
  intro p q
  have same : p.ungrouped = q.ungrouped := rfl
  exact ⟨same, meaning_regrouped same, rfl⟩

end TimelineFilter.Predicate
