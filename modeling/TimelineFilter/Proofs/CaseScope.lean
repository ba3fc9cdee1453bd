import TimelineFilter.Proofs.FirstFault
import TimelineFilter.Standalone

/-! How far `caseful` reaches. A tree means the same when each comparison of two texts is marked on
its own, by the `caseful` above it and inside its operands, and no other `caseful` is left. What the
comparisons compute is not looked at. -/
namespace TimelineFilter

def BinaryOp.canIgnoreCase : BinaryOp → Bool
  | .equals | .notEquals | .contains | .containedIn | .startsWith | .endsWith | .regex => true
  | _ => false

namespace Predicate

def isText : Predicate → Bool
  | .binary op left right => op == .add && left.isText && right.isText
  | .unary op operand => op == .caseful && operand.isText
  | .bracket inner => inner.isText
  | .value v => v.type == .text
  | _ => false

def comparesTexts (op : BinaryOp) (left right : Predicate) : Bool :=
  op.canIgnoreCase && left.isText && right.isText

def hasTextComparison : Predicate → Bool
  | .binary op left right =>
    comparesTexts op left right || left.hasTextComparison || right.hasTextComparison
  | .unary _ operand => operand.hasTextComparison
  | .bracket inner => inner.hasTextComparison
  | _ => false

def withoutCaseful : Predicate → Predicate
  | .binary op left right => .binary op left.withoutCaseful right.withoutCaseful
  | .unary .caseful operand => operand.withoutCaseful
  | .unary op operand => .unary op operand.withoutCaseful
  | .bracket inner => .bracket inner.withoutCaseful
  | p => p

/-- Every `caseful` deleted, and then the left operand of a comparison of two texts put under
`caseful` if one stood above the comparison or anywhere inside its operands. `enclosed` says that
one stands above the whole tree. -/
def marked (enclosed : Bool) : Predicate → Predicate
  | .binary op left right =>
    if comparesTexts op left right && casefulAt enclosed left right then
      .binary op (.unary .caseful (left.marked enclosed)) (right.marked enclosed)
    else .binary op (left.marked enclosed) (right.marked enclosed)
  | .unary .caseful operand => operand.marked true
  | .unary op operand => .unary op (operand.marked enclosed)
  | .bracket inner => .bracket (inner.marked enclosed)
  | p => p

theorem HasType.binary_mono {op : BinaryOp} {left left' right right' : Predicate} {t : ValueType}
    (first : ∀ a, HasType left a → HasType left' a)
    (second : ∀ b, HasType right b → HasType right' b) (typed : HasType (.binary op left right) t) :
    HasType (.binary op left' right') t := by
  cases typed with
  | binary typed typed' known => exact .binary (first _ typed) (second _ typed') known

theorem HasType.unary_mono {op : UnaryOp} {p q : Predicate} {t : ValueType}
    (inner : ∀ a, HasType p a → HasType q a) (typed : HasType (.unary op p) t) :
    HasType (.unary op q) t := by
  cases typed with
  | not typed => exact .not (inner _ typed)
  | negate typed => exact .negate (inner _ typed)
  | caseful typed => exact .caseful (inner _ typed)

theorem HasType.under_caseful {p : Predicate} {t : ValueType}
    (typed : HasType (.unary .caseful p) t) : HasType p t := by
  cases typed with
  | caseful inner => exact inner

theorem HasType.in_bracket {p : Predicate} {t : ValueType} (typed : HasType (.bracket p) t) :
    HasType p t := by
  cases typed with
  | bracket inner => exact inner

theorem isText_iff {p : Predicate} : p.isText = true ↔ HasType p .text := by
  constructor
  · intro text
    induction p with
    | binary op left right ih ih' =>
      simp only [isText, Bool.and_eq_true, beq_iff_eq] at text
      obtain ⟨⟨rfl, first⟩, second⟩ := text
      exact .binary (ih first) (ih' second) (.inl ⟨rfl, rfl, rfl⟩)
    | unary op operand ih =>
      simp only [isText, Bool.and_eq_true, beq_iff_eq] at text
      obtain ⟨rfl, inner⟩ := text
      exact .caseful (ih inner)
    | bracket inner ih => exact .bracket (ih text)
    | value v =>
      have same : v.type = .text := by simpa [isText] using text
      exact same ▸ .value
    | always | set => cases text
  · intro typed
    generalize same : ValueType.text = t at typed
    induction typed with
    | @binary op left right a b t first second typed ih ih' =>
      subst same
      cases op with
      | add =>
        obtain ⟨rfl, rfl, -⟩ | ⟨-, -, impossible⟩ := typed
        · simp [isText, ih rfl, ih' rfl]
        · cases impossible
      | equals | notEquals | contains | containedIn => cases typed.2
      | _ => cases typed.2.2
    | caseful _ ih => simpa [isText] using ih same
    | bracket _ ih => exact ih same
    | value => simp [isText, ← same]
    | _ => cases same

theorem hasType_marked {p : Predicate} {t : ValueType} (enclosed : Bool) :
    HasType (p.marked enclosed) t ↔ HasType p t := by
  induction p generalizing enclosed t with
  | binary op left right ih ih' =>
    unfold marked
    split
    · constructor
      · exact HasType.binary_mono (fun _ typed => (ih _).1 typed.under_caseful) fun _ => (ih' _).1
      · exact HasType.binary_mono (fun _ typed => .caseful ((ih _).2 typed)) fun _ => (ih' _).2
    · constructor
      · exact HasType.binary_mono (fun _ => (ih _).1) fun _ => (ih' _).1
      · exact HasType.binary_mono (fun _ => (ih _).2) fun _ => (ih' _).2
  | unary op operand ih =>
    cases op with
    | caseful => exact (ih true).trans ⟨.caseful, HasType.under_caseful⟩
    | not | negate =>
      constructor
      · exact HasType.unary_mono fun _ => (ih enclosed).1
      · exact HasType.unary_mono fun _ => (ih enclosed).2
  | bracket inner ih =>
    constructor
    · exact fun typed => .bracket ((ih enclosed).1 typed.in_bracket)
    · exact fun typed => .bracket ((ih enclosed).2 typed.in_bracket)
  | always | set | value => exact Iff.rfl

theorem constantText?_marked (p : Predicate) (enclosed : Bool) :
    (p.marked enclosed).constantText? = p.constantText? := by
  induction p generalizing enclosed with
  | binary op left right =>
    unfold marked
    split <;> rfl
  | unary op operand ih =>
    cases op with
    | caseful => exact ih true
    | _ => rfl
  | bracket inner ih => exact ih enclosed
  | _ => rfl

theorem mentionsCaseful_marked {p : Predicate} (enclosed : Bool) (text : p.isText = true) :
    (p.marked enclosed).mentionsCaseful = false := by
  induction p generalizing enclosed with
  | binary op left right ih ih' =>
    simp only [isText, Bool.and_eq_true, beq_iff_eq] at text
    obtain ⟨⟨rfl, first⟩, second⟩ := text
    simp [marked, comparesTexts, BinaryOp.canIgnoreCase, mentionsCaseful, ih _ first, ih' _ second]
  | unary op operand ih =>
    simp only [isText, Bool.and_eq_true, beq_iff_eq] at text
    obtain ⟨rfl, inner⟩ := text
    exact ih true inner
  | bracket inner ih => exact ih enclosed text
  | _ => rfl

theorem marked_eq_withoutCaseful {p : Predicate} (none : p.hasTextComparison = false)
    (enclosed : Bool) : p.marked enclosed = p.withoutCaseful := by
  induction p generalizing enclosed with
  | binary op left right ih ih' =>
    simp only [hasTextComparison, Bool.or_eq_false_iff] at none
    obtain ⟨⟨other, first⟩, second⟩ := none
    simp [marked, withoutCaseful, other, ih first, ih' second]
  | unary op operand ih =>
    cases op with
    | caseful => exact ih none true
    | not | negate => simp [marked, withoutCaseful, ih none]
  | bracket inner ih => exact congrArg Predicate.bracket (ih none enclosed)
  | always | set | value => rfl

section

variable [Regex.Engine]

theorem ofBinary_flag {op : BinaryOp} {a b : TypedMeaning} {t : ValueType}
    (typed : op.Typed a.type b.type t)
    (other : ¬ (op.canIgnoreCase = true ∧ a.type = .text ∧ b.type = .text))
    (constant : Option String) (caseful caseful' : Bool) :
    TypedMeaning.ofBinary op caseful constant a b =
      TypedMeaning.ofBinary op caseful' constant a b := by
  cases op with
  | startsWith | endsWith | regex => exact absurd ⟨rfl, typed.1, typed.2.1⟩ other
  | equals | notEquals | contains | containedIn =>
    cases a <;> cases b <;> first | rfl | exact absurd ⟨rfl, rfl, rfl⟩ other
  | _ => rfl

/-- No comparison stands inside a text, so nothing in it depends on case. -/
theorem denote_text {p : Predicate} (typed : HasType p .text) (caseful caseful' : Bool) :
    p.denote caseful = p.denote caseful' := by
  rw [← isText_iff] at typed
  induction p generalizing caseful caseful' with
  | binary op left right ih ih' =>
    simp only [isText, Bool.and_eq_true, beq_iff_eq] at typed
    obtain ⟨⟨rfl, first⟩, second⟩ := typed
    rw [denote, denote, ih first caseful caseful', ih' second caseful caseful']
    rfl
  | unary op operand ih =>
    simp only [isText, Bool.and_eq_true, beq_iff_eq] at typed
    rw [denote, denote, ih typed.2]
  | bracket inner ih => exact ih typed caseful caseful'
  | _ => rfl

theorem denote_caseful (caseful : Bool) (p : Predicate) :
    (Predicate.unary .caseful p).denote caseful = p.denote true := by
  have flag : (caseful || UnaryOp.caseful == .caseful) = true := by simp
  rw [denote, flag]
  cases p.denote true <;> rfl

theorem denote_unary_congr {op : UnaryOp} (other : op ≠ .caseful) {p q : Predicate}
    {caseful caseful' : Bool} (same : p.denote caseful = q.denote caseful') :
    (Predicate.unary op p).denote caseful = (Predicate.unary op q).denote caseful' := by
  have flag : (op == .caseful) = false := by simpa using other
  simp only [denote, flag, Bool.or_false, same]

theorem denote_binary_congr {op : BinaryOp} {left left' right right' : Predicate}
    {caseful caseful' : Bool} (first : left.denote caseful = left'.denote caseful')
    (second : right.denote caseful = right'.denote caseful')
    (constant : right.constantText? = right'.constantText?)
    (whole : ∀ a b, left'.denote caseful' = .ok a → right'.denote caseful' = .ok b →
      TypedMeaning.ofBinary op (casefulAt caseful left right) right'.constantText? a b =
        TypedMeaning.ofBinary op (casefulAt caseful' left' right') right'.constantText? a b) :
    (Predicate.binary op left right).denote caseful =
      (Predicate.binary op left' right').denote caseful' := by
  rw [denote, denote, first, second, constant]
  cases found : left'.denote caseful' with
  | error e => rfl
  | ok a =>
    cases found' : right'.denote caseful' with
    | error e => rfl
    | ok b => exact whole a b found found'

/-- Each comparison of texts is marked exactly if case counts in it. -/
theorem denote_marked {p : Predicate} {t : ValueType} (typed : HasType p t) (enclosed : Bool) :
    (p.marked enclosed).denote false = p.denote enclosed := by
  induction typed generalizing enclosed with
  | @binary op left right a b t first second typed ih ih' =>
    have constant := constantText?_marked right enclosed
    unfold marked
    split
    · rename_i both
      simp only [comparesTexts, Bool.and_eq_true] at both
      obtain ⟨⟨⟨-, text⟩, -⟩, counts⟩ := both
      have text := (hasType_marked enclosed).2 (isText_iff.1 text)
      have first' : (Predicate.unary .caseful (left.marked enclosed)).denote false =
          left.denote enclosed := by
        rw [denote_caseful, denote_text text true false, ih]
      refine denote_binary_congr first' (ih' enclosed) constant ?_
      intro a b _ _
      rw [counts]
      rfl
    · rename_i unmarked
      refine denote_binary_congr (ih enclosed) (ih' enclosed) constant ?_
      intro d e found found'
      obtain rfl := (denote_ok found).1.unique first
      obtain rfl := (denote_ok found').1.unique second
      by_cases texts : comparesTexts op left right = true
      · -- Nothing is left inside the operands, and nothing counted before.
        have uncounted : casefulAt enclosed left right = false := by simpa [texts] using unmarked
        simp only [comparesTexts, Bool.and_eq_true] at texts
        have apart : casefulAt false (left.marked enclosed) (right.marked enclosed) = false := by
          simp [casefulAt, mentionsCaseful_marked enclosed texts.1.2,
            mentionsCaseful_marked enclosed texts.2]
        rw [uncounted, apart]
      · refine ofBinary_flag typed ?_ _ _ _
        rintro ⟨ignores, text, text'⟩
        have text := isText_iff.2 (text ▸ first)
        have text' := isText_iff.2 (text' ▸ second)
        exact texts (by simp [comparesTexts, ignores, text, text'])
  | not _ ih | negate _ ih => exact denote_unary_congr (by decide) (ih enclosed)
  | caseful _ ih => exact (ih true).trans (denote_caseful enclosed _).symm
  | bracket _ ih => exact ih enclosed
  | always | set | value => rfl

theorem meaning_marked (p : Predicate) (f : Meaning Bool) :
    p.meaning = .ok f ↔ (p.marked false).meaning = .ok f := by
  have same : ∀ {t}, HasType p t → (p.marked false).meaning = p.meaning := by
    intro t typed
    rw [meaning, meaning, denote_marked typed]
  constructor
  · intro found
    obtain ⟨typed, -⟩ := meaning_ok_iff.1 ⟨f, found⟩
    rw [same typed, found]
  · intro found
    obtain ⟨typed, -⟩ := meaning_ok_iff.1 ⟨f, found⟩
    rw [← same ((hasType_marked false).1 typed), found]

/-- A tree has the same meaning as the one in which every `caseful` stands in front of the left
operand of a comparison of two texts that it counts for. So no `caseful` gets from one operand of
another operator into the other, and those that no comparison of texts hears do nothing. -/
theorem caseful_reach (p : Predicate) (f : Meaning Bool) :
    (p.meaning = .ok f ↔ (p.marked false).meaning = .ok f) ∧
      (∀ op left right, p = .binary op left right → comparesTexts op left right = false →
        (p.meaning = .ok f ↔
          (Predicate.binary op (left.marked false) (right.marked false)).meaning = .ok f)) ∧
      (p.hasTextComparison = false → (p.meaning = .ok f ↔ p.withoutCaseful.meaning = .ok f)) := by
  refine ⟨meaning_marked p f, ?_, ?_⟩
  · rintro op left right rfl other
    have apart : (Predicate.binary op left right).marked false =
        .binary op (left.marked false) (right.marked false) := by simp [marked, other]
    rw [meaning_marked, apart]
  · intro none
    rw [meaning_marked, marked_eq_withoutCaseful none]

end

open scoped Standalone

/-- `text == caseful "A" & via == "b"`: only the first comparison is marked. -/
theorem caseful_reach_siblings :
    ∃ f, (Predicate.binary .and
        (.binary .equals (.value (.field .text)) (.unary .caseful (.value (.text "A"))))
        (.binary .equals (.value (.field .client)) (.value (.text "b")))).meaning = .ok f ∧
      (Predicate.binary .and
        (.binary .equals (.unary .caseful (.value (.field .text))) (.value (.text "A")))
        (.binary .equals (.value (.field .client)) (.value (.text "b")))).meaning = .ok f := by
  have reach := fun f => (caseful_reach (.binary .and
    (.binary .equals (.value (.field .text)) (.unary .caseful (.value (.text "A"))))
    (.binary .equals (.value (.field .client)) (.value (.text "b")))) f).2.1 .and _ _ rfl rfl
  exact ⟨_, rfl, (reach _).1 rfl⟩

end Predicate

end TimelineFilter
