import TimelineFilter.Proofs.CaseScope
import TimelineFilter.Proofs.LetterCase.Sigmas
import TimelineFilter.Standalone

namespace TimelineFilter

open Text (Sides lowerChars)

theorem TypedMeaning.hasInside_iff {part whole : List Char} :
    hasInside part whole = true ↔ part <:+: whole := by
  induction whole with
  | nil => simp [hasInside]
  | cons c rest ih =>
    rw [hasInside, Bool.or_eq_true, ih, List.infix_cons_iff, List.isPrefixOf_iff_prefix]

namespace BinaryOp

/-- The sides at which a text may go on around what the operator looks for in it. -/
def sides? : BinaryOp → Option Sides
  | .equals => some ⟨false, false⟩
  | .contains | .containedIn => some ⟨true, true⟩
  | .startsWith => some ⟨false, true⟩
  | .endsWith => some ⟨true, false⟩
  | _ => none

def part (op : BinaryOp) (left right : String) : String := if op = .containedIn then left else right

def whole (op : BinaryOp) (left right : String) : String :=
  if op = .containedIn then right else left

theorem part_swap (op : BinaryOp) (a b : String) : op.part (op.part a b) (op.whole a b) = a := by
  unfold part whole
  split <;> rfl

theorem whole_swap (op : BinaryOp) (a b : String) : op.whole (op.part a b) (op.whole a b) = b := by
  unfold part whole
  split <;> rfl

end BinaryOp

namespace Text.Sides

variable {part whole : List Char}

theorem places_equal : Places ⟨false, false⟩ part whole ↔ whole = part := by
  simp [Places, Allows, and_assoc]

theorem places_inside : Places ⟨true, true⟩ part whole ↔ part <:+: whole := by
  simp [Places, Allows, List.IsInfix, eq_comm]

theorem places_front : Places ⟨false, true⟩ part whole ↔ part <+: whole := by
  simp [Places, Allows, List.IsPrefix, eq_comm]

theorem places_behind : Places ⟨true, false⟩ part whole ↔ part <:+ whole := by
  simp [Places, Allows, List.IsSuffix, eq_comm]

end Text.Sides

def seen (caseful : Bool) (text : String) : List Char :=
  if caseful then text.toList else lowerChars text.toList

namespace TypedMeaning

theorem textTest_eq (test : List Char → List Char → Bool) (caseful : Bool) (f g : Meaning String)
    (s : Status) (c : Context) :
    textTest test caseful f g s c = test (seen caseful (f s c)) (seen caseful (g s c)) := by
  unfold textTest seen
  cases caseful <;> rfl

variable [Regex.Engine]

theorem ofBinary_texts {op : BinaryOp} {o : Sides} (looks : op.sides? = some o) (caseful : Bool)
    (constant : Option String) (f g : Meaning String) :
    ∃ test, ofBinary op caseful constant (.text f) (.text g) = .ok (.boolean test) ∧
      ∀ s c, test s c = true ↔ o.Places (seen caseful (op.part (f s c) (g s c)))
        (seen caseful (op.whole (f s c) (g s c))) := by
  cases op with
  | equals =>
    cases looks
    refine ⟨_, rfl, fun s c => ?_⟩
    rw [textTest_eq, beq_iff_eq, Text.Sides.places_equal]
    exact Iff.rfl
  | contains | containedIn =>
    cases looks
    refine ⟨_, rfl, fun s c => ?_⟩
    rw [textTest_eq, hasInside_iff, Text.Sides.places_inside]
    exact Iff.rfl
  | startsWith =>
    cases looks
    refine ⟨_, rfl, fun s c => ?_⟩
    rw [textTest_eq, List.isPrefixOf_iff_prefix, Text.Sides.places_front]
    exact Iff.rfl
  | endsWith =>
    cases looks
    refine ⟨_, rfl, fun s c => ?_⟩
    rw [textTest_eq, List.isSuffixOf_iff_suffix, Text.Sides.places_behind]
    exact Iff.rfl
  | _ => cases looks

end TypedMeaning

namespace Predicate

theorem casefulAt_marked (a b : Predicate) : casefulAt false (.unary .caseful a) b = true := by
  simp [casefulAt, mentionsCaseful]

section

variable [Regex.Engine]

theorem meaning_comparison {op : BinaryOp} {o : Sides} {a b : Predicate}
    {left right : Meaning String} (looks : op.sides? = some o)
    (first : a.denote false = .ok (.text left)) (second : b.denote false = .ok (.text right)) :
    ∃ test, (binary op a b).meaning = .ok test ∧
      ∀ s c, test s c = true ↔
        o.Places (seen (casefulAt false a b) (op.part (left s c) (right s c)))
          (seen (casefulAt false a b) (op.whole (left s c) (right s c))) := by
  obtain ⟨test, found, tests⟩ :=
    TypedMeaning.ofBinary_texts looks (casefulAt false a b) b.constantText? left right
  have denoted : (binary op a b).denote false = .ok (.boolean test) := by
    rw [denote, first, second]
    exact found
  exact ⟨test, by rw [meaning, denoted], tests⟩

theorem denote_caseful_text {a : Predicate} {f : Meaning String}
    (text : a.denote false = .ok (.text f)) :
    (Predicate.unary .caseful a).denote false = .ok (.text f) := by
  have typed : HasType a .text := (denote_ok text).1
  rw [denote_caseful, denote_text typed true false, text]

theorem meaning_both {op : BinaryOp} {o : Sides} {a b : Predicate} {left right : Meaning String}
    (looks : op.sides? = some o) (first : a.denote false = .ok (.text left))
    (second : b.denote false = .ok (.text right)) :
    ∃ strict loose, (binary op (.unary .caseful a) b).meaning = .ok strict ∧
      (binary op a b).meaning = .ok loose ∧ ∀ s c,
        let part := op.part (left s c) (right s c)
        let whole := op.whole (left s c) (right s c)
        (strict s c = true ↔ o.Places part.toList whole.toList) ∧
          (loose s c = true ↔ o.Places (seen (casefulAt false a b) part)
            (seen (casefulAt false a b) whole)) := by
  obtain ⟨strict, denoted, strictly⟩ := meaning_comparison looks (denote_caseful_text first) second
  obtain ⟨loose, denoted', loosely⟩ := meaning_comparison looks first second
  refine ⟨strict, loose, denoted, denoted', ?_⟩
  intro s c part whole
  refine ⟨?_, loosely s c⟩
  rw [strictly, casefulAt_marked]
  exact Iff.rfl

/-- What the comparison finds with `caseful` in front of it, it finds without it too, whenever this
text is looked for. -/
def Widens (op : BinaryOp) (part : String) : Prop :=
  ∀ {a b : Predicate} {left right : Meaning String}, a.denote false = .ok (.text left) →
    b.denote false = .ok (.text right) →
      ∃ strict loose, (binary op (.unary .caseful a) b).meaning = .ok strict ∧
        (binary op a b).meaning = .ok loose ∧
          ∀ s c, op.part (left s c) (right s c) = part → strict s c = true → loose s c = true

theorem widens_of_settled {op : BinaryOp} {o : Sides} (looks : op.sides? = some o) {part : String}
    (settled : o.Settled part.toList) : Widens op part := by
  intro a b left right first second
  obtain ⟨strict, loose, denoted, denoted', both⟩ := meaning_both looks first second
  refine ⟨strict, loose, denoted, denoted', ?_⟩
  rintro s c rfl found
  obtain ⟨strictly, loosely⟩ := both s c
  have placed := strictly.1 found
  rw [loosely]
  cases casefulAt false a b with
  | true => exact placed
  | false => exact settled.places placed

theorem settled_of_widens {op : BinaryOp} {o : Sides} (looks : op.sides? = some o) {part : String}
    (widens : Widens op part) : o.Settled part.toList := by
  apply Classical.byContradiction
  intro unsettled
  obtain ⟨whole, placed, unplaced⟩ := Sides.exists_unplaced unsettled
  -- The operands are constants, in the order in which the operator has them.
  let a : Predicate := .value (.text (op.part part (String.ofList whole)))
  let b : Predicate := .value (.text (op.whole part (String.ofList whole)))
  have first : a.denote false = .ok (.text fun _ _ => op.part part (String.ofList whole)) := rfl
  have second : b.denote false = .ok (.text fun _ _ => op.whole part (String.ofList whole)) := rfl
  obtain ⟨strict, loose, denoted, denoted', both⟩ := meaning_both looks first second
  obtain ⟨strict', loose', same, same', wider⟩ := widens first second
  cases denoted.symm.trans same
  cases denoted'.symm.trans same'
  let s : Status := .plain (Post.basic 1 (User.basic 1 "a") "")
  obtain ⟨strictly, loosely⟩ := both s ⟨[], []⟩
  rw [op.part_swap, op.whole_swap, String.toList_ofList] at strictly
  rw [op.part_swap, op.whole_swap] at loosely
  have found := wider s ⟨[], []⟩ (op.part_swap _ _) (strictly.2 placed)
  have insensitive : casefulAt false a b = false := rfl
  rw [insensitive] at loosely
  exact unplaced (by simpa [seen] using loosely.1 found)

/-- Whatever a text is looked for in, the comparisons find without `caseful` all that they find with
it, exactly if no sigma of the text hangs on what is around it. For equality there is nothing
around. -/
theorem widens_iff {op : BinaryOp} {o : Sides} (looks : op.sides? = some o) (part : String) :
    (Widens op part ↔ o.Settled part.toList) ∧ (op = .equals → Widens op part) := by
  refine ⟨⟨settled_of_widens looks, widens_of_settled looks⟩, ?_⟩
  rintro rfl
  cases looks
  refine widens_of_settled rfl fun before after split hangs => ?_
  simp [Sides.Hangs] at hangs

end

open scoped Standalone

/-- The sigma in front of a cased letter is not the last one of a word anywhere. -/
theorem widens_iff_inner :
    BinaryOp.contains.sides? = some ⟨true, true⟩ ∧ Sides.Settled ⟨true, true⟩ "ΣΒ".toList ∧
      Widens .contains "ΣΒ" := by
  have settled : Sides.Settled ⟨true, true⟩ "ΣΒ".toList := by
    have first : ¬ Sides.Hangs ⟨true, true⟩ [] ['Β'] := by
      rintro (⟨-, -, uncased⟩ | ⟨-, -, cased⟩)
      · exact absurd uncased (by decide)
      · exact absurd cased (by decide)
    have second : 'Β' ≠ 'Σ' := by decide
    exact Text.forall_split_cons.2 ⟨fun _ => first,
      Text.forall_split_cons.2 ⟨fun sigma => absurd sigma second, by simp⟩⟩
  exact ⟨rfl, settled, (widens_iff rfl "ΣΒ").1.2 settled⟩

/-- The sigma at the end of a text may be the last one of a word there and not in another text. -/
theorem contains_narrower :
    let whole := Predicate.value (.text "ΑΣΒ")
    let part := Predicate.value (.text "ΑΣ")
    ∃ strict loose, (binary .contains (.unary .caseful whole) part).meaning = .ok strict ∧
      (binary .contains whole part).meaning = .ok loose ∧
        ∀ s c, strict s c = true ∧ loose s c = false := by
  have inside : TypedMeaning.hasInside "ΑΣ".toList "ΑΣΒ".toList = true := by decide
  have apart :
      TypedMeaning.hasInside (lowerChars "ΑΣ".toList) (lowerChars "ΑΣΒ".toList) = false := by
    decide
  refine ⟨_, _, rfl, rfl, fun s c => ?_⟩
  rw [TypedMeaning.textTest_eq, TypedMeaning.textTest_eq]
  exact ⟨inside, apart⟩

end Predicate

end TimelineFilter
