import TimelineFilter.Proofs.Membership
import TimelineFilter.Standalone

namespace TimelineFilter

theorem IdSet.beq_eq_includes (s t : IdSet) : (s == t) = (s.includes t && t.includes s) := by
  rw [Bool.eq_iff_iff, beq_iff_eq, Bool.and_eq_true]
  simp only [includes, List.all_eq_true, contains_iff]
  constructor
  · rintro rfl
    exact ⟨fun _ mem => mem, fun _ mem => mem⟩
  · rintro ⟨above, below⟩
    exact eq_of_mem_iff fun id => ⟨below id, above id⟩

namespace TypedMeaning

theorem meet_symm (f g : Meaning (List Int64)) : meet f g = meet g f := by
  funext s c
  rw [Bool.eq_iff_iff]
  simp only [meet, List.any_eq_true, List.contains_iff_mem]
  exact exists_congr fun id => and_comm

theorem textTest_symm {test : List Char → List Char → Bool} (symm : ∀ x y, test x y = test y x)
    (caseful : Bool) (f g : Meaning String) :
    textTest test caseful f g = textTest test caseful g f := by
  funext s c
  unfold textTest
  rw [symm, symm (Text.lowerChars _)]

theorem beq_symm {α : Type} [BEq α] [LawfulBEq α] (f g : Meaning α) :
    (fun s c => f s c == g s c) = fun s c => g s c == f s c := by
  funext s c
  exact BEq.comm

theorem equality_symm (caseful : Bool) (a b : TypedMeaning) :
    equality caseful a b = equality caseful b a := by
  cases a with
  | boolean f =>
    cases b with
    | boolean g => exact congrArg some (beq_symm f g)
    | _ => rfl
  | numeric f =>
    cases b with
    | numeric g => exact congrArg some (beq_symm f g)
    | _ => rfl
  | text f =>
    cases b with
    | text g => exact congrArg some (textTest_symm (fun _ _ => BEq.comm) caseful f g)
    | _ => rfl
  | set f =>
    cases b with
    | set g => exact congrArg some (beq_symm f g)
    | user g => exact congrArg some (beq_symm f fun s c => IdSet.ofList (g s c))
    | _ => rfl
  | user f =>
    cases b with
    | set g => exact congrArg some (beq_symm (fun s c => IdSet.ofList (f s c)) g)
    | user g => exact congrArg some (meet_symm f g)
    | _ => rfl

def test? : TypedMeaning → Option (Meaning Bool)
  | .boolean f => some f
  | _ => none

variable [Regex.Engine]

/-- Only a search looks at more than the meanings of its operands. -/
theorem ofBinary_toOption {op : BinaryOp} (other : op ≠ .regex) (caseful : Bool)
    (constant : Option String) (a b : TypedMeaning) :
    (ofBinary op caseful constant a b).toOption = apply op caseful a b := by
  unfold ofBinary
  split
  · exact absurd rfl other
  · cases apply op caseful a b <;> rfl

end TypedMeaning

namespace Predicate

theorem casefulAt_symm (caseful : Bool) (left right : Predicate) :
    casefulAt caseful left right = casefulAt caseful right left :=
  Bool.or_right_comm caseful left.mentionsCaseful right.mentionsCaseful

section

variable [Regex.Engine]

theorem denote_applied {op : BinaryOp} (other : op ≠ .regex) (left right : Predicate)
    (caseful : Bool) :
    ((binary op left right).denote caseful).toOption =
      (left.denote caseful).toOption.bind fun a => (right.denote caseful).toOption.bind fun b =>
        TypedMeaning.apply op (casefulAt caseful left right) a b := by
  rw [denote]
  cases left.denote caseful with
  | error => rfl
  | ok a =>
    cases right.denote caseful with
    | error => rfl
    | ok b => exact TypedMeaning.ofBinary_toOption other _ _ a b

theorem meaning_toOption (p : Predicate) :
    p.meaning.toOption = (p.denote false).toOption.bind TypedMeaning.test? := by
  unfold meaning
  cases p.denote false with
  | error => rfl
  | ok d => cases d <;> rfl

theorem meaning_compared {op : BinaryOp} (other : op ≠ .regex)
    {test : Bool → TypedMeaning → TypedMeaning → Option (Meaning Bool)}
    (tests : ∀ caseful a b,
      TypedMeaning.apply op caseful a b = (test caseful a b).map TypedMeaning.boolean)
    (left right : Predicate) :
    (binary op left right).meaning.toOption =
      (left.denote false).toOption.bind fun a => (right.denote false).toOption.bind fun b =>
        test (casefulAt false left right) a b := by
  have told : ∀ caseful a b,
      (TypedMeaning.apply op caseful a b).bind TypedMeaning.test? = test caseful a b := by
    intro caseful a b
    rw [tests, Option.bind_map]
    exact Option.bind_fun_some _
  simp only [meaning_toOption, denote_applied other, Option.bind_assoc, told]

theorem meaning_equals (left right : Predicate) :
    (binary .equals left right).meaning.toOption =
      (left.denote false).toOption.bind fun a => (right.denote false).toOption.bind fun b =>
        TypedMeaning.equality (casefulAt false left right) a b :=
  meaning_compared (by decide) (fun _ _ _ => rfl) left right

theorem equals_symm (left right : Predicate) :
    (binary .equals left right).meaning.toOption =
      (binary .equals right left).meaning.toOption := by
  rw [meaning_equals, meaning_equals, Option.bind_comm, casefulAt_symm]
  refine Option.bind_congr fun b _ => Option.bind_congr fun a _ => ?_
  exact TypedMeaning.equality_symm _ a b

theorem notEquals_negates (left right : Predicate) :
    (binary .notEquals left right).meaning.toOption =
      (binary .equals left right).meaning.toOption.map fun f s c => !f s c := by
  have negated : ∀ caseful a b, TypedMeaning.apply .notEquals caseful a b =
      ((TypedMeaning.equality caseful a b).map fun f s c => !f s c).map .boolean := by
    intro caseful a b
    rw [Option.map_map]
    rfl
  rw [meaning_compared (by decide) negated, meaning_equals, Option.map_bind]
  refine Option.bind_congr fun a _ => ?_
  exact Option.map_bind.symm

theorem containedIn_turned (left right : Predicate) :
    (binary .containedIn left right).meaning.toOption =
      (binary .contains right left).meaning.toOption := by
  have straight : ∀ caseful a b, TypedMeaning.apply .contains caseful a b =
      (TypedMeaning.containment caseful a b).map .boolean := fun _ _ _ => rfl
  have turned : ∀ caseful a b, TypedMeaning.apply .containedIn caseful a b =
      (TypedMeaning.containment caseful b a).map .boolean := fun _ _ _ => rfl
  rw [meaning_compared (by decide) straight, meaning_compared (by decide) turned,
    Option.bind_comm, casefulAt_symm]

theorem equals_sets {left right : Predicate} (typed : HasType left .set)
    (typed' : HasType right .set) :
    ∃ same above below, (binary .equals left right).meaning = .ok same ∧
      (binary .contains left right).meaning = .ok above ∧
      (binary .contains right left).meaning = .ok below ∧
      ∀ s c, same s c = true ↔ above s c = true ∧ below s c = true := by
  obtain ⟨f, first⟩ : ∃ f, left.denote false = .ok (.set f) := typed.denotes (by simp) false
  obtain ⟨g, second⟩ : ∃ g, right.denote false = .ok (.set g) := typed'.denotes (by simp) false
  refine ⟨fun s c => f s c == g s c, fun s c => (f s c).includes (g s c),
    fun s c => (g s c).includes (f s c), ?_, ?_, ?_, ?_⟩
  · rw [meaning, denote_binary first second]
    rfl
  · rw [meaning, denote_binary first second]
    rfl
  · rw [meaning, denote_binary second first]
    rfl
  · intro s c
    dsimp only
    rw [IdSet.beq_eq_includes, Bool.and_eq_true]

/-- Equality can be turned around, and so can containment with its other operator. Inequality is
there where equality is, and is its negation. Sets are equal if each contains the other. -/
theorem comparison_laws (left right : Predicate) :
    (binary .equals left right).meaning.toOption = (binary .equals right left).meaning.toOption ∧
      (binary .notEquals left right).meaning.toOption =
        (binary .equals left right).meaning.toOption.map (fun f s c => !f s c) ∧
      (binary .containedIn left right).meaning.toOption =
        (binary .contains right left).meaning.toOption ∧
      (HasType left .set → HasType right .set → ∃ same above below,
        (binary .equals left right).meaning = .ok same ∧
        (binary .contains left right).meaning = .ok above ∧
        (binary .contains right left).meaning = .ok below ∧
        ∀ s c, same s c = true ↔ above s c = true ∧ below s c = true) := by
  refine ⟨equals_symm left right, ?_, ?_, equals_sets⟩
  · exact notEquals_negates left right
  · exact containedIn_turned left right

end

open scoped Standalone

/-- `[7, user] == mentions` for a post of user 7 that mentions nobody, and for one that mentions its
author twice. -/
theorem comparison_laws_mentions :
    let members := Predicate.set [.number 7, .person .author]
    let mentions := Predicate.value (.field .mentions)
    let post : Post := .basic 1 (.basic 7 "ann") "hi"
    ∃ same above below, (binary .equals members mentions).meaning = .ok same ∧
      (binary .contains members mentions).meaning = .ok above ∧
      (binary .contains mentions members).meaning = .ok below ∧
      (∀ s c, same s c = true ↔ above s c = true ∧ below s c = true) ∧
      above (.plain post) ⟨[], []⟩ = true ∧ same (.plain post) ⟨[], []⟩ = false ∧
      same (.plain { post with mentions := [7, 7] }) ⟨[], []⟩ = true := by
  intro members mentions post
  obtain ⟨-, -, -, sets⟩ := comparison_laws members mentions
  obtain ⟨same, above, below, equals, contains, contained, both⟩ := sets (.set (by decide)) .value
  refine ⟨same, above, below, equals, contains, contained, both, ?_⟩
  obtain rfl := Except.ok.inj equals
  obtain rfl := Except.ok.inj contains
  subst post
  decide

end Predicate

end TimelineFilter
