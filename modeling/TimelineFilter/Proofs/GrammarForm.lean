import TimelineFilter.Proofs.Grammar.Queries

/-! The form of the queries that a text can compile to. A tree that was built by hand need not have
it: an operand may need a bracket, and a number may be negative. -/
namespace TimelineFilter

def Selector.InGrammarForm : Selector → Prop
  | .id n => 0 ≤ n.toInt
  | _ => True

def Value.InGrammarForm : Value → Prop
  | .number n => 0 ≤ n.toInt
  | .account s | .relation s _ => s.InGrammarForm
  | _ => True

def Predicate.level : Predicate → Level
  | .binary op _ _ => .binary op.level
  | .unary _ _ => .unary
  | _ => .atom

/-- Operands need no brackets, and no member of a set stands twice. -/
def Predicate.InGrammarForm : Predicate → Prop
  | .binary op left right =>
    op.level.rank < left.level.rank ∧ op.level.rank ≤ right.level.rank ∧
      left.InGrammarForm ∧ right.InGrammarForm
  | .unary _ operand => Level.unary.rank ≤ operand.level.rank ∧ operand.InGrammarForm
  | .always => True
  | .bracket inner => inner.InGrammarForm
  | .set members => members.Nodup ∧ ∀ v ∈ members, v.InGrammarForm
  | .value v => v.InGrammarForm

def Source.InGrammarForm (s : Source) : Prop :=
  s.arguments.length ≤ 1 ∧ (s.kind.needsArgument = true → s.arguments.length = 1)

structure Query.InGrammarForm (q : Query) : Prop where
  drawn : q.sources ≠ []
  sources : ∀ s ∈ q.sources, s.InGrammarForm
  root : q.root.InGrammarForm

theorem Text.Numeral.nonnegative {digits : List Char} {n : Int64}
    (numeral : Text.Numeral digits n) : 0 ≤ n.toInt := by
  rw [numeral.2.2]
  omega

theorem Selector.Spelled.inGrammarForm {xs : List Lexeme} {s : Selector}
    (spelled : Selector.Spelled xs s) : s.InGrammarForm := by
  cases spelled with
  | id numeral => exact numeral.nonnegative
  | _ => trivial

theorem Value.Spelled.inGrammarForm {xs : List Lexeme} {v : Value}
    (spelled : Value.Spelled xs v) : v.InGrammarForm := by
  cases spelled with
  | number numeral => exact numeral.nonnegative
  | selected selector rest =>
    cases rest with
    | alone => exact selector.inGrammarForm
    | named => exact selector.inGrammarForm
  | person _ rest => cases rest <;> trivial
  | _ => trivial

theorem Value.SpelledMany.inGrammarForm {xs : List Lexeme} {vs : List Value}
    (spelled : Value.SpelledMany xs vs) : ∀ v ∈ vs, v.InGrammarForm := by
  induction spelled with
  | one first =>
    intro v mem
    obtain rfl := List.mem_singleton.1 mem
    exact first.inGrammarForm
  | more first _ ih =>
    intro v mem
    rcases List.mem_cons.1 mem with rfl | mem
    · exact first.inGrammarForm
    · exact ih v mem

namespace Predicate

theorem nodup_distinct (vs : List Value) : (distinct vs).Nodup := by
  induction vs with
  | nil => exact .nil
  | cons v vs ih =>
    rw [distinct, List.nodup_cons]
    exact ⟨by simp, ih.filter _⟩

theorem distinct_of_nodup {vs : List Value} (nodup : vs.Nodup) : distinct vs = vs := by
  induction vs with
  | nil => rfl
  | cons v vs ih =>
    obtain ⟨fresh, nodup⟩ := List.nodup_cons.1 nodup
    rw [distinct, ih nodup, List.filter_eq_self.2]
    intro w mem
    have other : w ≠ v := by
      rintro rfl
      exact fresh mem
    simpa using other

theorem Derives.inGrammarForm {level : Level} {xs : List Lexeme} {p : Predicate}
    (derived : Derives level xs p) : level.rank ≤ p.level.rank ∧ p.InGrammarForm := by
  -- The bound on the level is what the induction needs: it is the side condition of the parent.
  induction derived with
  | @tighter b xs p inner ih =>
    have looser : b.rank < b.tighter.rank := b.rank_lt_tighter
    exact ⟨Nat.le_of_lt (Nat.lt_of_lt_of_le looser ih.1), ih.2⟩
  | @binary b op x xs ys left right first written level second ih ih' =>
    subst level
    have looser := op.level.rank_lt_tighter
    exact ⟨Nat.le_refl _, Nat.lt_of_lt_of_le looser ih.1, ih'.1, ih.2, ih'.2⟩
  | atom inner ih => exact ⟨Nat.le_trans (by decide) ih.1, ih.2⟩
  | unary written inner ih => exact ⟨Nat.le_refl _, ih⟩
  | always => exact ⟨Nat.le_refl _, trivial⟩
  | bracket inner ih => exact ⟨Nat.le_refl _, ih.2⟩
  | emptySet => exact ⟨Nat.le_refl _, .nil, by simp⟩
  | @set xs vs members =>
    refine ⟨Nat.le_refl _, ?_, ?_⟩
    · rw [← distinct_eq_eraseDups]
      exact nodup_distinct vs
    · intro v mem
      exact members.inGrammarForm v (List.mem_eraseDups.1 mem)
  | value spelled => exact ⟨Nat.le_refl _, spelled.inGrammarForm⟩

theorem DerivesWhole.inGrammarForm {xs : List Lexeme} {p : Predicate}
    (derived : DerivesWhole xs p) : p.InGrammarForm := by
  cases derived with
  | empty => trivial
  | bare root => exact root.inGrammarForm.2
  | introduced _ root => exact root.inGrammarForm.2

end Predicate

theorem Source.Group.inGrammarForm {xs : List Lexeme} {sources : List Source}
    (group : Source.Group xs sources) : ∀ s ∈ sources, s.InGrammarForm := by
  cases group with
  | alone names free =>
    intro s mem
    obtain rfl := List.mem_singleton.1 mem
    exact ⟨Nat.zero_le _, by simp [free]⟩
  | drawn names listed =>
    intro s mem
    obtain ⟨argument, -, rfl⟩ := List.mem_map.1 mem
    exact ⟨Nat.le_refl _, fun _ => rfl⟩

theorem Source.Spelled.inGrammarForm {xs : List Lexeme} {sources : List Source}
    (spelled : Source.Spelled xs sources) : ∀ s ∈ sources, s.InGrammarForm := by
  induction spelled with
  | one group => exact group.inGrammarForm
  | more group _ ih =>
    intro s mem
    rcases List.mem_append.1 mem with mem | mem
    · exact group.inGrammarForm s mem
    · exact ih s mem

theorem Query.Derives.inGrammarForm {xs : List Lexeme} {q : Query} (derived : Query.Derives xs q) :
    q.InGrammarForm := by
  cases derived with
  | implied root =>
    refine ⟨by simp, ?_, root.inGrammarForm⟩
    intro s mem
    obtain rfl := List.mem_singleton.1 mem
    exact ⟨Nat.zero_le _, nofun⟩
  | unfiltered _ drawn => exact ⟨drawn.ne_nil, drawn.inGrammarForm, trivial⟩
  | filtered _ drawn _ root => exact ⟨drawn.ne_nil, drawn.inGrammarForm, root.inGrammarForm.2⟩

end TimelineFilter
