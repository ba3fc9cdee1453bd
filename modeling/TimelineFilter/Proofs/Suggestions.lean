import TimelineFilter.Proofs.Text.EditDistance
import TimelineFilter.Suggestion

/-! The likely spelling of a name is the first of the candidates that the fewest edits lead to. How
far a candidate is away is said here by edits alone, not by the way distances are computed. -/
namespace TimelineFilter

/-- The first of the strings with the least cost. -/
def FirstLeast (cost : String → Nat) (cs : List String) (c : String) : Prop :=
  ∃ front back, cs = front ++ c :: back ∧ (∀ x ∈ front, cost c < cost x) ∧
    ∀ x ∈ back, cost c ≤ cost x

section FirstLeast

variable {cost : String → Nat} {cs : List String} {c : String}

theorem FirstLeast.mem (first : FirstLeast cost cs c) : c ∈ cs := by
  obtain ⟨front, back, rfl, -, -⟩ := first
  simp

theorem FirstLeast.le (first : FirstLeast cost cs c) : ∀ x ∈ cs, cost c ≤ cost x := by
  obtain ⟨front, back, rfl, before, behind⟩ := first
  intro x mem
  rcases List.mem_append.1 mem with mem | mem
  · exact Nat.le_of_lt (before x mem)
  · rcases List.mem_cons.1 mem with rfl | mem
    · exact Nat.le_refl _
    · exact behind x mem

theorem firstLeast_cons_iff {x : String} :
    FirstLeast cost (x :: cs) c ↔
      x = c ∧ (∀ y ∈ cs, cost x ≤ cost y) ∨ cost c < cost x ∧ FirstLeast cost cs c := by
  constructor
  · rintro ⟨front, back, same, before, behind⟩
    cases front with
    | nil =>
      obtain ⟨rfl, rfl⟩ := List.cons.inj same
      exact .inl ⟨rfl, behind⟩
    | cons y front =>
      obtain ⟨rfl, rfl⟩ := List.cons.inj same
      refine .inr ⟨before x List.mem_cons_self, front, back, rfl, ?_, behind⟩
      exact fun y mem => before y (List.mem_cons_of_mem _ mem)
  · rintro (⟨rfl, behind⟩ | ⟨less, front, back, rfl, before, behind⟩)
    · exact ⟨[], cs, rfl, by simp, behind⟩
    · exact ⟨x :: front, back, rfl, List.forall_mem_cons.2 ⟨less, before⟩, behind⟩

theorem leastBy_eq_none (nothing : leastBy cost cs = none) : cs = [] := by
  cases cs with
  | nil => rfl
  | cons x cs =>
    unfold leastBy at nothing
    split at nothing
    · split at nothing <;> cases nothing
    · cases nothing

theorem leastBy_eq_some_iff {d : Nat} :
    leastBy cost cs = some (c, d) ↔ FirstLeast cost cs c ∧ d = cost c := by
  induction cs generalizing c d with
  | nil => simp [leastBy, FirstLeast]
  | cons x cs ih =>
    rw [firstLeast_cons_iff, leastBy]
    cases others : leastBy cost cs with
    | none =>
      obtain rfl := leastBy_eq_none others
      simp only [Option.some.injEq, Prod.mk.injEq]
      constructor
      · rintro ⟨rfl, rfl⟩
        exact ⟨.inl ⟨rfl, by simp⟩, rfl⟩
      · rintro ⟨⟨rfl, -⟩ | ⟨-, first⟩, rfl⟩
        · exact ⟨rfl, rfl⟩
        · cases first.mem
    | some found =>
      obtain ⟨best, e⟩ := found
      obtain ⟨first, rfl⟩ := ih.1 others
      dsimp only
      split
      · rename_i less
        constructor
        · intro same
          cases same
          exact ⟨.inr ⟨less, first⟩, rfl⟩
        · rintro ⟨⟨rfl, least⟩ | ⟨-, again⟩, rfl⟩
          · exact absurd (least best first.mem) (Nat.not_le.2 less)
          · rw [← others]
            exact ih.2 ⟨again, rfl⟩
      · rename_i notLess
        -- The head wins a tie, and it stands in front of all the others.
        have least : ∀ y ∈ cs, cost x ≤ cost y := fun y mem =>
          Nat.le_trans (Nat.not_lt.1 notLess) (first.le y mem)
        constructor
        · intro same
          cases same
          exact ⟨.inl ⟨rfl, least⟩, rfl⟩
        · rintro ⟨⟨rfl, -⟩ | ⟨less, again⟩, rfl⟩
          · rfl
          · exact absurd (least c again.mem) (Nat.not_le.2 less)

theorem firstLeast_filter_iff {passes : String → Bool} :
    FirstLeast cost (cs.filter passes) c ↔
      ∃ front back, cs = front ++ c :: back ∧ passes c = true ∧
        (∀ x ∈ front, passes x = true → cost c < cost x) ∧
        ∀ x ∈ back, passes x = true → cost c ≤ cost x := by
  constructor
  · rintro ⟨front, back, same, before, behind⟩
    obtain ⟨ahead, others, rfl, rfl, taken⟩ := List.filter_eq_append_iff.1 same
    obtain ⟨skipped, back, rfl, none, passed, rfl⟩ := List.filter_eq_cons_iff.1 taken
    refine ⟨ahead ++ skipped, back, by simp, passed, ?_, ?_⟩
    · intro x mem passed
      rcases List.mem_append.1 mem with mem | mem
      · exact before x (List.mem_filter.2 ⟨mem, passed⟩)
      · exact absurd passed (none x mem)
    · exact fun x mem passed => behind x (List.mem_filter.2 ⟨mem, passed⟩)
  · rintro ⟨front, back, rfl, passed, before, behind⟩
    refine ⟨front.filter passes, back.filter passes, ?_, ?_, ?_⟩
    · rw [List.filter_append, List.filter_cons_of_pos passed]
    · intro x mem
      obtain ⟨mem, passed⟩ := List.mem_filter.1 mem
      exact before x mem passed
    · intro x mem
      obtain ⟨mem, passed⟩ := List.mem_filter.1 mem
      exact behind x mem passed

end FirstLeast

/-- So many edits lead from one name to the other, both in lower case. -/
def NameEdits (n : Nat) (a b : String) : Prop :=
  Text.Edits n (Text.lowerChars a.toList) (Text.lowerChars b.toList)

theorem isLeast_nameDistance (a b : String) : IsLeast {n | NameEdits n a b} (nameDistance a b) :=
  Text.isLeast_distance _ _

/-- The earliest of the candidates that are not empty and closest to the name, `d` edits away. -/
structure Closest (name : String) (candidates : List String) (c : String) (d : Nat) : Prop where
  nonempty : c ≠ ""
  away : IsLeast {n | NameEdits n name c} d
  /-- Whatever stands in front of it is farther away, and nothing behind it is closer. -/
  earliest : ∃ front back, candidates = front ++ c :: back ∧
    (∀ x ∈ front, x ≠ "" → ∀ n, NameEdits n name x → d < n) ∧
    ∀ x ∈ back, x ≠ "" → ∀ n, NameEdits n name x → d ≤ n

theorem leastBy_closest {name : String} {candidates : List String} {c : String} {d : Nat} :
    leastBy (nameDistance name) (candidates.filter (· ≠ "")) = some (c, d) ↔
      Closest name candidates c d := by
  rw [leastBy_eq_some_iff, firstLeast_filter_iff]
  constructor
  · rintro ⟨⟨front, back, whole, nonempty, before, behind⟩, rfl⟩
    refine ⟨of_decide_eq_true nonempty, isLeast_nameDistance name c, front, back, whole, ?_, ?_⟩
    · intro x mem other n edits
      exact Nat.lt_of_lt_of_le (before x mem (decide_eq_true other))
        ((isLeast_nameDistance name x).2 edits)
    · intro x mem other n edits
      exact Nat.le_trans (behind x mem (decide_eq_true other))
        ((isLeast_nameDistance name x).2 edits)
  · rintro ⟨nonempty, away, front, back, whole, before, behind⟩
    obtain rfl := away.unique (isLeast_nameDistance name c)
    refine ⟨⟨front, back, whole, decide_eq_true nonempty, ?_, ?_⟩, rfl⟩
    · intro x mem other
      exact before x mem (of_decide_eq_true other) _ (isLeast_nameDistance name x).1
    · intro x mem other
      exact behind x mem (of_decide_eq_true other) _ (isLeast_nameDistance name x).1

namespace Closest

variable {name : String} {candidates : List String} {c : String} {d : Nat}

theorem mem (closest : Closest name candidates c d) : c ∈ candidates := by
  obtain ⟨front, back, rfl, -, -⟩ := closest.earliest
  simp

theorem le (closest : Closest name candidates c d) {x : String} (listed : x ∈ candidates)
    (other : x ≠ "") {n : Nat} (edits : NameEdits n name x) : d ≤ n := by
  obtain ⟨front, back, rfl, before, behind⟩ := closest.earliest
  rcases List.mem_append.1 listed with listed | listed
  · exact Nat.le_of_lt (before x listed other n edits)
  · rcases List.mem_cons.1 listed with rfl | listed
    · exact closest.away.2 edits
    · exact behind x listed other n edits

end Closest

theorem exists_closest (name : String) {candidates : List String} {x : String}
    (listed : x ∈ candidates) (other : x ≠ "") : ∃ c d, Closest name candidates c d := by
  cases found : leastBy (nameDistance name) (candidates.filter (· ≠ "")) with
  | none =>
    have kept : x ∈ candidates.filter (· ≠ "") := List.mem_filter.2 ⟨listed, decide_eq_true other⟩
    rw [leastBy_eq_none found] at kept
    cases kept
  | some best => exact ⟨best.1, best.2, leastBy_closest.1 found⟩

theorem suggest_eq_some_iff {name : String} {candidates : List String} {c : String} :
    suggest name candidates = some c ↔
      ∃ d, Closest name candidates c d ∧ (d = 1 ∨ d = 2) := by
  simp only [← leastBy_closest]
  unfold suggest
  cases leastBy (nameDistance name) (candidates.filter (· ≠ "")) with
  | none => simp
  | some found =>
    obtain ⟨best, e⟩ := found
    have near : 0 < e ∧ e ≤ 2 ↔ e = 1 ∨ e = 2 := by omega
    simp only [near, Option.ite_none_right_eq_some, Option.some.injEq, Prod.mk.injEq]
    constructor
    · rintro ⟨near, rfl⟩
      exact ⟨e, ⟨rfl, rfl⟩, near⟩
    · rintro ⟨d, ⟨rfl, rfl⟩, near⟩
      exact ⟨near, rfl⟩

/-- The suggestion is the first of the closest candidates, if it is one or two edits away. -/
theorem suggest_closest (name : String) (candidates : List String) :
    (∀ c, suggest name candidates = some c ↔ ∃ d, Closest name candidates c d ∧ (d = 1 ∨ d = 2)) ∧
      (suggest name candidates = none ↔
        ¬ ∃ c d, Closest name candidates c d ∧ (d = 1 ∨ d = 2)) := by
  refine ⟨fun c => suggest_eq_some_iff, ?_⟩
  rw [Option.eq_none_iff_forall_ne_some, not_exists]
  exact forall_congr' fun c => not_congr suggest_eq_some_iff

end TimelineFilter
