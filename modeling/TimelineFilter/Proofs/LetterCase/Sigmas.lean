import TimelineFilter.Proofs.LetterCase.Texts

/-! A part of a text and the lower form of the part. The form of a capital sigma depends on what
stands around it, so the lower form of the part need not stand in the lower form of the text. It
always does if and only if no sigma of the part hangs on what is outside. -/
namespace TimelineFilter.Text

variable {cs ds before after front behind : List Char}

def Ignorable (cs : List Char) : Prop := ∀ c ∈ cs, caseIgnorableRanges.has c.toNat = true

theorem meetsCased_append_of_ignorable (ignorable : Ignorable cs) (ds : List Char) :
    meetsCased (cs ++ ds) = meetsCased ds := by
  induction cs with
  | nil => rfl
  | cons c cs ih =>
    obtain ⟨first, rest⟩ := List.forall_mem_cons.1 ignorable
    rw [List.cons_append, meetsCased_cons, if_pos first, ih rest]

theorem meetsCased_append_of_solid (solid : ¬ Ignorable cs) (ds : List Char) :
    meetsCased (cs ++ ds) = meetsCased cs := by
  induction cs with
  | nil => exact absurd (List.forall_mem_nil _) solid
  | cons c cs ih =>
    rw [List.cons_append, meetsCased_cons, meetsCased_cons]
    split
    · rename_i first
      exact ih fun rest => solid (List.forall_mem_cons.2 ⟨first, rest⟩)
    · rfl

theorem meetsCased_of_ignorable (ignorable : Ignorable cs) : meetsCased cs = false := by
  have alone := meetsCased_append_of_ignorable ignorable []
  rw [List.append_nil] at alone
  exact alone

/-! The lower form of a part where it stands -/

def lowerIn (before after : List Char) (c : Char) : List Char :=
  if c = 'Σ' then [if endsWord before after then 'ς' else 'σ'] else lowerChar c

/-- The lower form of a part between other characters. Those in front are the nearest first. -/
def lowerBetween (before after : List Char) : List Char → List Char
  | [] => []
  | c :: rest => lowerIn before (rest ++ after) c ++ lowerBetween (c :: before) after rest

theorem lowerAfter_eq (before cs : List Char) :
    lowerAfter before cs = lowerBetween before [] cs := by
  induction cs generalizing before with
  | nil => rfl
  | cons c cs ih => rw [lowerAfter, lowerBetween, ih, List.append_nil, lowerIn]

theorem lowerChars_eq (cs : List Char) : lowerChars cs = lowerBetween [] [] cs :=
  lowerAfter_eq [] cs

theorem lowerBetween_append (before after cs ds : List Char) :
    lowerBetween before after (cs ++ ds) =
      lowerBetween before (ds ++ after) cs ++ lowerBetween (cs.reverse ++ before) after ds := by
  induction cs generalizing before with
  | nil => rfl
  | cons c cs ih => simp [lowerBetween, ih]

theorem length_lowerIn (before after before' after' : List Char) (c : Char) :
    (lowerIn before after c).length = (lowerIn before' after' c).length := by
  unfold lowerIn
  split <;> rfl

theorem length_lowerBetween (before after before' after' cs : List Char) :
    (lowerBetween before after cs).length = (lowerBetween before' after' cs).length := by
  induction cs generalizing before before' with
  | nil => rfl
  | cons c cs ih =>
    rw [lowerBetween, lowerBetween, List.length_append, List.length_append,
      ih (c :: before) (c :: before'), length_lowerIn before _ before' (cs ++ after')]

theorem lowerIn_eq_iff {before after before' after' : List Char} {c : Char} :
    lowerIn before after c = lowerIn before' after' c ↔
      (c = 'Σ' → endsWord before after = endsWord before' after') := by
  unfold lowerIn
  split
  · rename_i sigma
    cases endsWord before after <;> cases endsWord before' after' <;> simp [sigma]
  · rename_i other
    simp [other]

theorem forall_split_cons {c d : Char} {P : List Char → List Char → Prop} :
    (∀ before after, c :: cs = before ++ d :: after → P before after) ↔
      (c = d → P [] cs) ∧ ∀ before after, cs = before ++ d :: after → P (c :: before) after := by
  constructor
  · intro each
    refine ⟨?_, ?_⟩
    · rintro rfl
      exact each [] cs rfl
    · rintro before after rfl
      exact each (c :: before) after rfl
  · rintro ⟨first, later⟩ before after split
    rcases List.cons_eq_append_iff.1 split with ⟨rfl, same⟩ | ⟨tail, rfl, same⟩
    · cases same
      exact first rfl
    · exact later tail after same

theorem lowerBetween_eq_iff {before' after' : List Char} :
    lowerBetween before after cs = lowerBetween before' after' cs ↔
      ∀ p q, cs = p ++ 'Σ' :: q → endsWord (p.reverse ++ before) (q ++ after) =
        endsWord (p.reverse ++ before') (q ++ after') := by
  induction cs generalizing before before' with
  | nil => simp [lowerBetween]
  | cons c cs ih =>
    rw [lowerBetween, lowerBetween, List.append_eq_append_iff_of_size_eq_left (length_lowerIn ..),
      lowerIn_eq_iff, ih, forall_split_cons]
    simp

/-! Parts of which every sigma is settled -/

structure Sides where
  front : Bool
  behind : Bool

namespace Sides

variable {o : Sides}

def Allows (o : Sides) (front behind : List Char) : Prop :=
  (o.front = false → front = []) ∧ (o.behind = false → behind = [])

/-- The part stands in the whole, which goes on at these sides alone. -/
def Places (o : Sides) (part whole : List Char) : Prop :=
  ∃ front behind, o.Allows front behind ∧ whole = front ++ part ++ behind

/-- What stands beyond these characters can change the form of a sigma between them. -/
def Hangs (o : Sides) (before after : List Char) : Prop :=
  (o.front = true ∧ Ignorable before ∧ meetsCased after = false) ∨
    (o.behind = true ∧ Ignorable after ∧ meetsCased before = true)

/-- No sigma of a part hangs on what stands beyond the part. -/
def Settled (o : Sides) (part : List Char) : Prop :=
  ∀ before after, part = before ++ 'Σ' :: after → ¬ o.Hangs before.reverse after

theorem meetsCased_or (isOpen : Bool) (allowed : isOpen = false → ds = []) :
    meetsCased (cs ++ ds) = meetsCased cs ∨ isOpen = true ∧ Ignorable cs := by
  by_cases ignorable : Ignorable cs
  · cases isOpen with
    | false =>
      rw [allowed rfl, List.append_nil]
      exact .inl rfl
    | true => exact .inr ⟨rfl, ignorable⟩
  · exact .inl (meetsCased_append_of_solid ignorable ds)

theorem endsWord_settled (settled : ¬ o.Hangs before after) (allowed : o.Allows front behind) :
    endsWord (before ++ front) (after ++ behind) = endsWord before after := by
  unfold endsWord
  rcases meetsCased_or o.front allowed.1 with same | ⟨isOpen, ignorable⟩
  · rcases meetsCased_or o.behind allowed.2 with same' | ⟨isOpen, ignorable⟩
    · rw [same, same']
    · -- What is behind counts only where something cased is in front.
      have uncased : meetsCased before = false :=
        Bool.eq_false_iff.2 fun cased => settled (.inr ⟨isOpen, ignorable, cased⟩)
      rw [same, uncased, Bool.false_and, Bool.false_and]
  · have cased : meetsCased after = true :=
      Bool.of_not_eq_false fun uncased => settled (.inl ⟨isOpen, ignorable, uncased⟩)
    have solid : ¬ Ignorable after := by
      intro ignorable
      rw [meetsCased_of_ignorable ignorable] at cased
      cases cased
    rw [meetsCased_append_of_solid solid, cased, Bool.not_true, Bool.and_false, Bool.and_false]

theorem exists_letter (y : Option Char) :
    ∃ x, (∀ before after, lowerIn before after x = [x]) ∧ meetsCased [x] = true ∧ y ≠ some x := by
  by_cases same : y = some 'a'
  · refine ⟨'b', fun _ _ => rfl, by decide, ?_⟩
    rw [same]
    decide
  · exact ⟨'a', fun _ _ => rfl, by decide, same⟩

/-- A part keeps its lower form in every text that goes on at these sides alone, if its sigmas are
settled. -/
theorem Settled.places {part whole : List Char} (settled : o.Settled part)
    (placed : o.Places part whole) : o.Places (lowerChars part) (lowerChars whole) := by
  obtain ⟨front, behind, allowed, rfl⟩ := placed
  have kept : lowerBetween front.reverse behind part = lowerChars part := by
    rw [lowerChars_eq, lowerBetween_eq_iff]
    intro p q split
    have reversed : o.Allows front.reverse behind := by simpa [Allows] using allowed
    simpa using endsWord_settled (settled p q split) reversed
  refine ⟨lowerBetween [] (part ++ behind) front,
    lowerBetween (part.reverse ++ front.reverse) [] behind, ⟨?_, ?_⟩, ?_⟩
  · intro closed
    rw [allowed.1 closed, lowerBetween]
  · intro closed
    rw [allowed.2 closed, lowerBetween]
  · rw [lowerChars_eq, List.append_assoc, lowerBetween_append, lowerBetween_append,
      List.append_nil, List.append_nil, List.append_nil, kept, List.append_assoc]

theorem Places.isInfix {part whole : List Char} (placed : o.Places part whole) :
    part <:+: whole := by
  obtain ⟨front, behind, -, rfl⟩ := placed
  exact ⟨front, behind, rfl⟩

theorem not_infix_cons {x : Char} {part changed : List Char}
    (length : part.length = changed.length) (differs : part ≠ changed) (filled : part ≠ [])
    (other : part.head? ≠ some x) : ¬ part <:+: x :: changed := by
  intro found
  rcases List.infix_cons_iff.1 found with front | inner
  · obtain ⟨c, part, rfl⟩ := List.exists_cons_of_ne_nil filled
    exact other (congrArg some (List.cons_prefix_cons.1 front).1)
  · exact differs (inner.eq_of_length length)

theorem not_infix_concat {x : Char} {part changed : List Char}
    (length : part.length = changed.length) (differs : part ≠ changed) (filled : part ≠ [])
    (other : part.getLast? ≠ some x) : ¬ part <:+: changed ++ [x] := by
  rw [← List.reverse_infix, List.reverse_concat]
  apply not_infix_cons <;> simpa

/-- Where a sigma hangs on what is outside, a single letter there is enough to change the part. -/
theorem exists_unplaced {part : List Char} (unsettled : ¬ o.Settled part) :
    ∃ whole, o.Places part whole ∧ ¬ o.Places (lowerChars part) (lowerChars whole) := by
  obtain ⟨p, q, split, hangs⟩ : ∃ p q, part = p ++ 'Σ' :: q ∧ o.Hangs p.reverse q := by
    simpa [Settled] using unsettled
  simp only [lowerChars_eq]
  have filled : lowerBetween [] [] part ≠ [] := by
    rw [split, lowerBetween_append, lowerBetween, lowerIn, if_pos rfl]
    simp
  have changed {before after : List Char}
      (other : endsWord p.reverse q ≠ endsWord (p.reverse ++ before) (q ++ after)) :
      lowerBetween [] [] part ≠ lowerBetween before after part := by
    intro same
    have alike := lowerBetween_eq_iff.1 same p q split
    rw [List.append_nil, List.append_nil] at alike
    exact other alike
  rcases hangs with ⟨isOpen, ignorable, uncased⟩ | ⟨isOpen, ignorable, cased⟩
  · obtain ⟨x, kept, letter, other⟩ := exists_letter (lowerBetween [] [] part).head?
    have differs : lowerBetween [] [] part ≠ lowerBetween [x] [] part := by
      apply changed
      rw [List.append_nil, endsWord, endsWord, meetsCased_append_of_ignorable ignorable,
        meetsCased_of_ignorable ignorable, letter, uncased]
      decide
    refine ⟨x :: part, ⟨[x], [], ?_, ?_⟩, fun placed => ?_⟩
    · simp [Allows, isOpen]
    · simp
    · rw [lowerBetween, kept] at placed
      exact not_infix_cons (length_lowerBetween ..) differs filled other placed.isInfix
  · obtain ⟨x, kept, letter, other⟩ := exists_letter (lowerBetween [] [] part).getLast?
    have differs : lowerBetween [] [] part ≠ lowerBetween [] [x] part := by
      apply changed
      rw [List.append_nil, endsWord, endsWord, meetsCased_append_of_ignorable ignorable,
        meetsCased_of_ignorable ignorable, letter, cased]
      decide
    refine ⟨part ++ [x], ⟨[], [x], ?_, ?_⟩, fun placed => ?_⟩
    · simp [Allows, isOpen]
    · simp
    · rw [lowerBetween_append, lowerBetween, kept] at placed
      exact not_infix_concat (length_lowerBetween ..) differs filled other placed.isInfix

end Sides

end TimelineFilter.Text
