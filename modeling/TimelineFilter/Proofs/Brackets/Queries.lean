import TimelineFilter.Proofs.Brackets.Expressions

/-! Which closing brackets of a query are reported as unbalanced: those behind a whole expression,
which have no match, and those that stand where an operand has to come, which can have one. -/
namespace TimelineFilter.Query

inductive Introduces : List Lexeme → Prop
  | nothing : Introduces []
  | filter {x : Lexeme} (same : x.IsKeyword "where") : Introduces [x]
  | sources {x y : Lexeme} {xs : List Lexeme} {sources : List Source}
      (introduced : x.IsKeyword "from") (drawn : Source.Spelled xs sources)
      (followed : y.IsKeyword "where") : Introduces (x :: xs ++ [y])

theorem Introduces.balanced {xs : List Lexeme} (introduces : Introduces xs) : Balanced xs := by
  cases introduces with
  | nothing => exact .nil
  | filter same => exact .plain same.isPlain .nil
  | sources introduced drawn followed =>
    rw [List.cons_append]
    exact .plain introduced.isPlain
      ((balanced_of_plain drawn.plain).append (.plain followed.isPlain .nil))

theorem ofTokens_bare_rejects {b : Bracket} {t : Token} {front rest : List Token}
    (same : t.lexeme = .symbol b.closing) (misplaced : Predicate.OutOfPlace b (lexemes front))
    (failed : Predicate.readWhole (front ++ t :: rest) = .error (.misplaced t rest)) :
    ofTokens (front ++ t :: rest) = .error (.misplaced t rest) := by
  have bare : ∀ u more, front ++ t :: rest = u :: more → ∀ k ∈ ["from", "where"],
      u.isKeyword k = false := by
    intro u more whole k known
    cases front with
    | nil =>
      obtain ⟨rfl, -⟩ := List.cons.inj whole
      exact closing_not_word same k
    | cons v front =>
      obtain ⟨rfl, -⟩ := List.cons.inj whole
      have other := misplaced.not_reserved known
      rwa [← Token.isKeyword_iff, Bool.not_eq_true] at other
  have present : front ++ t :: rest ≠ [] := by simp
  obtain ⟨u, more, whole⟩ := List.exists_cons_of_ne_nil present
  have notFrom := bare u more whole "from" (by decide)
  have notWhere := bare u more whole "where" (by decide)
  rw [whole] at failed ⊢
  simp [ofTokens, notFrom, Predicate.ofTokens, notWhere, failed, Except.map]

theorem ofTokens_reports : Reports ofTokens fun b xs =>
    ∃ lead body, xs = lead ++ body ∧ Introduces lead ∧ Predicate.OutOfPlace b body := by
  intro ts e
  constructor
  · rintro ⟨failed, unbalanced⟩
    unfold ofTokens at failed
    split at failed
    · cases failed
    · rename_i t rest
      split at failed
      · rename_i introduced
        rw [Token.isKeyword_iff] at introduced
        split at failed
        · rename_i e unread
          cases failed
          exact Source.readMany_calm.absurd unread unbalanced
        · cases failed
        · rename_i sources t' after lt found
          obtain ⟨front, rfl, drawn, -⟩ := Source.readMany_reads.sound found
          split at failed
          · rename_i followed
            rw [Token.isKeyword_iff] at followed
            show ReportsAt _ ((t :: front) ++ ([t'] ++ after)) e
            rw [← List.append_assoc]
            have unread := of_map_eq_error failed
            refine (Predicate.readWhole_reports.sound unread unbalanced).shift _ ?_
            intro b xs misplaced
            exact ⟨_, xs, rfl, by simpa using .sources introduced drawn followed, misplaced⟩
          · cases failed
            simp at unbalanced
      · have unread := of_map_eq_error failed
        rw [Predicate.ofTokens] at unread
        split at unread
        · rename_i same
          rw [Token.isKeyword_iff] at same
          refine (Predicate.readWhole_reports.sound unread unbalanced).shift [t] ?_
          intro b xs misplaced
          exact ⟨[t.lexeme], xs, rfl, .filter same, misplaced⟩
        · refine (Predicate.readWhole_reports.sound unread unbalanced).shift [] ?_
          intro b xs misplaced
          exact ⟨[], xs, rfl, .nothing, misplaced⟩
  · rintro ⟨front, t, rest, b, rfl, same, rfl, lead, body, whole, introduces, misplaced⟩
    refine ⟨?_, misplaced_isUnbalanced.2 ⟨b, same⟩⟩
    obtain ⟨front, back, rfl, rfl, rfl⟩ := lexemes_eq_append.1 whole
    have failed := Predicate.readWhole_reports.complete same misplaced rest
    generalize whole : lexemes front = lead at introduces
    cases introduces with
    | nothing =>
      obtain rfl := lexemes_eq_nil.1 whole
      rw [List.nil_append]
      exact ofTokens_bare_rejects same misplaced failed
    | filter where' =>
      obtain ⟨u, _, rfl, rfl, empty⟩ := lexemes_eq_cons.1 whole
      obtain rfl := lexemes_eq_nil.1 empty
      have other : u.isKeyword "from" = false := by
        rw [← Bool.not_eq_true, Token.isKeyword_iff]
        intro again
        exact absurd (where'.agree again) (by decide)
      simp [ofTokens, other, Predicate.ofTokens, Token.isKeyword_iff.2 where', failed, Except.map]
    | sources introduced drawn followed =>
      obtain ⟨u, front, rfl, rfl, behind⟩ := lexemes_eq_cons.1 whole
      obtain ⟨front, last, rfl, rfl, ends⟩ := lexemes_eq_append.1 behind
      obtain ⟨w, _, rfl, rfl, empty⟩ := lexemes_eq_cons.1 ends
      obtain rfl := lexemes_eq_nil.1 empty
      obtain ⟨_, found⟩ := Source.readMany_reads.complete (w :: (back ++ t :: rest)) drawn
        (sources_end _ (keyword_lacks followed _))
      simp [ofTokens, Token.isKeyword_iff.2 introduced, found, Token.isKeyword_iff.2 followed,
        failed, Except.map]

/-- A closing bracket with a match is out of place only behind an operator or a comma. -/
theorem outOfPlace_iff {b : Bracket} {lead body : List Lexeme} (introduces : Introduces lead) :
    Predicate.OutOfPlace b body ↔
      ((∃ p, Predicate.Derives .loosest body p) ∨ Predicate.OperandDue .loosest body) ∧
        (b.Matched (lead ++ body) → ∃ xs x, body = xs ++ [x] ∧ x.Joins) := by
  constructor
  · rintro (⟨p, derived⟩ | ⟨due, last⟩)
    · refine ⟨.inl ⟨p, derived⟩, fun matched => ?_⟩
      exact absurd matched ((introduces.balanced.append derived.balanced).not_matched b)
    · refine ⟨.inr due, fun matched => ?_⟩
      cases behind : body.getLast? with
      | none =>
        rw [List.getLast?_eq_none_iff.1 behind, List.append_nil] at matched
        exact absurd matched (introduces.balanced.not_matched b)
      | some x =>
        obtain ⟨xs, rfl⟩ := List.getLast?_eq_some_iff.1 behind
        obtain joins | ⟨c, rfl⟩ := due.last behind
        · exact ⟨xs, x, rfl, joins⟩
        · rw [← List.append_assoc] at matched
          simp [matched.eq_last] at last
  · rintro ⟨⟨p, derived⟩ | due, joined⟩
    · exact .inl ⟨p, derived⟩
    · refine .inr ⟨due, fun last => ?_⟩
      obtain ⟨ys, rfl⟩ := List.getLast?_eq_some_iff.1 last
      rw [← List.append_assoc] at joined
      obtain ⟨xs, x, whole, joins⟩ := joined (b.matched_opening _)
      obtain ⟨-, same⟩ := List.append_inj' whole rfl
      cases same
      exact Lexeme.ne_opening joins.isPlain b rfl

/-- A query is rejected for an unbalanced bracket exactly if reading gets to a closing bracket
behind a whole expression, or where an operand has to come. A bracket that is rejected although it
has a match stands directly behind an operator or a comma: there the operand is what is missing. -/
theorem compile_unbalanced_iff (text : String) (x : Lexeme) (remaining : String) :
    compile text = .error ⟨.unbalancedBracket x, remaining⟩ ↔
      (scan false text).unclosed = none ∧ ∃ lead body t rest, ∃ b : Bracket,
        (scan false text).tokens = lead ++ body ++ t :: rest ∧ t.lexeme = x ∧
        x = .symbol b.closing ∧ remaining = Token.renderAll (t :: rest) ∧
        Introduces (lexemes lead) ∧
        ((∃ p, Predicate.Derives .loosest (lexemes body) p) ∨
          Predicate.OperandDue .loosest (lexemes body)) ∧
        (b.Matched (lexemes (lead ++ body)) → ∃ xs y, lexemes body = xs ++ [y] ∧ y.Joins) := by
  unfold compile
  split
  · rename_i u found
    simp [found, Failure.ofUnclosed]
  · rename_i ts found
    rw [found]
    constructor
    · intro failed
      obtain ⟨front, t, rest, b, rfl, same, whole, lead, body, parts, introduces, misplaced⟩ :=
        ofTokens_reports.sound failed rfl
      obtain ⟨lead, body, rfl, rfl, rfl⟩ := lexemes_eq_append.1 parts
      rw [misplaced_closing same] at whole
      cases whole
      refine ⟨rfl, lead, body, t, rest, b, rfl, rfl, same, rfl, introduces, ?_⟩
      rw [lexemes_append]
      exact (outOfPlace_iff introduces).1 misplaced
    · rintro ⟨-, lead, body, t, rest, b, rfl, rfl, same, rfl, introduces, place⟩
      rw [lexemes_append, ← outOfPlace_iff introduces] at place
      rw [ofTokens_reports.complete same ⟨_, _, lexemes_append lead body, introduces, place⟩ rest,
        misplaced_closing same]
      rfl

/-- `(1 +)`: the reported bracket has a match, and what is missing is the second summand. -/
theorem compile_unbalanced_matched :
    compile "(1 +)" = .error ⟨.unbalancedBracket (.symbol .closeParen), ")"⟩ ∧
      lexemes (scan false "(1 +)").tokens =
        [.symbol .openParen, .word "1", .symbol .plus] ++ [.symbol .closeParen] ∧
      Bracket.paren.Matched [.symbol .openParen, .word "1", .symbol .plus] := by
  have scanned : scan false "(1 +)" =
      ⟨[⟨.symbol .openParen, 0⟩, ⟨.word "1", 1⟩, ⟨.symbol .plus, 3⟩, ⟨.symbol .closeParen, 4⟩],
        none⟩ := by
    decide +kernel
  have one : Predicate.Derives .atom [.word "1"] (.value (.number 1)) :=
    .value (.number (Text.natural64?_eq_some_iff.1 rfl))
  have summand : Predicate.OperandDue (.binary BinaryOp.add.level) [] :=
    Predicate.OperandDue.here.loosen (by decide)
  have sum : Predicate.OperandDue (.binary BinaryOp.add.level) [.word "1", .symbol .plus] :=
    .right (one.loosen (by decide)) (.inl ⟨.plus, rfl, rfl⟩) summand
  have bracket : Predicate.OperandDue .atom [.symbol .openParen, .word "1", .symbol .plus] :=
    .bracket (sum.loosen (by decide))
  have place : Predicate.OutOfPlace .paren [.symbol .openParen, .word "1", .symbol .plus] :=
    .inr ⟨bracket.loosen (by decide), by decide⟩
  have failed : ofTokens ([⟨.symbol .openParen, 0⟩, ⟨.word "1", 1⟩, ⟨.symbol .plus, 3⟩] ++
      [⟨.symbol .closeParen, 4⟩]) = .error (.misplaced ⟨.symbol .closeParen, 4⟩ []) := by
    refine ofTokens_reports.complete (b := .paren) rfl ?_ []
    exact ⟨[], _, rfl, .nothing, place⟩
  refine ⟨?_, by rw [scanned]; rfl, [], _, rfl, balanced_of_plain (by decide)⟩
  rw [compile, scanned]
  exact failed

end TimelineFilter.Query
