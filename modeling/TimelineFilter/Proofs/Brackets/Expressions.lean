import TimelineFilter.Proofs.Brackets.Reports

namespace TimelineFilter.Predicate

theorem readSet_reports :
    Reports readSet fun b xs => Value.MemberDue xs ∧ (xs = [] → b = .paren) := by
  intro ts e
  constructor
  · rintro ⟨failed, unbalanced⟩
    unfold readSet at failed
    split at failed
    · cases failed
    · rename_i unclosed
      split at failed
      · rename_i e unread
        cases failed
        obtain ⟨front, t, rest, b, rfl, same, rfl, due⟩ :=
          Value.readMany_reports.sound unread unbalanced
        refine ⟨front, t, rest, b, rfl, same, rfl, due, ?_⟩
        intro empty
        obtain rfl := lexemes_eq_nil.1 empty
        cases b with
        | paren => rfl
        | square =>
          have closes : t.lexeme = .symbol .closeSquare := same
          simp [accept?, closes] at unclosed
      · split at failed
        · rename_i e wanted
          cases failed
          exact (expect_calm _).absurd wanted unbalanced
        · cases failed
  · rintro ⟨front, t, rest, b, rfl, same, rfl, due, first⟩
    refine ⟨?_, misplaced_isUnbalanced.2 ⟨b, same⟩⟩
    have opens : accept? .closeSquare (front ++ t :: rest) = none := by
      rw [accept?_eq_none_iff, lexemes_append, lexemes_cons, same]
      generalize lexemes front = xs at due first
      cases due with
      | first =>
        obtain rfl := first rfl
        simp [Lacks, Bracket.closing]
      | next members =>
        rw [List.append_assoc]
        exact members.lacks_close _
    simp [readSet, opens, Value.readMany_reports.complete same due rest]

/-- An expression breaks off where an operand has to come: at its start, behind an operator or an
opening bracket, or where a member of a set literal is due. -/
inductive OperandDue : Level → List Lexeme → Prop
  | here : OperandDue .atom []
  | left {b : BinaryLevel} {xs : List Lexeme} (first : OperandDue b.tighter xs) :
      OperandDue (.binary b) xs
  | right {op : BinaryOp} {x : Lexeme} {xs ys : List Lexeme} {left : Predicate}
      (first : Derives op.level.tighter xs left) (written : op.Written x)
      (second : OperandDue (.binary op.level) ys) :
      OperandDue (.binary op.level) (xs ++ x :: ys)
  | atom {xs : List Lexeme} (inner : OperandDue .atom xs) : OperandDue .unary xs
  | unary {op : UnaryOp} {x : Lexeme} {xs : List Lexeme} (written : op.Written x)
      (inner : OperandDue .unary xs) : OperandDue .unary (x :: xs)
  | bracket {xs : List Lexeme} (inner : OperandDue .loosest xs) :
      OperandDue .atom (.symbol .openParen :: xs)
  | set {xs : List Lexeme} (members : Value.MemberDue xs) :
      OperandDue .atom (.symbol .openSquare :: xs)

theorem OperandDue.loosen {level strong : Level} {xs : List Lexeme} (due : OperandDue strong xs)
    (looser : level.rank ≤ strong.rank) : OperandDue level xs :=
  Level.loosen (P := fun level => OperandDue level xs) .left .atom due looser

theorem OperandDue.completable {level : Level} {xs : List Lexeme} (due : OperandDue level xs) :
    Completable (Derives level) xs := by
  induction due with
  | here => exact completable_nil .atom
  | left _ ih =>
    exact ih.extend fun ys p derived => ⟨[], p, by simp, by simpa using .tighter derived⟩
  | @right op x xs ys left first written _ ih =>
    rw [← List.singleton_append, ← List.append_assoc]
    refine ih.within fun zs right derived => ⟨[], .binary op left right, by simp, ?_⟩
    simpa using .binary first written rfl derived
  | atom _ ih =>
    exact ih.extend fun ys p derived => ⟨[], p, by simp, by simpa using .atom derived⟩
  | @unary op x xs written _ ih =>
    rw [← List.singleton_append]
    refine ih.within fun ys p derived => ⟨[], .unary op p, by simp, ?_⟩
    simpa using .unary written derived
  | bracket _ ih =>
    rw [← List.singleton_append]
    refine ih.within fun ys p derived => ⟨[.symbol .closeParen], .bracket p, ?_, ?_⟩
    · simp [Lexeme.Writable]
    · simpa using .bracket derived
  | set members =>
    obtain ⟨more, vs, writable, spelled⟩ := members.completable
    refine ⟨more ++ [.symbol .closeSquare], .set vs.eraseDups, ?_, ?_⟩
    · simpa [or_imp, forall_and, Lexeme.Writable] using writable
    · simpa using Derives.set spelled

theorem OperandDue.not_closing {level : Level} {xs : List Lexeme}
    (due : OperandDue level (.symbol .closeParen :: xs)) : False := by
  obtain ⟨more, p, -, derived⟩ := due.completable
  exact derived.not_closing rfl

theorem OperandDue.not_reserved {k : String} (known : k ∈ ["from", "where"]) {level : Level}
    {x : Lexeme} {xs : List Lexeme} (due : OperandDue level (x :: xs)) : ¬ x.IsKeyword k := by
  obtain ⟨more, p, -, derived⟩ := due.completable
  exact derived.not_reserved known rfl

theorem getLast?_behind (xs : List Lexeme) {ys : List Lexeme} {x : Lexeme}
    (last : (xs ++ ys).getLast? ≠ some x) : ys.getLast? ≠ some x := by
  intro same
  exact last (by simp [List.getLast?_append, same])

theorem of_getLast?_behind (xs : List Lexeme) {ys : List Lexeme} {x y : Lexeme}
    (last : (xs ++ x :: ys).getLast? = some y) : y = x ∨ ys.getLast? = some y := by
  cases ys with
  | nil => exact .inl (by simpa [eq_comm] using last)
  | cons z ys => exact .inr (by simpa [List.getLast?_append, List.getLast?_cons] using last)

theorem not_last_of_plain (xs : List Lexeme) {ys : List Lexeme} {x : Lexeme} {b : Bracket}
    (plain : x.isPlain = true) (last : ys.getLast? ≠ some (.symbol b.opening)) :
    (xs ++ x :: ys).getLast? ≠ some (.symbol b.opening) := by
  intro same
  obtain rfl | inside := of_getLast?_behind xs same
  · exact Lexeme.ne_opening plain b rfl
  · exact last inside

theorem readAt_rejects {level : Level} {xs : List Lexeme} (due : OperandDue level xs)
    {b : Bracket} (last : xs.getLast? ≠ some (.symbol b.opening)) {t : Token}
    (same : t.lexeme = .symbol b.closing) {front : List Token} (whole : lexemes front = xs)
    (rest : List Token) : readAt level (front ++ t :: rest) = .error (.misplaced t rest) := by
  induction due generalizing front with
  | here =>
    obtain rfl := lexemes_eq_nil.1 whole
    have noParen : accept? .openParen (t :: rest) = none := by
      cases b <;> simp [accept?, same, Bracket.closing]
    have noSquare : accept? .openSquare (t :: rest) = none := by
      cases b <;> simp [accept?, same, Bracket.closing]
    exact readAt_value_error noParen noSquare (Value.readNext_rejects same rest)
  | left _ ih => exact readAt_left_error (ih last whole)
  | @right op x xs ys left derived written second ih =>
    obtain ⟨first, back, rfl, rfl, behind⟩ := lexemes_eq_append.1 whole
    obtain ⟨u, back, rfl, rfl, others⟩ := lexemes_eq_cons.1 behind
    have found := (readAt_reads _).complete (u :: (back ++ t :: rest)) derived
      (endsBefore_operator written left _)
    have failed := ih (getLast?_behind (lexemes first ++ [u.lexeme]) (by simpa using last))
      others
    rw [List.append_assoc, List.cons_append]
    exact readAt_right_error found written failed
  | @atom xs inner ih =>
    have failed := ih last whole
    -- Neither the closing bracket nor what starts an atom is an operator.
    cases front with
    | nil =>
      have absent : UnaryOp.ofLexeme? t.lexeme = none := by
        rw [same]
        cases b <;> rfl
      exact readAt_atom_error absent failed
    | cons u front =>
      have absent : UnaryOp.ofLexeme? u.lexeme = none := by
        cases inner with
        | here => cases whole
        | bracket | set =>
          rw [(List.cons.inj whole).1]
          rfl
      exact readAt_atom_error absent failed
  | @unary op x xs written inner ih =>
    obtain ⟨u, front, rfl, rfl, others⟩ := lexemes_eq_cons.1 whole
    exact readAt_operand_error written (ih (getLast?_behind [u.lexeme] last) others)
  | @bracket xs inner ih =>
    obtain ⟨u, front, rfl, opened, others⟩ := lexemes_eq_cons.1 whole
    have failed := ih (getLast?_behind [.symbol .openParen] last) others
    have going : accept? .closeParen (front ++ t :: rest) = none := by
      rw [accept?_eq_none_iff, lexemes_append, others]
      cases xs with
      | nil =>
        cases b with
        | paren => exact absurd rfl last
        | square => simp [Lacks, same, Bracket.closing]
      | cons x xs =>
        intro closes
        obtain rfl : x = .symbol .closeParen := by simpa using closes
        exact inner.not_closing
    exact readAt_inside_error opened going failed
  | @set xs members =>
    obtain ⟨u, front, rfl, opened, others⟩ := lexemes_eq_cons.1 whole
    have first : xs = [] → b = .paren := by
      rintro rfl
      cases b with
      | paren => rfl
      | square => exact absurd rfl last
    have failed : readSet (front ++ t :: rest) = .error (.misplaced t rest) := by
      subst others
      exact readSet_reports.complete same ⟨members, first⟩ rest
    exact readAt_set_error opened failed

/-- A closing bracket is reported behind lexemes that need an operand, unless it closes the bracket
that was opened last. -/
theorem readAt_reports (level : Level) :
    Reports (readAt level) fun b xs =>
      OperandDue level xs ∧ xs.getLast? ≠ some (.symbol b.opening) := by
  intro ts e
  constructor
  · rintro ⟨failed, unbalanced⟩
    fun_induction readAt level ts generalizing e with
    | case1 ts b e unread ih =>
      cases failed
      refine (ih e unread unbalanced).shift [] ?_
      rintro c xs ⟨due, last⟩
      exact ⟨.left due, last⟩
    | case2 => cases failed
    | case3 => cases failed
    | case4 ts b left t more lt found op present e unread ih ih' =>
      cases failed
      obtain ⟨front, rfl, derived, -⟩ := (readAt_reads _).sound found
      obtain ⟨written, rfl⟩ := BinaryLevel.operator?_eq_some_iff.1 present
      rw [← List.singleton_append, ← List.append_assoc]
      refine (ih' e unread unbalanced).shift (front ++ [t]) ?_
      rintro b xs ⟨due, last⟩
      refine ⟨by simpa using .right derived written due, ?_⟩
      rw [lexemes_append, List.append_assoc]
      exact not_last_of_plain _ written.isPlain last
    | case5 => cases failed
    | case6 =>
      cases failed
      cases unbalanced
    | case7 t more absent ih =>
      refine (ih e failed unbalanced).shift [] ?_
      rintro c xs ⟨due, last⟩
      exact ⟨.atom due, last⟩
    | case8 t more op present e unread ih =>
      cases failed
      refine (ih e unread unbalanced).shift [t] ?_
      have written := UnaryOp.ofLexeme?_eq_some_iff.1 present
      rintro b xs ⟨due, last⟩
      exact ⟨.unary written due, not_last_of_plain [] written.isPlain last⟩
    | case9 => cases failed
    | case10 => cases failed
    | case11 ts more lt opened unclosed e unread ih =>
      cases failed
      obtain ⟨u, rfl, isOpen⟩ := of_accept?_eq_some opened
      obtain ⟨front, t, rest, b, rfl, same, rfl, due, last⟩ := ih e unread unbalanced
      refine ⟨u :: front, t, rest, b, rfl, same, rfl, ?_⟩
      rw [lexemes_cons, isOpen]
      refine ⟨.bracket due, ?_⟩
      cases b with
      | square =>
        intro same
        rcases of_getLast?_behind [] same with different | inside
        · cases different
        · exact last inside
      | paren =>
        -- A parenthesis that closes at once is read as the empty bracket.
        cases front with
        | nil =>
          have closes : t.lexeme = .symbol .closeParen := same
          simp [accept?, closes] at unclosed
        | cons v front => simpa [List.getLast?_cons] using last
    | case12 ts more lt opened unclosed inner behind lt' found e wanted ih =>
      cases failed
      exact (expect_calm _).absurd wanted unbalanced
    | case13 => cases failed
    | case14 ts bare more lt opened e unread =>
      cases failed
      obtain ⟨u, rfl, isOpen⟩ := of_accept?_eq_some opened
      refine (readSet_reports.sound unread unbalanced).shift [u] ?_
      rintro b xs ⟨due, first⟩
      rw [lexemes_cons, isOpen]
      refine ⟨.set due, ?_⟩
      cases due with
      | first =>
        obtain rfl := first rfl
        simp [Bracket.opening]
      | next members => cases b <;> simp [List.getLast?_cons, Bracket.opening]
    | case15 => cases failed
    | case16 ts noParen noSquare e unread =>
      cases failed
      refine (Value.readNext_reports.sound unread unbalanced).shift [] ?_
      rintro b _ rfl
      exact ⟨.here, by simp⟩
    | case17 => cases failed
  · rintro ⟨front, t, rest, b, rfl, same, rfl, due, last⟩
    exact ⟨readAt_rejects due last same rfl rest, misplaced_isUnbalanced.2 ⟨b, same⟩⟩

theorem OperandDue.last {level : Level} {xs : List Lexeme} (due : OperandDue level xs) {y : Lexeme}
    (last : xs.getLast? = some y) : y.Joins ∨ ∃ b : Bracket, y = .symbol b.opening := by
  induction due with
  | here => cases last
  | left _ ih => exact ih last
  | right _ written _ ih =>
    obtain rfl | inside := of_getLast?_behind _ last
    · exact .inl (.inl ⟨_, written⟩)
    · exact ih inside
  | atom _ ih => exact ih last
  | unary written _ ih =>
    obtain rfl | inside := of_getLast?_behind [] last
    · exact .inl (.inr (.inl ⟨_, written⟩))
    · exact ih inside
  | bracket _ ih =>
    obtain rfl | inside := of_getLast?_behind [] last
    · exact .inr ⟨.paren, rfl⟩
    · exact ih inside
  | set members =>
    cases members with
    | first =>
      cases last
      exact .inr ⟨.square, rfl⟩
    | next members =>
      rw [← List.cons_append, List.getLast?_concat] at last
      cases last
      exact .inl (.inr (.inr rfl))

/-- A closing bracket is out of place behind a whole expression, and where an operand is due. -/
def OutOfPlace (b : Bracket) (xs : List Lexeme) : Prop :=
  (∃ p, Derives .loosest xs p) ∨
    (OperandDue .loosest xs ∧ xs.getLast? ≠ some (.symbol b.opening))

theorem readWhole_reports : Reports readWhole OutOfPlace := by
  intro ts e
  constructor
  · rintro ⟨failed, unbalanced⟩
    unfold readWhole at failed
    split at failed
    · rename_i e unread
      cases failed
      exact ((readAt_reports .loosest).sound unread unbalanced).shift [] fun _ _ => .inr
    · cases failed
    · rename_i root t rest lt found
      cases failed
      obtain ⟨front, rfl, derived, -⟩ := (readAt_reads .loosest).sound found
      obtain ⟨b, same⟩ := misplaced_isUnbalanced.1 unbalanced
      exact ⟨front, t, rest, b, rfl, same, rfl, .inl ⟨root, derived⟩⟩
  · rintro ⟨front, t, rest, b, rfl, same, rfl, ⟨p, derived⟩ | due⟩
    · have ended : p.EndsBefore .loosest (lexemes (t :: rest)) := by
        rw [lexemes_cons, same]
        exact endsBefore_symbol (by cases b <;> simp [Bracket.closing]) _ _ _
      obtain ⟨_, found⟩ := (readAt_reads .loosest).complete (t :: rest) derived ended
      exact ⟨by simp [readWhole, found], misplaced_isUnbalanced.2 ⟨b, same⟩⟩
    · refine ⟨?_, misplaced_isUnbalanced.2 ⟨b, same⟩⟩
      simp [readWhole, (readAt_reports .loosest).complete same due rest]

theorem OutOfPlace.not_reserved {b : Bracket} {x : Lexeme} {xs : List Lexeme} {k : String}
    (known : k ∈ ["from", "where"]) (misplaced : OutOfPlace b (x :: xs)) : ¬ x.IsKeyword k := by
  obtain ⟨p, derived⟩ | ⟨due, -⟩ := misplaced
  · exact derived.not_reserved known rfl
  · exact due.not_reserved known

end TimelineFilter.Predicate
