import TimelineFilter.Proofs.Stopping.Values

namespace TimelineFilter.Predicate

theorem EndsBefore.congr {level : Level} {p : Predicate} {xs ys : List Lexeme}
    (same : xs.head? = ys.head?) (ends : p.EndsBefore level xs) : p.EndsBefore level ys := by
  unfold EndsBefore Lacks at *
  rwa [← same]

theorem manyEndBefore_congr {vs : List Value} {xs ys : List Lexeme} (same : xs.head? = ys.head?)
    (ends : Value.ManyEndBefore vs xs) : Value.ManyEndBefore vs ys := by
  unfold Value.ManyEndBefore Value.EndsBefore Lacks at *
  rwa [← same]

theorem lacks_of_heads {s : Symbol} {ts : List Token} {xs : List Lexeme}
    (absent : accept? s ts = none) (heads : ∀ zs, (xs ++ zs).head? = (lexemes ts).head?)
    (zs : List Lexeme) : Lacks s (xs ++ zs) := by
  rw [accept?_eq_none_iff] at absent
  rw [Lacks, heads]
  exact absent

theorem accept?_of_lacks {s : Symbol} {front rest : List Token} {xs : List Lexeme}
    (lacks : ∀ zs, Lacks s (xs ++ zs)) (whole : lexemes front = xs) :
    accept? s (front ++ rest) = none := by
  rw [accept?_eq_none_iff, lexemes_append, whole]
  exact lacks _

section

variable {xs ys : List Lexeme}

theorem readSet_fails_inside (opens : ∀ zs, Lacks .closeSquare (xs ++ zs))
    (fails : Fails Value.readMany xs) : Fails readSet xs := by
  intro front rest whole
  obtain ⟨e, failed⟩ := fails front rest whole
  exact ⟨e, by simp [readSet, accept?_of_lacks opens whole, failed]⟩

theorem readSet_fails_behind {vs : List Value} (members : Value.SpelledMany ys vs)
    (ends : ∀ zs, Value.ManyEndBefore vs (xs ++ zs)) (fails : Fails (expect .closeSquare) xs) :
    Fails readSet (ys ++ xs) := by
  intro both rest whole
  obtain ⟨more, _, e, found, failed⟩ :=
    Value.readMany_reads.then_fails fails members ends whole rest
  have opens : accept? .closeSquare (both ++ rest) = none := by
    refine accept?_of_lacks ?_ whole
    intro zs
    rw [List.append_assoc]
    exact members.lacks_close _
  exact ⟨e, by simp [readSet, opens, found, failed]⟩

end

theorem readSet_stops : Stops readSet SetBody := by
  intro ts e failed
  unfold readSet at failed
  split at failed
  · cases failed
  · rename_i unclosed
    split at failed
    · rename_i e unread
      cases failed
      refine (Value.readMany_stops _ _ unread).mono ?_ ?_
      · intro xs goes
        refine goes.extend ?_
        intro ys vs members
        exact ⟨[.symbol .closeSquare], _, by simp [Lexeme.Writable],
          .inr ⟨ys, vs, rfl, members, rfl⟩⟩
      · intro xs heads fails
        exact readSet_fails_inside (lacks_of_heads unclosed heads) fails
    · rename_i vs rest lt found
      obtain ⟨front, rfl, members, ends⟩ := Value.readMany_reads.sound found
      split at failed
      · rename_i e wanted
        cases failed
        refine (expect_stops wanted).shift front ?_ ?_
        · rintro _ rfl
          exact ⟨[.symbol .closeSquare], _, by simp [Lexeme.Writable],
            .inr ⟨_, vs, by simp, members, rfl⟩⟩
        · intro xs heads fails
          have ends' : ∀ zs, Value.ManyEndBefore vs (xs ++ zs) :=
            fun zs => manyEndBefore_congr (heads zs).symm ends
          exact readSet_fails_behind members ends' fails
      · cases failed

theorem completable_nil (level : Level) : Completable (Derives level) [] := by
  have text : Derives .atom [.quoted ""] (.value (.text "")) := .value .text
  exact ⟨_, _, by simp [Lexeme.Writable], text.loosen level.rank_le⟩

/-! A reader of expressions fails wherever the reader of one of its parts does. -/

section

variable {x : Lexeme} {xs ys : List Lexeme}

theorem fails_left {b : BinaryLevel} (fails : Fails (readAt b.tighter) xs) :
    Fails (readAt (.binary b)) xs := by
  intro front rest whole
  obtain ⟨e, failed⟩ := fails front rest whole
  exact ⟨e, readAt_left_error failed⟩

theorem fails_right {op : BinaryOp} {left : Predicate} (derived : Derives op.level.tighter ys left)
    (written : op.Written x) (fails : Fails (readAt (.binary op.level)) xs) :
    Fails (readAt (.binary op.level)) (ys ++ x :: xs) := by
  intro both rest whole
  obtain ⟨back, _, found, others⟩ := (readAt_reads _).splits derived
    (fun zs => endsBefore_operator written left (xs ++ zs)) whole rest
  obtain ⟨t, back, rfl, rfl, behind⟩ := lexemes_eq_cons.1 others
  obtain ⟨e, failed⟩ := fails back rest behind
  exact ⟨e, readAt_right_error ⟨_, found⟩ written failed⟩

theorem fails_atom (absent : UnaryOp.ofLexeme? x = none) (fails : Fails (readAt .atom) (x :: xs)) :
    Fails (readAt .unary) (x :: xs) := by
  intro front rest whole
  obtain ⟨e, failed⟩ := fails front rest whole
  obtain ⟨t, front, rfl, rfl, -⟩ := lexemes_eq_cons.1 whole
  exact ⟨e, readAt_atom_error absent failed⟩

theorem fails_operand {op : UnaryOp} (written : op.Written x) (fails : Fails (readAt .unary) xs) :
    Fails (readAt .unary) (x :: xs) := by
  intro front rest whole
  obtain ⟨t, front, rfl, rfl, behind⟩ := lexemes_eq_cons.1 whole
  obtain ⟨e, failed⟩ := fails front rest behind
  exact ⟨e, readAt_operand_error written failed⟩

theorem fails_inside (opens : ∀ zs, Lacks .closeParen (xs ++ zs))
    (fails : Fails (readAt .loosest) xs) : Fails (readAt .atom) (.symbol .openParen :: xs) := by
  intro front rest whole
  obtain ⟨t, front, rfl, same, behind⟩ := lexemes_eq_cons.1 whole
  obtain ⟨e, failed⟩ := fails front rest behind
  exact ⟨e, readAt_inside_error same (accept?_of_lacks opens behind) failed⟩

theorem fails_behind {inner : Predicate} (derived : Derives .loosest ys inner)
    (ends : ∀ zs, inner.EndsBefore .loosest (xs ++ zs)) (fails : Fails (expect .closeParen) xs) :
    Fails (readAt .atom) (.symbol .openParen :: (ys ++ xs)) := by
  intro both rest whole
  obtain ⟨t, both, rfl, same, inside⟩ := lexemes_eq_cons.1 whole
  obtain ⟨more, _, e, found, failed⟩ :=
    (readAt_reads _).then_fails fails derived ends inside rest
  have opens : accept? .closeParen (both ++ rest) = none := by
    refine accept?_of_lacks ?_ inside
    intro zs
    rw [List.append_assoc]
    exact derived.lacks_close _
  rw [List.cons_append, readAt]
  simp [accept?_cons same, opens, found, failed]

theorem fails_set (fails : Fails readSet xs) :
    Fails (readAt .atom) (.symbol .openSquare :: xs) := by
  intro front rest whole
  obtain ⟨t, front, rfl, same, behind⟩ := lexemes_eq_cons.1 whole
  obtain ⟨e, failed⟩ := fails front rest behind
  exact ⟨e, readAt_set_error same failed⟩

theorem fails_value (noParen : ∀ zs, Lacks .openParen (xs ++ zs))
    (noSquare : ∀ zs, Lacks .openSquare (xs ++ zs)) (fails : Fails Value.readNext xs) :
    Fails (readAt .atom) xs := by
  intro front rest whole
  obtain ⟨e, failed⟩ := fails front rest whole
  exact ⟨e, readAt_value_error (accept?_of_lacks noParen whole) (accept?_of_lacks noSquare whole)
    failed⟩

end

theorem readAt_stops (level : Level) : Stops (readAt level) (Derives level) := by
  intro ts e failed
  -- Along the recursion of the reader. The part that failed says where to stop; what was read
  -- around it is completed by closing its bracket.
  fun_induction readAt level ts generalizing e with
  | case1 ts b e unread ih =>
    cases failed
    refine (ih e unread).mono ?_ fun _ _ => fails_left
    intro xs goes
    exact goes.extend fun ys p derived => ⟨[], p, by simp, by simpa using .tighter derived⟩
  | case2 => cases failed
  | case3 => cases failed
  | case4 ts b left t more lt found op present e unread ih ih' =>
    cases failed
    obtain ⟨front, rfl, derived, -⟩ := (readAt_reads _).sound found
    obtain ⟨written, rfl⟩ := BinaryLevel.operator?_eq_some_iff.1 present
    rw [← List.singleton_append, ← List.append_assoc]
    refine (ih' e unread).shift (front ++ [t]) ?_ ?_
    · intro xs goes
      refine goes.within ?_
      intro ys right derived'
      exact ⟨[], .binary op left right, by simp,
        by simpa using .binary derived written rfl derived'⟩
    · intro xs _ fails
      simpa using fails_right derived written fails
  | case5 => cases failed
  | case6 =>
    cases failed
    exact .here rfl rfl (completable_nil _) (by simp)
  | case7 t more absent ih =>
    refine (ih e failed).mono ?_ ?_
    · intro xs goes
      exact goes.extend fun ys p derived => ⟨[], p, by simp, by simpa using .atom derived⟩
    · intro xs heads fails
      obtain ⟨ys, rfl⟩ := eq_cons_of_heads heads
      exact fails_atom absent fails
  | case8 t more op present e unread ih =>
    cases failed
    have written := UnaryOp.ofLexeme?_eq_some_iff.1 present
    refine (ih e unread).shift [t] ?_ fun _ _ => fails_operand written
    intro xs goes
    refine goes.within ?_
    intro ys p derived
    exact ⟨[], .unary op p, by simp, by simpa using .unary written derived⟩
  | case9 => cases failed
  | case10 => cases failed
  | case11 ts more lt opened unclosed e unread ih =>
    cases failed
    obtain ⟨t, rfl, same⟩ := of_accept?_eq_some opened
    refine (ih e unread).shift [t] ?_ ?_
    · intro xs goes
      refine goes.within ?_
      intro ys p derived
      exact ⟨[.symbol .closeParen], .bracket p, by simp [Lexeme.Writable],
        by simpa [same] using .bracket derived⟩
    · intro xs heads fails
      simpa [same] using fails_inside (lacks_of_heads unclosed heads) fails
  | case12 ts more lt opened unclosed inner behind lt' found e wanted ih =>
    cases failed
    obtain ⟨t, rfl, same⟩ := of_accept?_eq_some opened
    obtain ⟨front, rfl, derived, ends⟩ := (readAt_reads _).sound found
    refine (expect_stops wanted).shift (t :: front) ?_ ?_
    · rintro _ rfl
      exact ⟨[.symbol .closeParen], .bracket inner, by simp [Lexeme.Writable],
        by simpa [same] using .bracket derived⟩
    · intro xs heads fails
      have ends' : ∀ zs, inner.EndsBefore .loosest (xs ++ zs) :=
        fun zs => ends.congr (heads zs).symm
      simpa [same] using fails_behind derived ends' fails
  | case13 => cases failed
  | case14 ts bare more lt opened e unread =>
    cases failed
    obtain ⟨t, rfl, same⟩ := of_accept?_eq_some opened
    refine (readSet_stops _ _ unread).shift [t] ?_ ?_
    · intro xs goes
      refine goes.within ?_
      rintro ys p (⟨rfl, rfl⟩ | ⟨zs, vs, rfl, members, rfl⟩)
      · exact ⟨[], _, by simp, by simpa [same] using .emptySet⟩
      · exact ⟨[], _, by simp, by simpa [same] using .set members⟩
    · intro xs _ fails
      simpa [same] using fails_set fails
  | case15 => cases failed
  | case16 ts noParen noSquare e unread =>
    cases failed
    refine (Value.readNext_stops _ _ unread).mono ?_ ?_
    · intro xs goes
      exact goes.extend fun ys v spelled => ⟨[], .value v, by simp, by simpa using .value spelled⟩
    · intro xs heads fails
      exact fails_value (lacks_of_heads noParen heads) (lacks_of_heads noSquare heads) fails
  | case17 => cases failed

theorem readWhole_stops : Stops readWhole (Derives .loosest) := by
  intro ts e failed
  unfold readWhole at failed
  split at failed
  · rename_i e unread
    cases failed
    refine (readAt_stops .loosest _ _ unread).mono (fun _ goes => goes) ?_
    intro xs _ fails front rest whole
    obtain ⟨e, failed⟩ := fails front rest whole
    exact ⟨e, by simp [readWhole, failed]⟩
  · cases failed
  · rename_i root t rest lt found
    cases failed
    obtain ⟨front, rfl, derived, ends⟩ := (readAt_reads .loosest).sound found
    refine .early front (t :: rest) (by simp) rfl ⟨[], root, by simp, by simpa using derived⟩ ?_
      (by simp)
    intro x mem both rest' whole
    obtain rfl : t.lexeme = x := by simpa using mem
    have apart : ∀ zs, root.EndsBefore .loosest ([t.lexeme] ++ zs) :=
      fun zs => ends.congr (by simp)
    obtain ⟨back, _, found, same⟩ := (readAt_reads .loosest).splits derived apart whole rest'
    obtain ⟨t', back, rfl, -, -⟩ := lexemes_eq_cons.1 same
    refine ⟨.misplaced t' (back ++ rest'), ?_⟩
    simp only [readWhole, found, List.cons_append]

section

variable {x : Lexeme} {xs : List Lexeme}

theorem ofTokens_fails_introduced (introduced : x.IsKeyword "where") (fails : Fails readWhole xs) :
    Fails ofTokens (x :: xs) := by
  intro front rest whole
  obtain ⟨t, front, rfl, rfl, behind⟩ := lexemes_eq_cons.1 whole
  obtain ⟨e, failed⟩ := fails front rest behind
  exact ⟨e, by simp [ofTokens, Token.isKeyword_iff.2 introduced, failed]⟩

theorem ofTokens_fails_bare (bare : ¬ x.IsKeyword "where") (fails : Fails readWhole (x :: xs)) :
    Fails ofTokens (x :: xs) := by
  intro front rest whole
  obtain ⟨e, failed⟩ := fails front rest whole
  obtain ⟨t, front, rfl, rfl, -⟩ := lexemes_eq_cons.1 whole
  rw [← Token.isKeyword_iff] at bare
  rw [List.cons_append] at *
  exact ⟨e, by rw [ofTokens, if_neg bare, failed]⟩

end

theorem ofTokens_stops : Stops ofTokens DerivesWhole := by
  intro ts e failed
  unfold ofTokens at failed
  split at failed
  · cases failed
  · rename_i t rest
    split at failed
    · rename_i introduced
      rw [Token.isKeyword_iff] at introduced
      refine (readWhole_stops _ _ failed).shift [t] ?_ fun _ _ =>
        ofTokens_fails_introduced introduced
      intro xs goes
      refine goes.within ?_
      intro ys p root
      exact ⟨[], p, by simp, by simpa using .introduced introduced root⟩
    · rename_i bare
      rw [Token.isKeyword_iff] at bare
      refine (readWhole_stops _ _ failed).mono ?_ ?_
      · intro xs goes
        exact goes.extend fun ys p root => ⟨[], p, by simp, by simpa using .bare root⟩
      · intro xs heads fails
        obtain ⟨ys, rfl⟩ := eq_cons_of_heads heads
        exact ofTokens_fails_bare bare fails

end TimelineFilter.Predicate
