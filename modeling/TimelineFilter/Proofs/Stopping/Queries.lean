import TimelineFilter.Proofs.Grammar.Queries
import TimelineFilter.Proofs.Stopping.Expressions
import TimelineFilter.Proofs.Stopping.Sources

/-! A text that does not compile is rejected at the earliest possible token: what was read can be
completed to a query, and no query goes on with the token behind it. Texts in which a quote is
never closed are not looked at. -/
namespace TimelineFilter.Query

/-- Some query goes on with these lexemes. -/
def Extendable (xs : List Lexeme) : Prop :=
  ∃ text q, compile text = .ok q ∧ xs <+: lexemes (scan false text).tokens

theorem extendable_of_completable {xs : List Lexeme} (writable : ∀ x ∈ xs, x.Writable)
    (completable : Completable Derives xs) : Extendable xs := by
  obtain ⟨more, q, writable', derived⟩ := completable
  have all : ∀ x ∈ xs ++ more, x.Writable := by
    intro x mem
    rcases List.mem_append.1 mem with mem | mem
    · exact writable x mem
    · exact writable' x mem
  have spelled := spells_renderAll (xs ++ more) all
  refine ⟨_, q, (compile_of_spells spelled q).2 derived, ?_⟩
  rw [scan, (spelled 0).1]
  exact List.prefix_append xs more

theorem not_extendable_of_fails {xs : List Lexeme} (fails : Fails ofTokens xs) :
    ¬ Extendable xs := by
  rintro ⟨text, q, compiled, ys, whole⟩
  obtain ⟨-, derived⟩ := compile_eq_ok_iff.1 compiled
  obtain ⟨front, rest, same, spelled, -⟩ := lexemes_eq_append.1 whole.symm
  obtain ⟨e, failed⟩ := fails front rest spelled
  rw [← ofTokens_eq_ok_iff, same, failed] at derived
  cases derived

theorem of_map_eq_error {α β ε : Type} {f : α → β} {result : Except ε α} {e : ε}
    (failed : result.map f = .error e) : result = .error e := by
  cases result with
  | error e' =>
    cases failed
    rfl
  | ok a => cases failed

section

variable {x y : Lexeme} {xs ys : List Lexeme} {sources : List Source}

theorem ofTokens_fails_sources (introduced : x.IsKeyword "from")
    (fails : Fails Source.readMany xs) : Fails ofTokens (x :: xs) := by
  intro front rest whole
  obtain ⟨t, front, rfl, rfl, behind⟩ := lexemes_eq_cons.1 whole
  obtain ⟨e, failed⟩ := fails front rest behind
  exact ⟨e, by simp [ofTokens, Token.isKeyword_iff.2 introduced, failed]⟩

theorem ofTokens_fails_root (introduced : x.IsKeyword "from") (drawn : Source.Spelled ys sources)
    (followed : y.IsKeyword "where") (fails : Fails Predicate.readWhole xs) :
    Fails ofTokens (x :: (ys ++ y :: xs)) := by
  intro both rest whole
  obtain ⟨t, both, rfl, rfl, behind⟩ := lexemes_eq_cons.1 whole
  obtain ⟨back, _, found, others⟩ := Source.readMany_reads.splits drawn
    (fun zs => sources_end sources (keyword_lacks followed (xs ++ zs))) behind rest
  obtain ⟨t', back, rfl, rfl, root⟩ := lexemes_eq_cons.1 others
  obtain ⟨e, failed⟩ := fails back rest root
  exact ⟨e, by simp [ofTokens, Token.isKeyword_iff.2 introduced, Token.isKeyword_iff.2 followed,
    found, failed, Except.map]⟩

theorem ofTokens_fails_behind (introduced : x.IsKeyword "from") (drawn : Source.Spelled ys sources)
    (ends : ∀ zs, Lacks .comma ([y] ++ zs) ∧ Source.AllEndBefore sources ([y] ++ zs))
    (other : ¬ y.IsKeyword "where") : Fails ofTokens (x :: (ys ++ [y])) := by
  intro both rest whole
  obtain ⟨t, both, rfl, rfl, behind⟩ := lexemes_eq_cons.1 whole
  obtain ⟨back, _, found, others⟩ := Source.readMany_reads.splits drawn ends behind rest
  obtain ⟨t', back, rfl, rfl, -⟩ := lexemes_eq_cons.1 others
  rw [← Token.isKeyword_iff] at other
  simp [ofTokens, Token.isKeyword_iff.2 introduced, other, found]

theorem ofTokens_fails_bare (bare : ¬ x.IsKeyword "from")
    (fails : Fails Predicate.ofTokens (x :: xs)) : Fails ofTokens (x :: xs) := by
  intro front rest whole
  obtain ⟨e, failed⟩ := fails front rest whole
  obtain ⟨t, front, rfl, rfl, -⟩ := lexemes_eq_cons.1 whole
  rw [← Token.isKeyword_iff] at bare
  rw [List.cons_append] at *
  exact ⟨e, by rw [ofTokens, if_neg bare, failed]; rfl⟩

end

theorem ofTokens_stops : Stops ofTokens Derives := by
  intro ts e failed
  unfold ofTokens at failed
  split at failed
  · cases failed
  · rename_i t rest
    split at failed
    · rename_i introduced
      rw [Token.isKeyword_iff] at introduced
      split at failed
      · rename_i e unread
        cases failed
        refine (Source.readMany_stops _ _ unread).shift [t] ?_ fun _ _ =>
          ofTokens_fails_sources introduced
        intro xs goes
        refine goes.within ?_
        intro ys sources drawn
        exact ⟨[], _, by simp, by simpa using .unfiltered introduced drawn⟩
      · cases failed
      · rename_i sources t' after lt found
        obtain ⟨front, rfl, drawn, comma, ends⟩ := Source.readMany_reads.sound found
        split at failed
        · rename_i followed
          rw [Token.isKeyword_iff] at followed
          show Stop _ _ ((t :: front) ++ ([t'] ++ after)) e
          rw [← List.append_assoc]
          refine (Predicate.readWhole_stops _ _ (of_map_eq_error failed)).shift _ ?_ ?_
          · intro xs goes
            refine goes.within ?_
            intro ys p root
            exact ⟨[], _, by simp, by simpa using .filtered introduced drawn followed root⟩
          · intro xs _ fails
            simpa using ofTokens_fails_root introduced drawn followed fails
        · rename_i other
          rw [Token.isKeyword_iff] at other
          cases failed
          refine .early (t :: front) (t' :: after) (by simp) rfl
            ⟨[], _, by simp, by simpa using .unfiltered introduced drawn⟩ ?_ (by simp)
          intro x mem
          obtain rfl : t'.lexeme = x := by simpa using mem
          -- A comma would have gone on with the sources; any other token fails in every text.
          have apart : t'.lexeme ≠ .symbol .comma := fun same => comma (by simp [same])
          have ended : ∀ zs, Lacks .comma ([t'.lexeme] ++ zs) ∧
              Source.AllEndBefore sources ([t'.lexeme] ++ zs) :=
            fun zs => ⟨by simpa [Lacks] using apart, fun s mem => (ends s mem).congr apart⟩
          exact ofTokens_fails_behind introduced drawn ended other
    · rename_i bare
      rw [Token.isKeyword_iff] at bare
      refine (Predicate.ofTokens_stops _ _ (of_map_eq_error failed)).mono ?_ ?_
      · intro xs goes
        exact goes.extend fun ys p root => ⟨[], _, by simp, by simpa using .implied root⟩
      · intro xs heads fails
        obtain ⟨ys, rfl⟩ := eq_cons_of_heads heads
        exact ofTokens_fails_bare bare fails

theorem scanned_writable (text : String) :
    ∀ x ∈ lexemes (scan false text).tokens, x.Writable :=
  scanFrom_writable false 0 text.toList

theorem split_behind (front rest : List Token) (t : Token) :
    (front ++ t :: rest).take (front.length + 1) = front ++ [t] ∧
      (front ++ t :: rest).drop (front.length + 1) = rest := by
  induction front with
  | nil => exact ⟨rfl, rfl⟩
  | cons u front ih => simpa using ih

/-- A failure points at the token with this index. What is in front of the token can be extended
to a query, and no query goes on with the token. A failure with an unknown relation or field of a
user points behind its name instead. -/
def PointsAt (ts : List Token) (e : Failure) (k : Nat) : Prop :=
  e.remaining = Token.renderAll (ts.drop k) ∧
    match e.problem.lateName? with
    | none =>
      Extendable (lexemes (ts.take k)) ∧
        (k < ts.length → ¬ Extendable (lexemes (ts.take (k + 1))))
    | some name =>
      0 < k ∧ (lexemes ts)[k - 1]? = some (.word name) ∧
        Extendable (lexemes (ts.take (k - 1))) ∧ ¬ Extendable (lexemes (ts.take k))

/-- A text that does not compile although its quotes are closed is rejected at the earliest
possible token. -/
theorem compile_stops {text : String} (closed : (scan false text).unclosed = none) {e : Failure}
    (failed : compile text = .error e) :
    ∃ k ≤ (scan false text).tokens.length, PointsAt (scan false text).tokens e k := by
  have writable := scanned_writable text
  have unread : ofTokens (scan false text).tokens = .error e := by
    unfold compile at failed
    split at failed
    · rename_i found
      simp [found] at closed
    · rename_i found
      simpa [found] using failed
  generalize (scan false text).tokens = ts at writable unread
  cases ofTokens_stops ts e unread with
  | early front rest problem split goes sticks remaining =>
    subst split
    have goes := extendable_of_completable (fun x mem => writable x (by simp [mem])) goes
    refine ⟨front.length, by simp, by simpa using remaining, ?_⟩
    simp only [problem]
    refine ⟨by simpa using goes, ?_⟩
    intro within
    cases rest with
    | nil => simp at within
    | cons t rest =>
      rw [(split_behind front rest t).1, lexemes_append]
      exact not_extendable_of_fails (sticks t.lexeme rfl)
  | @late front rest t name problem split named goes sticks remaining =>
    subst split
    have goes := extendable_of_completable (fun x mem => writable x (by simp [mem])) goes
    have stuck := not_extendable_of_fails sticks
    obtain ⟨before, behind⟩ := split_behind front rest t
    refine ⟨front.length + 1, by simp, by rw [behind, remaining], ?_⟩
    simp only [problem]
    rw [before]
    exact ⟨by simp, by simp [named], by simpa using goes, by simpa using stuck⟩

/-- A source without its argument is rejected where the argument is missing. -/
theorem compile_stops_missing_argument :
    ∃ e, compile "from list, home" = .error e ∧ e.remaining = ", home" ∧
      ∃ k ≤ (scan false "from list, home").tokens.length,
        PointsAt (scan false "from list, home").tokens e k := by
  have scanned : scan false "from list, home" =
      ⟨[⟨.word "from", 0⟩, ⟨.word "list", 5⟩, ⟨.symbol .comma, 9⟩, ⟨.word "home", 11⟩], none⟩ := by
    decide +kernel
  have unread : Source.readMany [⟨.word "list", 5⟩, ⟨.symbol .comma, 9⟩, ⟨.word "home", 11⟩] =
      .error ⟨.missingArgument "list", ", home"⟩ := by
    unfold Source.readMany
    rfl
  have opens : Token.isKeyword ⟨.word "from", 0⟩ "from" = true := by decide
  have closed : (scan false "from list, home").unclosed = none := by rw [scanned]
  have failed : compile "from list, home" = .error ⟨.missingArgument "list", ", home"⟩ := by
    simp [compile, scanned, ofTokens, unread, opens]
  exact ⟨_, failed, rfl, compile_stops closed failed⟩

end TimelineFilter.Query
