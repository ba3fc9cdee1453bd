import TimelineFilter.Proofs.Grammar.Expressions
import TimelineFilter.Proofs.Grammar.Sources
import TimelineFilter.Query

namespace TimelineFilter.Query

/-- A query with sources, with sources and a predicate, or with a predicate alone. -/
inductive Derives : List Lexeme → Query → Prop
  | implied {xs : List Lexeme} {p : Predicate} (root : Predicate.DerivesWhole xs p) :
      Derives xs ⟨[.implied], p⟩
  | unfiltered {x : Lexeme} {xs : List Lexeme} {sources : List Source}
      (introduced : x.IsKeyword "from") (drawn : Source.Spelled xs sources) :
      Derives (x :: xs) ⟨sources, .always⟩
  | filtered {x y : Lexeme} {xs ys : List Lexeme} {sources : List Source} {p : Predicate}
      (introduced : x.IsKeyword "from") (drawn : Source.Spelled xs sources)
      (followed : y.IsKeyword "where") (root : Predicate.Derives .loosest ys p) :
      Derives (x :: xs ++ y :: ys) ⟨sources, p⟩

theorem derivesWhole_not_from {x : Lexeme} {xs : List Lexeme} {p : Predicate}
    (root : Predicate.DerivesWhole (x :: xs) p) : ¬ x.IsKeyword "from" := by
  cases root with
  | bare root => exact root.not_reserved (by decide) rfl
  | introduced same _ =>
    intro again
    exact absurd (same.agree again) (by decide)

theorem sources_end (sources : List Source) {xs : List Lexeme} (apart : ∀ s, Lacks s xs) :
    Lacks .comma xs ∧ Source.AllEndBefore sources xs := by
  refine ⟨apart _, ?_⟩
  intro s _
  unfold Source.EndsBefore
  split
  · exact apart _
  · refine ⟨apart _, ?_⟩
    rintro ⟨_, _, rfl⟩
    exact apart .comma rfl

theorem keyword_lacks {x : Lexeme} {k : String} (same : x.IsKeyword k) (xs : List Lexeme)
    (s : Symbol) : Lacks s (x :: xs) := by
  obtain ⟨word, rfl, -⟩ := same
  simp [Lacks]

theorem ofTokens_sound {ts : List Token} {q : Query} (got : ofTokens ts = .ok q) :
    Derives (lexemes ts) q := by
  unfold ofTokens at got
  split at got
  · cases got
    exact .implied .empty
  · rename_i t rest
    split at got
    · rename_i introduced
      have same := Token.isKeyword_iff.1 introduced
      split at got
      · cases got
      · rename_i sources lt found
        cases got
        obtain ⟨front, rfl, drawn, -⟩ := Source.readMany_reads.sound found
        rw [List.append_nil, lexemes_cons]
        exact .unfiltered same drawn
      · rename_i sources t' after lt found
        obtain ⟨front, rfl, drawn, -⟩ := Source.readMany_reads.sound found
        split at got
        · rename_i followed
          cases whole : Predicate.readWhole after with
          | error e => simp [whole, Except.map] at got
          | ok p =>
            obtain rfl : ⟨sources, p⟩ = q := by simpa [whole, Except.map] using got
            rw [lexemes_cons, lexemes_append, lexemes_cons]
            exact .filtered same drawn (Token.isKeyword_iff.1 followed)
              (Predicate.readWhole_eq_ok_iff.1 whole)
        · cases got
    · cases whole : Predicate.ofTokens (t :: rest) with
      | error e => simp [whole, Except.map] at got
      | ok p =>
        obtain rfl : ⟨[.implied], p⟩ = q := by simpa [whole, Except.map] using got
        exact .implied (Predicate.ofTokens_eq_ok_iff.1 whole)

theorem ofTokens_complete {ts : List Token} {q : Query} (derived : Derives (lexemes ts) q) :
    ofTokens ts = .ok q := by
  generalize same : lexemes ts = xs at derived
  cases derived with
  | implied root =>
    subst same
    have whole := Predicate.ofTokens_eq_ok_iff.2 root
    cases ts with
    | nil =>
      cases whole
      rfl
    | cons t rest =>
      have apart := derivesWhole_not_from root
      rw [← Token.isKeyword_iff] at apart
      rw [ofTokens, if_neg apart, whole]
      rfl
  | unfiltered introduced drawn =>
    obtain ⟨t, rest, rfl, rfl, rfl⟩ := lexemes_eq_cons.1 same
    obtain ⟨lt, found⟩ := (Source.readMany_reads rest _ []).2
      ⟨rest, by simp, drawn, sources_end _ (by simp [Lacks])⟩
    rw [ofTokens, if_pos (Token.isKeyword_iff.2 introduced), found]
  | filtered introduced drawn followed root =>
    obtain ⟨t, rest, rfl, rfl, behind⟩ := lexemes_eq_cons.1 same
    obtain ⟨front, back, rfl, rfl, behind'⟩ := lexemes_eq_append.1 behind
    obtain ⟨t', back, rfl, rfl, rfl⟩ := lexemes_eq_cons.1 behind'
    obtain ⟨lt, found⟩ := Source.readMany_reads.complete (t' :: back) drawn
      (sources_end _ (keyword_lacks followed _))
    rw [ofTokens, if_pos (Token.isKeyword_iff.2 introduced), found]
    simp [Token.isKeyword_iff.2 followed, Predicate.readWhole_eq_ok_iff.2 root, Except.map]

theorem ofTokens_eq_ok_iff {ts : List Token} {q : Query} :
    ofTokens ts = .ok q ↔ Derives (lexemes ts) q :=
  ⟨ofTokens_sound, ofTokens_complete⟩

theorem compile_eq_ok_iff {text : String} {q : Query} :
    compile text = .ok q ↔ (scan false text).unclosed = none ∧
      Derives (lexemes (scan false text).tokens) q := by
  unfold compile
  split
  · rename_i found
    simp [found]
  · rename_i found
    simp [found, ofTokens_eq_ok_iff]

theorem drawn_unique {xs : List Lexeme} {sources others : List Source}
    (first : Source.Spelled xs sources) (second : Source.Spelled xs others) : sources = others := by
  obtain ⟨ts, rfl⟩ := exists_lexemes xs
  have read : ∀ drawn, Source.Spelled (lexemes ts) drawn →
      Leaves (Source.readMany ts) drawn [] := fun drawn spelled =>
    (Source.readMany_reads ts drawn []).2
      ⟨ts, by simp, spelled, sources_end drawn (by simp [Lacks])⟩
  obtain ⟨_, found⟩ := read sources first
  obtain ⟨_, found'⟩ := read others second
  rw [found] at found'
  cases found'
  rfl

/-- A text that opens with `from` compiles exactly if sources follow, and behind them nothing or a
`where` with an expression; the sources of the query are the ones that are spelled, in their
order. -/
theorem compile_from_iff {text : String} {t : Token} {rest : List Token}
    (first : (scan false text).tokens = t :: rest) (introduced : t.isKeyword "from" = true)
    (sources : List Source) (root : Predicate) :
    (compile text = .ok ⟨sources, root⟩ ↔ (scan false text).unclosed = none ∧
      ∃ front behind, rest = front ++ behind ∧ Source.Spelled (lexemes front) sources ∧
        ((behind = [] ∧ root = .always) ∨
          ∃ w after, behind = w :: after ∧ w.isKeyword "where" = true ∧
            Predicate.Derives .loosest (lexemes after) root)) ∧
      ∀ xs others, Source.Spelled xs sources → Source.Spelled xs others → sources = others := by
  refine ⟨?_, fun _ _ => drawn_unique⟩
  rw [compile_eq_ok_iff, first, lexemes_cons]
  refine and_congr_right fun _ => ?_
  have opens := Token.isKeyword_iff.1 introduced
  constructor
  · intro derived
    generalize whole : t.lexeme :: lexemes rest = xs at derived
    cases derived with
    | implied root =>
      subst whole
      exact absurd opens (derivesWhole_not_from root)
    | unfiltered _ drawn =>
      obtain ⟨-, rfl⟩ := List.cons.inj whole
      exact ⟨rest, [], by simp, drawn, .inl ⟨rfl, rfl⟩⟩
    | filtered _ drawn followed root =>
      obtain ⟨-, behind⟩ := List.cons.inj whole
      obtain ⟨front, back, rfl, rfl, behind'⟩ := lexemes_eq_append.1 behind
      obtain ⟨w, after, rfl, rfl, rfl⟩ := lexemes_eq_cons.1 behind'
      exact ⟨front, w :: after, rfl, drawn,
        .inr ⟨w, after, rfl, Token.isKeyword_iff.2 followed, root⟩⟩
  · rintro ⟨front, _, rfl, drawn, ⟨rfl, rfl⟩ | ⟨w, after, rfl, followed, root⟩⟩
    · rw [List.append_nil]
      exact .unfiltered opens drawn
    · rw [lexemes_append, lexemes_cons, ← List.cons_append]
      exact .filtered opens drawn (Token.isKeyword_iff.1 followed) root

/-- A comma in front of a string goes on with the list, a comma in front of a word does not. -/
theorem compile_from_lists :
    compile "From list: home.where, \"where\", home where rt" =
      .ok ⟨[⟨.list, ["home/where"]⟩, ⟨.list, ["where"]⟩, ⟨.home, []⟩],
        .value (.field .retweet)⟩ := by
  have first : (scan false "From list: home.where, \"where\", home where rt").tokens =
      ⟨.word "From", 0⟩ :: ([⟨.word "list", 5⟩, ⟨.symbol .colon, 9⟩, ⟨.word "home", 11⟩,
        ⟨.symbol .period, 15⟩, ⟨.word "where", 16⟩, ⟨.symbol .comma, 21⟩, ⟨.quoted "where", 23⟩,
        ⟨.symbol .comma, 30⟩, ⟨.word "home", 32⟩] ++
        [⟨.word "where", 37⟩, ⟨.word "rt", 43⟩]) := by
    decide +kernel
  have arguments : Source.Arguments true
      [.word "home", .symbol .period, .word "where", .symbol .comma, .quoted "where"]
      ["home/where", "where"] :=
    .more (.more (.word rfl) (.one (.word rfl))) (.one (.one .quoted))
  have lists : Source.Names (.word "list") .list := ⟨"list", by decide, rfl⟩
  have home : Source.Names (.word "home") .home := ⟨"home", by decide, rfl⟩
  have root : Predicate.Derives .atom [.word "rt"] (.value (.field .retweet)) :=
    .value (.field (Catalogue.find?_eq_some_iff.1 rfl))
  exact (compile_from_iff first (by decide) _ _).1.2 ⟨by decide +kernel, _, _, rfl,
    .more (.drawn lists arguments) (.one (.alone home rfl)),
    .inr ⟨_, _, rfl, by decide, root.loosen (by decide)⟩⟩

theorem compile_of_spells {text : String} {xs : List Lexeme} (spelled : Spells text.toList xs)
    (q : Query) : compile text = .ok q ↔ Derives xs q := by
  obtain ⟨same, closed⟩ := spelled 0
  rw [compile_eq_ok_iff, scan, same]
  simp [closed]

end TimelineFilter.Query
