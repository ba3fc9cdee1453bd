import TimelineFilter.Proofs.Grammar.Values
import TimelineFilter.Query
import TimelineFilter.Token.Cursor

namespace TimelineFilter

theorem renderAll_lexemes (ts : List Token) :
    Token.renderAll ts = " ".intercalate ((lexemes ts).map Lexeme.render) := by
  simp only [Token.renderAll, lexemes, List.map_map]
  rfl

section

variable {α : Type} {P P' : List Token → Prop}

/-- Two readers fail alike, or they find the same value and leave the same lexemes. -/
def Agree (result : Except Failure (α × {rest : List Token // P rest}))
    (result' : Except Failure (α × {rest : List Token // P' rest})) : Prop :=
  (∃ e, result = .error e ∧ result' = .error e) ∨
    ∃ a rest rest' fits fits', result = .ok (a, ⟨rest, fits⟩) ∧ result' = .ok (a, ⟨rest', fits'⟩) ∧
      lexemes rest = lexemes rest'

theorem Agree.error {e e' : Failure} (same : e = e') :
    Agree (.error e : Except Failure (α × {rest : List Token // P rest}))
      (.error e' : Except Failure (α × {rest : List Token // P' rest})) :=
  .inl ⟨e, rfl, congrArg Except.error same.symm⟩

theorem Agree.ok (a : α) {rest rest' : List Token} {fits : P rest} {fits' : P' rest'}
    (same : lexemes rest = lexemes rest') :
    Agree (.ok (a, ⟨rest, fits⟩)) (.ok (a, ⟨rest', fits'⟩)) :=
  .inr ⟨a, rest, rest', fits, fits', rfl, rfl, same⟩

end

section

variable {ts ts' : List Token}

theorem same_cases (same : lexemes ts = lexemes ts') :
    (ts = [] ∧ ts' = []) ∨ ∃ x p p' rest rest', ts = ⟨x, p⟩ :: rest ∧ ts' = ⟨x, p'⟩ :: rest' ∧
      lexemes rest = lexemes rest' := by
  cases ts with
  | nil => exact .inl ⟨rfl, lexemes_eq_nil.1 same.symm⟩
  | cons t rest =>
    obtain ⟨t', rest', rfl, first, others⟩ := lexemes_eq_cons.1 same.symm
    exact .inr ⟨t.lexeme, t.position, t'.position, rest, rest', rfl, by rw [← first], others.symm⟩

theorem before_agree (problem : Problem) (same : lexemes ts = lexemes ts') :
    Failure.before ts problem = Failure.before ts' problem := by
  rw [Failure.before, Failure.before, renderAll_lexemes, renderAll_lexemes, same]

theorem wanted_agree (what : Expectation) (same : lexemes ts = lexemes ts') :
    Failure.wanted what ts = Failure.wanted what ts' := by
  obtain ⟨rfl, rfl⟩ | ⟨x, p, p', rest, rest', rfl, rfl, others⟩ := same_cases same
  · rfl
  · exact before_agree _ same

theorem misplaced_agree (x : Lexeme) (p p' : Nat) (same : lexemes ts = lexemes ts') :
    Failure.misplaced ⟨x, p⟩ ts = Failure.misplaced ⟨x, p'⟩ ts' :=
  before_agree _ (by simp [same])

theorem accept?_agree (s : Symbol) (same : lexemes ts = lexemes ts') :
    (accept? s ts = none ∧ accept? s ts' = none) ∨
      ∃ rest rest' lt lt', accept? s ts = some ⟨rest, lt⟩ ∧ accept? s ts' = some ⟨rest', lt'⟩ ∧
        lexemes rest = lexemes rest' := by
  obtain ⟨rfl, rfl⟩ | ⟨x, p, p', rest, rest', rfl, rfl, others⟩ := same_cases same
  · exact .inl ⟨rfl, rfl⟩
  · by_cases taken : x = .symbol s
    · exact .inr ⟨rest, rest', _, _, accept?_cons taken rest, accept?_cons taken rest', others⟩
    · exact .inl ⟨if_neg taken, if_neg taken⟩

theorem expect_agree (s : Symbol) (same : lexemes ts = lexemes ts') :
    (∃ e, expect s ts = .error e ∧ expect s ts' = .error e) ∨
      ∃ rest rest' lt lt', expect s ts = .ok ⟨rest, lt⟩ ∧ expect s ts' = .ok ⟨rest', lt'⟩ ∧
        lexemes rest = lexemes rest' := by
  unfold expect
  obtain ⟨left, right⟩ | ⟨rest, rest', lt, lt', left, right, others⟩ := accept?_agree s same
  · rw [left, right]
    exact .inl ⟨_, rfl, congrArg Except.error (wanted_agree _ same.symm)⟩
  · rw [left, right]
    exact .inr ⟨rest, rest', lt, lt', rfl, rfl, others⟩

theorem expectWord_agree (same : lexemes ts = lexemes ts') :
    Agree (expectWord ts) (expectWord ts') := by
  obtain ⟨rfl, rfl⟩ | ⟨x, p, p', rest, rest', rfl, rfl, others⟩ := same_cases same
  · exact .error rfl
  · cases x with
    | word text => exact .ok text others
    | quoted | symbol => exact .error (wanted_agree _ same)

theorem expectName_agree (same : lexemes ts = lexemes ts') :
    Agree (expectName ts) (expectName ts') := by
  obtain ⟨rfl, rfl⟩ | ⟨x, p, p', rest, rest', rfl, rfl, others⟩ := same_cases same
  · exact .error rfl
  · cases x with
    | word text | quoted text => exact .ok text others
    | symbol => exact .error (wanted_agree _ same)

end

namespace Value

variable {ts ts' : List Token}

theorem readEntry_agree {α : Type} [Catalogue α] (alone : Value) (entry : α → Value)
    (unknown : String → Problem) (same : lexemes ts = lexemes ts') :
    Agree (readEntry alone entry unknown ts) (readEntry alone entry unknown ts') := by
  -- As in every reader below: a call fails alike on both sides, or goes on with the same lexemes.
  unfold readEntry
  obtain ⟨left, right⟩ | ⟨rest, rest', lt, lt', left, right, inside⟩ := accept?_agree .period same
  · rw [left, right]
    exact .ok alone same
  · rw [left, right]
    dsimp only
    obtain ⟨e, left, right⟩ | ⟨name, after, after', lt, lt', left, right, behind⟩ :=
      expectWord_agree inside
    · rw [left, right]
      exact .error rfl
    · rw [left, right]
      dsimp only
      split
      · exact .ok _ behind
      · exact .error (before_agree _ behind)

theorem readRelation_agree (selector : Selector) (same : lexemes ts = lexemes ts') :
    Agree (readRelation selector ts) (readRelation selector ts') := by
  rw [readRelation_eq]
  exact readEntry_agree _ _ _ same

theorem readField_agree (who : Person) (same : lexemes ts = lexemes ts') :
    Agree (readField who ts) (readField who ts') := by
  rw [readField_eq]
  exact readEntry_agree _ _ _ same

theorem readDotted_agree (same : lexemes ts = lexemes ts') :
    Agree (readDotted ts) (readDotted ts') := by
  unfold readDotted
  obtain ⟨e, left, right⟩ | ⟨rest, rest', lt, lt', left, right, same⟩ := expect_agree .period same
  · rw [left, right]
    exact .error rfl
  · rw [left, right]
    dsimp only
    obtain ⟨e, left, right⟩ | ⟨name, after, after', lt, lt', left, right, same⟩ :=
      expectName_agree same
    · rw [left, right]
      exact .error rfl
    · rw [left, right]
      exact .ok name same

theorem readNamedAccount_agree (same : lexemes ts = lexemes ts') :
    Agree (readNamedAccount ts) (readNamedAccount ts') := by
  unfold readNamedAccount
  obtain ⟨e, left, right⟩ | ⟨name, rest, rest', lt, lt', left, right, behind⟩ :=
    readDotted_agree same
  · rw [left, right]
    exact .error rfl
  · rw [left, right]
    dsimp only
    obtain ⟨e, left, right⟩ | ⟨v, after, after', le, le', left, right, last⟩ :=
      readRelation_agree (.named name) behind
    · rw [left, right]
      exact .error rfl
    · rw [left, right]
      exact .ok v last

theorem readList_agree (same : lexemes ts = lexemes ts') :
    Agree (readList ts) (readList ts') := by
  unfold readList
  obtain ⟨e, left, right⟩ | ⟨owner, rest, rest', lt, lt', left, right, behind⟩ :=
    readDotted_agree same
  · rw [left, right]
    exact .error rfl
  · rw [left, right]
    dsimp only
    obtain ⟨e, left, right⟩ | ⟨slug, after, after', lt, lt', left, right, last⟩ :=
      readDotted_agree behind
    · rw [left, right]
      exact .error rfl
    · rw [left, right]
      exact .ok _ last

theorem readWord_agree (x : Lexeme) (p p' : Nat) (word : String)
    (same : lexemes ts = lexemes ts') :
    Agree (readWord ⟨x, p⟩ word ts) (readWord ⟨x, p'⟩ word ts') := by
  have whole : lexemes (⟨x, p⟩ :: ts) = lexemes (⟨x, p'⟩ :: ts') := by simp [same]
  unfold readWord
  split
  · exact readNamedAccount_agree same
  · exact readRelation_agree _ same
  · split
    · exact readRelation_agree _ same
    · exact .error (before_agree _ whole)
  · split
    · exact readRelation_agree _ same
    · exact readRelation_agree _ same
    · exact readRelation_agree _ same
    · exact readField_agree _ same
    · exact readField_agree _ same
    · exact readList_agree same
    · split
      · split
        · exact .ok _ same
        · exact .error (before_agree _ whole)
      · split
        · exact .ok _ same
        · exact .error (before_agree _ whole)

theorem read_agree (x : Lexeme) (p p' : Nat) (same : lexemes ts = lexemes ts') :
    Agree (read ⟨x, p⟩ ts) (read ⟨x, p'⟩ ts') := by
  unfold read
  cases x with
  | quoted contents => exact .ok _ same
  | word word => exact readWord_agree _ p p' word same
  | symbol s =>
    cases s with
    | star => exact readRelation_agree _ same
    | _ => exact .error (misplaced_agree _ p p' same)

theorem readNext_agree (same : lexemes ts = lexemes ts') :
    Agree (readNext ts) (readNext ts') := by
  obtain ⟨rfl, rfl⟩ | ⟨x, p, p', rest, rest', rfl, rfl, others⟩ := same_cases same
  · exact .error rfl
  · rw [readNext, readNext]
    obtain ⟨e, left, right⟩ | ⟨v, after, after', le, le', left, right, behind⟩ :=
      read_agree x p p' others
    · rw [left, right]
      exact .error rfl
    · rw [left, right]
      exact .ok v behind

theorem readMany_agree {ts ts' : List Token} (same : lexemes ts = lexemes ts') :
    Agree (readMany ts) (readMany ts') := by
  rw [readMany, readMany]
  obtain ⟨e, left, right⟩ | ⟨v, rest, rest', lt, lt', left, right, behind⟩ := readNext_agree same
  · rw [left, right]
    exact .error rfl
  · rw [left, right]
    dsimp only
    obtain ⟨left, right⟩ | ⟨more, more', lt'', lt', left, right, inside⟩ :=
      accept?_agree .comma behind
    · rw [left, right]
      exact .ok _ behind
    · rw [left, right]
      dsimp only
      obtain ⟨e, left, right⟩ | ⟨vs, after, after', lt, lt', left, right, last⟩ :=
        readMany_agree inside
      · rw [left, right]
        exact .error rfl
      · rw [left, right]
        exact .ok _ last
termination_by ts.length

end Value

namespace Predicate

theorem readSet_agree {ts ts' : List Token} (same : lexemes ts = lexemes ts') :
    Agree (readSet ts) (readSet ts') := by
  unfold readSet
  obtain ⟨left, right⟩ | ⟨rest, rest', lt, lt', left, right, behind⟩ :=
    accept?_agree .closeSquare same
  · rw [left, right]
    dsimp only
    obtain ⟨e, left, right⟩ | ⟨vs, rest, rest', lt, lt', left, right, behind⟩ :=
      Value.readMany_agree same
    · rw [left, right]
      exact .error rfl
    · rw [left, right]
      dsimp only
      obtain ⟨e, left, right⟩ | ⟨after, after', lt, lt', left, right, last⟩ :=
        expect_agree .closeSquare behind
      · rw [left, right]
        exact .error rfl
      · rw [left, right]
        exact .ok _ last
  · rw [left, right]
    exact .ok _ behind

/-- The reader of a level calls itself at a tighter level or behind some tokens. -/
theorem readAt_agree : (level : Level) → {ts ts' : List Token} → lexemes ts = lexemes ts' →
    Agree (readAt level ts) (readAt level ts')
  | .binary b, ts, ts', same => by
    have tighter := b.rank_lt_tighter
    have bound := b.tighter.rank_le
    unfold readAt
    obtain ⟨e, left, right⟩ | ⟨first, rest, rest', lt, lt', left, right, behind⟩ :=
      readAt_agree b.tighter same
    · rw [left, right]
      exact .error rfl
    · rw [left, right]
      obtain ⟨rfl, rfl⟩ | ⟨x, p, p', more, more', rfl, rfl, others⟩ := same_cases behind
      · exact .ok first rfl
      · have shorter : more.length < ts.length := Nat.lt_of_succ_lt lt
        dsimp only
        split
        · exact .ok first behind
        · obtain ⟨e, left, right⟩ | ⟨second, after, after', lt, lt', left, right, last⟩ :=
            readAt_agree (.binary b) others
          · rw [left, right]
            exact .error rfl
          · rw [left, right]
            exact .ok _ last
  | .unary, ts, ts', same => by
    have whole := readAt_agree .atom same
    obtain ⟨rfl, rfl⟩ | ⟨x, p, p', rest, rest', split, rfl, others⟩ := same_cases same
    · unfold readAt
      exact .error rfl
    · have shorter : rest.length < ts.length := by simp [split]
      have operand := readAt_agree .unary others
      subst split
      unfold readAt
      dsimp only
      split
      · exact whole
      · obtain ⟨e, left, right⟩ | ⟨p, after, after', lt, lt', left, right, last⟩ := operand
        · rw [left, right]
          exact .error rfl
        · rw [left, right]
          exact .ok _ last
  | .atom, ts, ts', same => by
    unfold readAt
    obtain ⟨left, right⟩ | ⟨rest, rest', lt, lt', left, right, inside⟩ :=
      accept?_agree .openParen same
    · rw [left, right]
      dsimp only
      obtain ⟨left, right⟩ | ⟨rest, rest', lt, lt', left, right, inside⟩ :=
        accept?_agree .openSquare same
      · rw [left, right]
        dsimp only
        obtain ⟨e, left, right⟩ | ⟨v, after, after', lt, lt', left, right, last⟩ :=
          Value.readNext_agree same
        · rw [left, right]
          exact .error rfl
        · rw [left, right]
          exact .ok _ last
      · rw [left, right]
        dsimp only
        obtain ⟨e, left, right⟩ | ⟨literal, after, after', lt, lt', left, right, last⟩ :=
          readSet_agree inside
        · rw [left, right]
          exact .error rfl
        · rw [left, right]
          exact .ok _ last
    · rw [left, right]
      dsimp only
      obtain ⟨left, right⟩ | ⟨after, after', lt'', lt', left, right, last⟩ :=
        accept?_agree .closeParen inside
      · rw [left, right]
        dsimp only
        obtain ⟨e, left, right⟩ | ⟨p, more, more', lt, lt', left, right, behind⟩ :=
          readAt_agree .loosest inside
        · rw [left, right]
          exact .error rfl
        · rw [left, right]
          dsimp only
          obtain ⟨e, left, right⟩ | ⟨after, after', lt, lt', left, right, last⟩ :=
            expect_agree .closeParen behind
          · rw [left, right]
            exact .error rfl
          · rw [left, right]
            exact .ok _ last
      · rw [left, right]
        exact .ok _ last
termination_by level ts => (ts.length, 8 - level.rank)
decreasing_by
  · have same_rank : (Level.binary b).rank = b.rank := rfl
    exact Prod.Lex.right _ (by omega)
  · exact Prod.Lex.left _ _ shorter
  · exact Prod.Lex.right _ (by decide)
  · exact Prod.Lex.left _ _ shorter
  · exact Prod.Lex.left _ _ lt

theorem readWhole_agree {ts ts' : List Token} (same : lexemes ts = lexemes ts') :
    readWhole ts = readWhole ts' := by
  unfold readWhole
  obtain ⟨e, left, right⟩ | ⟨root, rest, rest', lt, lt', left, right, behind⟩ :=
    readAt_agree .loosest same
  · rw [left, right]
  · rw [left, right]
    obtain ⟨rfl, rfl⟩ | ⟨x, p, p', after, after', rfl, rfl, others⟩ := same_cases behind
    · rfl
    · exact congrArg Except.error (misplaced_agree x p p' others)

theorem ofTokens_agree {ts ts' : List Token} (same : lexemes ts = lexemes ts') :
    ofTokens ts = ofTokens ts' := by
  obtain ⟨rfl, rfl⟩ | ⟨x, p, p', rest, rest', rfl, rfl, others⟩ := same_cases same
  · rfl
  · rw [ofTokens, ofTokens, readWhole_agree same, readWhole_agree others]
    rfl

end Predicate

namespace Source

variable {ts ts' : List Token}

theorem readPart_agree (bare : Bool) (same : lexemes ts = lexemes ts') :
    Agree (readPart bare ts) (readPart bare ts') := by
  obtain ⟨rfl, rfl⟩ | ⟨x, p, p', rest, rest', rfl, rfl, others⟩ := same_cases same
  · exact .error rfl
  · cases x with
    | quoted text => exact .ok text others
    | word text =>
      cases bare with
      | true => exact .ok text others
      | false => exact .error (wanted_agree _ same)
    | symbol s => exact .error (wanted_agree _ same)

theorem readArgument_agree (bare : Bool) {ts ts' : List Token} (same : lexemes ts = lexemes ts') :
    Agree (readArgument bare ts) (readArgument bare ts') := by
  rw [readArgument, readArgument]
  obtain ⟨e, left, right⟩ | ⟨part, rest, rest', lt, lt', left, right, behind⟩ :=
    readPart_agree bare same
  · rw [left, right]
    exact .error rfl
  · rw [left, right]
    dsimp only
    obtain ⟨left, right⟩ | ⟨more, more', lt'', lt', left, right, inside⟩ :=
      accept?_agree .period behind
    · rw [left, right]
      exact .ok _ behind
    · rw [left, right]
      dsimp only
      obtain ⟨e, left, right⟩ | ⟨parts, after, after', lt, lt', left, right, last⟩ :=
        readArgument_agree true inside
      · rw [left, right]
        exact .error rfl
      · rw [left, right]
        exact .ok _ last
termination_by ts.length

theorem acceptContinuation?_agree (same : lexemes ts = lexemes ts') :
    (acceptContinuation? ts = none ∧ acceptContinuation? ts' = none) ∨
      ∃ rest rest' lt lt', acceptContinuation? ts = some ⟨rest, lt⟩ ∧
        acceptContinuation? ts' = some ⟨rest', lt'⟩ ∧ lexemes rest = lexemes rest' := by
  unfold acceptContinuation?
  obtain ⟨left, right⟩ | ⟨rest, rest', lt, lt', left, right, behind⟩ := accept?_agree .comma same
  · rw [left, right]
    exact .inl ⟨rfl, rfl⟩
  · rw [left, right]
    obtain ⟨rfl, rfl⟩ | ⟨x, p, p', after, after', rfl, rfl, others⟩ := same_cases behind
    · exact .inl ⟨rfl, rfl⟩
    · by_cases quoted : x.kind = .quoted
      · exact .inr ⟨_, _, lt, lt', if_pos quoted, if_pos quoted, behind⟩
      · exact .inl ⟨if_neg quoted, if_neg quoted⟩

theorem readArguments_agree (bare : Bool) {ts ts' : List Token}
    (same : lexemes ts = lexemes ts') : Agree (readArguments bare ts) (readArguments bare ts') := by
  rw [readArguments, readArguments]
  obtain ⟨e, left, right⟩ | ⟨argument, rest, rest', lt, lt', left, right, behind⟩ :=
    readArgument_agree bare same
  · rw [left, right]
    exact .error rfl
  · rw [left, right]
    dsimp only
    obtain ⟨left, right⟩ | ⟨more, more', lt'', lt', left, right, inside⟩ :=
      acceptContinuation?_agree behind
    · rw [left, right]
      exact .ok _ behind
    · rw [left, right]
      dsimp only
      obtain ⟨e, left, right⟩ | ⟨arguments, after, after', lt, lt', left, right, last⟩ :=
        readArguments_agree false inside
      · rw [left, right]
        exact .error rfl
      · rw [left, right]
        exact .ok _ last
termination_by ts.length

theorem readKind_agree (same : lexemes ts = lexemes ts') :
    (∃ e, readKind ts = .error e ∧ readKind ts' = .error e) ∨
      ∃ kind keyword rest rest' lt lt', readKind ts = .ok (kind, keyword, ⟨rest, lt⟩) ∧
        readKind ts' = .ok (kind, keyword, ⟨rest', lt'⟩) ∧ lexemes rest = lexemes rest' := by
  obtain ⟨rfl, rfl⟩ | ⟨x, p, p', rest, rest', rfl, rfl, others⟩ := same_cases same
  · exact .inl ⟨_, rfl, rfl⟩
  · unfold readKind
    dsimp only
    cases keyword? x with
    | none => exact .inl ⟨_, rfl, congrArg Except.error (wanted_agree _ same.symm)⟩
    | some keyword =>
      dsimp only
      cases SourceKind.ofKeyword? keyword with
      | none => exact .inl ⟨_, rfl, congrArg Except.error (before_agree _ same.symm)⟩
      | some kind => exact .inr ⟨kind, keyword, rest, rest', _, _, rfl, rfl, others⟩

theorem readGroup_agree (same : lexemes ts = lexemes ts') :
    Agree (readGroup ts) (readGroup ts') := by
  unfold readGroup
  obtain ⟨e, left, right⟩ | ⟨kind, keyword, rest, rest', lt, lt', left, right, behind⟩ :=
    readKind_agree same
  · rw [left, right]
    exact .error rfl
  · rw [left, right]
    dsimp only
    obtain ⟨left, right⟩ | ⟨more, more', lt'', lt', left, right, inside⟩ :=
      accept?_agree .colon behind
    · rw [left, right]
      dsimp only
      split
      · exact .error (before_agree _ behind)
      · exact .ok _ behind
    · rw [left, right]
      dsimp only
      obtain ⟨e, left, right⟩ | ⟨arguments, after, after', lt, lt', left, right, last⟩ :=
        readArguments_agree true inside
      · rw [left, right]
        exact .error rfl
      · rw [left, right]
        exact .ok _ last

theorem readMany_agree {ts ts' : List Token} (same : lexemes ts = lexemes ts') :
    Agree (readMany ts) (readMany ts') := by
  rw [readMany, readMany]
  obtain ⟨e, left, right⟩ | ⟨sources, rest, rest', lt, lt', left, right, behind⟩ :=
    readGroup_agree same
  · rw [left, right]
    exact .error rfl
  · rw [left, right]
    dsimp only
    obtain ⟨left, right⟩ | ⟨more, more', lt'', lt', left, right, inside⟩ :=
      accept?_agree .comma behind
    · rw [left, right]
      exact .ok _ behind
    · rw [left, right]
      dsimp only
      obtain ⟨e, left, right⟩ | ⟨others, after, after', lt, lt', left, right, last⟩ :=
        readMany_agree inside
      · rw [left, right]
        exact .error rfl
      · rw [left, right]
        exact .ok _ last
termination_by ts.length

end Source

namespace Query

theorem ofTokens_agree {ts ts' : List Token} (same : lexemes ts = lexemes ts') :
    ofTokens ts = ofTokens ts' := by
  obtain ⟨rfl, rfl⟩ | ⟨x, p, p', rest, rest', rfl, rfl, others⟩ := same_cases same
  · rfl
  · rw [ofTokens, ofTokens, Predicate.ofTokens_agree same]
    obtain ⟨e, left, right⟩ | ⟨sources, behind, behind', lt, lt', left, right, same'⟩ :=
      Source.readMany_agree others
    · rw [left, right]
      rfl
    · rw [left, right]
      obtain ⟨rfl, rfl⟩ | ⟨y, q, q', after, after', rfl, rfl, last⟩ := same_cases same'
      · rfl
      · dsimp only
        rw [Predicate.readWhole_agree last, wanted_agree .whereClause same']
        rfl

theorem step_lenient (c : Char) (rest : List Char) :
    step false c rest = .unclosed ∨ step true c rest = step false c rest := by
  unfold step
  split
  · split
    · exact .inr rfl
    · exact .inl rfl
  · exact .inr rfl

theorem scanFrom_lenient {position : Nat} {cs : List Char}
    (closed : (scanFrom false position cs).unclosed = none) :
    scanFrom true position cs = scanFrom false position cs := by
  fun_induction scanFrom false position cs with
  | case1 => rw [scanFrom]
  | case2 position c rest blank ih =>
    rw [scanFrom, if_pos blank]
    exact ih closed
  | case3 => cases closed
  | case4 position c rest solid x after shorter found used ih =>
    rcases step_lenient c rest with stuck | same
    · rw [found] at stuck
      cases stuck
    · rw [scanFrom, if_neg solid, same, found]
      exact congrArg (Scan.cons ⟨x, position⟩) (ih closed)

theorem scan_lenient {text : String} (closed : (scan false text).unclosed = none) :
    scan true text = scan false text := scanFrom_lenient closed

theorem compile_agree {text text' : String} (closed : (scan false text).unclosed = none)
    (closed' : (scan false text').unclosed = none)
    (same : lexemes (scan false text).tokens = lexemes (scan false text').tokens) :
    compile text = compile text' := by
  unfold compile
  generalize scan false text = s, scan false text' = s' at closed closed' same
  obtain ⟨ts, u⟩ := s
  obtain ⟨ts', u'⟩ := s'
  subst closed closed'
  exact ofTokens_agree same

/-- The tokens of a text, written with one space between them, are read again as the same tokens,
and the query compiles or fails as it did. -/
theorem compile_renderAll (lenient : Bool) (text : String) :
    let ts := (scan lenient text).tokens
    (Cursor.start ts).remaining = Token.renderAll ts ∧
      (scan false (Token.renderAll ts)).unclosed = none ∧
      lexemes (scan false (Token.renderAll ts)).tokens = lexemes ts ∧
      ((scan false text).unclosed = none → compile (Token.renderAll ts) = compile text) := by
  intro ts
  have writable : ∀ x ∈ lexemes ts, x.Writable := scanFrom_writable lenient 0 text.toList
  have spelled := spells_renderAll (lexemes ts) writable
  rw [← renderAll_lexemes] at spelled
  obtain ⟨same, closed⟩ := spelled 0
  refine ⟨rfl, closed, same, ?_⟩
  intro closed'
  refine compile_agree closed closed' (same.trans ?_)
  cases lenient with
  | false => rfl
  | true => exact congrArg (lexemes ·.tokens) (scan_lenient closed')

/-- The unknown field is reported in the same words, although two spellings have changed. -/
theorem compile_renderAll_unknown_field :
    (scan false "rt&&user.nam").unclosed = none ∧
      compile "rt & user . nam" = compile "rt&&user.nam" := by
  have scanned : scan false "rt&&user.nam" = ⟨[⟨.word "rt", 0⟩, ⟨.symbol .and, 2⟩,
      ⟨.word "user", 4⟩, ⟨.symbol .period, 8⟩, ⟨.word "nam", 9⟩], none⟩ := by decide +kernel
  have closed : (scan false "rt&&user.nam").unclosed = none := by rw [scanned]
  have same := (compile_renderAll false "rt&&user.nam").2.2.2 closed
  rw [scanned] at same
  exact ⟨closed, same⟩

end Query

end TimelineFilter
