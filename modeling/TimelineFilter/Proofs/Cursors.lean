import TimelineFilter.Token.Cursor
import TimelineFilter.Token.Front

/-! A cursor and the list of the tokens that it has not taken yet answer every call alike, in
whatever order the calls are made and however many of them fail. The readers of queries work on
such lists, and take a token off them as a cursor does. -/
namespace TimelineFilter.Cursor

namespace Call

def answer : Call → List Token → Answer
  | .tryPeek, ts => .tokenIfAny ts.head?
  | .peekKind, ts => .kindIfAny (ts.head?.map Token.kind)
  | .check kind, ts => .flag (ts.head?.any (·.kind = kind))
  | .checkKeyword keyword, ts => .flag (ts.head?.any (·.isKeyword keyword))
  | .hasMore, ts => .flag (!ts.isEmpty)
  | .remaining, ts => .text (Token.renderAll ts)
  | .peek, [] | .next, [] | .expect _, [] => .failed (.before [] .unexpectedEnd)
  | .peek, t :: _ | .next, t :: _ => .token t
  | .expect kind, t :: ts =>
    if t.kind = kind then .token t
    else .failed (.before (t :: ts) (.expected (.token kind) t.lexeme))

/-- The tokens that a call leaves of these: all but the first if it is a `next` or an `expect` that
succeeds, and all of them otherwise. -/
def leaves (call : Call) (ts : List Token) : List Token :=
  match call, call.answer ts with
  | .next, .token _ | .expect _, .token _ => ts.tail
  | _, _ => ts

def onList (ts : List Token) (call : Call) : Answer × List Token :=
  (call.answer ts, call.leaves ts)

theorem remaining_of_failed {call : Call} {ts : List Token} {e : Failure}
    (failed : call.answer ts = .failed e) : e.remaining = Token.renderAll ts := by
  cases ts with
  | nil =>
    cases call with
    | peek | next | expect =>
      cases failed
      rfl
    | tryPeek | peekKind | check | checkKeyword | hasMore | remaining => cases failed
  | cons t ts =>
    cases call with
    | expect kind =>
      by_cases same : t.kind = kind
      · simp [answer, same] at failed
      · obtain rfl : _ = e := by simpa [answer, same] using failed
        rfl
    | peek | next | tryPeek | peekKind | check | checkKeyword | hasMore | remaining => cases failed

end Call

variable {t : Token} {ts : List Token}

theorem failure_eq (c : Cursor) (problem : Problem) :
    c.failure problem = .before c.rest problem := rfl

theorem place_add_length (c : Cursor) : c.place + c.rest.length = c.tokens.length := by
  rw [rest, List.length_drop, Nat.add_sub_of_le c.place_le]

theorem peek?_eq (c : Cursor) : c.peek? = c.rest.head? := List.head?_drop.symm

theorem peekKind?_eq (c : Cursor) : c.peekKind? = c.rest.head?.map Token.kind := by
  rw [peekKind?, peek?_eq]

theorem check_eq (c : Cursor) (kind : TokenKind) :
    c.check kind = c.rest.head?.any (·.kind = kind) := by
  rw [check, peekKind?_eq]
  cases c.rest with
  | nil => rfl
  | cons t ts =>
    rw [Bool.eq_iff_iff]
    simp

theorem checkKeyword_eq (c : Cursor) (keyword : String) :
    c.checkKeyword keyword = c.rest.head?.any (·.isKeyword keyword) := by
  rw [checkKeyword, peek?_eq]

theorem hasMore_eq (c : Cursor) : c.hasMore = !c.rest.isEmpty := by
  rw [hasMore, rest, Bool.eq_iff_iff]
  simp

theorem peek_of_nil {c : Cursor} (left : c.rest = []) :
    c.peek = .error (.before [] .unexpectedEnd) := by
  rw [peek, peek?_eq, failure_eq, left]
  rfl

theorem peek_of_cons {c : Cursor} (left : c.rest = t :: ts) : c.peek = .ok t := by
  rw [peek, peek?_eq, left]
  rfl

theorem next_of_nil {c : Cursor} (left : c.rest = []) :
    c.next = (.error (.before [] .unexpectedEnd), c) := by
  have ended : ¬ c.place < c.tokens.length := Nat.not_lt.2 (List.drop_eq_nil_iff.1 left)
  rw [next, dif_neg ended, failure_eq, left]

theorem next_of_cons {c : Cursor} (left : c.rest = t :: ts) :
    ∃ after, c.next = (.ok t, after) ∧ after.rest = ts ∧ after.tokens = c.tokens := by
  have inside : c.place < c.tokens.length := by
    have length := c.place_add_length
    rw [left, List.length_cons] at length
    omega
  rw [rest, List.drop_eq_getElem_cons inside] at left
  obtain ⟨rfl, rfl⟩ := List.cons.inj left
  exact ⟨_, dif_pos inside, rfl, rfl⟩

theorem expect_of_nil {c : Cursor} (left : c.rest = []) (kind : TokenKind) :
    c.expect kind = (.error (.before [] .unexpectedEnd), c) := by
  rw [expect, peek?_eq, failure_eq, left]
  rfl

theorem expect_of_cons {c : Cursor} (left : c.rest = t :: ts) (kind : TokenKind) :
    c.expect kind = if t.kind = kind then c.next
      else (.error (.before (t :: ts) (.expected (.token kind) t.lexeme)), c) := by
  rw [expect, peek?_eq, left]
  simp only [List.head?_cons, failure_eq, left]

/-- What a call does: it leaves the cursor where it is, or it takes the first of the tokens that
are left. -/
theorem step_cases (c : Cursor) (call : Call) :
    c.step call = (call.answer c.rest, c) ∧ call.leaves c.rest = c.rest ∨
      ∃ t after, c.step call = (.token t, after) ∧ call.answer c.rest = .token t ∧
        call.leaves c.rest = after.rest ∧ after.tokens = c.tokens := by
  cases call with
  | peek =>
    cases left : c.rest with
    | nil => exact .inl ⟨by rw [step, peek_of_nil left]; rfl, rfl⟩
    | cons t ts => exact .inl ⟨by rw [step, peek_of_cons left]; rfl, rfl⟩
  | tryPeek => exact .inl ⟨by rw [step, peek?_eq]; rfl, rfl⟩
  | peekKind => exact .inl ⟨by rw [step, peekKind?_eq]; rfl, rfl⟩
  | check kind => exact .inl ⟨by rw [step, check_eq]; rfl, rfl⟩
  | checkKeyword keyword => exact .inl ⟨by rw [step, checkKeyword_eq]; rfl, rfl⟩
  | hasMore => exact .inl ⟨by rw [step, hasMore_eq]; rfl, rfl⟩
  | remaining => exact .inl ⟨rfl, rfl⟩
  | next =>
    cases left : c.rest with
    | nil => exact .inl ⟨by rw [step, next_of_nil left]; rfl, rfl⟩
    | cons t ts =>
      obtain ⟨after, taken, rfl, kept⟩ := next_of_cons left
      exact .inr ⟨t, after, by rw [step, taken]; rfl, rfl, rfl, kept⟩
  | expect kind =>
    cases left : c.rest with
    | nil => exact .inl ⟨by rw [step, expect_of_nil left]; rfl, rfl⟩
    | cons t ts =>
      -- The only call whose success depends on what the first token is.
      by_cases same : t.kind = kind
      · obtain ⟨after, taken, rfl, kept⟩ := next_of_cons left
        have answered : (Call.expect kind).answer (t :: after.rest) = .token t := if_pos same
        refine .inr ⟨t, after, ?_, answered, ?_, kept⟩
        · rw [step, expect_of_cons left, if_pos same, taken]
          rfl
        · simp only [Call.leaves, answered, List.tail_cons]
      · have answered : (Call.expect kind).answer (t :: ts) =
            .failed (.before (t :: ts) (.expected (.token kind) t.lexeme)) := if_neg same
        refine .inl ⟨?_, ?_⟩
        · rw [step, expect_of_cons left, if_neg same, answered]
          rfl
        · simp only [Call.leaves, answered]

theorem onList_rest (c : Cursor) (call : Call) :
    Call.onList c.rest call = ((c.step call).1, (c.step call).2.rest) := by
  rcases c.step_cases call with ⟨stepped, left⟩ | ⟨t, after, stepped, answered, left, -⟩
  · rw [stepped, Call.onList, left]
  · rw [stepped, Call.onList, answered, left]

theorem tokens_step (c : Cursor) (call : Call) : (c.step call).2.tokens = c.tokens := by
  rcases c.step_cases call with ⟨stepped, -⟩ | ⟨t, after, stepped, -, -, kept⟩
  · rw [stepped]
  · rw [stepped, kept]

/-- A call that fails leaves the cursor as it is, and tells which tokens are left. -/
theorem step_of_failed {c : Cursor} {call : Call} {e : Failure}
    (failed : (c.step call).1 = .failed e) :
    (c.step call).2 = c ∧ e.remaining = Token.renderAll c.rest := by
  rcases c.step_cases call with ⟨stepped, -⟩ | ⟨t, after, stepped, -⟩
  · rw [stepped] at failed ⊢
    exact ⟨rfl, Call.remaining_of_failed failed⟩
  · rw [stepped] at failed
    cases failed

theorem run_onList (c : Cursor) (calls : List Call) :
    Call.run Call.onList c.rest calls =
      ((Call.run step c calls).1, (Call.run step c calls).2.rest) := by
  induction calls generalizing c with
  | nil => rfl
  | cons call calls ih => simp only [Call.run, onList_rest, ih]

theorem tokens_run (c : Cursor) (calls : List Call) :
    (Call.run step c calls).2.tokens = c.tokens := by
  induction calls generalizing c with
  | nil => rfl
  | cons call calls ih => exact (ih (c.step call).2).trans (c.tokens_step call)

/-- Calls on a cursor, made in any order, are answered as by the list of the tokens that are left.
A further call that fails leaves the cursor as it is and reports exactly these tokens. The cursor
never passes the end: its place and the number of tokens that are left add up to all of them. -/
theorem run_simulates (ts : List Token) (calls : List Call) :
    let ran := Call.run step (start ts) calls
    let listed := Call.run Call.onList ts calls
    ran.1 = listed.1 ∧ ran.2.rest = listed.2 ∧
      (∀ call e, (ran.2.step call).1 = .failed e →
        (ran.2.step call).2 = ran.2 ∧ e.remaining = Token.renderAll listed.2) ∧
      ran.2.tokens = ts ∧ ran.2.place + listed.2.length = ts.length := by
  intro ran listed
  have agreed : listed = (ran.1, ran.2.rest) := run_onList (start ts) calls
  have kept : ran.2.tokens = ts := tokens_run (start ts) calls
  rw [agreed]
  refine ⟨rfl, rfl, ?_, kept, ?_⟩
  · intro call e failed
    exact step_of_failed failed
  · rw [← kept]
    exact ran.2.place_add_length

/-- A missing bracket is reported in front of the word that stands in its place, which can still be
taken. -/
theorem run_simulates_mismatch :
    let ts : List Token := [⟨.word "a", 0⟩, ⟨.word "rt", 2⟩, ⟨.symbol .closeParen, 4⟩]
    let c := (Call.run step (start ts) [.next, .expect .quoted, .peekKind]).2
    let e : Failure := ⟨.expected (.token (.symbol .openParen)) (.word "rt"), "rt )"⟩
    (c.step (.expect (.symbol .openParen))).1 = .failed e ∧
      (c.step (.expect (.symbol .openParen))).2 = c ∧
      e.remaining = Token.renderAll (ts.drop 1) ∧
      (c.step (.expect .word)).1 = .token ⟨.word "rt", 2⟩ := by
  intro ts c e
  have failed : (c.step (.expect (.symbol .openParen))).1 = .failed e := by decide +kernel
  obtain ⟨same, remaining⟩ := (run_simulates ts _).2.2.1 _ _ failed
  exact ⟨failed, same, remaining, rfl⟩

theorem kind_eq_symbol_iff {s : Symbol} : t.kind = .symbol s ↔ t.lexeme = .symbol s := by
  rw [Token.kind]
  cases t.lexeme <;> simp [Lexeme.kind]

/-- What a reader leaves behind a symbol is what a cursor has left when it takes that symbol. -/
theorem accept?_rest (c : Cursor) (s : Symbol) :
    (accept? s c.rest).map Subtype.val =
      if c.check (.symbol s) then some c.rest.tail else none := by
  rw [check_eq]
  cases c.rest with
  | nil => rfl
  | cons t ts =>
    by_cases same : t.lexeme = .symbol s
    · simp [accept?, kind_eq_symbol_iff, same]
    · simp [accept?, kind_eq_symbol_iff, same]

theorem expect_rest (c : Cursor) (s : Symbol) :
    (TimelineFilter.expect s c.rest).map Subtype.val =
      (c.expect (.symbol s)).1.map fun _ => (c.expect (.symbol s)).2.rest := by
  cases left : c.rest with
  | nil =>
    rw [expect_of_nil left]
    rfl
  | cons t ts =>
    rw [expect_of_cons left, TimelineFilter.expect, accept?]
    by_cases same : t.lexeme = .symbol s
    · obtain ⟨after, taken, rfl, -⟩ := next_of_cons left
      rw [if_pos same, if_pos (kind_eq_symbol_iff.2 same), taken]
      rfl
    · rw [if_neg same, if_neg (mt kind_eq_symbol_iff.1 same)]
      rfl

theorem expectWord_rest (c : Cursor) :
    (expectWord c.rest).map (fun found => (Lexeme.word found.1, found.2.val)) =
      (c.expect .word).1.map fun t => (t.lexeme, (c.expect .word).2.rest) := by
  cases left : c.rest with
  | nil =>
    rw [expect_of_nil left]
    rfl
  | cons t ts =>
    obtain ⟨after, taken, rfl, -⟩ := next_of_cons left
    rw [expect_of_cons left, taken]
    obtain ⟨x, position⟩ := t
    cases x with
    | word text => rfl
    | quoted text => rfl
    | symbol s => rfl

end TimelineFilter.Cursor
