import TimelineFilter.Predicate.Level
import TimelineFilter.Value.Reader

/-!
Reading a predicate off a list of tokens. A binary level is an expression of the next tighter
level, optionally followed by an operator and an expression of the same level, so all binary
operators associate to the right. Each reader leaves fewer tokens than it was given.
-/
namespace TimelineFilter.Predicate

def readSet (ts : List Token) : Except Failure (Predicate × Shorter ts) :=
  match accept? .closeSquare ts with
  | some rest => .ok (.setOf [], rest)
  | none =>
    match Value.readMany ts with
    | .error e => .error e
    | .ok (vs, ⟨rest, lt⟩) =>
      match expect .closeSquare rest with
      | .error e => .error e
      | .ok ⟨after, lt'⟩ => .ok (.setOf vs, ⟨after, shorter_trans lt' lt⟩)

def readAt (level : Level) (ts : List Token) : Except Failure (Predicate × Shorter ts) :=
  match level with
  | .binary b =>
    match readAt b.tighter ts with
    | .error e => .error e
    | .ok (left, ⟨[], lt⟩) => .ok (left, ⟨[], lt⟩)
    | .ok (left, ⟨t :: rest, lt⟩) =>
      match b.operator? t.lexeme with
      | none => .ok (left, ⟨t :: rest, lt⟩)
      | some op =>
        match readAt (.binary b) rest with
        | .error e => .error e
        | .ok (right, ⟨after, lt'⟩) =>
          .ok (.binary op left right, ⟨after, by simp only [List.length_cons] at lt; omega⟩)
  | .unary =>
    match ts with
    | [] => .error (.before [] .unexpectedEnd)
    | t :: rest =>
      match UnaryOp.ofLexeme? t.lexeme with
      | none => readAt .atom (t :: rest)
      | some op =>
        match readAt .unary rest with
        | .error e => .error e
        | .ok (operand, ⟨after, lt⟩) => .ok (.unary op operand, ⟨after, Nat.lt_succ_of_lt lt⟩)
  | .atom =>
    match accept? .openParen ts with
    | some ⟨rest, lt⟩ =>
      match accept? .closeParen rest with
      | some ⟨after, lt'⟩ => .ok (.always, ⟨after, by omega⟩)
      | none =>
        match readAt .loosest rest with
        | .error e => .error e
        | .ok (inner, ⟨more, lt'⟩) =>
          match expect .closeParen more with
          | .error e => .error e
          | .ok ⟨after, lt''⟩ => .ok (.bracket inner, ⟨after, by omega⟩)
    | none =>
      match accept? .openSquare ts with
      | some ⟨rest, lt⟩ =>
        match readSet rest with
        | .error e => .error e
        | .ok (literal, ⟨after, lt'⟩) => .ok (literal, ⟨after, by omega⟩)
      | none =>
        match Value.readNext ts with
        | .error e => .error e
        | .ok (v, rest) => .ok (.value v, rest)
termination_by (ts.length, 8 - level.rank)
decreasing_by
  · have tighter := b.rank_lt_tighter
    have bound := b.tighter.rank_le
    have same : (Level.binary b).rank = b.rank := rfl
    apply Prod.Lex.right
    omega
  · apply Prod.Lex.left
    simp only [List.length_cons] at lt
    omega
  · apply Prod.Lex.right
    decide
  · apply Prod.Lex.left
    simp
  · apply Prod.Lex.left
    exact lt

def readWhole (ts : List Token) : Except Failure Predicate :=
  match readAt .loosest ts with
  | .error e => .error e
  | .ok (root, ⟨[], _⟩) => .ok root
  | .ok (_, ⟨t :: rest, _⟩) => .error (.misplaced t rest)

/-- A predicate that may be introduced by `where`. No tokens at all mean the predicate that always
holds; `where` alone is an error. -/
def ofTokens : List Token → Except Failure Predicate
  | [] => .ok .always
  | t :: rest => if t.isKeyword "where" then readWhole rest else readWhole (t :: rest)

def ofText (text : String) : Except Failure Predicate :=
  match scan false text with
  | ⟨_, some u⟩ => .error (.ofUnclosed u)
  | ⟨ts, none⟩ => ofTokens ts

end TimelineFilter.Predicate
