import TimelineFilter.Problem

/-!
A reader that moves forward over a list of tokens with one token of lookahead. Its place never
passes the end of the list. Nothing is said here about which tokens a query consists of.
-/
namespace TimelineFilter

/-- A list of tokens and the number of tokens that were taken from it. -/
structure Cursor where
  tokens : List Token
  place : Nat
  place_le : place ≤ tokens.length

namespace Cursor

def start (tokens : List Token) : Cursor := ⟨tokens, 0, Nat.zero_le _⟩

def rest (c : Cursor) : List Token := c.tokens.drop c.place

def peek? (c : Cursor) : Option Token := c.tokens[c.place]?

def peekKind? (c : Cursor) : Option TokenKind := c.peek?.map Token.kind

def check (c : Cursor) (kind : TokenKind) : Bool := c.peekKind? == some kind

def checkKeyword (c : Cursor) (keyword : String) : Bool := c.peek?.any (·.isKeyword keyword)

def hasMore (c : Cursor) : Bool := c.place < c.tokens.length

def remaining (c : Cursor) : String := Token.renderAll (c.tokens.drop c.place)

def failure (c : Cursor) (problem : Problem) : Failure := ⟨problem, c.remaining⟩

def peek (c : Cursor) : Except Failure Token :=
  match c.peek? with
  | some t => .ok t
  | none => .error (c.failure .unexpectedEnd)

def next (c : Cursor) : Except Failure Token × Cursor :=
  if h : c.place < c.tokens.length then
    (.ok c.tokens[c.place], { c with place := c.place + 1, place_le := h })
  else (.error (c.failure .unexpectedEnd), c)

def expect (c : Cursor) (kind : TokenKind) : Except Failure Token × Cursor :=
  match c.peek? with
  | none => (.error (c.failure .unexpectedEnd), c)
  | some t =>
    if t.kind = kind then c.next
    else (.error (c.failure (.expected (.token kind) t.lexeme)), c)

inductive Call
  | peek | tryPeek | peekKind
  | check (kind : TokenKind)
  | checkKeyword (keyword : String)
  | next
  | expect (kind : TokenKind)
  | hasMore | remaining
deriving DecidableEq, Repr

inductive Answer
  | token (token : Token)
  | failed (failure : Failure)
  | tokenIfAny (token : Option Token)
  | kindIfAny (kind : Option TokenKind)
  | flag (flag : Bool)
  | text (text : String)
deriving DecidableEq, Repr

def Answer.ofResult : Except Failure Token → Answer
  | .ok t => .token t
  | .error e => .failed e

def step (c : Cursor) : Call → Answer × Cursor
  | .peek => (.ofResult c.peek, c)
  | .tryPeek => (.tokenIfAny c.peek?, c)
  | .peekKind => (.kindIfAny c.peekKind?, c)
  | .check kind => (.flag (c.check kind), c)
  | .checkKeyword keyword => (.flag (c.checkKeyword keyword), c)
  | .next => c.next.map .ofResult id
  | .expect kind => (c.expect kind).map .ofResult id
  | .hasMore => (.flag c.hasMore, c)
  | .remaining => (.text c.remaining, c)

/-- The answers to calls, made one after another of anything that answers them, and what is there
after the last. -/
def Call.run {σ : Type} (step : σ → Call → Answer × σ) (s : σ) : List Call → List Answer × σ
  | [] => ([], s)
  | call :: calls =>
    let (answer, after) := step s call
    let (answers, last) := run step after calls
    (answer :: answers, last)

end Cursor

end TimelineFilter
