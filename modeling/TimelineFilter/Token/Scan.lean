import TimelineFilter.Token

/-!
Reading a text as tokens. Each step takes one token off the front of the remaining characters, so
the rest is always shorter. Only a quote that is never closed stops the reading early; a lenient
reading takes the text after such a quote as a string instead.
-/
namespace TimelineFilter

/-- A quote that is never closed: the byte at which it stands and the text from it on. -/
structure Unclosed where
  position : Nat
  remaining : String
deriving DecidableEq, Repr

structure Scan where
  tokens : List Token
  unclosed : Option Unclosed
deriving DecidableEq, Repr

def Scan.cons (t : Token) (s : Scan) : Scan := { s with tokens := t :: s.tokens }

def byteLength : List Char → Nat
  | [] => 0
  | c :: rest => c.utf8Size + byteLength rest

/-- The symbol that starts with `c`, and the characters after it. A symbol of two characters wins
over its first character alone. -/
def Symbol.read? (c : Char) (rest : List Char) : Option (Symbol × List Char) :=
  match c, rest with
  | '.', _ => some (.period, rest)
  | ',', _ => some (.comma, rest)
  | ':', _ => some (.colon, rest)
  | '!', '=' :: rest => some (.notEquals, rest)
  | '!', _ => some (.exclamation, rest)
  | '&', '&' :: rest => some (.and, rest)
  | '&', _ => some (.and, rest)
  | '|', '|' :: rest => some (.or, rest)
  | '|', _ => some (.or, rest)
  | '=', '=' :: rest => some (.equals, rest)
  | '=', _ => some (.equals, rest)
  | '<', '=' :: rest => some (.lessOrEqual, rest)
  | '<', '-' :: rest => some (.containedIn, rest)
  | '<', _ => some (.less, rest)
  | '>', '=' :: rest => some (.greaterOrEqual, rest)
  | '>', _ => some (.greater, rest)
  | '-', '>' :: rest => some (.contains, rest)
  | '-', _ => some (.minus, rest)
  | '+', _ => some (.plus, rest)
  | '*', _ => some (.star, rest)
  | '/', _ => some (.slash, rest)
  | '(', _ => some (.openParen, rest)
  | ')', _ => some (.closeParen, rest)
  | '[', _ => some (.openSquare, rest)
  | ']', _ => some (.closeSquare, rest)
  | _, _ => none

theorem Symbol.read?_shorter {c : Char} {rest after : List Char} {s : Symbol}
    (read : Symbol.read? c rest = some (s, after)) : after.length ≤ rest.length := by
  unfold Symbol.read? at read
  -- A symbol takes nothing more of the rest, or one character.
  split at read <;> cases read
  all_goals first
    | exact Nat.le_refl _
    | exact Nat.le_succ _

inductive Step (rest : List Char)
  | token (lexeme : Lexeme) (after : List Char) (shorter : after.length ≤ rest.length)
  | unclosed

def step (lenient : Bool) (c : Char) (rest : List Char) : Step rest :=
  if c = '"' then
    match closed : unquote rest with
    | some (text, after) =>
      .token (.quoted (String.ofList text)) after (Nat.le_of_lt (unquote_shorter closed))
    | none =>
      if lenient then .token (.quoted (String.ofList (unescape rest))) [] (Nat.zero_le _)
      else .unclosed
  else
    match read : Symbol.read? c rest with
    | some (s, after) => .token (.symbol s) after (Symbol.read?_shorter read)
    | none =>
      .token (.word (String.ofList (c :: rest.takeWhile (!isDelimiter ·))))
        (rest.dropWhile (!isDelimiter ·)) (List.dropWhile_suffix _).length_le

def scanFrom (lenient : Bool) (position : Nat) (cs : List Char) : Scan :=
  match cs with
  | [] => ⟨[], none⟩
  | c :: rest =>
    if isTokenBlank c then scanFrom lenient (position + c.utf8Size) rest
    else
      match step lenient c rest with
      | .unclosed => ⟨[], some ⟨position, String.ofList (c :: rest)⟩⟩
      | .token lexeme after _ =>
        let used := byteLength (c :: rest) - byteLength after
        (scanFrom lenient (position + used) after).cons ⟨lexeme, position⟩
termination_by cs.length

def scan (lenient : Bool) (text : String) : Scan := scanFrom lenient 0 text.toList

example : (scan false "a<-\"b\\\"c\"").tokens =
    [⟨.word "a", 0⟩, ⟨.symbol .containedIn, 1⟩, ⟨.quoted "b\"c", 3⟩] := by cbv

end TimelineFilter
