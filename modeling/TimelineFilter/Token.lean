import TimelineFilter.Token.Quoted
import TimelineFilter.Text.AsciiCase

namespace TimelineFilter

inductive Symbol
  | period | comma | colon | exclamation
  | and | or
  | equals | notEquals | less | lessOrEqual | greater | greaterOrEqual
  | contains | containedIn
  | plus | minus | star | slash
  | openParen | closeParen | openSquare | closeSquare
deriving DecidableEq, Repr

def Symbol.text : Symbol → String
  | .period => "."
  | .comma => ","
  | .colon => ":"
  | .exclamation => "!"
  | .and => "&"
  | .or => "|"
  | .equals => "=="
  | .notEquals => "!="
  | .less => "<"
  | .lessOrEqual => "<="
  | .greater => ">"
  | .greaterOrEqual => ">="
  | .contains => "->"
  | .containedIn => "<-"
  | .plus => "+"
  | .minus => "-"
  | .star => "*"
  | .slash => "/"
  | .openParen => "("
  | .closeParen => ")"
  | .openSquare => "["
  | .closeSquare => "]"

inductive Lexeme
  | word (text : String)
  /-- A quoted string, without its quotes and escapes. -/
  | quoted (text : String)
  | symbol (symbol : Symbol)
deriving DecidableEq, Repr

inductive TokenKind
  | word | quoted | symbol (symbol : Symbol)
deriving DecidableEq, Repr

def TokenKind.describe : TokenKind → String
  | .word => "literal"
  | .quoted => "string"
  | .symbol s => "'" ++ s.text ++ "'"

def Lexeme.kind : Lexeme → TokenKind
  | .word _ => .word
  | .quoted _ => .quoted
  | .symbol s => .symbol s

def Lexeme.render : Lexeme → String
  | .word text => text
  | .quoted text => quote text
  | .symbol s => s.text

/-- A lexeme and the byte offset of its first character. -/
structure Token where
  lexeme : Lexeme
  position : Nat
deriving DecidableEq, Repr

namespace Token

def kind (t : Token) : TokenKind := t.lexeme.kind

def render (t : Token) : String := t.lexeme.render

def isKeyword (t : Token) (keyword : String) : Bool :=
  match t.lexeme with
  | .word text => Text.sameIgnoringCase text keyword
  | _ => false

def renderAll (ts : List Token) : String := " ".intercalate (ts.map render)

end Token

end TimelineFilter
