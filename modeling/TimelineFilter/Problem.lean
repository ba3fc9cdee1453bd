import TimelineFilter.Predicate
import TimelineFilter.Token.Scan
import TimelineFilter.ValueType

/-!
What can be wrong with a query. A problem is a cause; its wording is in `Problem.message` alone. A
failure adds the part of the query that had not been read yet.
-/
namespace TimelineFilter

inductive Expectation
  | token (kind : TokenKind)
  | whereClause
  | source
  | sourceArgument
  | name
deriving DecidableEq, Repr

def Expectation.describe : Expectation → String
  | .token kind => kind.describe
  | .whereClause => "'where'"
  | .source => "source"
  | .sourceArgument => "source argument"
  | .name => "name"

inductive Problem
  | unclosedQuote (position : Nat)
  | unknownSource (keyword : String) (suggestion : Option String)
  | missingArgument (keyword : String)
  | unknownUserField (name : String) (suggestion : Option String)
  | unknownRelation (name : String)
  | unknownWord (word : String) (suggestion : Option String)
  /-- Digits that do not fit a 64-bit number, or none at all. -/
  | invalidNumber (text : String)
  | unexpectedEnd
  | expected (expectation : Expectation) (found : Lexeme)
  | unexpectedToken (found : Lexeme)
  | unbalancedBracket (found : Lexeme)
  | mismatch (op : BinaryOp) (left right : ValueType)
  | wrongType (wanted found : ValueType)
  | invalidMember (member : Value)
  | invalidPattern (pattern reason : String)
deriving DecidableEq, Repr

def hint : Option String → String
  | none => ""
  | some s => " (did you mean '" ++ s ++ "'?)"

def Problem.message : Problem → String
  | .unclosedQuote position =>
    "unterminated string starting at position " ++ Text.decimal position
  | .unknownSource keyword suggestion => "unknown source: " ++ keyword ++ hint suggestion
  | .missingArgument keyword => "source '" ++ keyword ++ "' requires an argument"
  | .unknownUserField name suggestion => "unknown user field: " ++ name ++ hint suggestion
  | .unknownRelation name => "unknown relation: " ++ name
  | .unknownWord word suggestion => "unknown token: " ++ word ++ hint suggestion
  | .invalidNumber text => "invalid number: " ++ text
  | .unexpectedEnd => "unexpected end of query"
  | .expected wanted found => "expected " ++ wanted.describe ++ ", found " ++ found.render
  | .unexpectedToken found => "unexpected token: " ++ found.render
  | .unbalancedBracket found => "unbalanced bracket: " ++ found.render
  | .mismatch op left right =>
    "operator '" ++ op.text ++ "' cannot be applied to " ++ left.describe ++ " and "
      ++ right.describe
  | .wrongType wanted found =>
    "expected " ++ wanted.describe ++ " expression, found " ++ found.describe
  | .invalidMember member => "set literal cannot contain " ++ member.render
  | .invalidPattern pattern reason =>
    "invalid regular expression '" ++ pattern ++ "': " ++ reason

/-- A problem and the part of the query from which reading could not go on. -/
structure Failure where
  problem : Problem
  remaining : String
deriving DecidableEq, Repr

namespace Failure

def message (f : Failure) : String := f.problem.message

def before (rest : List Token) (problem : Problem) : Failure := ⟨problem, Token.renderAll rest⟩

def inTree (problem : Problem) : Failure := ⟨problem, ""⟩

def ofUnclosed (u : Unclosed) : Failure := ⟨.unclosedQuote u.position, u.remaining⟩

def wanted (what : Expectation) : List Token → Failure
  | [] => ⟨.unexpectedEnd, ""⟩
  | t :: rest => before (t :: rest) (.expected what t.lexeme)

def misplaced (t : Token) (rest : List Token) : Failure :=
  before (t :: rest) <|
    match t.lexeme with
    | .symbol .closeParen | .symbol .closeSquare => .unbalancedBracket t.lexeme
    | _ => .unexpectedToken t.lexeme

end Failure

end TimelineFilter
