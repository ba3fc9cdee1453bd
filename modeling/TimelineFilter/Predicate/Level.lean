import TimelineFilter.Predicate
import TimelineFilter.Token

/-!
How tightly operators bind, and which lexemes are operators. The words among the operators are
read in any ASCII case.
-/
namespace TimelineFilter

inductive BinaryLevel
  | or | and | equality | comparison | matching | sum | product
deriving DecidableEq, Repr

inductive Level
  | binary (level : BinaryLevel)
  | unary
  | atom
deriving DecidableEq, Repr

def BinaryLevel.rank : BinaryLevel → Nat
  | .or => 0
  | .and => 1
  | .equality => 2
  | .comparison => 3
  | .matching => 4
  | .sum => 5
  | .product => 6

def Level.rank : Level → Nat
  | .binary level => level.rank
  | .unary => 7
  | .atom => 8

abbrev Level.loosest : Level := .binary .or

/-- The next tighter level, at which the left operand stands. -/
def BinaryLevel.tighter : BinaryLevel → Level
  | .or => .binary .and
  | .and => .binary .equality
  | .equality => .binary .comparison
  | .comparison => .binary .matching
  | .matching => .binary .sum
  | .sum => .binary .product
  | .product => .unary

theorem BinaryLevel.rank_lt_tighter (level : BinaryLevel) :
    level.rank < level.tighter.rank := by
  cases level <;> decide

theorem Level.rank_le (level : Level) : level.rank ≤ 8 := by
  cases level with
  | binary level => cases level <;> decide
  | unary => decide
  | atom => decide

def BinaryOp.level : BinaryOp → BinaryLevel
  | .or => .or
  | .and => .and
  | .equals | .notEquals => .equality
  | .less | .lessOrEqual | .greater | .greaterOrEqual => .comparison
  | .contains | .containedIn | .startsWith | .endsWith | .regex => .matching
  | .add | .subtract => .sum
  | .multiply | .divide => .product

def BinaryOp.ofLexeme? : Lexeme → Option BinaryOp
  | .symbol .or => some .or
  | .symbol .and => some .and
  | .symbol .equals => some .equals
  | .symbol .notEquals => some .notEquals
  | .symbol .less => some .less
  | .symbol .lessOrEqual => some .lessOrEqual
  | .symbol .greater => some .greater
  | .symbol .greaterOrEqual => some .greaterOrEqual
  | .symbol .contains => some .contains
  | .symbol .containedIn => some .containedIn
  | .symbol .plus => some .add
  | .symbol .minus => some .subtract
  | .symbol .star => some .multiply
  | .symbol .slash => some .divide
  | .symbol _ => none
  | .quoted _ => none
  | .word word =>
    match Text.lowerAscii word with
    | "contains" => some .contains
    | "in" => some .containedIn
    | "startswith" | "startwith" => some .startsWith
    | "endswith" | "endwith" => some .endsWith
    | "match" | "regex" => some .regex
    | _ => none

def BinaryLevel.operator? (level : BinaryLevel) (x : Lexeme) : Option BinaryOp :=
  (BinaryOp.ofLexeme? x).filter (·.level = level)

def UnaryOp.ofLexeme? : Lexeme → Option UnaryOp
  | .symbol .exclamation => some .not
  | .symbol .minus => some .negate
  | .word word => if Text.sameIgnoringCase word "caseful" then some .caseful else none
  | _ => none

end TimelineFilter
