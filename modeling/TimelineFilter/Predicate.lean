import TimelineFilter.Value

/-!
The tree of a predicate and its canonical text. Brackets are part of the tree, so the text of a
tree that was read shows the same grouping.
-/
namespace TimelineFilter

inductive BinaryOp
  | or | and
  | equals | notEquals
  | less | lessOrEqual | greater | greaterOrEqual
  | contains | containedIn | startsWith | endsWith | regex
  | add | subtract | multiply | divide
deriving DecidableEq, Repr

def BinaryOp.text : BinaryOp → String
  | .or => "|"
  | .and => "&"
  | .equals => "=="
  | .notEquals => "!="
  | .less => "<"
  | .lessOrEqual => "<="
  | .greater => ">"
  | .greaterOrEqual => ">="
  | .contains => "->"
  | .containedIn => "<-"
  | .startsWith => "startswith"
  | .endsWith => "endswith"
  | .regex => "regex"
  | .add => "+"
  | .subtract => "-"
  | .multiply => "*"
  | .divide => "/"

inductive UnaryOp
  | not | negate
  /-- Makes the comparisons of strings below it sensitive to case. -/
  | caseful
deriving DecidableEq, Repr

def UnaryOp.lead : UnaryOp → String
  | .not => "!"
  | .negate => "-"
  | .caseful => "caseful "

inductive Predicate
  | binary (op : BinaryOp) (left right : Predicate)
  | unary (op : UnaryOp) (operand : Predicate)
  /-- The empty bracket, which always holds. -/
  | always
  | bracket (inner : Predicate)
  | set (members : List Value)
  | value (value : Value)
deriving DecidableEq, Repr

namespace Predicate

/-- The members without repetitions, each at its first place. -/
def distinct : List Value → List Value
  | [] => []
  | v :: rest => v :: (distinct rest).filter (· != v)

def setOf (members : List Value) : Predicate := .set (distinct members)

def render : Predicate → String
  | .binary op left right => left.render ++ " " ++ op.text ++ " " ++ right.render
  | .unary op operand => op.lead ++ operand.render
  | .always => "()"
  | .bracket inner => "(" ++ inner.render ++ ")"
  | .set members => "[" ++ ", ".intercalate (members.map Value.render) ++ "]"
  | .value v => v.render

def mentionsCaseful : Predicate → Bool
  | .binary _ left right => left.mentionsCaseful || right.mentionsCaseful
  | .unary op operand => op == .caseful || operand.mentionsCaseful
  | .bracket inner => inner.mentionsCaseful
  | _ => false

/-- The string constant that a tree stands for, under brackets and `caseful`. -/
def constantText? : Predicate → Option String
  | .value (.text t) => some t
  | .bracket inner => inner.constantText?
  | .unary .caseful operand => operand.constantText?
  | _ => none

end Predicate

end TimelineFilter
