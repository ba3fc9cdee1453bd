namespace TimelineFilter

inductive ValueType
  | boolean | numeric | text | set | user
deriving DecidableEq, Repr

def ValueType.describe : ValueType → String
  | .boolean => "boolean"
  | .numeric => "numeric"
  | .text => "string"
  | .set => "set"
  | .user => "user"

end TimelineFilter
