import TimelineFilter.Json.Malformed
import TimelineFilter.Text.Decimal
import TimelineFilter.Text.Double
import TimelineFilter.Text.Shown

namespace TimelineFilter.Json

inductive Kind
  | null
  | bool (b : Bool)
  | whole (n : Int)
  | real (x : Double)
  | text (t : String)
  | sequence
  | map
deriving DecidableEq, Repr

def Kind.describe : Kind → String
  | .null => "null"
  | .bool true => "boolean `true`"
  | .bool false => "boolean `false`"
  | .whole n => "integer `" ++ Text.decimal n ++ "`"
  | .real x => "floating point `" ++ x.render ++ "`"
  | .text t => "string " ++ Text.shown t
  | .sequence => "sequence"
  | .map => "map"

inductive Wanted
  | int64 | uint32 | text | boolean | sequence | map | time
  | unit
  | record (name : String)
deriving DecidableEq, Repr

def Wanted.describe : Wanted → String
  | .int64 => "i64"
  | .uint32 => "u32"
  | .text => "a string"
  | .boolean => "a boolean"
  | .sequence => "a sequence"
  | .map => "a map"
  | .time => "an RFC 3339 formatted date and time string"
  | .unit => "unit"
  | .record name => "struct " ++ name

inductive Defect
  | malformed (why : Malformed)
  | surplus (length : Nat)
  /-- A value that is neither a string nor an object where a choice is named. -/
  | noChoice (found : Kind)
  | wrongType (found : Kind) (wanted : Wanted)
  | doesNotFit (n : Int) (wanted : Wanted)
  /-- Fewer items than a record has required fields. -/
  | tooShort (length : Nat) (record : String) (fields : Nat)
  | missing (field : String)
  | repeated (field : String)
  | unknownChoice (found : String) (choices : List String)
  | misspelled (message : String)
deriving DecidableEq, Repr

namespace Defect

def isMalformed : Defect → Bool
  | .malformed _ | .surplus _ | .noChoice _ => true
  | _ => false

def message : Defect → String
  | .malformed why => why.message
  | .surplus _ => Malformed.trailingCharacters.message
  | .noChoice _ => Malformed.expectedValue.message
  | .wrongType found wanted =>
    "invalid type: " ++ found.describe ++ ", expected " ++ wanted.describe
  | .doesNotFit n wanted =>
    "invalid value: " ++ (Kind.whole n).describe ++ ", expected " ++ wanted.describe
  | .tooShort length record fields =>
    "invalid length " ++ Text.decimal length ++ ", expected struct " ++ record ++ " with "
      ++ Text.decimal fields ++ (if fields = 1 then " element" else " elements")
  | .missing field => "missing field `" ++ field ++ "`"
  | .repeated field => "duplicate field `" ++ field ++ "`"
  | .unknownChoice found choices =>
    "unknown variant `" ++ found ++ "`, expected one of "
      ++ ", ".intercalate (choices.map fun c => "`" ++ c ++ "`")
  | .misspelled message => message

end Defect

end TimelineFilter.Json
