import TimelineFilter.Text.Decimal
import TimelineFilter.Text.Double

namespace TimelineFilter

inductive Json
  | null
  | bool (b : Bool)
  | whole (n : Int)
  | real (x : Double)
  | text (t : String)
  | array (items : List Json)
  | object (members : List (String × Json))

namespace Json

def escapeLetter? (c : Char) : Option Char :=
  if c = '"' ∨ c = '\\' then some c
  else if c = '\x08' then some 'b'
  else if c = '\x0c' then some 'f'
  else if c = '\n' then some 'n'
  else if c = '\r' then some 'r'
  else if c = '\t' then some 't'
  else none

/-- One character as it stands in a string: quote, backslash and control characters are escaped. -/
def escapeChar (c : Char) : List Char :=
  match escapeLetter? c with
  | some letter => ['\\', letter]
  | none =>
    if c.toNat < 32 then
      ['\\', 'u', '0', '0', Nat.digitChar (c.toNat / 16), Nat.digitChar (c.toNat % 16)]
    else [c]

def quotedChars (t : String) : List Char := '"' :: (t.toList.flatMap escapeChar ++ ['"'])

/-- The text of a value that has no parts. Infinities and values that are no numbers have none. -/
def leafChars : Json → List Char
  | .null => "null".toList
  | .bool true => "true".toList
  | .bool false => "false".toList
  | .whole n => Text.decimalChars n
  | .real x => if x.isFinite then x.render.toList else "null".toList
  | .text t => quotedChars t
  | .array _ => ['[', ']']
  | .object _ => ['{', '}']

mutual

def compactChars : Json → List Char
  | .array (item :: rest) => '[' :: (compactChars item ++ compactItems rest ++ [']'])
  | .object ((key, value) :: rest) =>
    '{' :: (quotedChars key ++ ':' :: compactChars value ++ compactMembers rest ++ ['}'])
  | leaf => leafChars leaf

def compactItems : List Json → List Char
  | [] => []
  | item :: rest => ',' :: (compactChars item ++ compactItems rest)

def compactMembers : List (String × Json) → List Char
  | [] => []
  | (key, value) :: rest =>
    ',' :: (quotedChars key ++ ':' :: compactChars value ++ compactMembers rest)

end

def newLine (level : Nat) : List Char := '\n' :: List.replicate (2 * level) ' '

mutual

def indentedChars (level : Nat) : Json → List Char
  | .array (item :: rest) =>
    '[' :: (newLine (level + 1) ++ indentedChars (level + 1) item
      ++ indentedItems (level + 1) rest ++ newLine level ++ [']'])
  | .object ((key, value) :: rest) =>
    '{' :: (newLine (level + 1) ++ quotedChars key ++ ':' :: ' '
      :: indentedChars (level + 1) value ++ indentedMembers (level + 1) rest
      ++ newLine level ++ ['}'])
  | leaf => leafChars leaf

def indentedItems (level : Nat) : List Json → List Char
  | [] => []
  | item :: rest =>
    ',' :: (newLine level ++ indentedChars level item ++ indentedItems level rest)

def indentedMembers (level : Nat) : List (String × Json) → List Char
  | [] => []
  | (key, value) :: rest =>
    ',' :: (newLine level ++ quotedChars key ++ ':' :: ' ' :: indentedChars level value
      ++ indentedMembers level rest)

end

def compact (j : Json) : String := String.ofList j.compactChars

def indented (j : Json) : String := String.ofList (j.indentedChars 0)

def texts (ts : List String) : Json := .array (ts.map .text)

def numbers (ns : List Int64) : Json := .array (ns.map fun n => .whole n.toInt)

example : (Json.object [("a", .array [.whole 1, .null]), ("b", .array [])]).compactChars
    = "\x7b\"a\":[1,null],\"b\":[]\x7d".toList := by cbv

end Json

end TimelineFilter
