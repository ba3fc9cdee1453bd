import TimelineFilter.Toml.Entries
import TimelineFilter.Toml.Quoted
import TimelineFilter.Toml.Scalar

namespace TimelineFilter.Toml

abbrev Reader (α : Type) := List Char → Option (α × List Char)

def skipBlanks (cs : List Char) : List Char := cs.dropWhile isBlank

/-! Keys -/

def isKeyChar (c : Char) : Bool := c.isAlphanum || c == '_' || c == '-'

def readKeyPart : Reader String := fun cs =>
  match cs with
  | '"' :: rest => (readBasic rest).map fun (found, after) => (String.ofList found, after)
  | '\'' :: rest => (readLiteral rest).map fun (found, after) => (String.ofList found, after)
  | cs =>
    match cs.takeWhile isKeyChar with
    | [] => none
    | word => some (String.ofList word, cs.dropWhile isKeyChar)

def readKey (cs : List Char) : Option (List String × List Char) :=
  match readKeyPart (skipBlanks cs) with
  | none => none
  | some (part, after) =>
    match skipBlanks after with
    | '.' :: rest =>
      if rest.length < cs.length then
        (readKey rest).map fun (parts, after) => (part :: parts, after)
      else none
    | after => some ([part], after)
termination_by cs.length

/-- How deep arrays and inline tables may lie inside one another, and how many parts a key may
have. -/
def maxDepth : Nat := 79

def splitKey (parts : List String) : Option (List String × String) :=
  if maxDepth < parts.length then none
  else parts.getLast?.map fun last => (parts.dropLast, last)

/-! Values -/

def skipLines (cs : List Char) : List Char :=
  match cs with
  | [] => []
  | '\r' :: '\n' :: rest => skipLines rest
  | '#' :: rest => skipLines (rest.dropWhile isPlain)
  | c :: rest => if isBlank c || c == '\n' then skipLines rest else c :: rest
termination_by cs.length
decreasing_by
  · simp only [List.length_cons]
    omega
  · have := (List.dropWhile_suffix isPlain (l := rest)).length_le
    simp only [List.length_cons]
    omega
  · simp

def readItems (read : Reader Toml) (cs : List Char) : Option (List Toml × List Char) :=
  match read cs with
  | none => none
  | some (v, after) =>
    match skipLines after with
    | ']' :: rest => some ([v], rest)
    | ',' :: rest =>
      match skipLines rest with
      | ']' :: rest => some ([v], rest)
      | next =>
        if next.length < cs.length then
          (readItems read next).map fun (vs, after) => (v :: vs, after)
        else none
    | _ => none
termination_by cs.length

def readEntries (read : Reader Toml) (found : Entries) (cs : List Char) :
    Option (Entries × List Char) :=
  match readKey cs with
  | none => none
  | some (parts, after) =>
    match after with
    | '=' :: rest =>
      match splitKey parts, read (skipBlanks rest) with
      | some (path, key), some (v, after) =>
        match found.assign path key v with
        | none => none
        | some found =>
          match skipBlanks after with
          | '}' :: rest => some (found, rest)
          | ',' :: rest =>
            if rest.length < cs.length then readEntries read found rest else none
          | _ => none
      | _, _ => none
    | _ => none
termination_by cs.length

def readValue : Nat → Reader Toml
  | _, '"' :: rest =>
    (readQuoted ('"' :: rest)).map fun (found, after) => (.text (String.ofList found), after)
  | _, '\'' :: rest =>
    (readQuoted ('\'' :: rest)).map fun (found, after) => (.text (String.ofList found), after)
  | 0, '[' :: _ => none
  | 0, '{' :: _ => none
  | depth + 1, '[' :: rest =>
    match skipLines rest with
    | ']' :: after => some (.array [], after)
    | first => (readItems (readValue depth) first).map fun (vs, after) => (.array vs, after)
  | depth + 1, '{' :: rest =>
    match skipBlanks rest with
    | '}' :: after => some (.table [], after)
    | first =>
      (readEntries (readValue depth) [] first).map fun (found, after) =>
        (.table (Entries.values found), after)
  | _, cs => readScalar cs

/-! Documents -/

inductive Statement
  | assign (path : List String) (key : String) (v : Toml)
  | openTable (path : List String) (key : String)
  | openNext (path : List String) (key : String)

def endLine (cs : List Char) : Option (List Char) :=
  let behind :=
    match skipBlanks cs with
    | '#' :: rest => rest.dropWhile isPlain
    | rest => rest
  match behind with
  | [] => some []
  | '\n' :: rest => some rest
  | '\r' :: '\n' :: rest => some rest
  | _ => none

def readStatement (cs : List Char) : Option (Statement × List Char) :=
  match cs with
  | '[' :: '[' :: rest =>
    match readKey rest with
    | some (parts, ']' :: ']' :: after) =>
      (splitKey parts).map fun (path, key) => (.openNext path key, after)
    | _ => none
  | '[' :: rest =>
    match readKey rest with
    | some (parts, ']' :: after) =>
      (splitKey parts).map fun (path, key) => (.openTable path key, after)
    | _ => none
  | cs =>
    match readKey cs with
    | some (parts, '=' :: rest) =>
      match splitKey parts, readValue maxDepth (skipBlanks rest) with
      | some (path, key), some (v, after) => some (.assign path key v, after)
      | _, _ => none
    | _ => none

def isBare : List Char → Bool
  | [] | '\n' :: _ | '#' :: _ | '\r' :: '\n' :: _ => true
  | _ => false

def readStatements (cs : List Char) : Option (List Statement) :=
  match skipBlanks cs with
  | [] => some []
  | line =>
    if isBare line then
      match endLine line with
      | some rest => if rest.length < cs.length then readStatements rest else none
      | none => none
    else
      match readStatement line with
      | none => none
      | some (s, after) =>
        match endLine after with
        | some rest =>
          if rest.length < cs.length then (readStatements rest).map (s :: ·) else none
        | none => none
termination_by cs.length

def assemble (header : List String) (entries : Entries) : List Statement → Option Entries
  | [] => some entries
  | .assign path key v :: rest =>
    (entries.assignUnder header path key v).bind fun entries => assemble header entries rest
  | .openTable path key :: rest =>
    (entries.openTable path key).bind fun entries => assemble (path ++ [key]) entries rest
  | .openNext path key :: rest =>
    (entries.openNext path key).bind fun entries => assemble (path ++ [key]) entries rest

/-- The table that a text holds. A byte order mark in front of the text is no part of it. -/
def ofText? (text : String) : Option Toml :=
  let cs :=
    match text.toList with
    | '\ufeff' :: rest => rest
    | cs => cs
  match readStatements cs with
  | none => none
  | some statements => (assemble [] [] statements).map fun found => .table (Entries.values found)

end TimelineFilter.Toml
