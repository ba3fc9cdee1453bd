import TimelineFilter.Json.Defect
import TimelineFilter.Json.Reading
import TimelineFilter.Timeline.IdSet

/-!
Values of other types read off a JSON reading. A decoder is also told how many more arrays and
objects it may enter. The first defect in reading order is the one that is returned; a missing
field is missed at the end of its object.

A record is an object with its fields in any order, or the array of its fields in the order of
their declaration.
-/
namespace TimelineFilter.Json

/-- Reads a value, entering at most a given number of arrays and objects inside one another. -/
abbrev Decoder (α : Type) := Nat → Reading → Except Defect α

def unwanted {α : Type} (wanted : Wanted) : Reading → Except Defect α
  | .void why | .broken why => .error (.malformed why)
  | .null => .error (.wrongType .null wanted)
  | .bool b => .error (.wrongType (.bool b) wanted)
  | .whole n => .error (.wrongType (.whole n) wanted)
  | .real x => .error (.wrongType (.real x) wanted)
  | .text t => .error (.wrongType (.text t) wanted)
  | .array _ _ => .error (.wrongType .sequence wanted)
  | .object _ _ => .error (.wrongType .map wanted)

def ends : Option Malformed → Except Defect Unit
  | none => .ok ()
  | some why => .error (.malformed why)

namespace Decoder

def int64 : Decoder Int64 := fun _ r =>
  match r with
  | .whole n =>
    if Int64.minValue.toInt ≤ n ∧ n ≤ Int64.maxValue.toInt then .ok (Int64.ofInt n)
    else .error (.doesNotFit n .int64)
  | r => unwanted .int64 r

def uint32 : Decoder Nat := fun _ r =>
  match r with
  | .whole n =>
    if 0 ≤ n ∧ n < UInt32.size then .ok n.toNat else .error (.doesNotFit n .uint32)
  | r => unwanted .uint32 r

def text : Decoder String := fun _ r =>
  match r with
  | .text t => .ok t
  | r => unwanted .text r

def boolean : Decoder Bool := fun _ r =>
  match r with
  | .bool b => .ok b
  | r => unwanted .boolean r

def optional {α : Type} (d : Decoder α) : Decoder (Option α) := fun depth r =>
  match r with
  | .null => .ok none
  | r => (d depth r).map some

def spelled {α : Type} (wanted : Wanted) (read : String → Except String α) : Decoder α :=
  fun _ r =>
    match r with
    | .text t =>
      match read t with
      | .ok a => .ok a
      | .error message => .error (.misspelled message)
    | r => unwanted wanted r

def items {α : Type} (read : Reading → Except Defect α) : List Reading → Except Defect (List α)
  | [] => .ok []
  | r :: rest =>
    match read r with
    | .error e => .error e
    | .ok a => (items read rest).map (a :: ·)

def list {α : Type} (d : Decoder α) : Decoder (List α) := fun depth r =>
  match r, depth with
  | .array _ _, 0 => .error (.malformed .tooDeep)
  | .array rs ending, depth + 1 =>
    match items (d depth) rs with
    | .error e => .error e
    | .ok as => (ends ending).map fun _ => as
  | r, _ => unwanted .sequence r

def idSet : Decoder IdSet := fun depth r => (list int64 depth r).map IdSet.ofList

def members {α : Type} (read : Reading → Except Defect α) :
    List (Except Malformed String × Reading) → Except Defect (List (String × α))
  | [] => .ok []
  | (.error why, _) :: _ => .error (.malformed why)
  | (.ok key, r) :: rest =>
    match read r with
    | .error e => .error e
    | .ok a => (members read rest).map ((key, a) :: ·)

def mapping {α : Type} (d : Decoder α) : Decoder (List (String × α)) := fun depth r =>
  match r, depth with
  | .object _ _, 0 => .error (.malformed .tooDeep)
  | .object ms ending, depth + 1 =>
    match members (d depth) ms with
    | .error e => .error e
    | .ok as => (ends ending).map fun _ => as
  | r, _ => unwanted .map r

def named {α : Type} (choices : List (String × α)) (name : String) : Except Defect α :=
  match choices.lookup name with
  | some a => .ok a
  | none => .error (.unknownChoice name (choices.map (·.1)))

/-- One of several named choices: its name, or an object whose only member has that name and the
value null. -/
def choice {α : Type} (choices : List (String × α)) : Decoder α := fun depth r =>
  match r, depth with
  | .text t, _ => named choices t
  | .object _ _, 0 => .error (.malformed .tooDeep)
  | .object ((.ok name, value) :: rest) ending, _ + 1 =>
    match named choices name with
    | .error e => .error e
    | .ok a =>
      match value, rest, ending with
      | .null, [], none => .ok a
      | .null, [], some .endInObject => .error (.malformed .endInObject)
      | .null, _, _ => .error (.malformed .expectedValue)
      | value, _, _ => unwanted .unit value
  | .object ((.error why, _) :: _) _, _ + 1 => .error (.malformed why)
  | .object [] (some .endInObject), _ + 1 => .error (.malformed .endInValue)
  | .object [] _, _ + 1 => .error (.malformed .expectedValue)
  | .void why, _ | .broken why, _ => .error (.malformed why)
  | .null, _ => .error (.noChoice .null)
  | .bool b, _ => .error (.noChoice (.bool b))
  | .whole n, _ => .error (.noChoice (.whole n))
  | .real x, _ => .error (.noChoice (.real x))
  | .array _ _, _ => .error (.noChoice .sequence)

end Decoder

structure RecordField (σ : Type) where
  name : String
  aliases : List String
  required : Bool
  requiredInArray : Bool
  store : Nat → Reading → σ → Except Defect σ

namespace RecordField

variable {σ α : Type}

def of (name : String) (d : Decoder α) (put : α → σ → σ) : RecordField σ :=
  { name, aliases := [], required := true, requiredInArray := true,
    store := fun depth r s => (d depth r).map fun a => put a s }

def orDefault (f : RecordField σ) : RecordField σ :=
  { f with required := false, requiredInArray := false }

/-- Only an array has to go on to the field. -/
def orAbsent (f : RecordField σ) : RecordField σ := { f with required := false }

def also (f : RecordField σ) (name : String) : RecordField σ :=
  { f with aliases := name :: f.aliases }

def answersTo (f : RecordField σ) (key : String) : Bool := f.name == key || f.aliases.contains key

/-- Reads the members of an object into a record. `seen` holds the names of the fields that have
been read before. -/
def fill (fields : List (RecordField σ)) (depth : Nat) (seen : List String) (s : σ) :
    List (Except Malformed String × Reading) → Except Defect (List String × σ)
  | [] => .ok (seen, s)
  | (.error why, _) :: _ => .error (.malformed why)
  | (.ok key, r) :: rest =>
    match fields.find? (·.answersTo key) with
    | none =>
      match r.skip with
      | .error why => .error (.malformed why)
      | .ok () => fill fields depth seen s rest
    | some f =>
      if seen.contains f.name then .error (.repeated f.name)
      else
        match f.store depth r s with
        | .error e => .error e
        | .ok s => fill fields depth (f.name :: seen) s rest

def firstMissing? (fields : List (RecordField σ)) (seen : List String) : Option String :=
  (fields.find? fun f => f.required && !seen.contains f.name).map RecordField.name

/-- Reads the items of an array into the fields of a record, one after another, and returns the
items that are left. `place` counts the fields that have been read. -/
def fillInOrder (name : String) (count depth place : Nat) (s : σ) :
    List (RecordField σ) → List Reading → Option Malformed → Except Defect (List Reading × σ)
  | [], rest, _ => .ok (rest, s)
  | f :: fields, r :: rest, ending =>
    match f.store depth r s with
    | .error e => .error e
    | .ok s => fillInOrder name count depth (place + 1) s fields rest ending
  | _ :: _, [], some why => .error (.malformed why)
  | f :: fields, [], none =>
    if f.requiredInArray then .error (.tooShort place name count)
    else fillInOrder name count depth (place + 1) s fields [] none

end RecordField

/-- A record with these fields, of which `start` has those that need not be given. -/
def Decoder.record {σ : Type} (name : String) (fields : List (RecordField σ)) (start : σ) :
    Decoder σ := fun depth r =>
  match r, depth with
  | .object _ _, 0 | .array _ _, 0 => .error (.malformed .tooDeep)
  | .object ms ending, depth + 1 =>
    match RecordField.fill fields depth [] start ms with
    | .error e => .error e
    | .ok (seen, s) =>
      match ends ending with
      | .error e => .error e
      | .ok () =>
        match RecordField.firstMissing? fields seen with
        | some field => .error (.missing field)
        | none => .ok s
  | .array rs ending, depth + 1 =>
    match RecordField.fillInOrder name fields.length depth 0 start fields rs ending with
    | .error e => .error e
    | .ok (_ :: _, _) => .error (.surplus rs.length)
    | .ok ([], s) => (ends ending).map fun _ => s
  | r, _ => unwanted (.record name) r

def maxDepth : Nat := 127

def Decoder.ofText {α : Type} (d : Decoder α) (text : String) : Except Defect α :=
  let (r, more) := Reading.ofText text
  match d maxDepth r with
  | .error e => .error e
  | .ok a => if more then .error (.malformed .trailingCharacters) else .ok a

end TimelineFilter.Json
