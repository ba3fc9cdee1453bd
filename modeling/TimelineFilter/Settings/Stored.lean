import TimelineFilter.Json.Decoder
import TimelineFilter.Settings
import TimelineFilter.Toml.Reader

/-!
Settings as a TOML text and as JSON. The version of the layout is written with every file; files of
other versions are read as well. Keys that mean nothing here are passed over.
-/
namespace TimelineFilter.Settings

open Json (Decoder RecordField)

def layoutVersion : Nat := 1

def keyChars (key : String) : List Char :=
  if !key.toList.isEmpty && key.toList.all Toml.isKeyChar then key.toList
  else Toml.quotedChars key

def line (key value : List Char) : List Char := key ++ [' ', '=', ' '] ++ value ++ ['\n']

def render (s : Settings) : String :=
  String.ofList <|
    line "version".toList (Nat.toDigits 10 layoutVersion)
      ++ "\n[output]\n".toList
      ++ (match s.color with
          | some b => line "color".toList (flagText b).toList
          | none => [])
      ++ (if s.queries.isEmpty then []
          else "\n[queries]\n".toList
            ++ s.queries.entries.flatMap fun (name, text) =>
              line (keyChars name) (Toml.quotedChars text))

/-- The version in a table, if it fits 32 bits. -/
def versionFits (t : Toml) : Bool :=
  match t.get? "version" with
  | none => true
  | some (.whole n) => 0 ≤ n && n < UInt32.size
  | some _ => false

/-- The colour switch in the part for output, which may also be an array of its values. -/
def color? (t : Toml) : Option (Option Bool) :=
  match t.get? "output" with
  | none => some none
  | some (.table output) =>
    match output.lookup "color" with
    | none => some none
    | some (.bool b) => some (some b)
    | some _ => none
  | some (.array (.bool b :: _)) => some (some b)
  | some _ => none

def texts? : List (String × Toml) → Option (List (String × String))
  | [] => some []
  | (key, .text t) :: rest => (texts? rest).map ((key, t) :: ·)
  | _ => none

def queries? (t : Toml) : Option (List (String × String)) :=
  match t.get? "queries" with
  | none => some []
  | some (.table entries) => texts? entries
  | some _ => none

def ofToml? (t : Toml) : Option Settings :=
  if versionFits t then
    match color? t, queries? t with
    | some color, some queries => some ⟨color, .ofList queries⟩
    | _, _ => none
  else none

def ofText (text : String) : Except SettingsProblem Settings :=
  match (Toml.ofText? text).bind ofToml? with
  | some s => .ok s
  | none => .error (.malformed text)

/-- The settings that a file holds. Where there is no file nothing has been changed. -/
def load : FileState → Except SettingsProblem Settings
  | .absent => .ok initial
  | .unreadable p => .error (.unreadable p)
  | .text content => ofText content

/-- The text of a query that is given itself or by the name under which it is saved. A query that
is given itself wins. -/
def queryText (file : FileState) (given name : Option String) : Except SettingsProblem String :=
  match given, name with
  | some text, _ => .ok text
  | none, some name => load file >>= fun s => s.saved name
  | none, none => .error .noQuery

def toJson (s : Settings) : Json :=
  .object ([("output", .object (match s.color with
      | some b => [("color", .bool b)]
      | none => []))]
    ++ (if s.queries.isEmpty then []
        else [("queries", .object (s.queries.entries.map fun (name, text) => (name, .text text)))])
    ++ [("version", .whole layoutVersion)])

def outputFields : List (RecordField (Option Bool)) :=
  [(RecordField.of "color" (.optional .boolean) fun b _ => b).orAbsent]

def fields : List (RecordField Settings) :=
  [(RecordField.of "version" .uint32 fun _ s => s).orDefault,
   (RecordField.of "output" (.record "OutputConfig" outputFields none)
      fun b s => { s with color := b }).orDefault,
   (RecordField.of "queries" (.mapping .text)
      fun entries s => { s with queries := .ofList entries }).orDefault]

def decoder : Decoder Settings := .record "Config" fields initial

end TimelineFilter.Settings
