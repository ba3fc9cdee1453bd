import TimelineFilter.FileProblem
import TimelineFilter.NameMap
import TimelineFilter.Query
import TimelineFilter.Text.Likeness
import TimelineFilter.Wording

namespace TimelineFilter

structure Settings where
  color : Option Bool
  queries : NameMap String
deriving DecidableEq

inductive SettingsProblem
  | unreadable (problem : FileProblem)
  /-- The text is no TOML, or holds values of other types. -/
  | malformed (content : String)
  | cannotMakeDirectory (problem : FileProblem)
  | cannotWrite (problem : FileProblem)
  | unknownKey (key : String)
  | notSet (key : String)
  | invalidFlag (value : String)
  | notSaved (name : String) (suggestion : Option String)
  | noQuery
  | query (failure : Failure)
deriving DecidableEq

def SettingsProblem.message [Wording] : SettingsProblem → String
  | .unreadable p => "Failed to read config: " ++ p.message
  | .malformed content => "Failed to parse config: " ++ Wording.settings content
  | .cannotMakeDirectory p => "Failed to create config directory: " ++ p.message
  | .cannotWrite p => "Failed to write config: " ++ p.message
  | .unknownKey key =>
    "Unknown config key '" ++ key ++ "'. Valid keys: output.color, queries.<name>"
  | .notSet key => "'" ++ key ++ "' is not set"
  | .invalidFlag value =>
    "Invalid boolean value '" ++ value ++ "'. Use true/false, yes/no, 1/0, or on/off"
  | .notSaved name suggestion => "no saved query named '" ++ name ++ "'" ++ hint suggestion
  | .noQuery => "either a query or --saved <name> is required"
  | .query f => f.message

def flag? (text : String) : Option Bool :=
  let word := Text.lower text
  if ["true", "yes", "1", "on"].contains word then some true
  else if ["false", "no", "0", "off"].contains word then some false
  else none

def flagText (b : Bool) : String := if b then "true" else "false"

namespace Settings

def initial : Settings := ⟨none, .empty⟩

inductive Key
  | color
  | query (name : String)
deriving DecidableEq, Repr

def splitAtPoint (text : String) : Option (String × String) :=
  match text.toList.dropWhile (· != '.') with
  | [] => none
  | _ :: behind => some (String.ofList (text.toList.takeWhile (· != '.')), String.ofList behind)

def Key.ofText? (text : String) : Option Key :=
  match splitAtPoint text with
  | some ("output", "color") => some .color
  | some ("queries", name) => some (.query name)
  | _ => none

/-- Sets a key and returns the value as it is stored. A query has a name that is not empty. -/
def set (s : Settings) (key value : String) : Except SettingsProblem (String × Settings) :=
  match Key.ofText? key with
  | some .color =>
    match flag? value with
    | some b => .ok (flagText b, { s with color := some b })
    | none => .error (.invalidFlag value)
  | some (.query name) =>
    if name = "" then .error (.unknownKey key)
    else
      match Query.compile value with
      | .ok q => .ok (q.render, { s with queries := s.queries.insert name q.render })
      | .error f => .error (.query f)
  | none => .error (.unknownKey key)

def unset (s : Settings) (key : String) : Except SettingsProblem Settings :=
  match Key.ofText? key with
  | some .color =>
    match s.color with
    | some _ => .ok { s with color := none }
    | none => .error (.notSet key)
  | some (.query name) =>
    match s.queries.find? name with
    | some _ => .ok { s with queries := s.queries.erase name }
    | none => .error (.notSet key)
  | none => .error (.unknownKey key)

/-- The last of the candidates that are most alike to `name`, if they are alike enough. -/
def mostAlike (name : String) : List String → Option (String × Float)
  | [] => none
  | c :: rest =>
    let score := Text.likeness name c
    match mostAlike name rest with
    | some (best, top) => if score > top then some (c, score) else some (best, top)
    | none => if score >= 0.8 then some (c, score) else none

def saved (s : Settings) (name : String) : Except SettingsProblem String :=
  match s.queries.find? name with
  | some text => .ok text
  | none => .error (.notSaved name ((mostAlike name s.queries.names).map (·.1)))

end Settings

end TimelineFilter
