import TimelineFilter.Json

namespace TimelineFilter

inductive Toml
  | text (t : String)
  | whole (n : Int)
  | real (x : Double)
  | bool (b : Bool)
  | time (t : String)
  | array (items : List Toml)
  | table (entries : List (String × Toml))

namespace Toml

def get? (t : Toml) (key : String) : Option Toml :=
  match t with
  | .table entries => entries.lookup key
  | _ => none

mutual

def toJson : Toml → Json
  | .text t => .text t
  | .whole n => .whole n
  | .real x => .real x
  | .bool b => .bool b
  | .time t => .object [("$__toml_private_datetime", .text t)]
  | .array items => .array (itemsToJson items)
  | .table entries => .object (entriesToJson entries)

def itemsToJson : List Toml → List Json
  | [] => []
  | item :: rest => toJson item :: itemsToJson rest

def entriesToJson : List (String × Toml) → List (String × Json)
  | [] => []
  | (key, value) :: rest => (key, toJson value) :: entriesToJson rest

end

end Toml

end TimelineFilter
