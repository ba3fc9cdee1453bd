import TimelineFilter.Toml

/-!
Tables under construction. A table is written out once: under a header, through dotted keys, or as
a value; until then it may exist only because a header below it was met. What was defined in one
of these ways cannot be extended in another, and no key is defined twice.
-/
namespace TimelineFilter.Toml

inductive Origin
  | header
  /-- By a header of a table below it. -/
  | implied
  | dotted
deriving DecidableEq, Repr

inductive Entry
  | value (v : Toml)
  | table (origin : Origin) (entries : List (String × Entry))
  /-- Tables under one repeated header, the latest first. -/
  | tables (latest : List (String × Entry)) (earlier : List (List (String × Entry)))

abbrev Entries := List (String × Entry)

namespace Entries

def put (key : String) (e : Entry) : Entries → Entries
  | [] => [(key, e)]
  | (k, old) :: rest => if k = key then (k, e) :: rest else (k, old) :: put key e rest

/-- Changes the table at the end of a path. Tables that are missing on the way come about as
`missing` says. The change is told how its table came about. -/
def changeAt (missing : Origin) (change : Origin → Entries → Option Entries) (origin : Origin) :
    List String → Entries → Option Entries
  | [], entries => change origin entries
  | key :: path, entries =>
    match entries.lookup key with
    | none =>
      (changeAt missing change missing path []).map fun inner =>
        put key (.table missing inner) entries
    | some (.value _) => none
    | some (.tables latest earlier) =>
      (changeAt missing change .header path latest).map fun inner =>
        put key (.tables inner earlier) entries
    | some (.table o inner) =>
      if missing = .dotted ∧ o = .header then none
      else
        (changeAt missing change o path inner).map fun inner => put key (.table o inner) entries

def addNew (key : String) (v : Toml) (entries : Entries) : Option Entries :=
  match entries.lookup key with
  | none => some (entries ++ [(key, .value v)])
  | some _ => none

/-- Adds a value under a dotted key of a table. The table in front of the last part is one that
dotted keys made. -/
def assign (path : List String) (key : String) (v : Toml) (entries : Entries) : Option Entries :=
  match path with
  | [] => addNew key v entries
  | path =>
    changeAt .dotted (fun origin inner => if origin = .dotted then addNew key v inner else none)
      .header path entries

def openTable (path : List String) (key : String) (entries : Entries) : Option Entries :=
  changeAt .implied (fun _ inner =>
    match inner.lookup key with
    | none => some (put key (.table .header []) inner)
    | some (.table .implied old) => some (put key (.table .header old) inner)
    | some _ => none) .header path entries

def openNext (path : List String) (key : String) (entries : Entries) : Option Entries :=
  changeAt .implied (fun _ inner =>
    match inner.lookup key with
    | none => some (put key (.tables [] []) inner)
    | some (.tables latest earlier) => some (put key (.tables [] (latest :: earlier)) inner)
    | some _ => none) .header path entries

def assignUnder (header path : List String) (key : String) (v : Toml) (entries : Entries) :
    Option Entries :=
  changeAt .implied (fun _ inner => assign path key v inner) .header header entries

mutual

def entryValue : Entry → Toml
  | .value v => v
  | .table _ inner => .table (values inner)
  | .tables latest earlier => .array (tableValues earlier [.table (values latest)])

def values : List (String × Entry) → List (String × Toml)
  | [] => []
  | (key, e) :: rest => (key, entryValue e) :: values rest

def tableValues : List (List (String × Entry)) → List Toml → List Toml
  | [], later => later
  | t :: earlier, later => tableValues earlier (.table (values t) :: later)

end

end Entries

end TimelineFilter.Toml
