import TimelineFilter.Command.Arguments
import TimelineFilter.Text.Decimal

namespace TimelineFilter.Command

structure Flags where
  verbose : Bool
  quiet : Bool
  json : Bool
  noColor : Bool
deriving DecidableEq, Repr

structure QueryChoice where
  given : Option String
  saved : Option String
deriving DecidableEq, Repr

inductive Task
  | greet
  | check (query : QueryChoice)
  /-- `limit` is how many matches are shown at most. -/
  | eval (query : QueryChoice) (input : String) (limit : Option Nat)
  | sources
  | fields
  | showSettings
  | set (key value : String)
  | unset (key : String)
  | settingsPath
  | completions (shell : String)
deriving DecidableEq, Repr

structure Invocation where
  flags : Flags
  task : Task
deriving DecidableEq, Repr

/-! Levels -/

def flag (long : String) (short : Option Char) : CommandOption := ⟨long, short, none⟩

def globalOptions : List CommandOption :=
  [flag "verbose" (some 'v'), flag "quiet" (some 'q'), flag "json" none, flag "no-color" none]

/-- A count of at most 64 bits, with or without a plus sign. -/
def count? (text : String) : Option Nat :=
  let digits :=
    match text.toList with
    | '+' :: rest => rest
    | cs => cs
  match Text.natural? digits with
  | some n => if n < UInt64.size then some n else none
  | none => none

def savedOption : CommandOption := ⟨"saved", some 's', some fun _ => true⟩

def rootLevel : Level :=
  { options := globalOptions, words := 0,
    subcommands := ["check", "c", "eval", "e", "sources", "fields", "config", "completions",
      "help"] }

def checkLevel : Level :=
  { options := savedOption :: globalOptions, words := 1, subcommands := [] }

def evalLevel : Level :=
  { options := savedOption :: ⟨"input", some 'i', some (· ≠ "")⟩
      :: ⟨"limit", none, some fun v => (count? v).isSome⟩ :: flag "all" none :: globalOptions
    words := 1, subcommands := [] }

def plainLevel (words : Nat) : Level := { options := globalOptions, words, subcommands := [] }

def configLevel : Level :=
  { options := globalOptions, words := 0, subcommands := ["show", "set", "unset", "path", "help"] }

def shells : List String := ["bash", "zsh", "fish", "powershell"]

/-! Reading -/

def flagsOf (f : Found) : Flags :=
  ⟨f.has "verbose", f.has "quiet", f.has "json", f.has "no-color"⟩

def Flags.join (a b : Flags) : Flags :=
  ⟨a.verbose || b.verbose, a.quiet || b.quiet, a.json || b.json, a.noColor || b.noColor⟩

def consistent (f : Found) : Except Stop Unit :=
  if f.has "verbose" && f.has "quiet" then .error .refused else .ok ()

/-- A command line that is not carried out, with the words of the command up to where it stopped. -/
structure Halt where
  stop : Stop
  names : List String
deriving DecidableEq, Repr

def readLeaf (names : List String) (l : Level) (args : List String)
    (task : Found → Option Task) : Except Halt Invocation :=
  match readLevel l .nothing args with
  | .error stop => .error ⟨stop, names⟩
  | .ok ⟨f, _⟩ =>
    match consistent f, task f with
    | .ok (), some t => .ok ⟨flagsOf f, t⟩
    | _, _ => .error ⟨.refused, names⟩

def queryOf (f : Found) : Option QueryChoice :=
  match f.words, f.value? "saved" with
  | [text], none => some ⟨some text, none⟩
  | [], some name => some ⟨none, some name⟩
  | _, _ => none

def defaultLimit : Nat := 50

def evalOf (f : Found) : Option Task := do
  let query ← queryOf f
  let input ← f.value? "input"
  let limit := ((f.value? "limit").bind count?).getD defaultLimit
  pure (.eval query input (if f.has "all" then none else some limit))

/-- Only names of subcommands can follow when help is asked for. -/
def helpOn (names : List String) : List String → Except Halt Invocation
  | [] => .error ⟨.help, names⟩
  | "config" :: rest =>
    match rest with
    | [] => .error ⟨.help, names⟩
    | [name] =>
      .error ⟨if configLevel.subcommands.contains name then .help else .refused, names⟩
    | _ => .error ⟨.refused, names⟩
  | [name] => .error ⟨if rootLevel.subcommands.contains name then .help else .refused, names⟩
  | _ => .error ⟨.refused, names⟩

def within (names : List String) (f : Found) (inner : Except Halt Invocation) :
    Except Halt Invocation :=
  match inner, consistent f with
  | .error h, _ => .error h
  | .ok _, .error stop => .error ⟨stop, names⟩
  | .ok i, .ok () => .ok { i with flags := (flagsOf f).join i.flags }

def readConfig (names : List String) (args : List String) : Except Halt Invocation :=
  match readLevel configLevel .nothing args with
  | .error stop => .error ⟨stop, names⟩
  | .ok ⟨f, none⟩ => within names f (.ok ⟨flagsOf f, .showSettings⟩)
  | .ok ⟨f, some (name, rest)⟩ =>
    let names' := names ++ [name]
    within names f <|
      match name with
      | "show" => readLeaf names' (plainLevel 0) rest fun _ => some .showSettings
      | "path" => readLeaf names' (plainLevel 0) rest fun _ => some .settingsPath
      | "set" => readLeaf names' (plainLevel 2) rest fun f =>
          match f.words with
          | [key, value] => some (.set key value)
          | _ => none
      | "unset" => readLeaf names' (plainLevel 1) rest fun f =>
          match f.words with
          | [key] => some (.unset key)
          | _ => none
      | _ =>
        match rest with
        | [] => .error ⟨.help, names'⟩
        | [name] =>
          .error ⟨if configLevel.subcommands.contains name then .help else .refused, names'⟩
        | _ => .error ⟨.refused, names'⟩

def Invocation.ofArguments (args : List String) : Except Halt Invocation :=
  match readLevel rootLevel .nothing args with
  | .error stop => .error ⟨stop, []⟩
  | .ok ⟨f, none⟩ => within [] f (.ok ⟨flagsOf f, .greet⟩)
  | .ok ⟨f, some (name, rest)⟩ =>
    within [] f <|
      match name with
      | "check" | "c" => readLeaf ["check"] checkLevel rest fun f => (queryOf f).map .check
      | "eval" | "e" => readLeaf ["eval"] evalLevel rest evalOf
      | "sources" => readLeaf ["sources"] (plainLevel 0) rest fun _ => some .sources
      | "fields" => readLeaf ["fields"] (plainLevel 0) rest fun _ => some .fields
      | "config" => readConfig ["config"] rest
      | "completions" => readLeaf ["completions"] (plainLevel 1) rest fun f =>
          match f.words with
          | [shell] => if shells.contains shell then some (.completions shell) else none
          | _ => none
      | _ => helpOn ["help"] rest

end TimelineFilter.Command
