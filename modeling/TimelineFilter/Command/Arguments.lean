/-!
The words of a command line. A level of the command has options, a number of plain words, and
subcommands with levels of their own. Options are long (`--limit 5`, `--limit=5`) or short (`-v`,
several in one word, `-i file`, `-ifile`, `-i=file`); behind `--` every word is plain. A value that
starts with a hyphen has to be attached to its option, and no option of a level is given twice.
-/
namespace TimelineFilter.Command

structure CommandOption where
  long : String
  short : Option Char
  /-- What a value may be; an option without value has none. -/
  value : Option (String → Bool)

structure Level where
  options : List CommandOption
  words : Nat
  subcommands : List String

structure Found where
  flags : List String
  values : List (String × String)
  words : List String

def Found.nothing : Found := ⟨[], [], []⟩

def Found.has (f : Found) (flag : String) : Bool := f.flags.contains flag

def Found.value? (f : Found) (option : String) : Option String := f.values.lookup option

inductive Stop
  | refused
  | help
  | version
deriving DecidableEq, Repr

/-- Where reading of a level ended: at the last word, or at a subcommand with words of its own. -/
structure Reached where
  found : Found
  subcommand : Option (String × List String)

def Found.addFlag (f : Found) (flag : String) : Except Stop Found :=
  if f.flags.contains flag then .error .refused else .ok { f with flags := flag :: f.flags }

def Found.addValue (f : Found) (option : String) (accepts : String → Bool) (value : String) :
    Except Stop Found :=
  if (f.value? option).isSome || !accepts value then .error .refused
  else .ok { f with values := (option, value) :: f.values }

def Found.addWord (f : Found) (l : Level) (word : String) : Except Stop Found :=
  if f.words.length < l.words then .ok { f with words := f.words ++ [word] } else .error .refused

inductive Pending
  | complete (found : Found)
  | value (found : Found) (option : String) (accepts : String → Bool)

def takeOption (o : CommandOption) (attached : Option String) (f : Found) : Except Stop Pending :=
  match o.value, attached with
  | none, none => (f.addFlag o.long).map .complete
  | none, some _ => .error .refused
  | some accepts, some v => (f.addValue o.long accepts v).map .complete
  | some accepts, none => .ok (.value f o.long accepts)

def takeLong (l : Level) (cs : List Char) (f : Found) : Except Stop Pending :=
  let name := String.ofList (cs.takeWhile (· != '='))
  let attached :=
    match cs.dropWhile (· != '=') with
    | [] => none
    | _ :: value => some (String.ofList value)
  if name == "help" then .error (if attached.isNone then .help else .refused)
  else if name == "version" then .error (if attached.isNone then .version else .refused)
  else
    match l.options.find? (·.long == name) with
    | none => .error .refused
    | some o => takeOption o attached f

def takeShort (l : Level) : List Char → Found → Except Stop Pending
  | [], f => .ok (.complete f)
  | c :: rest, f =>
    if c == 'h' then .error .help
    else if c == 'V' then .error .version
    else
      match l.options.find? (·.short == some c) with
      | none => .error .refused
      | some o =>
        match o.value with
        | none =>
          match f.addFlag o.long with
          | .error e => .error e
          | .ok f => takeShort l rest f
        | some _ =>
          match rest with
          | [] => takeOption o none f
          | '=' :: value => takeOption o (some (String.ofList value)) f
          | value => takeOption o (some (String.ofList value)) f

def takeOptions? (l : Level) (word : String) (f : Found) : Option (Except Stop Pending) :=
  match word.toList with
  | '-' :: '-' :: cs => some (takeLong l cs f)
  | '-' :: c :: cs => some (takeShort l (c :: cs) f)
  | _ => none

/-- A word that cannot be the value of the option in front of it. -/
def startsOption (word : String) : Bool :=
  match word.toList with
  | '-' :: _ :: _ => true
  | _ => false

def takeWords (l : Level) (f : Found) : List String → Except Stop Found
  | [] => .ok f
  | word :: rest =>
    match f.addWord l word with
    | .error e => .error e
    | .ok f => takeWords l f rest

def readLevel (l : Level) (f : Found) : List String → Except Stop Reached
  | [] => .ok ⟨f, none⟩
  | word :: rest =>
    if l.subcommands.contains word then .ok ⟨f, some (word, rest)⟩
    else if word == "--" then (takeWords l f rest).map (⟨·, none⟩)
    else
      match takeOptions? l word f with
      | none =>
        match f.addWord l word with
        | .error e => .error e
        | .ok f => readLevel l f rest
      | some (.error e) => .error e
      | some (.ok (.complete f)) => readLevel l f rest
      | some (.ok (.value f option accepts)) =>
        match rest with
        | [] => .error .refused
        | value :: rest =>
          if startsOption value then .error .refused
          else
            match f.addValue option accepts value with
            | .error e => .error e
            | .ok f => readLevel l f rest

end TimelineFilter.Command
