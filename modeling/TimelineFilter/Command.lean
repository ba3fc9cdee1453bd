import TimelineFilter.Command.Invocation
import TimelineFilter.Meaning
import TimelineFilter.Report.Check
import TimelineFilter.Report.Names
import TimelineFilter.Report.Statuses
import TimelineFilter.Settings.Stored
import TimelineFilter.Timeline.Encoding

/-!
The command line: from its words and what can be observed of the surroundings to what is printed,
the exit code, and what becomes of the settings file if it is written. Nothing is printed about a
query or a snapshot before everything that can fail has been tried, except that a query of wrong
types is reported and then fails. The lines of the log, which carry the time, are left out, and with
them all that being verbose is for.
-/
namespace TimelineFilter.Command

variable [Regex.Engine] [Wording]

/-- Why the settings file could not be written, and what stands at its place then. -/
structure Unsaved where
  problem : SettingsProblem
  left : FileState

structure World where
  settingsPath : String
  settings : FileState
  save : FileState → String → Except Unsaved Unit
  fileText : String → Except FileProblem String
  standardInput : Except FileProblem String
  now : Instant

/-- A settings file that cannot be written stays as it was. -/
def World.KeepsFile (w : World) : Prop :=
  ∀ file text u, w.save file text = .error u → u.left = file

structure Outcome where
  code : Nat
  stdout : String
  /-- What is said of a failure. The lines of the log, which go the same way, are not part of it. -/
  errorText : String
  stored : Option FileState
deriving DecidableEq, Repr

inductive Trouble
  | query (failure : Failure)
  | settings (problem : SettingsProblem)
  | file (problem : FileProblem)
  | json (text : String) (defect : Json.Defect)

namespace Trouble

/-- A query that does not compile is a problem of its own wherever it stands. -/
def ofSettings : SettingsProblem → Trouble
  | .query f => .query f
  | p => .settings p

def message : Trouble → String
  | .query f => "query error: " ++ f.message
  | .settings p => "configuration error: " ++ p.message
  | .file p => "I/O error: " ++ p.message
  | .json text d => "serialization error: " ++ d.message ++ Wording.place text d

def name : Trouble → String
  | .query _ => "QUERY_ERROR"
  | .settings _ => "CONFIG_ERROR"
  | .file _ => "IO_ERROR"
  | .json _ _ => "JSON_ERROR"

def code : Trouble → Nat
  | .query _ => 1
  | .settings _ => 5
  | .file _ => 3
  | .json _ _ => 1

def render (json : Bool) (t : Trouble) : String :=
  if json then
    let cause := Json.object [("code", .text t.name), ("message", .text t.message)]
    (Json.object [("error", cause)]).indented ++ "\n"
  else "Error: " ++ t.message ++ "\n"

end Trouble

/-- What a task does while it is carried out: it prints, it may store settings, and it may fail in
the end. -/
structure Effect where
  printed : String
  stored : Option FileState
  trouble : Option Trouble

def Effect.prints (text : String) : Effect := ⟨text, none, none⟩

def Effect.fails (t : Trouble) : Effect := ⟨"", none, some t⟩

def report (flags : Flags) (json : Json) (text : String) : String :=
  if flags.json then json.indented ++ "\n" else if flags.quiet then "" else text

/-- Whether output has colours. Settings that cannot be read switch nothing off. -/
def colors (w : World) (flags : Flags) : Bool :=
  !flags.noColor &&
    match Settings.load w.settings with
    | .ok s => s.color.getD true
    | .error _ => true

def compiled (w : World) (c : QueryChoice) : Except Trouble Query :=
  match Settings.queryText w.settings c.given c.saved with
  | .error p => .error (.ofSettings p)
  | .ok text => (Query.compile text).mapError .query

def check (w : World) (flags : Flags) (c : QueryChoice) : Effect :=
  match compiled w c with
  | .error t => .fails t
  | .ok q =>
    let problem :=
      match q.root.meaning with
      | .ok _ => none
      | .error f => some f
    ⟨report flags (Report.checkJson ⟨q, problem⟩) (Report.checkTable (colors w flags) ⟨q, problem⟩),
      none, problem.map .query⟩

def readSnapshot (w : World) (input : String) : Except Trouble Snapshot :=
  match (if input == "-" then w.standardInput else w.fileText input) with
  | .error p => .error (.file p)
  | .ok text => (Snapshot.ofText text).mapError (.json text)

def matchesOf (q : Query) (s : Snapshot) (test : Meaning Bool) (limit : Option Nat) :
    Report.Matches :=
  let matched := s.select test
  { query := q
    shown :=
      match limit with
      | some n => matched.take n
      | none => matched
    total := s.statuses.length
    matched := matched.length }

def remainder (m : Report.Matches) : String :=
  if m.shown.length < m.matched then
    "\nShowing " ++ Text.decimal m.shown.length ++ " of " ++ Text.decimal m.matched
      ++ " matches (use --all to show everything)\n"
  else ""

def eval (w : World) (flags : Flags) (c : QueryChoice) (input : String) (limit : Option Nat) :
    Effect :=
  match compiled w c with
  | .error t => .fails t
  | .ok q =>
    match readSnapshot w input with
    | .error t => .fails t
    | .ok s =>
      match q.root.meaning with
      | .error f => .fails (.query f)
      | .ok test =>
        let m := matchesOf q s test limit
        .prints <| report flags (Report.matchesJson m)
          (Report.statusTable (colors w flags) w.now m.shown ++ remainder m)

def settingsText (w : World) (colors : Bool) (s : Settings) : String :=
  let present := w.settings.isPresent
  Report.paint colors .boldGreen "Configuration" ++ "\n\n"
    ++ "File: " ++ w.settingsPath ++ "\n"
    ++ "Exists: " ++ flagText present ++ "\n\n"
    ++ if present then
        "[output]\n"
          ++ (match s.color with
              | some b => "  color: " ++ flagText b ++ "\n"
              | none => "")
          ++ "\n[queries]\n"
          ++ if s.queries.isEmpty then "  (none)\n"
             else Report.lines (s.queries.entries.map fun (name, text) =>
               "  " ++ Report.paint colors .cyan name ++ ": " ++ text)
      else
        "(No config file exists. Run 'tlq config set <key> <value>' to create one.)\n"

def showSettings (w : World) (flags : Flags) : Effect :=
  match Settings.load w.settings with
  | .error p => .fails (.ofSettings p)
  | .ok s =>
    .prints <| report flags
      (.object [("config", s.toJson), ("exists", .bool w.settings.isPresent),
        ("path", .text w.settingsPath)])
      (settingsText w (colors w flags) s)

def store (w : World) (flags : Flags) (s : Settings) (json : Json) (text : String) : Effect :=
  match w.save w.settings s.render with
  | .error u => { Effect.fails (.ofSettings u.problem) with stored := some u.left }
  | .ok () => ⟨report flags json text, some (.text s.render), none⟩

def set (w : World) (flags : Flags) (key value : String) : Effect :=
  match Settings.load w.settings >>= fun s => s.set key value with
  | .error p => .fails (.ofSettings p)
  | .ok (stored, s) =>
    store w flags s
      (.object [("key", .text key), ("path", .text w.settingsPath), ("status", .text "success"),
        ("value", .text stored)])
      ("Set " ++ key ++ " = " ++ stored ++ "\n")

def unset (w : World) (flags : Flags) (key : String) : Effect :=
  match Settings.load w.settings >>= fun s => s.unset key with
  | .error p => .fails (.ofSettings p)
  | .ok s =>
    store w flags s (.object [("key", .text key), ("status", .text "success")])
      ("Removed " ++ key ++ "\n")

def settingsPath (w : World) (flags : Flags) : Effect :=
  .prints <|
    if flags.json then
      (Json.object [("exists", .bool w.settings.isPresent),
        ("path", .text w.settingsPath)]).indented ++ "\n"
    else w.settingsPath ++ "\n"

def greeting : String := "tlq - timeline filter queries\nUse --help for usage information\n"

def perform (w : World) (flags : Flags) : Task → Effect
  | .greet => .prints (if flags.quiet then "" else greeting)
  | .check q => check w flags q
  | .eval q input limit => eval w flags q input limit
  | .sources => .prints (report flags Report.sourcesJson (Report.sourcesTable (colors w flags)))
  | .fields => .prints (report flags Report.fieldsJson (Report.fieldsTable (colors w flags)))
  | .showSettings => showSettings w flags
  | .set key value => set w flags key value
  | .unset key => unset w flags key
  | .settingsPath => settingsPath w flags
  | .completions shell => .prints (Wording.completions shell)

def version : String := "0.1.3"

def Halt.outcome (args : List String) (h : Halt) : Outcome :=
  match h.stop with
  | .refused => ⟨2, "", Wording.refusal args, none⟩
  | .help => ⟨0, Wording.help args, "", none⟩
  | .version => ⟨0, "-".intercalate ("tlq" :: h.names) ++ " " ++ version ++ "\n", "", none⟩

def Effect.outcome (flags : Flags) (e : Effect) : Outcome :=
  match e.trouble with
  | none => ⟨0, e.printed, "", e.stored⟩
  | some t => ⟨t.code, e.printed, t.render flags.json, e.stored⟩

def run (w : World) (args : List String) : Outcome :=
  match Invocation.ofArguments args with
  | .error h => h.outcome args
  | .ok i => (perform w i.flags i.task).outcome i.flags

end TimelineFilter.Command
