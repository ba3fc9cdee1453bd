import Std.Time.DateTime.Timestamp
import TimelineFilter.Command
import TimelineFilter.Standalone

namespace TimelineFilter.Main

open scoped Standalone

def problemOf (e : IO.Error) : FileProblem :=
  match e with
  | .noFileOrDirectory .. | .noSuchThing .. => .notFound
  | .alreadyExists .. => .exists
  | .inappropriateType _ 21 _ => .isADirectory
  | .inappropriateType .. => .notADirectory
  | e => .other (toString e)

def readText (path : String) : IO (Except FileProblem String) := do
  try
    return .ok (← IO.FS.readFile path)
  catch e =>
    return .error (problemOf e)

/-- What stands at the place of the settings file. A path through a file leads nowhere. -/
def stateOf (path : String) : IO FileState := do
  match ← readText path with
  | .ok content => return .text content
  | .error .notFound | .error .notADirectory => return .absent
  | .error p => return .unreadable p

def settingsPath : IO String := do
  if let some path ← IO.getEnv "TLQ_CONFIG" then return path
  if let some base ← IO.getEnv "XDG_CONFIG_HOME" then return base ++ "/tlq/config.toml"
  return ((← IO.getEnv "HOME").getD "") ++ "/.config/tlq/config.toml"

def folderOf (path : String) : String :=
  String.ofList ((path.toList.reverse.dropWhile (· != '/')).drop 1).reverse

def save (path content : String) : IO (Except SettingsProblem Unit) := do
  try
    if folderOf path != "" then IO.FS.createDirAll (folderOf path)
  catch e =>
    return .error (.cannotMakeDirectory (problemOf e))
  try
    IO.FS.writeFile path content
    return .ok ()
  catch e =>
    return .error (.cannotWrite (problemOf e))

def currentTime : IO Instant := do
  let passed := (← Std.Time.Timestamp.now).toNanosecondsSinceUnixEpoch
  return Instant.ofNanoseconds passed.val.toNat

def inputOf (args : List String) : Option String :=
  match Command.Invocation.ofArguments args with
  | .ok ⟨_, .eval _ input _⟩ => some input
  | _ => none

def observe (args : List String) : IO Command.World := do
  let path ← settingsPath
  let settings ← stateOf path
  let input := (inputOf args).getD ""
  let content ←
    if input == "-" then
      try
        pure (.ok (← (← IO.getStdin).readToEnd))
      catch e => pure (.error (problemOf e))
    else if input == "" then pure (.error .notFound)
    else readText input
  return {
    settingsPath := path
    settings
    save := fun _ _ => .ok ()
    fileText := fun _ => content
    standardInput := content
    now := ← currentTime }

def print (o : Command.Outcome) : IO UInt32 := do
  (← IO.getStdout).putStr o.stdout
  (← IO.getStderr).putStr o.errorText
  return o.code.toUInt32

end TimelineFilter.Main

open TimelineFilter TimelineFilter.Main TimelineFilter.Standalone in
def main (args : List String) : IO UInt32 := do
  let w ← observe args
  let o := Command.run w args
  match o.stored with
  | some (.text content) =>
    match ← save w.settingsPath content with
    | .ok () => print o
    | .error problem =>
      let left ← stateOf w.settingsPath
      print (Command.run { w with save := fun _ _ => .error ⟨problem, left⟩ } args)
  | _ => print o
