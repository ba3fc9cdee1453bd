namespace TimelineFilter

inductive FileProblem
  | notFound | exists | notADirectory | isADirectory
  /-- Any other reason, in the system's own words. -/
  | other (message : String)
deriving DecidableEq, Repr

def FileProblem.message : FileProblem → String
  | .notFound => "No such file or directory (os error 2)"
  | .exists => "File exists (os error 17)"
  | .notADirectory => "Not a directory (os error 20)"
  | .isADirectory => "Is a directory (os error 21)"
  | .other message => message

inductive FileState
  | absent
  | unreadable (problem : FileProblem)
  | text (content : String)
deriving DecidableEq, Repr

def FileState.isPresent : FileState → Bool
  | .absent => false
  | _ => true

end TimelineFilter
