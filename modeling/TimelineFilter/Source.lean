import TimelineFilter.Catalogue
import TimelineFilter.Token.Quoted

namespace TimelineFilter

inductive SourceKind
  | stored | home | mentions | messages | favorites
  | list | search | track | user | conversation
deriving DecidableEq, Repr

namespace SourceKind

def all : List SourceKind :=
  [.stored, .home, .mentions, .messages, .favorites, .list, .search, .track, .user, .conversation]

def keywords : SourceKind → List String
  | .stored => ["local", "*", "all"]
  | .home => ["home"]
  | .mentions => ["mentions", "mention", "reply", "replies"]
  | .messages => ["messages", "message", "dm", "dms"]
  | .favorites => ["favorites", "favorite", "fav", "favs"]
  | .list => ["list"]
  | .search => ["search", "find"]
  | .track => ["track", "stream"]
  | .user => ["user", "users"]
  | .conversation => ["conversation", "conv"]

instance : Catalogue SourceKind := ⟨all, keywords⟩

def needsArgument : SourceKind → Bool
  | .list | .search | .track | .user | .conversation => true
  | _ => false

def ofKeyword? (keyword : String) : Option SourceKind := Catalogue.findExact? keyword

end SourceKind

structure Source where
  kind : SourceKind
  arguments : List String
deriving DecidableEq, Repr

namespace Source

/-- The source of a query that names none. -/
def implied : Source := ⟨.stored, []⟩

def render (s : Source) : String :=
  match s.arguments with
  | [] => Catalogue.name s.kind
  | arguments => Catalogue.name s.kind ++ ": " ++ ", ".intercalate (arguments.map quote)

def renderAll (sources : List Source) : String := ", ".intercalate (sources.map render)

end Source

end TimelineFilter
