import TimelineFilter.Meaning
import TimelineFilter.NameMap
import TimelineFilter.Query

namespace TimelineFilter

structure Session where
  queries : NameMap Query
  snapshot : Snapshot

namespace Session

def start (snapshot : Snapshot) : Session := ⟨.empty, snapshot⟩

def query? (s : Session) (name : String) : Option Query := s.queries.find? name

def setQuery (s : Session) (name : String) (q : Query) : Session :=
  { s with queries := s.queries.insert name q }

def clone? (s : Session) (source target : String) : Option Session :=
  (s.query? source).map (s.setQuery target)

def agree? (s : Session) (a b : String) : Option Bool := do
  let p ← s.query? a
  let q ← s.query? b
  pure (p == q)

def addAccount (s : Session) (a : Account) : Session :=
  { s with snapshot := s.snapshot.addAccount a }

def addList (s : Session) (l : UserList) : Session := { s with snapshot := s.snapshot.addList l }

def addStatus (s : Session) (t : Status) : Session :=
  { s with snapshot := s.snapshot.addStatus t }

def addRetweet? (s : Session) (id : Int64) (user : User) (of : Int64) :
    Option (Status × Session) :=
  (s.snapshot.findStatus? of).map fun t =>
    let retweet := t.retweetBy id user
    (retweet, s.addStatus retweet)

def removeStatus (s : Session) (id : Int64) : Session :=
  { s with snapshot := s.snapshot.removeStatus id }

/-- Puts a user into a relation to an account or takes the user out of it, and tells whether that
changes anything. -/
def setRelated? (s : Session) (id : Int64) (r : Relation) (target : Int64) (present : Bool) :
    Option (Bool × Session) :=
  (s.snapshot.findAccount? id).map fun a =>
    let changed := (a.related r).contains target != present
    let snapshot :=
      if present then s.snapshot.relate id r target else s.snapshot.unrelate id r target
    (changed, { s with snapshot })

end Session

end TimelineFilter
