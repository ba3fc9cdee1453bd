import TimelineFilter.Timeline.Account
import TimelineFilter.Timeline.Status

namespace TimelineFilter

structure Snapshot where
  capturedAt : Option Instant
  accounts : List Account
  lists : List UserList
  statuses : List Status
deriving DecidableEq

namespace Snapshot

def empty : Snapshot := ⟨none, [], [], []⟩

def addAccount (s : Snapshot) (a : Account) : Snapshot :=
  { s with accounts := s.accounts ++ [a] }

def addList (s : Snapshot) (l : UserList) : Snapshot := { s with lists := s.lists ++ [l] }

def addStatus (s : Snapshot) (t : Status) : Snapshot :=
  { s with statuses := s.statuses ++ [t] }

def findStatus? (s : Snapshot) (id : Int64) : Option Status :=
  s.statuses.find? (·.post.id == id)

def removeStatus (s : Snapshot) (id : Int64) : Snapshot :=
  { s with statuses := s.statuses.filter (·.post.id != id) }

def findAccount? (s : Snapshot) (id : Int64) : Option Account :=
  s.accounts.find? (·.userId == id)

def updateFirst {α : Type} (test : α → Bool) (change : α → α) : List α → List α
  | [] => []
  | a :: rest => if test a then change a :: rest else a :: updateFirst test change rest

def relate (s : Snapshot) (id : Int64) (r : Relation) (target : Int64) : Snapshot :=
  { s with
    accounts := updateFirst (·.userId == id)
      (fun a => a.setRelated r ((a.related r).insert target)) s.accounts }

def unrelate (s : Snapshot) (id : Int64) (r : Relation) (target : Int64) : Snapshot :=
  { s with
    accounts := updateFirst (·.userId == id)
      (fun a => a.setRelated r ((a.related r).erase target)) s.accounts }

end Snapshot

end TimelineFilter
