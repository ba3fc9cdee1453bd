import TimelineFilter.Field
import TimelineFilter.Timeline.IdSet

namespace TimelineFilter

structure Account where
  userId : Int64
  screenName : String
  following : IdSet
  followers : IdSet
  blocking : IdSet
  muting : IdSet
deriving DecidableEq

namespace Account

def basic (userId : Int64) (screenName : String) : Account :=
  ⟨userId, screenName, .empty, .empty, .empty, .empty⟩

def related (a : Account) : Relation → IdSet
  | .following => a.following
  | .followers => a.followers
  | .blocking => a.blocking
  | .muting => a.muting

def setRelated (a : Account) (r : Relation) (ids : IdSet) : Account :=
  match r with
  | .following => { a with following := ids }
  | .followers => { a with followers := ids }
  | .blocking => { a with blocking := ids }
  | .muting => { a with muting := ids }

@[simp] theorem related_setRelated (a : Account) (r : Relation) (ids : IdSet) :
    (a.setRelated r ids).related r = ids := by
  cases r <;> rfl

end Account

structure UserList where
  owner : String
  slug : String
  members : IdSet
deriving DecidableEq

end TimelineFilter
