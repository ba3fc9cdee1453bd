import TimelineFilter.Text.Lower
import TimelineFilter.Timeline.Account
import TimelineFilter.Value

/-!
What references in a predicate are resolved against: the local accounts and the cached lists.
Names of accounts and lists are compared in lower case, and the first match counts.
-/
namespace TimelineFilter

structure Context where
  accounts : List Account
  lists : List UserList

namespace Context

def findByName? (c : Context) (screenName : String) : Option Account :=
  let name := Text.lower screenName
  c.accounts.find? (Text.lower ·.screenName == name)

def findById? (c : Context) (id : Int64) : Option Account := c.accounts.find? (·.userId == id)

def select (c : Context) : Selector → List Account
  | .any => c.accounts
  | .named screenName => (c.findByName? screenName).toList
  | .id id => (c.findById? id).toList

def members? (c : Context) (owner slug : String) : Option IdSet :=
  let owner := Text.lower owner
  let slug := Text.lower slug
  (c.lists.find? fun l => Text.lower l.owner == owner && Text.lower l.slug == slug).map
    UserList.members

def related (c : Context) (selector : Selector) (r : Relation) : IdSet :=
  IdSet.unions ((c.select selector).map (·.related r))

end Context

end TimelineFilter
