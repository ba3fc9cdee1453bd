import TimelineFilter.Field
import TimelineFilter.Text.Decimal
import TimelineFilter.Token.Quoted

namespace TimelineFilter

inductive Selector
  | any
  | named (screenName : String)
  | id (id : Int64)
deriving DecidableEq, Repr

def Selector.render : Selector → String
  | .any => "our"
  | .named name => if isBareWord name then "@" ++ name else "@." ++ quote name
  | .id n => "#" ++ Text.decimal n.toInt

inductive Person
  | author | retweeter
deriving DecidableEq, Repr

def Person.render : Person → String
  | .author => "user"
  | .retweeter => "retweeter"

inductive Value
  | text (text : String)
  | number (n : Int64)
  | account (selector : Selector)
  | relation (selector : Selector) (relation : Relation)
  | person (person : Person)
  | personField (person : Person) (field : UserField)
  | field (field : StatusField)
  | list (owner slug : String)
deriving DecidableEq, Repr

def Value.render : Value → String
  | .text t => quote t
  | .number n => Text.decimal n.toInt
  | .account selector => selector.render
  | .relation selector r => selector.render ++ "." ++ Catalogue.name r
  | .person who => who.render
  | .personField who f => who.render ++ "." ++ Catalogue.name f
  | .field f => Catalogue.name f
  | .list owner slug => "list." ++ bareOrQuoted owner ++ "." ++ bareOrQuoted slug

end TimelineFilter
