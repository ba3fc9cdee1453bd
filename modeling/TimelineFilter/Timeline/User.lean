namespace TimelineFilter

structure User where
  id : Int64
  screenName : String
  name : String
  description : String
  location : String
  language : String
  isProtected : Bool
  isVerified : Bool
  isTranslator : Bool
  contributorsEnabled : Bool
  geoEnabled : Bool
  statusesCount : Int64
  friendsCount : Int64
  followersCount : Int64
  favoritesCount : Int64
  listedCount : Int64
deriving DecidableEq

def User.basic (id : Int64) (screenName : String) : User :=
  { id, screenName, name := "", description := "", location := "", language := "",
    isProtected := false, isVerified := false, isTranslator := false,
    contributorsEnabled := false, geoEnabled := false, statusesCount := 0, friendsCount := 0,
    followersCount := 0, favoritesCount := 0, listedCount := 0 }

end TimelineFilter
