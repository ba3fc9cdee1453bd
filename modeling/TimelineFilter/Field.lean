import TimelineFilter.Catalogue

namespace TimelineFilter

inductive Relation
  | following | followers | blocking | muting
deriving DecidableEq, Repr

namespace Relation

def all : List Relation := [.following, .followers, .blocking, .muting]

def spellings : Relation → List String
  | .following => ["following", "followings", "friend", "friends"]
  | .followers => ["followers", "follower"]
  | .blocking => ["blocking", "block", "blocks", "blocked"]
  | .muting => ["muting", "mute", "mutes", "muted"]

instance : Catalogue Relation := ⟨all, spellings⟩

end Relation

inductive UserField
  | isProtected | isVerified | isTranslator | contributorsEnabled | geoEnabled
  | id | statuses | following | followers | favorites | listed
  | screenName | name | bio | location | language
deriving DecidableEq, Repr

namespace UserField

def all : List UserField :=
  [.isProtected, .isVerified, .isTranslator, .contributorsEnabled, .geoEnabled,
   .id, .statuses, .following, .followers, .favorites, .listed,
   .screenName, .name, .bio, .location, .language]

def spellings : UserField → List String
  | .isProtected => ["protected", "is_protected", "isprotected"]
  | .isVerified => ["verified", "is_verified", "isverified"]
  | .isTranslator => ["translator", "is_translator", "istranslator"]
  | .contributorsEnabled =>
    ["contributors_enabled", "contributorsenabled", "is_contributors_enabled"]
  | .geoEnabled => ["geo_enabled", "geoenabled", "is_geo_enabled"]
  | .id => ["id"]
  | .statuses => ["statuses", "status", "statuses_count", "statuscount", "tweets"]
  | .following =>
    ["following", "followings", "friend", "friends", "friends_count", "following_count"]
  | .followers => ["followers", "follower", "followers_count"]
  | .favorites => ["favorites", "fav", "favs", "favorite", "favorites_count"]
  | .listed => ["listed", "list", "listed_count"]
  | .screenName => ["screen_name", "screenname"]
  | .name => ["name", "username"]
  | .bio => ["bio", "description"]
  | .location => ["location", "loc"]
  | .language => ["language", "lang"]

instance : Catalogue UserField := ⟨all, spellings⟩

end UserField

inductive StatusField
  | directMessage | retweet | inReplyTo | mentions | id
  | favoriters | retweeters | text | client | media | muted
deriving DecidableEq, Repr

namespace StatusField

def all : List StatusField :=
  [.directMessage, .retweet, .inReplyTo, .mentions, .id,
   .favoriters, .retweeters, .text, .client, .media, .muted]

def spellings : StatusField → List String
  | .directMessage => ["direct_message", "dm", "is_dm", "isdm", "message", "is_direct_message"]
  | .retweet => ["retweet", "rt", "isretweet", "is_retweet"]
  | .inReplyTo => ["in_reply_to", "reply_to", "replyto", "inreplyto"]
  | .mentions => ["mentions", "mention", "to"]
  | .id => ["id"]
  | .favoriters => ["favoriters", "favs", "favorites", "favorer", "favorers"]
  | .retweeters => ["retweeters", "rts", "retweeted"]
  | .text => ["text", "body"]
  | .client => ["via", "source", "client"]
  | .media => ["has_media", "media", "hasmedia"]
  | .muted => ["mute", "muted", "is_muted", "ismuted"]

instance : Catalogue StatusField := ⟨all, spellings⟩

end StatusField

end TimelineFilter
