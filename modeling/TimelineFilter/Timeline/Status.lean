import TimelineFilter.Timeline.Instant
import TimelineFilter.Timeline.User

namespace TimelineFilter

inductive MediaKind
  | photo | video | animatedGif
deriving DecidableEq, Repr

structure Media where
  url : String
  kind : MediaKind
deriving DecidableEq

/-- What a status says of itself, whether or not it repeats another. -/
structure Post where
  id : Int64
  user : User
  text : String
  client : String
  createdAt : Option Instant
  inReplyToStatus : Option Int64
  inReplyToUser : Option Int64
  isDirectMessage : Bool
  recipient : Option User
  mentions : List Int64
  favoriters : List Int64
  retweeters : List Int64
  media : List Media
deriving DecidableEq

inductive Status
  | plain (post : Post)
  | retweet (post : Post) (of : Status)
deriving DecidableEq

def Post.basic (id : Int64) (user : User) (text : String) : Post :=
  { id, user, text, client := "", createdAt := none, inReplyToStatus := none,
    inReplyToUser := none, isDirectMessage := false, recipient := none, mentions := [],
    favoriters := [], retweeters := [], media := [] }

def Post.message (id : Int64) (sender recipient : User) (text : String) : Post :=
  { Post.basic id sender text with isDirectMessage := true, recipient := some recipient }

namespace Status

def post : Status → Post
  | .plain p => p
  | .retweet p _ => p

def repeated? : Status → Option Status
  | .plain _ => none
  | .retweet _ s => some s

def ofParts (p : Post) : Option Status → Status
  | none => .plain p
  | some s => .retweet p s

def isRetweet (s : Status) : Bool := s.repeated?.isSome

/-- What the repeated status says of itself for a retweet, and the status otherwise. -/
def origin (s : Status) : Post :=
  match s with
  | .plain p => p
  | .retweet _ repeated => repeated.post

def author (s : Status) : User := s.origin.user

def retweeter? (s : Status) : Option User := if s.isRetweet then some s.post.user else none

def hasMedia (s : Status) : Bool := !s.origin.media.isEmpty

/-- The users whom the origin is addressed to, the recipient of a direct message included. -/
def addressees (s : Status) : List Int64 :=
  match s.origin.recipient with
  | some r => if s.origin.mentions.contains r.id then s.origin.mentions
    else s.origin.mentions ++ [r.id]
  | none => s.origin.mentions

/-- A retweet by `user`, which takes over the text. -/
def retweetBy (id : Int64) (user : User) (s : Status) : Status :=
  .retweet (Post.basic id user s.post.text) s

@[simp] theorem ofParts_post (p : Post) (r : Option Status) : (ofParts p r).post = p := by
  cases r <;> rfl

@[simp] theorem ofParts_repeated? (p : Post) (r : Option Status) :
    (ofParts p r).repeated? = r := by
  cases r <;> rfl

@[simp] theorem ofParts_parts (s : Status) : ofParts s.post s.repeated? = s := by
  cases s <;> rfl

end Status

end TimelineFilter
