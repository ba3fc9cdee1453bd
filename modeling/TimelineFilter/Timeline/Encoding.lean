import TimelineFilter.Json.Decoder
import TimelineFilter.Timeline.Snapshot

/-!
Snapshots as JSON. Absent values and the empty id and media lists of a status are left out when
written; everything that has a default may be left out when read. A status that repeats another
holds that status as one of its fields.
-/
namespace TimelineFilter

open Json (Decoder RecordField)

namespace Encoding

def ofInt (n : Int64) : Json := .whole n.toInt

def member? {α : Type} (name : String) (encode : α → Json) : Option α → List (String × Json)
  | none => []
  | some a => [(name, encode a)]

def listMember {α : Type} (name : String) (encode : α → Json) :
    List α → List (String × Json)
  | [] => []
  | a :: rest => [(name, .array ((a :: rest).map encode))]

def ofIds (s : IdSet) : Json := Json.numbers s.ids

def ofInstant (t : Instant) : Json := .text t.render

def instant : Decoder Instant :=
  .spelled .time fun text => (Instant.ofText text).mapError TimeProblem.message

end Encoding

open Encoding

namespace User

def toJson (u : User) : Json :=
  .object [
    ("id", ofInt u.id),
    ("screen_name", .text u.screenName),
    ("name", .text u.name),
    ("description", .text u.description),
    ("location", .text u.location),
    ("language", .text u.language),
    ("is_protected", .bool u.isProtected),
    ("is_verified", .bool u.isVerified),
    ("is_translator", .bool u.isTranslator),
    ("is_contributors_enabled", .bool u.contributorsEnabled),
    ("is_geo_enabled", .bool u.geoEnabled),
    ("statuses_count", ofInt u.statusesCount),
    ("friends_count", ofInt u.friendsCount),
    ("followers_count", ofInt u.followersCount),
    ("favorites_count", ofInt u.favoritesCount),
    ("listed_count", ofInt u.listedCount)]

def fields : List (RecordField User) :=
  [.of "id" .int64 fun n u => { u with id := n },
   .of "screen_name" .text fun t u => { u with screenName := t },
   (RecordField.of "name" .text fun t u => { u with name := t }).orDefault,
   (RecordField.of "description" .text fun t u => { u with description := t }).orDefault,
   (RecordField.of "location" .text fun t u => { u with location := t }).orDefault,
   ((RecordField.of "language" .text fun t u => { u with language := t }).also "lang").orDefault,
   (RecordField.of "is_protected" .boolean fun b u => { u with isProtected := b }).orDefault,
   (RecordField.of "is_verified" .boolean fun b u => { u with isVerified := b }).orDefault,
   (RecordField.of "is_translator" .boolean fun b u => { u with isTranslator := b }).orDefault,
   (RecordField.of "is_contributors_enabled" .boolean
      fun b u => { u with contributorsEnabled := b }).orDefault,
   (RecordField.of "is_geo_enabled" .boolean fun b u => { u with geoEnabled := b }).orDefault,
   (RecordField.of "statuses_count" .int64 fun n u => { u with statusesCount := n }).orDefault,
   (RecordField.of "friends_count" .int64 fun n u => { u with friendsCount := n }).orDefault,
   (RecordField.of "followers_count" .int64 fun n u => { u with followersCount := n }).orDefault,
   (RecordField.of "favorites_count" .int64 fun n u => { u with favoritesCount := n }).orDefault,
   (RecordField.of "listed_count" .int64 fun n u => { u with listedCount := n }).orDefault]

def decoder : Decoder User := .record "User" fields (User.basic 0 "")

end User

namespace MediaKind

def all : List MediaKind := [.photo, .video, .animatedGif]

def name : MediaKind → String
  | .photo => "photo"
  | .video => "video"
  | .animatedGif => "animated_gif"

def decoder : Decoder MediaKind := .choice (all.map fun k => (k.name, k))

end MediaKind

namespace Media

def toJson (m : Media) : Json := .object [("url", .text m.url), ("type", .text m.kind.name)]

def fields : List (RecordField Media) :=
  [.of "url" .text fun t m => { m with url := t },
   (RecordField.of "type" MediaKind.decoder fun k m => { m with kind := k }).orDefault]

def decoder : Decoder Media := .record "Media" fields ⟨"", .photo⟩

end Media

namespace Status

def leadingMembers (p : Post) : List (String × Json) :=
  [("id", ofInt p.id), ("user", p.user.toJson), ("text", .text p.text),
   ("source", .text p.client)]
    ++ member? "created_at" ofInstant p.createdAt
    ++ member? "in_reply_to_status_id" ofInt p.inReplyToStatus
    ++ member? "in_reply_to_user_id" ofInt p.inReplyToUser
    ++ [("is_direct_message", .bool p.isDirectMessage)]
    ++ member? "recipient" User.toJson p.recipient

def trailingMembers (p : Post) : List (String × Json) :=
  listMember "mention_ids" ofInt p.mentions
    ++ listMember "favoriter_ids" ofInt p.favoriters
    ++ listMember "retweeter_ids" ofInt p.retweeters
    ++ listMember "media" Media.toJson p.media

def toJson : Status → Json
  | .plain p => .object (leadingMembers p ++ trailingMembers p)
  | .retweet p repeated =>
    .object (leadingMembers p ++ ("retweeted_status", repeated.toJson) :: trailingMembers p)

def mapPost (change : Post → Post) : Status → Status
  | .plain p => .plain (change p)
  | .retweet p repeated => .retweet (change p) repeated

def postField {α : Type} (name : String) (d : Decoder α) (put : α → Post → Post) :
    RecordField Status :=
  .of name d fun a => mapPost (put a)

def fields (repeated : Decoder (Option Status)) : List (RecordField Status) :=
  [postField "id" .int64 fun n p => { p with id := n },
   postField "user" User.decoder fun u p => { p with user := u },
   (postField "text" .text fun t p => { p with text := t }).orDefault,
   (postField "source" .text fun t p => { p with client := t }).orDefault,
   (postField "created_at" (.optional instant) fun t p => { p with createdAt := t }).orDefault,
   (postField "in_reply_to_status_id" (.optional .int64)
      fun n p => { p with inReplyToStatus := n }).orDefault,
   (postField "in_reply_to_user_id" (.optional .int64)
      fun n p => { p with inReplyToUser := n }).orDefault,
   (postField "is_direct_message" .boolean
      fun b p => { p with isDirectMessage := b }).orDefault,
   (postField "recipient" (.optional User.decoder)
      fun u p => { p with recipient := u }).orDefault,
   (RecordField.of "retweeted_status" repeated fun r s => ofParts s.post r).orDefault,
   (postField "mention_ids" (.list .int64) fun ns p => { p with mentions := ns }).orDefault,
   (postField "favoriter_ids" (.list .int64) fun ns p => { p with favoriters := ns }).orDefault,
   (postField "retweeter_ids" (.list .int64) fun ns p => { p with retweeters := ns }).orDefault,
   (postField "media" (.list Media.decoder) fun ms p => { p with media := ms }).orDefault]

def blank : Status := .plain (Post.basic 0 (User.basic 0 "") "")

/-- Each repeated status lies at least one level deeper than the one that repeats it. -/
def decoder : Decoder Status
  | 0 => Decoder.record "Status" (fields fun _ _ => .error (.malformed .tooDeep)) blank 0
  | depth + 1 =>
    Decoder.record "Status" (fields (.optional fun _ r => decoder depth r)) blank (depth + 1)

end Status

namespace Account

def toJson (a : Account) : Json :=
  .object [("user_id", ofInt a.userId), ("screen_name", .text a.screenName),
    ("following", ofIds a.following), ("followers", ofIds a.followers),
    ("blocking", ofIds a.blocking), ("muting", ofIds a.muting)]

def fields : List (RecordField Account) :=
  [.of "user_id" .int64 fun n a => { a with userId := n },
   .of "screen_name" .text fun t a => { a with screenName := t },
   (RecordField.of "following" .idSet fun s a => { a with following := s }).orDefault,
   (RecordField.of "followers" .idSet fun s a => { a with followers := s }).orDefault,
   (RecordField.of "blocking" .idSet fun s a => { a with blocking := s }).orDefault,
   (RecordField.of "muting" .idSet fun s a => { a with muting := s }).orDefault]

def decoder : Decoder Account := .record "Account" fields (Account.basic 0 "")

end Account

namespace UserList

def toJson (l : UserList) : Json :=
  .object [("owner_screen_name", .text l.owner), ("slug", .text l.slug),
    ("member_ids", ofIds l.members)]

def fields : List (RecordField UserList) :=
  [.of "owner_screen_name" .text fun t l => { l with owner := t },
   .of "slug" .text fun t l => { l with slug := t },
   (RecordField.of "member_ids" .idSet fun s l => { l with members := s }).orDefault]

def decoder : Decoder UserList := .record "TwitterList" fields ⟨"", "", .empty⟩

end UserList

namespace Snapshot

def toJson (s : Snapshot) : Json :=
  .object (member? "captured_at" ofInstant s.capturedAt
    ++ [("accounts", .array (s.accounts.map Account.toJson)),
        ("lists", .array (s.lists.map UserList.toJson)),
        ("statuses", .array (s.statuses.map Status.toJson))])

def fields : List (RecordField Snapshot) :=
  [(RecordField.of "captured_at" (.optional instant)
      fun t s => { s with capturedAt := t }).orDefault,
   (RecordField.of "accounts" (.list Account.decoder)
      fun as s => { s with accounts := as }).orDefault,
   (RecordField.of "lists" (.list UserList.decoder) fun ls s => { s with lists := ls }).orDefault,
   (RecordField.of "statuses" (.list Status.decoder)
      fun ts s => { s with statuses := ts }).orDefault]

def decoder : Decoder Snapshot := .record "Snapshot" fields .empty

def ofText (text : String) : Except Json.Defect Snapshot := decoder.ofText text

end Snapshot

def Relation.decoder : Decoder Relation :=
  .choice (Relation.all.map fun r => (Catalogue.name r, r))

end TimelineFilter
