import TimelineFilter.Json
import TimelineFilter.Query
import TimelineFilter.Report.Age
import TimelineFilter.Report.Style
import TimelineFilter.Timeline.Snapshot

/-!
The statuses that a query matched, as JSON and as a table of one line each. Name and text are
those of the origin of a retweet; id, time and the mark of a direct message are the status's own.
-/
namespace TimelineFilter.Report

structure Matches where
  query : Query
  shown : List Status
  total : Nat
  matched : Nat

def statusJson (t : Status) : Json :=
  .object ([("id", .whole t.post.id.toInt), ("screen_name", .text t.author.screenName)]
    ++ (match t.retweeter? with
        | some u => [("retweeted_by", Json.text u.screenName)]
        | none => [])
    ++ [("text", .text t.origin.text)]
    ++ (match t.post.createdAt with
        | some created => [("created_at", Json.text created.render)]
        | none => [])
    ++ [("is_direct_message", .bool t.post.isDirectMessage)])

def matchesJson (m : Matches) : Json :=
  .object [("query", .text m.query.render), ("total", .whole m.total),
    ("matched", .whole m.matched), ("has_more", .bool (m.shown.length < m.matched)),
    ("statuses", .array (m.shown.map statusJson))]

def textWidth : Nat := 60

def row (id age user text : String) : String :=
  Text.padRight 20 id ++ " " ++ Text.padRight 6 age ++ " " ++ user ++ " " ++ text

def header (colors : Bool) : String :=
  paint colors .dimmed (row "ID" "Age" (Text.padRight 18 "User") "Text")

def statusText (colors : Bool) (t : Status) : String :=
  (if t.post.isDirectMessage then paint colors .magenta "DM" ++ " " else "")
    ++ truncate textWidth (Text.singleLine t.origin.text)
    ++ (match t.retweeter? with
        | some u => " (RT by @" ++ u.screenName ++ ")"
        | none => "")

def statusRow (colors : Bool) (now : Instant) (t : Status) : String :=
  row (Text.decimal t.post.id.toInt) (age t.post.createdAt now)
    (paint colors .cyan (Text.padRight 18 ("@" ++ truncate 16 t.author.screenName)))
    (statusText colors t)

def statusTable (colors : Bool) (now : Instant) (shown : List Status) : String :=
  match shown with
  | [] => "No matching statuses.\n"
  | shown => lines (header colors :: shown.map (statusRow colors now))

end TimelineFilter.Report
