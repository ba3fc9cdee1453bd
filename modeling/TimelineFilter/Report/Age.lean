import TimelineFilter.Timeline.Instant

/-!
How long ago something was created: in the largest unit that fits, and as a date from the eighth
day on. Times that lie ahead count as just now.
-/
namespace TimelineFilter.Report

def shortDate (t : Instant) : String :=
  t.date.monthName ++ " " ++ Text.zeroPadded 2 t.date.day

def ageOf (created now : Instant) : String :=
  let seconds := Instant.secondsFrom created now
  if seconds < 60 then "just now"
  else if seconds < 60 * 60 then Text.decimal (seconds / 60) ++ "m"
  else if seconds < 24 * 60 * 60 then Text.decimal (seconds / (60 * 60)) ++ "h"
  else if seconds / (24 * 60 * 60) ≤ 7 then Text.decimal (seconds / (24 * 60 * 60)) ++ "d"
  else shortDate created

/-- Nothing is said about an unknown time. -/
def age (created : Option Instant) (now : Instant) : String :=
  match created with
  | none => ""
  | some t => ageOf t now

end TimelineFilter.Report
