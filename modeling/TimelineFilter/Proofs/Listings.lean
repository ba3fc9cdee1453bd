import TimelineFilter.Proofs.CanonicalText
import TimelineFilter.Proofs.Entries
import TimelineFilter.Proofs.Timeline.Snapshots
import TimelineFilter.Proofs.Verdicts
import TimelineFilter.Standalone

namespace TimelineFilter

namespace Report

/-- The entry holds what is reported of the status, and what the status lacks is left out. -/
structure Shows (t : Status) (entry : Json.Reading) : Prop where
  id : entry.Has "id" (.whole t.post.id.toInt)
  screenName : entry.Has "screen_name" (.text t.author.screenName)
  retweeter : ∀ u, t.retweeter? = some u → entry.Has "retweeted_by" (.text u.screenName)
  nobody : t.retweeter? = none → entry.Lacks "retweeted_by"
  text : entry.Has "text" (.text t.origin.text)
  created : ∀ i, t.post.createdAt = some i → entry.Has "created_at" (.text i.render)
  timeless : t.post.createdAt = none → entry.Lacks "created_at"
  marked : entry.Has "is_direct_message" (.bool t.post.isDirectMessage)

theorem shows_statusJson (t : Status) : Shows t (statusJson t).reading where
  id := has_id t
  screenName := has_screenName t
  retweeter _ := has_retweeter
  nobody := lacks_retweeter
  text := has_text t
  created i time := by
    have mem : ("created_at", Json.text i.render) ∈ entryMembers t := by simp [entryMembers, time]
    exact has_entry mem
  timeless time := by
    rw [statusJson_eq]
    apply Json.lacks_member
    cases repeats : t.retweeter? <;> simp [entryMembers, time, repeats]
  marked := has_mark t

theorem shows_all (shown : List Status) :
    List.Forall₂ Shows shown (Json.itemReadings (shown.map statusJson)) := by
  induction shown with
  | nil => exact .nil
  | cons t shown ih => exact .cons (shows_statusJson t) ih

theorem plain_statusJson (t : Status) : Json.Plain (statusJson t) := by
  have id := Json.fitsWhole_int64 t.post.id
  unfold statusJson
  cases t.retweeter? with
  | none =>
    cases t.post.createdAt with
    | none => exact ⟨id, trivial, trivial, trivial, trivial⟩
    | some i => exact ⟨id, trivial, trivial, trivial, trivial, trivial⟩
  | some u =>
    cases t.post.createdAt with
    | none => exact ⟨id, trivial, trivial, trivial, trivial, trivial⟩
    | some i => exact ⟨id, trivial, trivial, trivial, trivial, trivial, trivial⟩

theorem plain_statuses (shown : List Status) : Json.PlainItems (shown.map statusJson) := by
  induction shown with
  | nil => trivial
  | cons t shown ih => exact ⟨plain_statusJson t, ih⟩

theorem fitsWhole_count {n : Nat} (counted : n < UInt64.size) : Json.FitsWhole n := by
  have low : Int64.minValue.toInt = -2 ^ 63 := by decide
  simp only [Json.FitsWhole, low]
  omega

def listed (limit : Option Nat) (matched : Nat) : Nat :=
  match limit with
  | some n => min n matched
  | none => matched

def exceeds (limit : Option Nat) (matched : Nat) : Bool :=
  match limit with
  | some n => n < matched
  | none => false

theorem listed_lt_iff {limit : Option Nat} {matched : Nat} :
    listed limit matched < matched ↔ exceeds limit matched = true := by
  cases limit with
  | none => simp [listed, exceeds]
  | some n =>
    simp only [listed, exceeds, decide_eq_true_eq]
    omega

theorem listed_le (limit : Option Nat) (matched : Nat) : listed limit matched ≤ matched := by
  cases limit with
  | none => exact Nat.le_refl _
  | some n => exact Nat.min_le_right n matched

/-- The value is a report on the matches among `total` statuses. -/
structure Lists (q : Query) (total : Nat) (matching : List Status) (limit : Option Nat)
    (r : Json.Reading) : Prop where
  query : ∃ text, r.Has "query" (.text text) ∧ Query.compile text = .ok q
  total : r.Has "total" (.whole total)
  matched : r.Has "matched" (.whole matching.length)
  more : r.Has "has_more" (.bool (exceeds limit matching.length))
  statuses : ∃ entries, r.Has "statuses" (.array entries none) ∧
    List.Forall₂ Shows (matching.take (listed limit matching.length)) entries

def reportMembers (m : Matches) : List (String × Json) :=
  [("query", .text m.query.render), ("total", .whole m.total), ("matched", .whole m.matched),
    ("has_more", .bool (m.shown.length < m.matched)), ("statuses", .array (m.shown.map statusJson))]

theorem has_report {m : Matches} {name : String} {j : Json} (mem : (name, j) ∈ reportMembers m) :
    (matchesJson m).reading.Has name j.reading := by
  have distinct : ((reportMembers m).map Prod.fst).Nodup := by simp [reportMembers]
  exact Json.has_member distinct mem

theorem lists_matchesJson {m : Matches} {matching : List Status} {limit : Option Nat}
    (canonical : Query.compile m.query.render = .ok m.query) (matched : m.matched = matching.length)
    (shown : m.shown = matching.take (listed limit matching.length)) :
    Lists m.query m.total matching limit (matchesJson m).reading := by
  have more : decide (m.shown.length < m.matched) = exceeds limit matching.length := by
    rw [shown, matched, List.length_take_of_le (listed_le limit _), Bool.eq_iff_iff,
      decide_eq_true_iff]
    exact listed_lt_iff
  refine ⟨⟨m.query.render, ?_, canonical⟩, ?_, ?_, ?_, ⟨Json.itemReadings (m.shown.map statusJson),
    ?_, shown ▸ shows_all m.shown⟩⟩
  · have mem : ("query", Json.text m.query.render) ∈ reportMembers m := by simp [reportMembers]
    exact has_report mem
  · have mem : ("total", Json.whole m.total) ∈ reportMembers m := by simp [reportMembers]
    exact has_report mem
  · have mem : ("matched", Json.whole m.matched) ∈ reportMembers m := by simp [reportMembers]
    exact matched ▸ has_report mem
  · have mem : ("has_more", Json.bool (m.shown.length < m.matched)) ∈ reportMembers m := by
      simp [reportMembers]
    exact more ▸ has_report mem
  · have mem : ("statuses", Json.array (m.shown.map statusJson)) ∈ reportMembers m := by
      simp [reportMembers]
    exact has_report mem

theorem plain_matchesJson {m : Matches} (total : m.total < UInt64.size)
    (matched : m.matched < UInt64.size) : Json.Plain (matchesJson m) :=
  ⟨trivial, fitsWhole_count total, fitsWhole_count matched, trivial, plain_statuses m.shown,
    trivial⟩

end Report

namespace Command

open Report

theorem matchesOf_shown (q : Query) (s : Snapshot) (test : Meaning Bool) (limit : Option Nat) :
    (matchesOf q s test limit).shown =
      (s.select test).take (listed limit (s.select test).length) := by
  cases limit with
  | none => exact (List.take_length).symm
  | some n => exact List.take_eq_take_min ..

def line (limit : Option Nat) (matched : Nat) : String :=
  "\nShowing " ++ Text.decimal (listed limit matched) ++ " of " ++ Text.decimal matched
    ++ " matches (use --all to show everything)\n"

theorem remainder_eq {m : Matches} {limit : Option Nat}
    (shown : m.shown.length = listed limit m.matched) :
    remainder m = if exceeds limit m.matched then line limit m.matched else "" := by
  rw [remainder, shown]
  exact if_congr listed_lt_iff rfl rfl

variable {w : World} {flags : Flags} {c : QueryChoice} {args : List String} {input : String}
  {limit : Option Nat} {q : Query} {s : Snapshot} {test : Meaning Bool}

theorem run_eval [Regex.Engine] [Wording]
    (asks : Invocation.ofArguments args = .ok ⟨flags, .eval c input limit⟩)
    (compiles : compiled w c = .ok q) (reads : readSnapshot w input = .ok s)
    (builds : q.root.meaning = .ok test) :
    run w args = ⟨0, report flags (matchesJson (matchesOf q s test limit))
      (statusTable (colors w flags) w.now (matchesOf q s test limit).shown
        ++ remainder (matchesOf q s test limit)), "", none⟩ := by
  rw [run, asks]
  change (eval w flags c input limit).outcome flags = _
  rw [eval, compiles]
  dsimp only
  rw [reads]
  dsimp only
  rw [builds]
  rfl

/-- Trying a query that can be used on a snapshot that can be read, whatever the limit. In JSON one
document is printed, and it reads as the report. Otherwise a table of the same statuses is printed,
with the line below it exactly if there are more matches than the limit. Counts are words of 64
bits, and no snapshot has more statuses than they can count. -/
theorem eval_lists [Regex.Engine] [Wording]
    (asks : Invocation.ofArguments args = .ok ⟨flags, .eval c input limit⟩)
    (compiles : compiled w c = .ok q) (reads : readSnapshot w input = .ok s)
    (builds : q.root.meaning = .ok test) (counted : s.statuses.length < UInt64.size) :
    let matching := s.statuses.filter fun t => test t ⟨s.accounts, s.lists⟩
    let matched := matching.length
    (run w args).code = 0 ∧ (run w args).errorText = "" ∧
    (flags.json = true → ∃ r, Json.Reading.ofText (run w args).stdout = (r, false) ∧
      r.WellFormed ∧ Lists q s.statuses.length matching limit r) ∧
    (flags.json = false → flags.quiet = false →
      (run w args).stdout =
        statusTable (colors w flags) w.now (matching.take (listed limit matched))
          ++ if exceeds limit matched then line limit matched else "") := by
  intro matching matched
  rw [run_eval asks compiles reads builds]
  refine ⟨rfl, rfl, ?_, ?_⟩
  · intro json
    have fewer : matched < UInt64.size :=
      Nat.lt_of_le_of_lt (List.length_filter_le _ s.statuses) counted
    have plain : Json.Plain (matchesJson (matchesOf q s test limit)) :=
      plain_matchesJson counted fewer
    obtain ⟨text, -, spelled⟩ := compiled_eq_ok_iff.1 compiles
    refine ⟨(matchesJson (matchesOf q s test limit)).reading, ?_, Json.Reading.wellFormed_reading _,
      lists_matchesJson (Query.compile_canonical spelled) rfl (matchesOf_shown q s test limit)⟩
    rw [report, if_pos json]
    exact Json.Reading.ofText_line plain
  · intro text loud
    have shown := matchesOf_shown q s test limit
    have count : (matchesOf q s test limit).shown.length = listed limit matched := by
      rw [shown]
      exact List.length_take_of_le (listed_le limit matched)
    rw [report, if_neg (by simp [text]), if_neg (by simp [loud]), remainder_eq count, shown]
    rfl

open scoped Standalone

/-- Two of three statuses are retweets, and one of them is listed. -/
theorem eval_lists_first :
    let amy : User := .basic 9 "amy"
    let post : Status := .plain (.basic 1 amy "a\n\"b")
    let s : Snapshot := ⟨none, [], [], [post, post.retweetBy 2 amy, post.retweetBy 3 amy]⟩
    let w : World := ⟨"config.toml", .absent, fun _ _ => .ok (), fun _ => .ok s.toJson.compact,
      .error .notFound, .ofNanoseconds 0⟩
    let args := ["--json", "eval", "--input=s.json", "--limit=1", "--", "rt"]
    readSnapshot w "s.json" = .ok s ∧
    ∃ r entry, Json.Reading.ofText (run w args).stdout = (r, false) ∧
      r.Has "total" (.whole 3) ∧ r.Has "matched" (.whole 2) ∧ r.Has "has_more" (.bool true) ∧
      r.Has "statuses" (.array [entry] none) ∧ Shows (post.retweetBy 2 amy) entry := by
  intro amy post s w args
  have reads : readSnapshot w "s.json" = .ok s := by
    have years : s.InFourDigits := by
      refine ⟨by simp [s], ?_⟩
      simp [s, post, Status.retweetBy, Status.InFourDigits, Post.InFourDigits, Post.basic]
    have read := ((Snapshot.decodes years s.written_toJson).ofText (by decide)).1
    change (Snapshot.ofText s.toJson.compact).mapError _ = _
    rw [Snapshot.ofText, read]
    rfl
  have asks : Invocation.ofArguments args =
      .ok ⟨⟨false, false, true, false⟩, .eval ⟨some "rt", none⟩ "s.json" (some 1)⟩ := by cbv
  let q : Query := ⟨[.implied], .value (.field .retweet)⟩
  have compiles : compiled w ⟨some "rt", none⟩ = .ok q := by
    have scanned : scan false "rt" = ⟨[⟨.word "rt", 0⟩], none⟩ := by decide +kernel
    have field : Predicate.Derives .atom [.word "rt"] (.value (.field .retweet)) :=
      .value (.field (Catalogue.find?_eq_some_iff.1 rfl))
    refine compiled_eq_ok_iff.2 ⟨"rt", rfl, ?_⟩
    rw [Query.compile_eq_ok_iff, scanned]
    exact ⟨rfl, .implied (.bare (field.loosen (by decide)))⟩
  have builds : q.root.meaning = .ok fun t _ => t.isRetweet := rfl
  obtain ⟨r, read, -, lists⟩ := (eval_lists asks compiles reads builds (by decide)).2.2.1 rfl
  obtain ⟨entries, statuses, shown⟩ := lists.statuses
  have first : (s.statuses.filter fun t => t.isRetweet).take (listed (some 1) 2) =
      [post.retweetBy 2 amy] := rfl
  have shown : List.Forall₂ Shows [post.retweetBy 2 amy] entries := first ▸ shown
  obtain ⟨entry, _, shows, rest, rfl⟩ := List.forall₂_cons_left_iff.1 shown
  cases rest
  exact ⟨reads, r, entry, read, lists.total, lists.matched, lists.more, statuses, shows⟩

end Command

end TimelineFilter
