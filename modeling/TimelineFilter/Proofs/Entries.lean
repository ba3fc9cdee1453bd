import TimelineFilter.Proofs.Grammar.Expressions
import TimelineFilter.Proofs.Json.Trees
import TimelineFilter.Proofs.Typing
import TimelineFilter.Report.Statuses
import TimelineFilter.Standalone
import Mathlib.Data.List.Nodup

/-! What is shown of a status, compared with what the query language says of it. Name, text and
retweeter are chosen alike. The mark of a direct message is not: an entry shows the status's own,
while a query asks for that of the origin. -/
namespace TimelineFilter

namespace Json

theorem mem_memberReadings {ms : List (String × Json)} {key : Except Malformed String}
    {r : Reading} :
    (key, r) ∈ memberReadings ms ↔ ∃ name j, (name, j) ∈ ms ∧ key = .ok name ∧ r = reading j := by
  induction ms with
  | nil => simp [memberReadings]
  | cons m ms ih =>
    obtain ⟨name, j⟩ := m
    rw [memberReadings, List.mem_cons, ih]
    constructor
    · rintro (first | ⟨name', j', mem, rest⟩)
      · cases first
        exact ⟨name, j, List.mem_cons_self, rfl, rfl⟩
      · exact ⟨name', j', List.mem_cons_of_mem _ mem, rest⟩
    · rintro ⟨name', j', mem, rfl, rfl⟩
      rcases List.mem_cons.1 mem with first | mem
      · cases first
        exact .inl rfl
      · exact .inr ⟨name', j', mem, rfl, rfl⟩

namespace Reading

/-- The value is an object in which this name has this value and no other. -/
def Has (r : Reading) (name : String) (v : Reading) : Prop :=
  ∃ ms, r = .object ms none ∧ ∀ v', (.ok name, v') ∈ ms ↔ v' = v

def Lacks (r : Reading) (name : String) : Prop :=
  ∃ ms, r = .object ms none ∧ ∀ v', (.ok name, v') ∉ ms

theorem Has.unique {r v v' : Reading} {name : String} (has : r.Has name v)
    (has' : r.Has name v') : v = v' := by
  obtain ⟨ms, rfl, only⟩ := has
  obtain ⟨ms', same, only'⟩ := has'
  cases same
  exact (only' v).1 ((only v).2 rfl)

end Reading

variable {ms : List (String × Json)} {name : String}

theorem has_member {j : Json} (distinct : (ms.map Prod.fst).Nodup) (mem : (name, j) ∈ ms) :
    (reading (.object ms)).Has name (reading j) := by
  refine ⟨memberReadings ms, rfl, ?_⟩
  intro v
  rw [mem_memberReadings]
  constructor
  · rintro ⟨name', j', mem', same, rfl⟩
    cases same
    cases List.inj_on_of_nodup_map distinct mem mem' rfl
    rfl
  · rintro rfl
    exact ⟨name, j, mem, rfl, rfl⟩

theorem lacks_member (absent : name ∉ ms.map Prod.fst) : (reading (.object ms)).Lacks name := by
  refine ⟨memberReadings ms, rfl, ?_⟩
  intro v mem
  obtain ⟨name', j, mem, same, -⟩ := mem_memberReadings.1 mem
  cases same
  exact absent (List.mem_map_of_mem mem)

end Json

/-- The text spells an expression, and this is its value for a status in a context. -/
def Evaluates [Regex.Engine] (text : String) (type : ValueType) (t : Status) (c : Context)
    (v : type.Carrier) : Prop :=
  ∃ p f, Predicate.ofText text = .ok p ∧ p.denote false = .ok (.ofType type f) ∧ f t c = v

theorem ofText_value {text : String} {ts : List Token} {v : Value}
    (scanned : scan false text = ⟨ts, none⟩) (spelled : Value.Spelled (lexemes ts) v) :
    Predicate.ofText text = .ok (.value v) := by
  have derived : Predicate.Derives .atom (lexemes ts) (.value v) := .value spelled
  rw [Predicate.ofText, scanned]
  exact Predicate.ofTokens_eq_ok_iff.2 (.bare (derived.loosen (by decide)))

theorem ofText_field {word : String} {f : StatusField}
    (scanned : scan false word = ⟨[⟨.word word, 0⟩], none⟩)
    (known : Catalogue.find? word = some f) :
    Predicate.ofText word = .ok (.value (.field f)) :=
  ofText_value scanned (.field (Catalogue.find?_eq_some_iff.1 known))

theorem ofText_screenName (who : Person) {text : String} {start dot name : Nat}
    (scanned : scan false text = ⟨[⟨.word who.render, start⟩, ⟨.symbol .period, dot⟩,
      ⟨.word "screen_name", name⟩], none⟩) :
    Predicate.ofText text = .ok (.value (.personField who .screenName)) := by
  refine ofText_value scanned (.person ⟨_, rfl, ?_⟩ (.named (Catalogue.find?_eq_some_iff.1 rfl)))
  cases who <;> decide

theorem scanned_author : scan false "user.screen_name" =
    ⟨[⟨.word "user", 0⟩, ⟨.symbol .period, 4⟩, ⟨.word "screen_name", 5⟩], none⟩ := by
  decide +kernel

theorem scanned_retweeter : scan false "retweeter.screen_name" =
    ⟨[⟨.word "retweeter", 0⟩, ⟨.symbol .period, 9⟩, ⟨.word "screen_name", 10⟩], none⟩ := by
  decide +kernel

section

variable [Regex.Engine] (t : Status) (c : Context)

theorem evaluates_id : Evaluates "id" .numeric t c t.post.id :=
  ⟨_, _, ofText_field (by decide +kernel) rfl, rfl, rfl⟩

theorem evaluates_text : Evaluates "text" .text t c t.origin.text :=
  ⟨_, _, ofText_field (by decide +kernel) rfl, rfl, rfl⟩

theorem evaluates_retweet : Evaluates "rt" .boolean t c t.isRetweet :=
  ⟨_, _, ofText_field (by decide +kernel) rfl, rfl, rfl⟩

theorem evaluates_message : Evaluates "dm" .boolean t c t.origin.isDirectMessage :=
  ⟨_, _, ofText_field (by decide +kernel) rfl, rfl, rfl⟩

theorem evaluates_author : Evaluates "user.screen_name" .text t c t.author.screenName :=
  ⟨_, _, ofText_screenName .author scanned_author, rfl, rfl⟩

theorem evaluates_retweeter : Evaluates "retweeter.screen_name" .text t c
    ((t.retweeter?.map User.screenName).getD "") :=
  ⟨_, _, ofText_screenName .retweeter scanned_retweeter, rfl, rfl⟩

end

namespace Report

def unmarked (t : Status) : Status := .ofParts { t.post with isDirectMessage := false } t.repeated?

/-- The row has the mark of a direct message: it is the row of the status without the mark, with
the mark put into it. -/
def ShowsMark (colors : Bool) (now : Instant) (t : Status) : Prop :=
  ∃ front behind, statusRow colors now t = front ++ (paint colors .magenta "DM" ++ " ") ++ behind ∧
    statusRow colors now (unmarked t) = front ++ behind

theorem unmarked_same {t : Status} (plain : t.post.isDirectMessage = false) : unmarked t = t := by
  have same : { t.post with isDirectMessage := false } = t.post := by rw [← plain]
  rw [unmarked, same, Status.ofParts_parts]

theorem statusText_marked (colors : Bool) {t : Status} (own : t.post.isDirectMessage = true) :
    statusText colors t = paint colors .magenta "DM" ++ " " ++ statusText colors (unmarked t) := by
  cases t <;> simp_all [statusText, unmarked, Status.ofParts, Status.post, Status.origin,
    Status.retweeter?, Status.isRetweet, Status.repeated?, String.append_assoc]

def cells (colors : Bool) (now : Instant) (t : Status) : String :=
  row (Text.decimal t.post.id.toInt) (age t.post.createdAt now)
    (paint colors .cyan (Text.padRight 18 ("@" ++ truncate 16 t.author.screenName))) ""

theorem statusRow_eq (colors : Bool) (now : Instant) (t : Status) :
    statusRow colors now t = cells colors now t ++ statusText colors t := by
  simp [statusRow, cells, row]

theorem cells_unmarked (colors : Bool) (now : Instant) (t : Status) :
    cells colors now (unmarked t) = cells colors now t := by
  cases t <;> rfl

theorem showsMark_iff {colors : Bool} {now : Instant} {t : Status} :
    ShowsMark colors now t ↔ t.post.isDirectMessage = true := by
  constructor
  · rintro ⟨front, behind, marked, plain⟩
    cases own : t.post.isDirectMessage with
    | true => rfl
    | false =>
      rw [unmarked_same own, marked] at plain
      have longer := congrArg String.length plain
      simp [String.length_append] at longer
  · intro own
    refine ⟨cells colors now t, statusText colors (unmarked t), ?_, ?_⟩
    · rw [statusRow_eq, statusText_marked colors own]
      simp only [String.append_assoc]
    · rw [statusRow_eq, cells_unmarked]

/-- How an entry and a row fit what the query language says of the status. -/
structure Agrees [Regex.Engine] (t : Status) (c : Context) (entry : Json.Reading) : Prop where
  id : ∃ n : Int64, Evaluates "id" .numeric t c n ∧ entry.Has "id" (.whole n.toInt)
  screenName : ∃ name : String, Evaluates "user.screen_name" .text t c name ∧
    entry.Has "screen_name" (.text name)
  text : ∃ text : String, Evaluates "text" .text t c text ∧ entry.Has "text" (.text text)
  retweeted : ∃ name : String, Evaluates "retweeter.screen_name" .text t c name ∧
    (Evaluates "rt" .boolean t c true ∧ entry.Has "retweeted_by" (.text name) ∨
      Evaluates "rt" .boolean t c false ∧ entry.Lacks "retweeted_by")
  /-- The marks are right for exactly the statuses that are marked as their origin is. -/
  marked : ∃ said : Bool, Evaluates "dm" .boolean t c said ∧
    (entry.Has "is_direct_message" (.bool said) ↔
      t.post.isDirectMessage = t.origin.isDirectMessage) ∧
    ∀ colors now, (ShowsMark colors now t ↔ said = true) ↔
      t.post.isDirectMessage = t.origin.isDirectMessage

variable (t : Status) (c : Context)

def entryMembers : List (String × Json) :=
  ([("id", .whole t.post.id.toInt), ("screen_name", .text t.author.screenName)]
    ++ (t.retweeter?.map fun u => ("retweeted_by", Json.text u.screenName)).toList
    ++ [("text", .text t.origin.text)]
    ++ (t.post.createdAt.map fun created => ("created_at", Json.text created.render)).toList
    ++ [("is_direct_message", .bool t.post.isDirectMessage)])

theorem statusJson_eq : statusJson t = .object (entryMembers t) := by
  unfold statusJson entryMembers
  cases t.retweeter? <;> cases t.post.createdAt <;> rfl

theorem entryMembers_distinct : ((entryMembers t).map Prod.fst).Nodup := by
  unfold entryMembers
  cases t.retweeter? <;> cases t.post.createdAt <;> simp

variable {t}

theorem has_entry {name : String} {j : Json} (mem : (name, j) ∈ entryMembers t) :
    (statusJson t).reading.Has name j.reading := by
  rw [statusJson_eq]
  exact Json.has_member (entryMembers_distinct t) mem

variable (t)

theorem has_id : (statusJson t).reading.Has "id" (.whole t.post.id.toInt) := by
  have mem : ("id", Json.whole t.post.id.toInt) ∈ entryMembers t := by simp [entryMembers]
  exact has_entry mem

theorem has_screenName : (statusJson t).reading.Has "screen_name" (.text t.author.screenName) := by
  have mem : ("screen_name", Json.text t.author.screenName) ∈ entryMembers t := by
    simp [entryMembers]
  exact has_entry mem

theorem has_text : (statusJson t).reading.Has "text" (.text t.origin.text) := by
  have mem : ("text", Json.text t.origin.text) ∈ entryMembers t := by simp [entryMembers]
  exact has_entry mem

theorem has_mark :
    (statusJson t).reading.Has "is_direct_message" (.bool t.post.isDirectMessage) := by
  have mem : ("is_direct_message", Json.bool t.post.isDirectMessage) ∈ entryMembers t := by
    simp [entryMembers]
  exact has_entry mem

theorem has_retweeter {t : Status} {u : User} (repeats : t.retweeter? = some u) :
    (statusJson t).reading.Has "retweeted_by" (.text u.screenName) := by
  have mem : ("retweeted_by", Json.text u.screenName) ∈ entryMembers t := by
    simp [entryMembers, repeats]
  exact has_entry mem

theorem lacks_retweeter {t : Status} (nobody : t.retweeter? = none) :
    (statusJson t).reading.Lacks "retweeted_by" := by
  rw [statusJson_eq]
  apply Json.lacks_member
  cases created : t.post.createdAt <;> simp [entryMembers, nobody, created]

/-- Everything but the mark is what the query language says of the status, and the mark is for
the statuses that are marked as their origin is. -/
theorem statusJson_agrees [Regex.Engine] : Agrees t c (statusJson t).reading where
  id := ⟨_, evaluates_id t c, has_id t⟩
  screenName := ⟨_, evaluates_author t c, has_screenName t⟩
  text := ⟨_, evaluates_text t c, has_text t⟩
  retweeted := by
    refine ⟨_, evaluates_retweeter t c, ?_⟩
    have matched := evaluates_retweet t c
    cases repeats : t.isRetweet with
    | true =>
      have someone : t.retweeter? = some t.post.user := by simp [Status.retweeter?, repeats]
      rw [repeats] at matched
      rw [someone]
      exact .inl ⟨matched, has_retweeter someone⟩
    | false =>
      have nobody : t.retweeter? = none := by simp [Status.retweeter?, repeats]
      rw [repeats] at matched
      exact .inr ⟨matched, lacks_retweeter nobody⟩
  marked := by
    refine ⟨_, evaluates_message t c, ?_, ?_⟩
    · constructor
      · intro said
        exact Json.Reading.bool.inj ((has_mark t).unique said)
      · intro same
        rw [← same]
        exact has_mark t
    · intro colors now
      rw [showsMark_iff]
      cases t.post.isDirectMessage <;> cases t.origin.isDirectMessage <;> decide

def repeatedMessage : Status :=
  .retweetBy 3 (.basic 4 "bob")
    (.plain { Post.basic 1 (.basic 2 "alice") "psst" with isDirectMessage := true })

open scoped Standalone

/-- It is a direct message for the query language, and is shown without the mark. -/
theorem repeatedMessage_unmarked :
    Evaluates "dm" .boolean repeatedMessage ⟨[], []⟩ true ∧
      (statusJson repeatedMessage).reading.Has "is_direct_message" (.bool false) ∧
      ¬ ShowsMark false (.ofNanoseconds 0) repeatedMessage := by
  refine ⟨evaluates_message _ _, has_mark repeatedMessage, ?_⟩
  rw [showsMark_iff]
  decide

end Report

end TimelineFilter
