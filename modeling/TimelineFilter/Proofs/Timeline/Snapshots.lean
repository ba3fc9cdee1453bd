import TimelineFilter.Proofs.Json.Records
import TimelineFilter.Proofs.Timeline.Instants
import TimelineFilter.Timeline.Encoding

namespace TimelineFilter

open Encoding
open Json (Decoder RecordField Decodes Filled Apart)

theorem decodes_ofInt (n : Int64) : Decodes .int64 (ofInt n) n := Json.decodes_int64 n

theorem decodes_ofInstant {t : Instant} (years : t.InFourDigits) :
    Decodes instant (ofInstant t) t := by
  apply Json.decodes_spelled
  rw [Instant.ofText_render years]
  rfl

theorem member?_either {α : Type} {d : Decoder α} {encode : α → Json} (name : String)
    (value : Option α) (decodes : ∀ a ∈ value, Decodes d (encode a) a)
    (present : ∀ a, (encode a).reading ≠ .null) :
    member? name encode value = [] ∧ value = none ∨
      ∃ j, member? name encode value = [(name, j)] ∧ Decodes (.optional d) j value := by
  cases value with
  | none => exact .inl ⟨rfl, rfl⟩
  | some a => exact .inr ⟨encode a, rfl, Json.decodes_some (decodes a rfl) (present a)⟩

theorem listMember_either {α : Type} {d : Decoder α} {encode : α → Json} (name : String)
    (values : List α) (decodes : ∀ a ∈ values, Decodes d (encode a) a) :
    listMember name encode values = [] ∧ values = [] ∨
      ∃ j, listMember name encode values = [(name, j)] ∧ Decodes (.list d) j values := by
  cases values with
  | nil => exact .inl ⟨rfl, rfl⟩
  | cons a rest => exact .inr ⟨_, rfl, Json.decodes_map (a :: rest) decodes⟩

namespace User

theorem fields_apart : Apart fields := by decide +kernel

theorem decodes (u : User) : Decodes decoder u.toJson u := by
  apply Json.decodes_record "User" fields_apart
  refine .field rfl (decodes_ofInt _) <| .field rfl (Json.decodes_text _) <|
    .field rfl (Json.decodes_text _) <| .field rfl (Json.decodes_text _) <|
    .field rfl (Json.decodes_text _) <| .field rfl (Json.decodes_text _) <|
    .field rfl (Json.decodes_boolean _) <| .field rfl (Json.decodes_boolean _) <|
    .field rfl (Json.decodes_boolean _) <| .field rfl (Json.decodes_boolean _) <|
    .field rfl (Json.decodes_boolean _) <| .field rfl (decodes_ofInt _) <|
    .field rfl (decodes_ofInt _) <| .field rfl (decodes_ofInt _) <|
    .field rfl (decodes_ofInt _) <| .field rfl (decodes_ofInt _) <| .done rfl

end User

namespace Media

theorem kind_decodes (k : MediaKind) : Decodes MediaKind.decoder (.text k.name) k := by
  apply Json.decodes_choice
  cases k <;> decide

theorem fields_apart : Apart fields := by decide +kernel

theorem decodes (m : Media) : Decodes decoder m.toJson m := by
  apply Json.decodes_record "Media" fields_apart
  exact .field rfl (Json.decodes_text _) <| .field rfl (kind_decodes _) <| .done rfl

end Media

def Post.InFourDigits (p : Post) : Prop := ∀ t ∈ p.createdAt, t.InFourDigits

namespace Status

/-- So are the times of the status and of all that it repeats. -/
def InFourDigits : Status → Prop
  | .plain p => p.InFourDigits
  | .retweet p repeated => p.InFourDigits ∧ repeated.InFourDigits

theorem fields_apart (repeated : Decoder (Option Status)) : Apart (fields repeated) := by
  have apart : Apart (fields fun _ _ => .ok none) := by decide +kernel
  exact apart

theorem filled {p : Post} (years : p.InFourDigits) {repeated : Decoder (Option Status)}
    {r : Option Status} {front : List (String × Json)}
    (either : front = [] ∧ r = none ∨
      ∃ j, front = [("retweeted_status", j)] ∧ Decodes repeated j r) :
    Filled (fields repeated) (leadingMembers p ++ (front ++ trailingMembers p)) blank
      (ofParts p r) := by
  have createdAt := member?_either "created_at" p.createdAt
    (fun t mem => decodes_ofInstant (years t mem)) (by simp [ofInstant, Json.reading])
  have ofStatus := member?_either "in_reply_to_status_id" p.inReplyToStatus
    (fun n _ => decodes_ofInt n) (by simp [ofInt, Json.reading])
  have ofUser := member?_either "in_reply_to_user_id" p.inReplyToUser
    (fun n _ => decodes_ofInt n) (by simp [ofInt, Json.reading])
  have recipient := member?_either "recipient" p.recipient
    (fun u _ => u.decodes) (by simp [User.toJson, Json.reading])
  have mentions := listMember_either "mention_ids" p.mentions
    fun n _ => decodes_ofInt n
  have favoriters := listMember_either "favoriter_ids" p.favoriters
    fun n _ => decodes_ofInt n
  have retweeters := listMember_either "retweeter_ids" p.retweeters
    fun n _ => decodes_ofInt n
  have media := listMember_either "media" p.media fun m _ => m.decodes
  simp only [leadingMembers, trailingMembers, List.append_assoc, List.cons_append, List.nil_append]
  rw [← List.append_nil (listMember "media" _ _)]
  refine .field rfl (decodes_ofInt _) <| .field rfl p.user.decodes <|
    .field rfl (Json.decodes_text _) <| .field rfl (Json.decodes_text _) <|
    .field? rfl rfl rfl createdAt <| .field? rfl rfl rfl ofStatus <|
    .field? rfl rfl rfl ofUser <| .field rfl (Json.decodes_boolean _) <|
    .field? rfl rfl rfl recipient <| .field? rfl rfl rfl either <|
    .field? rfl rfl ?_ mentions <| .field? rfl rfl ?_ favoriters <|
    .field? rfl rfl ?_ retweeters <| .field? rfl rfl ?_ media <| .done ?_
  -- Behind the repeated status it is not known which form of status the fields go into.
  all_goals cases r <;> rfl

theorem decodes_at {p : Post} (years : p.InFourDigits) {repeated : Decoder (Option Status)}
    {r : Option Status} (front : List (String × Json))
    (either : front = [] ∧ r = none ∨
      ∃ j, front = [("retweeted_status", j)] ∧ Decodes repeated j r) :
    Decodes (.record "Status" (fields repeated) blank)
      (.object (leadingMembers p ++ (front ++ trailingMembers p))) (ofParts p r) :=
  Json.decodes_record "Status" (fields_apart repeated) (filled years either)

theorem membersDepth_of_mem {key : String} {j : Json} {ms : List (String × Json)}
    (mem : (key, j) ∈ ms) : j.depth ≤ Json.membersDepth ms := by
  induction ms with
  | nil => cases mem
  | cons m ms ih =>
    obtain ⟨key', j'⟩ := m
    rw [Json.membersDepth]
    rcases List.mem_cons.1 mem with same | mem
    · cases same
      exact Nat.le_max_left _ _
    · exact Nat.le_trans (ih mem) (Nat.le_max_right _ _)

theorem decodes (s : Status) (years : s.InFourDigits) : Decodes decoder s.toJson s := by
  -- Going down to the repeated status costs a level of the decoder and of the depth alike.
  induction s with
  | plain p =>
    have none (n : Nat) : Decodes (.record "Status"
        (fields (.optional fun _ r => decoder n r)) blank) (Status.plain p).toJson (.plain p) :=
      decodes_at years [] (.inl ⟨rfl, rfl⟩)
    refine ⟨(none 0).plain, ?_⟩
    intro n shallow
    cases n with
    | zero => simp [toJson, Json.depth] at shallow
    | succ n => exact (none n).read (n + 1) shallow
  | retweet p s ih =>
    obtain ⟨years, years'⟩ := years
    have repeats (n : Nat) (shallow : s.toJson.depth ≤ n) : Decodes (.record "Status"
        (fields (.optional fun _ r => decoder n r)) blank) (Status.retweet p s).toJson
        (.retweet p s) := by
      have inner : Decodes (fun _ r => decoder n r) s.toJson s :=
        ⟨(ih years').plain, fun _ _ => (ih years').read n shallow⟩
      have present : s.toJson.reading ≠ .null := by cases s <;> simp [toJson, Json.reading]
      exact decodes_at years [("retweeted_status", s.toJson)]
        (.inr ⟨_, rfl, Json.decodes_some inner present⟩)
    have inside : s.toJson.depth < (Status.retweet p s).toJson.depth := by
      have mem : ("retweeted_status", s.toJson) ∈ leadingMembers p
          ++ ("retweeted_status", s.toJson) :: trailingMembers p := by simp
      exact Nat.lt_succ_of_le (membersDepth_of_mem mem)
    refine ⟨(repeats _ (Nat.le_refl _)).plain, ?_⟩
    intro n shallow
    cases n with
    | zero => omega
    | succ n => exact (repeats n (by omega)).read (n + 1) shallow

end Status

namespace Account

def listed (a : Account) (order : Relation → List Int64) : Json :=
  .object [("user_id", ofInt a.userId), ("screen_name", .text a.screenName),
    ("following", .numbers (order .following)), ("followers", .numbers (order .followers)),
    ("blocking", .numbers (order .blocking)), ("muting", .numbers (order .muting))]

def Written (a : Account) (j : Json) : Prop :=
  ∃ order : Relation → List Int64, (∀ r, (order r).Perm (a.related r).ids) ∧ j = a.listed order

theorem written_toJson (a : Account) : a.Written a.toJson :=
  ⟨fun r => (a.related r).ids, fun _ => .refl _, rfl⟩

theorem fields_apart : Apart fields := by decide +kernel

theorem decodes {a : Account} {j : Json} (written : a.Written j) : Decodes decoder j a := by
  obtain ⟨order, permuted, rfl⟩ := written
  have relation (r : Relation) : Decodes .idSet (.numbers (order r)) (a.related r) :=
    Json.decodes_idSet fun _ => (permuted r).mem_iff
  apply Json.decodes_record "Account" fields_apart
  exact .field rfl (decodes_ofInt _) <| .field rfl (Json.decodes_text _) <|
    .field rfl (relation .following) <| .field rfl (relation .followers) <|
    .field rfl (relation .blocking) <| .field rfl (relation .muting) <| .done rfl

end Account

namespace UserList

def Written (l : UserList) (j : Json) : Prop :=
  ∃ ids : List Int64, ids.Perm l.members.ids ∧
    j = .object [("owner_screen_name", .text l.owner), ("slug", .text l.slug),
      ("member_ids", .numbers ids)]

theorem written_toJson (l : UserList) : l.Written l.toJson := ⟨l.members.ids, .refl _, rfl⟩

theorem fields_apart : Apart fields := by decide +kernel

theorem decodes {l : UserList} {j : Json} (written : l.Written j) : Decodes decoder j l := by
  obtain ⟨ids, permuted, rfl⟩ := written
  have members : Decodes .idSet (.numbers ids) l.members :=
    Json.decodes_idSet fun _ => permuted.mem_iff
  apply Json.decodes_record "TwitterList" fields_apart
  exact .field rfl (Json.decodes_text _) <| .field rfl (Json.decodes_text _) <|
    .field rfl members <| .done rfl

end UserList

namespace Snapshot

structure InFourDigits (s : Snapshot) : Prop where
  captured : ∀ t ∈ s.capturedAt, t.InFourDigits
  statuses : ∀ t ∈ s.statuses, t.InFourDigits

/-- The snapshot is written with each of its sets in any order. -/
def Written (s : Snapshot) (j : Json) : Prop :=
  ∃ accounts lists, List.Forall₂ Account.Written s.accounts accounts ∧
    List.Forall₂ UserList.Written s.lists lists ∧
    j = .object (member? "captured_at" ofInstant s.capturedAt
      ++ [("accounts", .array accounts), ("lists", .array lists),
          ("statuses", .array (s.statuses.map Status.toJson))])

theorem written_toJson (s : Snapshot) : s.Written s.toJson :=
  ⟨_, _, List.forall₂_map_right_iff.2 (List.forall₂_same.2 fun a _ => a.written_toJson),
    List.forall₂_map_right_iff.2 (List.forall₂_same.2 fun l _ => l.written_toJson), rfl⟩

theorem fields_apart : Apart fields := by decide +kernel

theorem decodes {s : Snapshot} (years : s.InFourDigits) {j : Json} (written : s.Written j) :
    Decodes decoder j s := by
  obtain ⟨accounts, lists, accounts_written, lists_written, rfl⟩ := written
  have captured := member?_either "captured_at" s.capturedAt
    (fun t mem => decodes_ofInstant (years.captured t mem)) (by simp [ofInstant, Json.reading])
  have accounts := Json.decodes_list (accounts_written.flip.imp fun _ _ w => Account.decodes w)
  have lists := Json.decodes_list (lists_written.flip.imp fun _ _ w => UserList.decodes w)
  have statuses := Json.decodes_map s.statuses fun t mem => t.decodes (years.statuses t mem)
  apply Json.decodes_record "Snapshot" fields_apart
  exact .field? rfl rfl rfl captured <| .field rfl accounts <| .field rfl lists <|
    .field rfl statuses <| .done rfl

/-- Writing a snapshot and reading it back is the identity, in both written forms. -/
theorem ofText_written (s : Snapshot) (years : s.InFourDigits) :
    s.Written s.toJson ∧ ∀ j, s.Written j → j.depth ≤ Json.maxDepth →
      ofText j.compact = .ok s ∧ ofText j.indented = .ok s := by
  refine ⟨s.written_toJson, ?_⟩
  intro j written shallow
  exact (decodes years written).ofText shallow

/-- A leap second, a relation that is listed against its order, and a retweet of a retweet. -/
theorem ofText_written_leap_second :
    let t : Instant :=
      ⟨⟨2016, 12, 31, by decide, by decide⟩, 86399, 1500000000, by decide, by decide, by decide⟩
    let me := { Account.basic 1 "me" with following := .ofList [2, 9] }
    let post :=
      { Post.basic 3 (User.basic 2 "é\"\n") "hi" with createdAt := some t, mentions := [5] }
    let twice : Status := .retweet (Post.basic 5 (User.basic 9 "b") "hi")
      (.retweet (Post.basic 4 (User.basic 8 "a") "hi") (.plain post))
    let s : Snapshot := ⟨some t, [me], [], [twice]⟩
    let j := Json.object [("captured_at", .text "2016-12-31T23:59:60.500Z"),
      ("accounts", .array [me.listed fun r => if r = .following then [9, 2] else []]),
      ("lists", .array []), ("statuses", .array [twice.toJson])]
    s.InFourDigits ∧ s.Written j ∧ j.depth ≤ Json.maxDepth ∧
      ofText j.compact = .ok s ∧ ofText j.indented = .ok s := by
  intro t me post twice s j
  have times : t.InFourDigits := by simp [Instant.InFourDigits, t]
  have years : s.InFourDigits := by
    refine ⟨by simpa [s] using times, ?_⟩
    simpa [s, twice, Status.InFourDigits, Post.InFourDigits, Post.basic, post] using times
  have order : ∀ r, (if r = Relation.following then [9, 2] else []).Perm (me.related r).ids := by
    intro r
    cases r <;> decide
  have written : s.Written j := by
    have shown : t.render = "2016-12-31T23:59:60.500Z" := by decide +kernel
    refine ⟨[me.listed _], [], .cons ⟨_, order, rfl⟩ .nil, .nil, ?_⟩
    simp only [j, s, ofInstant, member?, shown]
    rfl
  have shallow : j.depth ≤ Json.maxDepth := by decide
  exact ⟨years, written, shallow, (ofText_written s years).2 j written shallow⟩

end Snapshot

end TimelineFilter
