import TimelineFilter.Proofs.Json.Respelling
import TimelineFilter.Proofs.Timeline.Snapshots

namespace TimelineFilter

open Json (Decoder RecordField Reading Malformed Slot Part Suits Fits Laid Layout Listed)

inductive RecordKind
  | snapshot | account | userList | status | user | media

inductive Content
  | leaf
  | record (k : RecordKind)
  | records (k : RecordKind)

namespace RecordKind

def required (name : String) : Slot Content := ⟨name, [], [], .leaf⟩

def text (name : String) : Slot Content := ⟨name, [], [.text ""], .leaf⟩

def flag (name : String) : Slot Content := ⟨name, [], [.bool false], .leaf⟩

def count (name : String) : Slot Content := ⟨name, [], [.whole 0], .leaf⟩

def optional (name : String) (content : Content) : Slot Content := ⟨name, [], [.null], content⟩

def list (name : String) (content : Content) : Slot Content :=
  ⟨name, [], [.array [] none], content⟩

def slots : RecordKind → List (Slot Content)
  | .snapshot =>
    [optional "captured_at" .leaf, list "accounts" (.records .account),
      list "lists" (.records .userList), list "statuses" (.records .status)]
  | .account =>
    [required "user_id", required "screen_name", list "following" .leaf, list "followers" .leaf,
      list "blocking" .leaf, list "muting" .leaf]
  | .userList => [required "owner_screen_name", required "slug", list "member_ids" .leaf]
  | .status =>
    [required "id", ⟨"user", [], [], .record .user⟩, text "text", text "source",
      optional "created_at" .leaf, optional "in_reply_to_status_id" .leaf,
      optional "in_reply_to_user_id" .leaf, flag "is_direct_message",
      optional "recipient" (.record .user), optional "retweeted_status" (.record .status),
      list "mention_ids" .leaf, list "favoriter_ids" .leaf, list "retweeter_ids" .leaf,
      list "media" (.records .media)]
  | .user =>
    [required "id", required "screen_name", text "name", text "description", text "location",
      ⟨"language", ["lang"], [.text ""], .leaf⟩, flag "is_protected", flag "is_verified",
      flag "is_translator", flag "is_contributors_enabled", flag "is_geo_enabled",
      count "statuses_count", count "friends_count", count "followers_count",
      count "favorites_count", count "listed_count"]
  | .media =>
    [required "url", ⟨"type", [], [.text "photo", .object [(.ok "photo", .null)] none], .leaf⟩]

end RecordKind

/-- The second value spells the first differently: one record in it is changed at one place. -/
inductive Respelled : Content → Reading → Reading → Prop
  | reordered {k : RecordKind} {ms ms' : List (Except Malformed String × Reading)}
    (order : ms'.Perm ms) : Respelled (.record k) (.object ms none) (.object ms' none)
  | extended {k : RecordKind} {front behind : List (Except Malformed String × Reading)}
    {key : String} {v : Reading} (unknown : ∀ slot ∈ k.slots, key ∉ slot.names)
    (formed : v.WellFormed) :
    Respelled (.record k) (.object (front ++ behind) none)
      (.object (front ++ (.ok key, v) :: behind) none)
  | dropped {k : RecordKind} {front behind : List (Except Malformed String × Reading)}
    {key : String} {v : Reading} {slot : Slot Content} (mem : slot ∈ k.slots)
    (named : key ∈ slot.names) (default : v ∈ slot.defaults) :
    Respelled (.record k) (.object (front ++ (.ok key, v) :: behind) none)
      (.object (front ++ behind) none)
  | renamed {k : RecordKind} {front behind : List (Except Malformed String × Reading)}
    {key key' : String} {v : Reading} {slot : Slot Content} (mem : slot ∈ k.slots)
    (named : key ∈ slot.names) (named' : key' ∈ slot.names) :
    Respelled (.record k) (.object (front ++ (.ok key, v) :: behind) none)
      (.object (front ++ (.ok key', v) :: behind) none)
  | listed {k : RecordKind} {ms : List (Except Malformed String × Reading)} {vs : List Reading}
    (lists : Listed k.slots ms vs) : Respelled (.record k) (.object ms none) (.array vs none)
  | member {k : RecordKind} {front behind : List (Except Malformed String × Reading)}
    {key : String} {v v' : Reading} {slot : Slot Content} (mem : slot ∈ k.slots)
    (named : key ∈ slot.names) (inner : Respelled slot.content v v') :
    Respelled (.record k) (.object (front ++ (.ok key, v) :: behind) none)
      (.object (front ++ (.ok key, v') :: behind) none)
  | item {k : RecordKind} {before after : List Reading} {v v' : Reading} {slot : Slot Content}
    (here : k.slots[before.length]? = some slot) (inner : Respelled slot.content v v') :
    Respelled (.record k) (.array (before ++ v :: after) none) (.array (before ++ v' :: after) none)
  | element {k : RecordKind} {before after : List Reading} {v v' : Reading}
    (inner : Respelled (.record k) v v') :
    Respelled (.records k) (.array (before ++ v :: after) none)
      (.array (before ++ v' :: after) none)

/-! What is read of the contents -/

abbrev RecordKind.Model : RecordKind → Type
  | .snapshot => Snapshot
  | .account => Account
  | .userList => UserList
  | .status => Status
  | .user => User
  | .media => Media

def RecordKind.decoder : (k : RecordKind) → Decoder k.Model
  | .snapshot => Snapshot.decoder
  | .account => Account.decoder
  | .userList => UserList.decoder
  | .status => Status.decoder
  | .user => User.decoder
  | .media => Media.decoder

/-- At this depth, all that is read from the first value is also read from the second. -/
def Content.Agree (c : Content) (n : Nat) (v v' : Reading) : Prop :=
  match c with
  | .leaf => v' = v
  | .record k => v ≠ .null ∧ v' ≠ .null ∧ ∀ a, k.decoder n v = .ok a → k.decoder n v' = .ok a
  | .records k =>
    ∀ as, Decoder.list k.decoder n v = .ok as → Decoder.list k.decoder n v' = .ok as

section

variable {α : Type} {d : Decoder α} {empty : α} {name : String} {aliases : List String}

theorem suits_required : Suits Content.Agree (RecordKind.required name) d empty where
  empty _ mem := nomatch mem
  written _ mem := nomatch mem
  agrees := by
    rintro n v v' rfl a read
    exact read

theorem suits_leaf {defaults : List Reading}
    (default : ∀ v ∈ defaults, ∀ n a, d n v = .ok a → a = empty)
    (written : ∀ v ∈ defaults, ∀ n, v.nesting ≤ n → ∃ a, d n v = .ok a) :
    Suits Content.Agree ⟨name, aliases, defaults, .leaf⟩ d empty where
  empty := default
  written := written
  agrees := by
    rintro n v v' rfl a read
    exact read

theorem suits_scalar {v : Reading} (reads : ∀ n, d n v = .ok empty) :
    Suits Content.Agree ⟨name, aliases, [v], .leaf⟩ d empty := by
  apply suits_leaf
  · rintro v (_ | ⟨_, ⟨⟩⟩) n a read
    exact Except.ok.inj (read.symm.trans (reads n))
  · rintro v (_ | ⟨_, ⟨⟩⟩) n -
    exact ⟨empty, reads n⟩

theorem suits_text : Suits Content.Agree ⟨name, aliases, [.text ""], .leaf⟩ .text "" :=
  suits_scalar fun _ => rfl

theorem suits_flag : Suits Content.Agree (RecordKind.flag name) .boolean false :=
  suits_scalar fun _ => rfl

theorem suits_count : Suits Content.Agree (RecordKind.count name) .int64 0 :=
  suits_scalar fun _ => rfl

theorem suits_optional : Suits Content.Agree (RecordKind.optional name .leaf) (.optional d) none :=
  suits_scalar fun _ => rfl

theorem list_nothing {n : Nat} {as : List α} (read : Decoder.list d n (.array [] none) = .ok as) :
    as = [] := by
  cases n <;> cases read
  rfl

theorem list_written {n : Nat} (shallow : (Reading.array [] none).nesting ≤ n) :
    Decoder.list d n (.array [] none) = .ok [] := by
  cases n with
  | zero => simp [Reading.nesting] at shallow
  | succ n => rfl

theorem suits_list : Suits Content.Agree (RecordKind.list name .leaf) (.list d) [] := by
  apply suits_leaf
  · rintro v (_ | ⟨_, ⟨⟩⟩) n a read
    exact list_nothing read
  · rintro v (_ | ⟨_, ⟨⟩⟩) n shallow
    exact ⟨[], list_written shallow⟩

theorem suits_idSet : Suits Content.Agree (RecordKind.list name .leaf) .idSet .empty :=
  suits_list.map IdSet.ofList

theorem suits_kind : Suits Content.Agree
    ⟨"type", [], [.text "photo", .object [(.ok "photo", .null)] none], .leaf⟩ MediaKind.decoder
    .photo := by
  have object (n : Nat) :
      MediaKind.decoder (n + 1) (.object [(.ok "photo", .null)] none) = .ok .photo := by rfl
  apply suits_leaf
  · rintro v (_ | ⟨_, (_ | ⟨_, ⟨⟩⟩)⟩) n a read
    · cases read
      rfl
    · cases n <;> cases read
      rfl
  · rintro v (_ | ⟨_, (_ | ⟨_, ⟨⟩⟩)⟩) n shallow
    · exact ⟨.photo, rfl⟩
    · cases n with
      | zero => simp [Reading.nesting] at shallow
      | succ n => exact ⟨.photo, object n⟩

/-! Fields with records -/

theorem suits_record (k : RecordKind) {empty : k.Model} :
    Suits Content.Agree ⟨name, aliases, [], .record k⟩ k.decoder empty where
  empty _ mem := nomatch mem
  written _ mem := nomatch mem
  agrees _ _ _ alike := alike.2.2

theorem optional_present {n : Nat} {v : Reading} (present : v ≠ .null) :
    Decoder.optional d n v = (d n v).map some := by
  unfold Decoder.optional
  split
  · exact absurd rfl present
  · rfl

theorem suits_optional_record (k : RecordKind) :
    Suits Content.Agree (RecordKind.optional name (.record k)) (.optional k.decoder) none where
  empty := by
    rintro v (_ | ⟨_, ⟨⟩⟩) n a read
    cases read
    rfl
  written := by
    rintro v (_ | ⟨_, ⟨⟩⟩) n -
    exact ⟨none, rfl⟩
  agrees := by
    rintro n v v' ⟨present, present', alike⟩ a read
    rw [optional_present present] at read
    rw [optional_present present']
    obtain ⟨b, found, rfl⟩ := Json.map_eq_ok_iff.1 read
    exact Json.map_eq_ok_iff.2 ⟨b, alike b found, rfl⟩

theorem suits_records (k : RecordKind) :
    Suits Content.Agree (RecordKind.list name (.records k)) (.list k.decoder) [] where
  empty := by
    rintro v (_ | ⟨_, ⟨⟩⟩) n a read
    exact list_nothing read
  written := by
    rintro v (_ | ⟨_, ⟨⟩⟩) n shallow
    exact ⟨[], list_written shallow⟩
  agrees _ _ _ alike := alike

end

/-! The parts of the records -/

def User.layout : Layout Content.Agree RecordKind.user.slots User.fields (User.basic 0 "") where
  parts u :=
    [⟨_, u.id⟩, ⟨_, u.screenName⟩, ⟨_, u.name⟩, ⟨_, u.description⟩, ⟨_, u.location⟩,
      ⟨_, u.language⟩, ⟨_, u.isProtected⟩, ⟨_, u.isVerified⟩, ⟨_, u.isTranslator⟩,
      ⟨_, u.contributorsEnabled⟩, ⟨_, u.geoEnabled⟩, ⟨_, u.statusesCount⟩, ⟨_, u.friendsCount⟩,
      ⟨_, u.followersCount⟩, ⟨_, u.favoritesCount⟩, ⟨_, u.listedCount⟩]
  ext := by
    rintro ⟨⟩ ⟨⟩ same
    simpa using same
  size _ := rfl
  laid :=
    .cons (.intro suits_required rfl rfl (fun _ _ => rfl) rfl) <|
    .cons (.intro suits_required rfl rfl (fun _ _ => rfl) rfl) <|
    .cons (.intro suits_text rfl rfl (fun _ _ => rfl) rfl) <|
    .cons (.intro suits_text rfl rfl (fun _ _ => rfl) rfl) <|
    .cons (.intro suits_text rfl rfl (fun _ _ => rfl) rfl) <|
    .cons (.intro suits_text rfl rfl (fun _ _ => rfl) rfl) <|
    .cons (.intro suits_flag rfl rfl (fun _ _ => rfl) rfl) <|
    .cons (.intro suits_flag rfl rfl (fun _ _ => rfl) rfl) <|
    .cons (.intro suits_flag rfl rfl (fun _ _ => rfl) rfl) <|
    .cons (.intro suits_flag rfl rfl (fun _ _ => rfl) rfl) <|
    .cons (.intro suits_flag rfl rfl (fun _ _ => rfl) rfl) <|
    .cons (.intro suits_count rfl rfl (fun _ _ => rfl) rfl) <|
    .cons (.intro suits_count rfl rfl (fun _ _ => rfl) rfl) <|
    .cons (.intro suits_count rfl rfl (fun _ _ => rfl) rfl) <|
    .cons (.intro suits_count rfl rfl (fun _ _ => rfl) rfl) <|
    .cons (.intro suits_count rfl rfl (fun _ _ => rfl) rfl) .nil
  apart := by decide +kernel

def Media.layout : Layout Content.Agree RecordKind.media.slots Media.fields ⟨"", .photo⟩ where
  parts m := [⟨_, m.url⟩, ⟨_, m.kind⟩]
  ext := by
    rintro ⟨⟩ ⟨⟩ same
    simpa using same
  size _ := rfl
  laid :=
    .cons (.intro suits_required rfl rfl (fun _ _ => rfl) rfl) <|
    .cons (.intro suits_kind rfl rfl (fun _ _ => rfl) rfl) .nil
  apart := by decide +kernel

def Account.layout :
    Layout Content.Agree RecordKind.account.slots Account.fields (Account.basic 0 "") where
  parts a :=
    [⟨_, a.userId⟩, ⟨_, a.screenName⟩, ⟨_, a.following⟩, ⟨_, a.followers⟩, ⟨_, a.blocking⟩,
      ⟨_, a.muting⟩]
  ext := by
    rintro ⟨⟩ ⟨⟩ same
    simpa using same
  size _ := rfl
  laid :=
    .cons (.intro suits_required rfl rfl (fun _ _ => rfl) rfl) <|
    .cons (.intro suits_required rfl rfl (fun _ _ => rfl) rfl) <|
    .cons (.intro suits_idSet rfl rfl (fun _ _ => rfl) rfl) <|
    .cons (.intro suits_idSet rfl rfl (fun _ _ => rfl) rfl) <|
    .cons (.intro suits_idSet rfl rfl (fun _ _ => rfl) rfl) <|
    .cons (.intro suits_idSet rfl rfl (fun _ _ => rfl) rfl) .nil
  apart := by decide +kernel

def UserList.layout :
    Layout Content.Agree RecordKind.userList.slots UserList.fields ⟨"", "", .empty⟩ where
  parts l := [⟨_, l.owner⟩, ⟨_, l.slug⟩, ⟨_, l.members⟩]
  ext := by
    rintro ⟨⟩ ⟨⟩ same
    simpa using same
  size _ := rfl
  laid :=
    .cons (.intro suits_required rfl rfl (fun _ _ => rfl) rfl) <|
    .cons (.intro suits_required rfl rfl (fun _ _ => rfl) rfl) <|
    .cons (.intro suits_idSet rfl rfl (fun _ _ => rfl) rfl) .nil
  apart := by decide +kernel

def Snapshot.layout :
    Layout Content.Agree RecordKind.snapshot.slots Snapshot.fields Snapshot.empty where
  parts s := [⟨_, s.capturedAt⟩, ⟨_, s.accounts⟩, ⟨_, s.lists⟩, ⟨_, s.statuses⟩]
  ext := by
    rintro ⟨⟩ ⟨⟩ same
    simpa using same
  size _ := rfl
  laid :=
    .cons (.intro suits_optional rfl rfl (fun _ _ => rfl) rfl) <|
    .cons (.intro (suits_records .account) rfl rfl (fun _ _ => rfl) rfl) <|
    .cons (.intro (suits_records .userList) rfl rfl (fun _ _ => rfl) rfl) <|
    .cons (.intro (suits_records .status) rfl rfl (fun _ _ => rfl) rfl) .nil
  apart := by decide +kernel

namespace Status

def layout : Layout Content.Agree RecordKind.status.slots (fields (.optional decoder)) blank where
  parts s :=
    [⟨_, s.post.id⟩, ⟨_, s.post.user⟩, ⟨_, s.post.text⟩, ⟨_, s.post.client⟩, ⟨_, s.post.createdAt⟩,
      ⟨_, s.post.inReplyToStatus⟩, ⟨_, s.post.inReplyToUser⟩, ⟨_, s.post.isDirectMessage⟩,
      ⟨_, s.post.recipient⟩, ⟨_, s.repeated?⟩, ⟨_, s.post.mentions⟩, ⟨_, s.post.favoriters⟩,
      ⟨_, s.post.retweeters⟩, ⟨_, s.post.media⟩]
  ext s t same := by
    have post : s.post = t.post := by
      cases hs : s.post
      cases ht : t.post
      simp_all
    have repeated : s.repeated? = t.repeated? := by simp_all
    rw [← ofParts_parts s, post, repeated, ofParts_parts]
  size _ := rfl
  laid :=
    .cons (.intro suits_required rfl rfl (by rintro _ (_ | _) <;> rfl) rfl) <|
    .cons (.intro (suits_record .user) rfl rfl (by rintro _ (_ | _) <;> rfl) rfl) <|
    .cons (.intro suits_text rfl rfl (by rintro _ (_ | _) <;> rfl) rfl) <|
    .cons (.intro suits_text rfl rfl (by rintro _ (_ | _) <;> rfl) rfl) <|
    .cons (.intro suits_optional rfl rfl (by rintro _ (_ | _) <;> rfl) rfl) <|
    .cons (.intro suits_optional rfl rfl (by rintro _ (_ | _) <;> rfl) rfl) <|
    .cons (.intro suits_optional rfl rfl (by rintro _ (_ | _) <;> rfl) rfl) <|
    .cons (.intro suits_flag rfl rfl (by rintro _ (_ | _) <;> rfl) rfl) <|
    .cons (.intro (suits_optional_record .user) rfl rfl (by rintro _ (_ | _) <;> rfl) rfl) <|
    .cons (.intro (suits_optional_record .status) rfl rfl (by rintro (_ | _) _ <;> rfl) rfl) <|
    .cons (.intro suits_list rfl rfl (by rintro _ (_ | _) <;> rfl) rfl) <|
    .cons (.intro suits_list rfl rfl (by rintro _ (_ | _) <;> rfl) rfl) <|
    .cons (.intro suits_list rfl rfl (by rintro _ (_ | _) <;> rfl) rfl) <|
    .cons (.intro (suits_records .media) rfl rfl (by rintro _ (_ | _) <;> rfl) rfl) .nil
  apart := by decide +kernel

theorem decoder_eq : decoder = Decoder.record "Status" (fields (.optional decoder)) blank := by
  funext n r
  cases n with
  | zero => cases r <;> rfl
  | succ n =>
    have same : (fields (.optional fun _ r => decoder n r)).map (.at n) =
        (fields (.optional decoder)).map (RecordField.at n) := rfl
    rw [decoder, ← Json.record_at, same, Json.record_at]

end Status

theorem RecordKind.decoder_eq (k : RecordKind) :
    ∃ (title : String) (fields : List (RecordField k.Model)) (start : k.Model),
      k.decoder = Decoder.record title fields start ∧
        Nonempty (Layout Content.Agree k.slots fields start) := by
  cases k with
  | snapshot => exact ⟨_, _, _, rfl, ⟨Snapshot.layout⟩⟩
  | account => exact ⟨_, _, _, rfl, ⟨Account.layout⟩⟩
  | userList => exact ⟨_, _, _, rfl, ⟨UserList.layout⟩⟩
  | status => exact ⟨_, _, _, Status.decoder_eq, ⟨Status.layout⟩⟩
  | user => exact ⟨_, _, _, rfl, ⟨User.layout⟩⟩
  | media => exact ⟨_, _, _, rfl, ⟨Media.layout⟩⟩

theorem Respelled.written {k : RecordKind} {r r' : Reading} (changed : Respelled (.record k) r r') :
    r ≠ .null ∧ r' ≠ .null ∧ 0 < r'.nesting := by
  cases changed <;> simp [Reading.nesting]

theorem agree_record {k : RecordKind} {n : Nat} {r r' : Reading}
    (changed : Respelled (.record k) r r') (shallow : r'.nesting ≤ n)
    (step : ∀ (m : Nat) (title : String) (fields : List (RecordField k.Model)) (start t : k.Model),
      Layout Content.Agree k.slots fields start → r'.nesting ≤ m + 1 →
      Decoder.record title fields start (m + 1) r = .ok t →
      Decoder.record title fields start (m + 1) r' = .ok t) :
    Content.Agree (.record k) n r r' := by
  obtain ⟨title, fields, start, is, ⟨L⟩⟩ := k.decoder_eq
  obtain ⟨present, present', nested⟩ := changed.written
  obtain ⟨m, rfl⟩ : ∃ m, n = m + 1 := ⟨n - 1, by omega⟩
  refine ⟨present, present', fun t read => ?_⟩
  rw [is] at read ⊢
  exact step m title fields start t L shallow read

theorem items_replaced {α : Type} {read : Reading → Except Json.Defect α} {v v' : Reading}
    (alike : ∀ a, read v = .ok a → read v' = .ok a) {before after : List Reading} {as : List α}
    (found : Decoder.items read (before ++ v :: after) = .ok as) :
    Decoder.items read (before ++ v' :: after) = .ok as := by
  induction before generalizing as with
  | nil =>
    rw [List.nil_append, Decoder.items] at found ⊢
    cases first : read v with
    | error e => simp [first] at found
    | ok a => rwa [alike a first, ← first]
  | cons r before ih =>
    rw [List.cons_append, Decoder.items] at found ⊢
    cases first : read r with
    | error e => simp [first] at found
    | ok a =>
      rw [first] at found
      obtain ⟨rest, others, rfl⟩ := Json.map_eq_ok_iff.1 found
      exact Json.map_eq_ok_iff.2 ⟨rest, ih others, rfl⟩

namespace Respelled

theorem agree {c : Content} {r r' : Reading} (changed : Respelled c r r') {n : Nat}
    (shallow : r'.nesting ≤ n) : c.Agree n r r' := by
  -- A change inside a record is a change of one field, to which the hypothesis applies one level
  -- deeper.
  induction changed generalizing n with
  | reordered order =>
    refine agree_record (.reordered order) shallow ?_
    intro m title fields start t L _ read
    exact L.reordered order read
  | extended unknown formed =>
    refine agree_record (.extended unknown formed) shallow ?_
    intro m title fields start t L _ read
    exact L.extended unknown (Reading.skip_of_wellFormed formed) read
  | dropped mem named default =>
    refine agree_record (.dropped mem named default) shallow ?_
    intro m title fields start t L _ read
    obtain ⟨i, here⟩ := List.mem_iff_getElem?.1 mem
    exact L.dropped here named default read
  | renamed mem named named' =>
    refine agree_record (.renamed mem named named') shallow ?_
    intro m title fields start t L _ read
    obtain ⟨i, here⟩ := List.mem_iff_getElem?.1 mem
    exact L.replaced here named named' (fun _ gives => gives) read
  | listed lists =>
    refine agree_record (.listed lists) shallow ?_
    intro m title fields start t L shallow read
    have shallow := Reading.itemsNesting_le_iff.1 (Nat.le_of_succ_le_succ shallow)
    exact L.listed lists shallow read
  | member mem named inner ih =>
    refine agree_record (.member mem named inner) shallow ?_
    intro m title fields start t L shallow read
    obtain ⟨i, here⟩ := List.mem_iff_getElem?.1 mem
    have shallow := Reading.membersNesting_le_iff.1 (Nat.le_of_succ_le_succ shallow)
    have alike := ih (shallow _ List.mem_append_cons_self)
    exact L.replaced here named named (fun _ gives => L.gives_agree here alike gives) read
  | item here inner ih =>
    refine agree_record (.item here inner) shallow ?_
    intro m title fields start t L shallow read
    have shallow := Reading.itemsNesting_le_iff.1 (Nat.le_of_succ_le_succ shallow)
    have alike := ih (shallow _ List.mem_append_cons_self)
    exact L.replacedItem (fun _ gives => L.gives_agree here alike gives) read
  | element _ ih =>
    intro as read
    rw [Reading.nesting] at shallow
    obtain ⟨m, rfl⟩ : ∃ m, n = m + 1 := ⟨n - 1, by omega⟩
    have shallow := Reading.itemsNesting_le_iff.1 (Nat.le_of_succ_le_succ shallow)
    have alike := (ih (shallow _ List.mem_append_cons_self)).2.2
    unfold Decoder.list at read ⊢
    dsimp only at read ⊢
    split at read
    · cases read
    · rename_i found
      rwa [items_replaced alike found]

end Respelled

/-- A text that reads as a snapshot still reads as this snapshot when a record in it is spelled
differently, as long as it is not nested too deep. -/
theorem Snapshot.ofText_respelled {text text' : String} {s : Snapshot} {r' : Reading}
    (reads : Snapshot.ofText text = .ok s)
    (changed : Respelled (.record .snapshot) (Reading.ofText text).1 r')
    (spelled : Reading.ofText text' = (r', false)) (shallow : r'.nesting ≤ Json.maxDepth) :
    Snapshot.ofText text' = .ok s := by
  have read := (Json.ofText_ok_iff.1 reads).2
  refine Json.ofText_ok_iff.2 ⟨by rw [spelled], ?_⟩
  rw [spelled]
  exact (changed.agree shallow).2.2 s read

/-- A picture of a repeated status, as the array of its address alone. -/
theorem Snapshot.ofText_respelled_picture :
    let post := { Post.basic 3 (.basic 2 "amy") "hi" with media := [⟨"u", .photo⟩] }
    let s : Snapshot := ⟨none, [], [], [(Status.plain post).retweetBy 5 (.basic 4 "bob")]⟩
    let repeated := Json.object [("id", .whole 3), ("user", (User.basic 2 "amy").toJson),
      ("text", .text "hi"), ("source", .text ""), ("is_direct_message", .bool false),
      ("media", .array [.array [.text "u"]])]
    let retweet := Json.object [("id", .whole 5), ("user", (User.basic 4 "bob").toJson),
      ("text", .text "hi"), ("source", .text ""), ("is_direct_message", .bool false),
      ("retweeted_status", repeated)]
    let j := Json.object [("accounts", .array []), ("lists", .array []),
      ("statuses", .array [retweet])]
    Snapshot.ofText s.toJson.compact = .ok s ∧ Snapshot.ofText j.indented = .ok s := by
  intro post s repeated retweet j
  have years : s.InFourDigits := by
    refine ⟨by simp [s], ?_⟩
    simp [s, post, Status.retweetBy, Status.InFourDigits, Post.InFourDigits, Post.basic]
  have decodes := Snapshot.decodes years s.written_toJson
  have reads : Snapshot.ofText s.toJson.compact = .ok s := (decodes.ofText (by decide)).1
  have picture : Respelled (.record .media) (Media.toJson ⟨"u", .photo⟩).reading
      (Json.array [.text "u"]).reading := by
    refine .listed ⟨by decide, ?_, ?_⟩
    · rintro (_ | i) slot v here place
      · cases here
        cases place
        exact .inl (Reading.mem_values.2 ⟨"url", List.mem_cons_self, List.mem_cons_self⟩)
      · cases place
    · rintro (_ | _ | i) slot here behind
      · cases behind
      · cases here
        exact ⟨by simp, by simp [Reading.values, Slot.names, Json.memberReadings, Json.reading,
          MediaKind.name]⟩
      · cases here
  have inPost : Respelled (.record .status) (Status.plain post).toJson.reading repeated.reading :=
    @Respelled.member .status [(.ok "id", .whole 3),
      (.ok "user", (User.basic 2 "amy").toJson.reading), (.ok "text", .text "hi"),
      (.ok "source", .text ""), (.ok "is_direct_message", .bool false)] []
      "media" _ _ (RecordKind.list "media" (.records .media))
      (by simp [RecordKind.slots]) (by simp [Slot.names, RecordKind.list])
      (@Respelled.element .media [] [] _ _ picture)
  have inRetweet : Respelled (.record .status)
      ((Status.plain post).retweetBy 5 (.basic 4 "bob")).toJson.reading retweet.reading :=
    @Respelled.member .status [(.ok "id", .whole 5),
      (.ok "user", (User.basic 4 "bob").toJson.reading), (.ok "text", .text "hi"),
      (.ok "source", .text ""), (.ok "is_direct_message", .bool false)] []
      "retweeted_status" _ _ (RecordKind.optional "retweeted_status" (.record .status))
      (by simp [RecordKind.slots]) (by simp [Slot.names, RecordKind.optional]) inPost
  have inSnapshot : Respelled (.record .snapshot) s.toJson.reading j.reading :=
    @Respelled.member .snapshot [(.ok "accounts", .array [] none), (.ok "lists", .array [] none)] []
      "statuses" _ _ (RecordKind.list "statuses" (.records .status))
      (by simp [RecordKind.slots]) (by simp [Slot.names, RecordKind.list])
      (@Respelled.element .status [] [] _ _ inRetweet)
  have written : (Reading.ofText s.toJson.compact).1 = s.toJson.reading := by
    rw [Reading.ofText_compact decodes.plain]
  have plain : Json.Plain j := by
    have three : Json.FitsWhole 3 := ⟨by decide, by decide⟩
    have five : Json.FitsWhole 5 := ⟨by decide, by decide⟩
    have repeatedPlain : Json.Plain repeated :=
      ⟨three, (User.decodes _).plain, trivial, trivial, trivial, ⟨⟨trivial, trivial⟩, trivial⟩,
        trivial⟩
    exact ⟨trivial, trivial, ⟨⟨five, (User.decodes _).plain, trivial, trivial, trivial,
      repeatedPlain, trivial⟩, trivial⟩, trivial⟩
  exact ⟨reads, Snapshot.ofText_respelled reads (written ▸ inSnapshot)
    (Reading.ofText_indented plain) (by decide)⟩

end TimelineFilter
