import TimelineFilter.Proofs.Membership
import TimelineFilter.Standalone

/-! All local accounts at once. What a query asks of `our` it asks of each account, and that one of
them answers is enough. Accounts that share an id cannot be told apart by it, and then the first of
them stands for the others; where that matters they are taken to be distinct. -/
namespace TimelineFilter

namespace Context

variable {c : Context} {a : Account} {r : Relation}

theorem exists_select_id (mem : a ∈ c.accounts) :
    ∃ b ∈ c.accounts, b.userId = a.userId ∧ c.select (.id a.userId) = [b] := by
  have found : (c.findById? a.userId).isSome = true :=
    List.find?_isSome.2 ⟨a, mem, beq_self_eq_true _⟩
  obtain ⟨b, first⟩ := Option.isSome_iff_exists.1 found
  refine ⟨b, List.mem_of_find?_eq_some first, ?_, congrArg Option.toList first⟩
  simpa using List.find?_some first

theorem select_id (distinct : (c.accounts.map Account.userId).Nodup) (mem : a ∈ c.accounts) :
    c.select (.id a.userId) = [a] := by
  obtain ⟨b, mem', same, selected⟩ := exists_select_id mem
  rw [selected, List.inj_on_of_nodup_map distinct mem' mem same]

theorem mem_related {selector : Selector} {id : Int64} :
    id ∈ (c.related selector r).ids ↔ ∃ a ∈ c.select selector, id ∈ (a.related r).ids := by
  rw [related, IdSet.mem_unions]
  simp only [List.mem_map, exists_exists_and_eq_and]

theorem mem_related_any (distinct : (c.accounts.map Account.userId).Nodup) {id : Int64} :
    id ∈ (c.related .any r).ids ↔
      ∃ a ∈ c.accounts, id ∈ (c.related (.id a.userId) r).ids := by
  rw [mem_related]
  refine exists_congr fun a => and_congr_right fun mem => ?_
  rw [mem_related, select_id distinct mem]
  simp

theorem mem_userIds_any {id : Int64} :
    id ∈ (c.select .any).map Account.userId ↔
      ∃ a ∈ c.accounts, id ∈ (c.select (.id a.userId)).map Account.userId := by
  rw [List.mem_map]
  refine exists_congr fun a => and_congr_right fun mem => ?_
  obtain ⟨b, -, same, selected⟩ := exists_select_id mem
  rw [selected, List.map_singleton, same, List.mem_singleton, eq_comm]

theorem any_muting (c : Context) (id : Int64) :
    (c.accounts.any fun a => a.muting.contains id) = (c.related .any .muting).contains id := by
  rw [Bool.eq_iff_iff, IdSet.contains_iff, mem_related, List.any_eq_true]
  simp only [IdSet.contains_iff]
  exact Iff.rfl

end Context

namespace Predicate

open TypedMeaning (meet)

variable {e : Predicate} {a : TypedMeaning} {f : Meaning (List Int64)} {caseful : Bool}

theorem any_exists {ids : List Int64} {test : Int64 → Bool} {tests : Account → Int64 → Bool}
    {accounts : List Account}
    (same : ∀ id, test id = true ↔ ∃ a ∈ accounts, tests a id = true) :
    ids.any test = true ↔ ∃ a ∈ accounts, ids.any (tests a) = true := by
  simp only [List.any_eq_true, same]
  constructor
  · rintro ⟨id, mem, a, account, held⟩
    exact ⟨a, account, id, mem, held⟩
  · rintro ⟨a, account, id, mem, held⟩
    exact ⟨id, mem, a, account, held⟩

section

variable [Regex.Engine]

theorem denote_in_related (denoted : e.denote caseful = .ok a) (item : a.asMember? = some f)
    (selector : Selector) (r : Relation) :
    (binary .containedIn e (.value (.relation selector r))).denote caseful =
      .ok (.boolean fun s c => (f s c).any (c.related selector r).contains) := by
  have applied := TypedMeaning.containment_member
    (casefulAt caseful e (.value (.relation selector r))) item fun _ c => c.related selector r
  rw [denote_binary denoted rfl]
  simp [TypedMeaning.ofBinary, TypedMeaning.apply, TypedMeaning.ofValue, applied]

theorem denote_equals_account (denoted : e.denote caseful = .ok a) (item : a.asMember? = some f)
    (selector : Selector) :
    (binary .equals e (.value (.account selector))).denote caseful =
      .ok (.boolean (meet f fun _ c => (c.select selector).map Account.userId)) := by
  have applied := TypedMeaning.equality_eq_meet
    (casefulAt caseful e (.value (.account selector))) item
    (b := .user fun _ c => (c.select selector).map Account.userId) rfl
  rw [denote_binary denoted rfl]
  simp [TypedMeaning.ofBinary, TypedMeaning.apply, TypedMeaning.ofValue, applied]

/-- `our` is the union of the local accounts. To be in a relation to `our` is to be in it to one of
them, if no two of them have the same id, and to equal `our` is to equal one of them. A status is
muted if its author is in the muting of `our`, whatever the accounts are. -/
theorem our_iff_some_account (member : HasType e .numeric ∨ HasType e .user) (caseful : Bool)
    (r : Relation) :
    (∃ (ours : Meaning Bool) (own : Int64 → Meaning Bool),
      (binary .containedIn e (.value (.relation .any r))).denote caseful = .ok (.boolean ours) ∧
      (∀ id, (binary .containedIn e (.value (.relation (.id id) r))).denote caseful =
        .ok (.boolean (own id))) ∧
      ∀ s c, (c.accounts.map Account.userId).Nodup →
        (ours s c = true ↔ ∃ a ∈ c.accounts, own a.userId s c = true)) ∧
    (∃ (ours : Meaning Bool) (own : Int64 → Meaning Bool),
      (binary .equals e (.value (.account .any))).denote caseful = .ok (.boolean ours) ∧
      (∀ id, (binary .equals e (.value (.account (.id id)))).denote caseful =
        .ok (.boolean (own id))) ∧
      ∀ s c, ours s c = true ↔ ∃ a ∈ c.accounts, own a.userId s c = true) ∧
    ∃ muted : Meaning Bool,
      (value (.field .muted)).denote caseful = .ok (.boolean muted) ∧
      (binary .containedIn (.value (.person .author)) (.value (.relation .any .muting))).denote
        caseful = .ok (.boolean muted) := by
  obtain ⟨a, f, denoted, item⟩ := HasType.has_ids member caseful
  refine ⟨⟨_, _, denote_in_related denoted item .any r,
    fun id => denote_in_related denoted item (.id id) r, ?_⟩, ?_, ?_⟩
  · intro s c distinct
    refine any_exists fun id => ?_
    simp only [IdSet.contains_iff]
    exact Context.mem_related_any distinct
  · refine ⟨_, _, denote_equals_account denoted item .any,
      fun id => denote_equals_account denoted item (.id id), ?_⟩
    intro s c
    refine any_exists fun id => ?_
    simp only [List.contains_iff_mem]
    exact Context.mem_userIds_any
  · refine ⟨_, rfl, ?_⟩
    rw [denote_in_related (a := .user fun s _ => [s.author.id]) rfl rfl]
    simp only [List.any_cons, List.any_nil, Bool.or_false, ← Context.any_muting]

end

open scoped Standalone

/-- `retweeter <- our.following` with two accounts that both follow user 3, for a retweet by user 3
and for the post that it repeats, which has no retweeter. -/
theorem our_iff_some_account_retweeter :
    let c : Context := ⟨[{ Account.basic 8 "bob" with following := .ofList [7, 3] },
      { Account.basic 9 "cy" with following := .ofList [3] }], []⟩
    let post : Status := .plain (.basic 1 (.basic 7 "ann") "hi")
    ∃ (ours : Meaning Bool) (own : Int64 → Meaning Bool),
      (binary .containedIn (.value (.person .retweeter))
        (.value (.relation .any .following))).denote false = .ok (.boolean ours) ∧
      (∀ id, (binary .containedIn (.value (.person .retweeter))
        (.value (.relation (.id id) .following))).denote false = .ok (.boolean (own id))) ∧
      (∀ s, ours s c = true ↔ ∃ a ∈ c.accounts, own a.userId s c = true) ∧
      ours (.retweet (.basic 2 (.basic 3 "dee") "") post) c = true ∧ ours post c = false := by
  intro c post
  obtain ⟨⟨ours, own, all, each, union⟩, -⟩ := our_iff_some_account
    (e := .value (.person .retweeter)) (.inr .value) false .following
  refine ⟨ours, own, all, each, fun s => union s c (by subst c; decide), ?_⟩
  obtain rfl := TypedMeaning.boolean.inj (Except.ok.inj all)
  subst c post
  decide

end Predicate

end TimelineFilter
