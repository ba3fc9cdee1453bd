import TimelineFilter.Proofs.Correspondence
import TimelineFilter.Standalone
import Mathlib.Data.List.Find
import Mathlib.Data.List.Nodup

/-! What the result of a predicate does not depend on. A retweet is tested as the status that it
repeats, unless the predicate asks for what tells the two apart. The order of accounts and lists
plays no part as long as no two of them answer to one name or id; otherwise the first of them does
count, and nothing is said about it here. -/
namespace TimelineFilter

open TypedMeaning (Coincide)

namespace Value

/-- The value is one of the origin: it asks neither for the id, nor whether the status is a retweet,
nor for the person who repeated it. -/
def ofOrigin : Value → Bool
  | .person .retweeter | .personField .retweeter _ => false
  | .field .retweet | .field .id => false
  | _ => true

theorem coincide_repeated {v : Value} (blind : v.ofOrigin = true) (p q : Post) (c : Context) :
    Coincide ⟨.retweet p (.plain q), c⟩ ⟨.plain q, c⟩ (.ofValue v) (.ofValue v) := by
  cases v with
  | text => exact .text rfl
  | number => exact .numeric rfl
  | account => exact .user fun id => Iff.rfl
  | relation | list => exact .set rfl
  | person who =>
    cases who with
    | author => exact .user fun id => Iff.rfl
    | retweeter => cases blind
  | personField who field =>
    cases who with
    | author =>
      cases field with
      | screenName | name | bio | location | language => exact .text rfl
      | id | statuses | following | followers | favorites | listed => exact .numeric rfl
      | isProtected | isVerified | isTranslator | contributorsEnabled | geoEnabled =>
        exact .boolean rfl
    | retweeter => cases blind
  | field field =>
    cases field with
    | retweet | id => cases blind
    | directMessage | media | muted => exact .boolean rfl
    | inReplyTo => exact .numeric rfl
    | mentions | favoriters | retweeters => exact .set rfl
    | text | client => exact .text rfl

end Value

namespace Predicate

theorem transports_repeated (p q : Post) (c : Context) :
    Transports (fun v v' => v = v' ∧ v.ofOrigin = true) ⟨.retweet p (.plain q), c⟩
      ⟨.plain q, c⟩ where
  coincide := by
    rintro v _ ⟨rfl, blind⟩
    exact v.coincide_repeated blind p q c
  constant := by
    rintro v _ t ⟨rfl, -⟩
    exact Iff.rfl

/-- A predicate that asks only for what belongs to the origin has the same result for a retweet and
for the status that it repeats, whatever else the retweet says of itself. -/
theorem meaning_repeated [Regex.Engine] {p : Predicate} {f : Meaning Bool}
    (found : p.meaning = .ok f) (blind : ∀ v ∈ p.values, v.ofOrigin = true) {s o : Status}
    (repeats : s.repeated? = some o) (once : o.isRetweet = false) (c : Context) :
    f s c = f o c := by
  cases s with
  | plain => cases repeats
  | retweet r of =>
    cases repeats
    cases o with
    | retweet => cases once
    | plain q =>
      have alike : Alike (fun v v' => v = v' ∧ v.ofOrigin = true) p p :=
        p.alike_self fun v mem => ⟨rfl, blind v mem⟩
      exact alike.same_result (transports_repeated r q c) found found

open scoped Standalone

/-- `caseful text -> "Lean"` and a retweet whose own text has another word. -/
theorem meaning_repeated_text :
    ∃ f : Meaning Bool,
      (Predicate.binary .contains (.unary .caseful (.value (.field .text)))
          (.value (.text "Lean"))).meaning = .ok f ∧
        f (.retweet (.basic 2 (.basic 8 "bob") "RT") (.plain (.basic 1 (.basic 7 "ann") "Lean 4")))
          ⟨[], []⟩ = true ∧
        f (.plain (.basic 1 (.basic 7 "ann") "Lean 4")) ⟨[], []⟩ = true := by
  have same := meaning_repeated
    (p := .binary .contains (.unary .caseful (.value (.field .text))) (.value (.text "Lean"))) rfl
    (by decide)
    (s := .retweet (.basic 2 (.basic 8 "bob") "RT") (.plain (.basic 1 (.basic 7 "ann") "Lean 4")))
    rfl rfl ⟨[], []⟩
  refine ⟨_, rfl, same.trans ?_, ?_⟩ <;> decide

end Predicate

/-- No two accounts have one id or one name, and no two lists one name, the names in lower case. -/
structure Context.Distinct (c : Context) : Prop where
  ids : (c.accounts.map Account.userId).Nodup
  names : (c.accounts.map (Text.lower ·.screenName)).Nodup
  lists : (c.lists.map fun l => (Text.lower l.owner, Text.lower l.slug)).Nodup

structure Context.Permuted (c c' : Context) : Prop where
  accounts : c.accounts.Perm c'.accounts
  lists : c.lists.Perm c'.lists

theorem find?_permuted {α κ : Type} [BEq κ] [LawfulBEq κ] {key : α → κ} {xs ys : List α}
    (distinct : (xs.map key).Nodup) (permuted : xs.Perm ys) (k : κ) :
    xs.find? (key · == k) = ys.find? (key · == k) := by
  refine List.find?_eq_find?_of_perm permuted ?_
  rintro x ⟨mem, found⟩ y ⟨mem', found'⟩
  exact List.inj_on_of_nodup_map distinct mem mem'
    ((beq_iff_eq.1 found).trans (beq_iff_eq.1 found').symm)

namespace Context

variable {c c' : Context} (distinct : c.Distinct) (permuted : c.Permuted c')

include distinct permuted

theorem findByName?_permuted (screenName : String) :
    c.findByName? screenName = c'.findByName? screenName :=
  find?_permuted distinct.names permuted.accounts (Text.lower screenName)

theorem findById?_permuted (id : Int64) : c.findById? id = c'.findById? id :=
  find?_permuted distinct.ids permuted.accounts id

theorem members?_permuted (owner slug : String) : c.members? owner slug = c'.members? owner slug :=
  congrArg (Option.map UserList.members)
    (find?_permuted distinct.lists permuted.lists (Text.lower owner, Text.lower slug))

theorem select_permuted (selector : Selector) : (c.select selector).Perm (c'.select selector) := by
  cases selector with
  | any => exact permuted.accounts
  | named name =>
    exact .of_eq (congrArg Option.toList (findByName?_permuted distinct permuted name))
  | id id =>
    exact .of_eq (congrArg Option.toList (findById?_permuted distinct permuted id))

theorem related_permuted (selector : Selector) (r : Relation) :
    c.related selector r = c'.related selector r := by
  refine IdSet.eq_of_mem_iff fun id => ?_
  have selected := select_permuted distinct permuted selector
  rw [related, related, IdSet.mem_unions, IdSet.mem_unions]
  exact exists_congr fun ids => and_congr_left' (selected.map (·.related r)).mem_iff

end Context

namespace Value

theorem coincide_permuted (v : Value) (s : Status) {c c' : Context} (distinct : c.Distinct)
    (permuted : c.Permuted c') : Coincide ⟨s, c⟩ ⟨s, c'⟩ (.ofValue v) (.ofValue v) := by
  cases v with
  | text => exact .text rfl
  | number => exact .numeric rfl
  | account selector =>
    exact .user fun id =>
      ((Context.select_permuted distinct permuted selector).map Account.userId).mem_iff
  | relation selector r => exact .set (Context.related_permuted distinct permuted selector r)
  | person => exact .user fun id => Iff.rfl
  | personField who field =>
    cases field with
    | screenName | name | bio | location | language => exact .text rfl
    | id | statuses | following | followers | favorites | listed => exact .numeric rfl
    | isProtected | isVerified | isTranslator | contributorsEnabled | geoEnabled =>
      exact .boolean rfl
  | field field =>
    cases field with
    | muted => exact .boolean (permuted.accounts.any_eq)
    | directMessage | retweet | media => exact .boolean rfl
    | inReplyTo | id => exact .numeric rfl
    | mentions | favoriters | retweeters => exact .set rfl
    | text | client => exact .text rfl
  | list owner slug =>
    exact .set (congrArg (Option.getD · IdSet.empty)
      (Context.members?_permuted distinct permuted owner slug))

end Value

namespace Predicate

theorem transports_permuted (s : Status) {c c' : Context} (distinct : c.Distinct)
    (permuted : c.Permuted c') : Transports Eq ⟨s, c⟩ ⟨s, c'⟩ where
  coincide := by
    rintro v _ rfl
    exact v.coincide_permuted s distinct permuted
  constant := by
    rintro v _ t rfl
    exact Iff.rfl

/-- The order of the accounts and of the lists does not matter if no two of them answer to the same
id or name. -/
theorem meaning_permuted [Regex.Engine] {p : Predicate} {f : Meaning Bool}
    (found : p.meaning = .ok f) {c c' : Context} (distinct : c.Distinct)
    (permuted : c.Permuted c') (s : Status) : f s c = f s c' := by
  have alike : Alike Eq p p := p.alike_self fun v _ => rfl
  exact alike.same_result (transports_permuted s distinct permuted) found found

open scoped Standalone

/-- `@Ann.following -> user`, with the account that follows before and behind another. -/
theorem meaning_permuted_following :
    ∃ f : Meaning Bool,
      (Predicate.binary .contains (.value (.relation (.named "Ann") .following))
          (.value (.person .author))).meaning = .ok f ∧
        f (.plain (.basic 1 (.basic 7 "cy") "hi"))
          ⟨[{ Account.basic 3 "ann" with following := .ofList [7] }, .basic 4 "bob"], []⟩ = true ∧
        f (.plain (.basic 1 (.basic 7 "cy") "hi"))
          ⟨[.basic 4 "bob", { Account.basic 3 "ann" with following := .ofList [7] }], []⟩ =
            true := by
  have permuted : Context.Permuted
      ⟨[{ Account.basic 3 "ann" with following := .ofList [7] }, .basic 4 "bob"], []⟩
      ⟨[.basic 4 "bob", { Account.basic 3 "ann" with following := .ofList [7] }], []⟩ :=
    ⟨.swap _ _ _, .nil⟩
  have same := meaning_permuted
    (p := .binary .contains (.value (.relation (.named "Ann") .following))
      (.value (.person .author)))
    rfl ⟨by decide, by decide, by decide⟩ permuted (.plain (.basic 1 (.basic 7 "cy") "hi"))
  refine ⟨_, rfl, same.trans ?_, ?_⟩ <;> decide

end Predicate

end TimelineFilter
