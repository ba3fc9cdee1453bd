import TimelineFilter.Proofs.Correspondence
import TimelineFilter.Standalone
import Mathlib.Data.List.Forall2

namespace TimelineFilter

namespace TypedMeaning

variable {a b : TypedMeaning} {f g : Meaning (List Int64)} {vs ws : List Value}

def meet (f g : Meaning (List Int64)) : Meaning Bool := fun s c => (f s c).any (g s c).contains

theorem meet_append (f g h : Meaning (List Int64)) (s : Status) (c : Context) :
    meet f (fun s c => g s c ++ h s c) s c = (meet f g s c || meet f h s c) := by
  rw [Bool.eq_iff_iff]
  simp only [meet, List.any_eq_true, List.contains_eq_mem, List.mem_append, decide_eq_true_eq,
    Bool.or_eq_true]
  constructor
  · rintro ⟨id, mem, inside | inside⟩
    · exact .inl ⟨id, mem, inside⟩
    · exact .inr ⟨id, mem, inside⟩
  · rintro (⟨id, mem, inside⟩ | ⟨id, mem, inside⟩)
    · exact ⟨id, mem, .inl inside⟩
    · exact ⟨id, mem, .inr inside⟩

theorem equality_eq_meet (caseful : Bool) (first : a.asMember? = some f)
    (second : b.asMember? = some g) : equality caseful a b = some (meet f g) := by
  cases a with
  | numeric n =>
    cases first
    cases b with
    | numeric m =>
      cases second
      refine congrArg some (funext fun s => funext fun c => ?_)
      rw [Bool.eq_iff_iff]
      simp [meet]
    | user us =>
      cases second
      refine congrArg some (funext fun s => funext fun c => ?_)
      simp [meet]
    | _ => cases second
  | user us =>
    cases first
    cases b with
    | numeric n =>
      cases second
      refine congrArg some (funext fun s => funext fun c => ?_)
      rw [Bool.eq_iff_iff]
      simp [meet]
    | user => cases second; rfl
    | _ => cases second
  | _ => cases first

theorem containment_member (caseful : Bool) (item : a.asMember? = some f) (g : Meaning IdSet) :
    containment caseful (.set g) a = some fun s c => (f s c).any (g s c).contains := by
  cases a with
  | numeric n =>
    cases item
    refine congrArg some (funext fun s => funext fun c => ?_)
    simp
  | user us => cases item; rfl
  | _ => cases item

theorem containment_eq_meet (caseful : Bool) (item : a.asMember? = some f)
    (g : Meaning (List Int64)) :
    containment caseful (.set fun s c => .ofList (g s c)) a = some (meet f g) := by
  rw [containment_member caseful item]
  refine congrArg some (funext fun s => funext fun c => ?_)
  simp only [meet, funext (IdSet.contains_ofList (g s c))]

/-- Whoever is compared with all members of a set literal at once is compared with each of them. -/
theorem meet_ofMembers (caseful : Bool) (item : a.asMember? = some f)
    (found : ofMembers vs = .ok g) :
    ∃ tests, List.Forall₂ (fun v test => equality caseful a (ofValue v) = some test) vs tests ∧
      ∀ s c, meet f g s c = tests.any fun test => test s c := by
  induction vs generalizing g with
  | nil =>
    cases found
    exact ⟨[], .nil, fun s c => by simp [meet]⟩
  | cons v vs ih =>
    unfold ofMembers at found
    split at found
    · cases found
    · rename_i h member
      split at found
      · cases found
      · rename_i others
        cases found
        obtain ⟨tests, each, any⟩ := ih others
        refine ⟨meet f h :: tests, .cons (equality_eq_meet caseful item member) each, ?_⟩
        intro s c
        rw [meet_append, any, List.any_cons]

theorem ofMembers_same {f g : Meaning (List Int64)} (same : ∀ v, v ∈ vs ↔ v ∈ ws)
    (found : ofMembers vs = .ok f) (found' : ofMembers ws = .ok g) (s : Status) (c : Context) :
    IdSet.ofList (f s c) = IdSet.ofList (g s c) := by
  apply IdSet.eq_of_mem_iff
  intro id
  rw [IdSet.mem_ofList, IdSet.mem_ofList, mem_ofMembers found, mem_ofMembers found']
  simp only [same]

end TypedMeaning

namespace Predicate

open TypedMeaning (ofMembers)

variable {vs ws : List Value} {v : Value}

theorem mem_distinct : v ∈ distinct vs ↔ v ∈ vs := by
  induction vs with
  | nil => rfl
  | cons u vs ih =>
    rw [distinct, List.mem_cons, List.mem_cons, List.mem_filter, ih]
    by_cases same : v = u <;> simp [same]

theorem find?_distinct (p : Value → Bool) : (distinct vs).find? p = vs.find? p := by
  induction vs with
  | nil => rfl
  | cons u vs ih =>
    rw [distinct, List.find?_cons, List.find?_cons]
    cases held : p u with
    | true => rfl
    | false =>
      have skipped : (fun w => decide ((w != u) = true ∧ p w = true)) = p := by
        funext w
        by_cases same : w = u <;> simp [same, held]
      simp only [List.find?_filter, skipped, ih]

theorem find?_of_ofMembers {f : Meaning (List Int64)} (found : ofMembers vs = .ok f)
    (within : ∀ v ∈ ws, v ∈ vs) : ws.find? (!·.isMember) = none :=
  find?_of_members fun v mem => TypedMeaning.ofMembers_ok found v (within v mem)

section

variable [Regex.Engine]

theorem denote_set_cases (vs : List Value) (caseful : Bool) :
    (∃ f, ofMembers vs = .ok f ∧
      (Predicate.set vs).denote caseful = .ok (.set fun s c => .ofList (f s c))) ∨
    ∃ v, vs.find? (!·.isMember) = some v ∧
      (Predicate.set vs).denote caseful = .error (.invalidMember v) := by
  unfold denote
  cases found : ofMembers vs with
  | ok f => exact .inl ⟨f, rfl, rfl⟩
  | error e =>
    obtain ⟨v, first, rfl⟩ := TypedMeaning.ofMembers_error found
    exact .inr ⟨v, first, rfl⟩

theorem denote_set_same (same : ∀ v, v ∈ vs ↔ v ∈ ws) (caseful : Bool) :
    ((Predicate.set vs).denote caseful).toOption =
      ((Predicate.set ws).denote caseful).toOption := by
  rcases denote_set_cases vs caseful with ⟨f, found, denoted⟩ | ⟨v, first, denoted⟩ <;>
    rcases denote_set_cases ws caseful with ⟨g, found', denoted'⟩ | ⟨v', first', denoted'⟩
  · rw [denoted, denoted']
    have sets := fun s c => TypedMeaning.ofMembers_same same found found' s c
    simp only [sets]
  · rw [find?_of_ofMembers found fun v => (same v).2] at first'
    cases first'
  · rw [find?_of_ofMembers found' fun v => (same v).1] at first
    cases first
  · rw [denoted, denoted']
    rfl

theorem denote_setOf (vs : List Value) (caseful : Bool) :
    (setOf vs).denote caseful = (Predicate.set vs).denote caseful := by
  have same : ((Predicate.set (distinct vs)).denote caseful).toOption =
      ((Predicate.set vs).denote caseful).toOption :=
    denote_set_same (fun _ => mem_distinct) caseful
  rcases denote_set_cases (distinct vs) caseful with ⟨f, -, denoted⟩ | ⟨v, first, denoted⟩ <;>
    rcases denote_set_cases vs caseful with ⟨g, -, denoted'⟩ | ⟨v', first', denoted'⟩ <;>
    rw [denoted, denoted'] at same
  · rw [setOf, denoted, denoted', Option.some.inj same]
  · cases same
  · cases same
  · rw [find?_distinct, first'] at first
    cases first
    rw [setOf, denoted, denoted']

theorem HasType.has_ids {p : Predicate} (member : HasType p .numeric ∨ HasType p .user)
    (caseful : Bool) : ∃ a f, p.denote caseful = .ok a ∧ a.asMember? = some f := by
  rcases member with number | user
  · obtain ⟨f, denoted⟩ := number.denotes (by simp) caseful
    exact ⟨_, _, denoted, rfl⟩
  · obtain ⟨f, denoted⟩ := user.denotes (by simp) caseful
    exact ⟨_, _, denoted, rfl⟩

/-- To be in a set literal is to equal one of its members, wherever the test stands; in particular
nothing is in the empty set. Repeated members and the order of the members make no difference to a
set literal. -/
theorem contained_iff_equals {e : Predicate} (member : HasType e .numeric ∨ HasType e .user)
    (caseful : Bool) (vs : List Value) :
    (∀ d, (Predicate.set vs).denote caseful = .ok d →
        ∃ contained equals,
          (binary .containedIn e (.set vs)).denote caseful = .ok (.boolean contained) ∧
          List.Forall₂ (fun v equal =>
            (binary .equals e (.value v)).denote caseful = .ok (.boolean equal)) vs equals ∧
          ∀ s c, contained s c = equals.any fun equal => equal s c) ∧
      (setOf vs).denote caseful = (Predicate.set vs).denote caseful ∧
      ∀ ws, ws.Perm vs → ((Predicate.set ws).denote caseful).toOption =
        ((Predicate.set vs).denote caseful).toOption := by
  refine ⟨?_, denote_setOf vs caseful, ?_⟩
  · intro d built
    obtain ⟨a, f, denoted, item⟩ := HasType.has_ids member caseful
    rcases denote_set_cases vs caseful with ⟨g, found, set⟩ | ⟨v, -, failed⟩
    · obtain ⟨equals, each, any⟩ := TypedMeaning.meet_ofMembers
        (casefulAt caseful e (.set vs)) item found
      refine ⟨TypedMeaning.meet f g, equals, ?_, each.imp ?_, any⟩
      · have applied := TypedMeaning.containment_eq_meet (casefulAt caseful e (.set vs)) item g
        rw [denote_binary denoted set]
        simp [TypedMeaning.ofBinary, TypedMeaning.apply, applied]
      · intro v equal applied
        have flag : casefulAt caseful e (.value v) = casefulAt caseful e (.set vs) := rfl
        rw [denote_binary denoted rfl, flag]
        simp [TypedMeaning.ofBinary, TypedMeaning.apply, applied]
    · rw [failed] at built
      cases built
  · intro ws permuted
    exact denote_set_same (fun _ => permuted.mem_iff) caseful

end

open scoped Standalone

/-- `retweeter <- [7, user, 7, user.followers, our]` for a post, which has no retweeter, and for a
retweet by one of the accounts. -/
theorem contained_iff_equals_retweeter :
    ∃ contained equals,
      (binary .containedIn (.value (.person .retweeter)) (.set [.number 7, .person .author,
        .number 7, .personField .author .followers, .account .any])).denote false =
          .ok (.boolean contained) ∧
      List.Forall₂ (fun v equal =>
          (binary .equals (.value (.person .retweeter)) (.value v)).denote false =
            .ok (.boolean equal))
        [.number 7, .person .author, .number 7, .personField .author .followers, .account .any]
        equals ∧
      (∀ s c, contained s c = equals.any fun equal => equal s c) ∧
      contained (.plain (.basic 1 (.basic 7 "ann") "hi")) ⟨[.basic 9 "bob"], []⟩ = false ∧
      contained (.retweet (.basic 2 (.basic 9 "bob") "") (.plain (.basic 1 (.basic 7 "ann") "hi")))
        ⟨[.basic 9 "bob"], []⟩ = true := by
  obtain ⟨contained, equals, denoted, each, any⟩ := (contained_iff_equals
    (e := .value (.person .retweeter)) (.inr .value) false [.number 7, .person .author,
      .number 7, .personField .author .followers, .account .any]).1 _ rfl
  refine ⟨contained, equals, denoted, each, any, ?_⟩
  obtain rfl := TypedMeaning.boolean.inj (Except.ok.inj denoted)
  decide

end Predicate

end TimelineFilter
