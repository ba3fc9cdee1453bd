import TimelineFilter.Proofs.FirstFault
import TimelineFilter.Proofs.Timeline.IdSets

/-! Trees of one shape that are looked at in two places. No operator tells operands apart that
coincide, so two trees coincide as soon as their values do. A reference to users is known by the ids
that it may stand for, in whatever order they come. Which values coincide is not a matter of this
module. -/
namespace TimelineFilter

structure Place where
  status : Status
  context : Context

instance : Inhabited Place := ⟨.plain (.basic 0 (.basic 0 "") ""), ⟨[], []⟩⟩

variable {here there : Place}

def SameAt {α : Type} (here there : Place) (f g : Meaning α) : Prop :=
  f here.status here.context = g there.status there.context

/-- The same ids, in any order and with any repetitions. -/
def SameIds (here there : Place) (f g : Meaning (List Int64)) : Prop :=
  ∀ id, id ∈ f here.status here.context ↔ id ∈ g there.status there.context

theorem SameAt.one {α β : Type} {f f' : Meaning α} (op : α → β) (same : SameAt here there f f') :
    SameAt here there (fun s c => op (f s c)) (fun s c => op (f' s c)) :=
  congrArg op same

theorem SameAt.both {α β γ : Type} {f f' : Meaning α} {g g' : Meaning β} (op : α → β → γ)
    (first : SameAt here there f f') (second : SameAt here there g g') :
    SameAt here there (fun s c => op (f s c) (g s c)) (fun s c => op (f' s c) (g' s c)) :=
  congr (congrArg op first) second

namespace SameIds

variable {f f' : Meaning (List Int64)}

theorem ofList (same : SameIds here there f f') :
    SameAt here there (fun s c => IdSet.ofList (f s c)) fun s c => IdSet.ofList (f' s c) :=
  IdSet.ofList_eq fun id => (same id).trans IdSet.mem_ofList.symm

theorem contains (same : SameIds here there f f') :
    SameAt here there (fun s c => (f s c).contains) fun s c => (f' s c).contains := by
  funext id
  rw [Bool.eq_iff_iff, List.contains_iff_mem, List.contains_iff_mem]
  exact same id

theorem any {test test' : Meaning (Int64 → Bool)} (same : SameIds here there f f')
    (tests : SameAt here there test test') :
    SameAt here there (fun s c => (f s c).any (test s c)) fun s c => (f' s c).any (test' s c) := by
  unfold SameAt at tests ⊢
  dsimp only
  rw [tests, Bool.eq_iff_iff, List.any_eq_true, List.any_eq_true]
  exact exists_congr fun id => and_congr_left' (same id)

end SameIds

namespace TypedMeaning

inductive Coincide (here there : Place) : TypedMeaning → TypedMeaning → Prop
  | boolean {f g : Meaning Bool} (same : SameAt here there f g) :
      Coincide here there (.boolean f) (.boolean g)
  | numeric {f g : Meaning Int64} (same : SameAt here there f g) :
      Coincide here there (.numeric f) (.numeric g)
  | text {f g : Meaning String} (same : SameAt here there f g) :
      Coincide here there (.text f) (.text g)
  | set {f g : Meaning IdSet} (same : SameAt here there f g) :
      Coincide here there (.set f) (.set g)
  | user {f g : Meaning (List Int64)} (same : SameIds here there f g) :
      Coincide here there (.user f) (.user g)

inductive Together (here there : Place) :
    Except Problem TypedMeaning → Except Problem TypedMeaning → Prop
  | error {e e' : Problem} : Together here there (.error e) (.error e')
  | ok {d d' : TypedMeaning} (same : Coincide here there d d') :
      Together here there (.ok d) (.ok d')

/-- An operator can be applied in both places, with results that coincide, or in neither. -/
abbrev BothApply (here there : Place) := Option.Rel (Coincide here there)

variable {a a' b b' : TypedMeaning}

theorem Coincide.refl {place : Place} (a : TypedMeaning) : Coincide place place a a := by
  cases a with
  | boolean => exact .boolean rfl
  | numeric => exact .numeric rfl
  | text => exact .text rfl
  | set => exact .set rfl
  | user => exact .user fun _ => Iff.rfl

theorem textTest_sameAt (test : List Char → List Char → Bool) (caseful : Bool)
    {f f' g g' : Meaning String} (first : SameAt here there f f')
    (second : SameAt here there g g') :
    SameAt here there (textTest test caseful f g) (textTest test caseful f' g') := by
  unfold SameAt at first second ⊢
  unfold textTest
  rw [first, second]

theorem equality_coincide (caseful : Bool) (first : Coincide here there a a')
    (second : Coincide here there b b') :
    Option.Rel (SameAt here there) (equality caseful a b) (equality caseful a' b') := by
  cases first with
  | boolean same =>
    cases second with
    | boolean same' => exact .some (.both (· == ·) same same')
    | _ => exact .none
  | numeric same =>
    cases second with
    | numeric same' => exact .some (.both (· == ·) same same')
    | user same' => exact .some (.both (fun test id => test id) same'.contains same)
    | _ => exact .none
  | text same =>
    cases second with
    | text same' => exact .some (textTest_sameAt _ caseful same same')
    | _ => exact .none
  | set same =>
    cases second with
    | set same' => exact .some (.both (· == ·) same same')
    | user same' => exact .some (.both (· == ·) same same'.ofList)
    | _ => exact .none
  | user same =>
    cases second with
    | numeric same' => exact .some (.both (fun test id => test id) same.contains same')
    | set same' => exact .some (.both (· == ·) same.ofList same')
    | user same' => exact .some (same.any same'.contains)
    | _ => exact .none

theorem containment_coincide (caseful : Bool) (first : Coincide here there a a')
    (second : Coincide here there b b') :
    Option.Rel (SameAt here there) (containment caseful a b) (containment caseful a' b') := by
  cases first with
  | text same =>
    cases second with
    | text same' => exact .some (textTest_sameAt _ caseful same same')
    | _ => exact .none
  | set same =>
    cases second with
    | numeric same' => exact .some (.both IdSet.contains same same')
    | set same' => exact .some (.both IdSet.includes same same')
    | user same' => exact .some (same'.any (same.one IdSet.contains))
    | _ => exact .none
  | user same =>
    cases second with
    | numeric same' => exact .some (.both IdSet.contains same.ofList same')
    | set same' => exact .some (.both IdSet.includes same.ofList same')
    | user same' => exact .some (same'.any (same.ofList.one IdSet.contains))
    | _ => exact .none
  | _ => cases second <;> exact .none

theorem logical_coincide (op : Bool → Bool → Bool) (first : Coincide here there a a')
    (second : Coincide here there b b') :
    BothApply here there (logical op a b) (logical op a' b') := by
  cases first with
  | boolean same =>
    cases second with
    | boolean same' => exact .some (.boolean (.both op same same'))
    | _ => exact .none
  | _ => cases second <;> exact .none

theorem comparison_coincide (test : Int64 → Int64 → Bool) (first : Coincide here there a a')
    (second : Coincide here there b b') :
    BothApply here there (comparison test a b) (comparison test a' b') := by
  cases first with
  | numeric same =>
    cases second with
    | numeric same' => exact .some (.boolean (.both test same same'))
    | _ => exact .none
  | _ => cases second <;> exact .none

theorem arithmetic_coincide (op : Int64 → Int64 → Int64) (first : Coincide here there a a')
    (second : Coincide here there b b') :
    BothApply here there (arithmetic op a b) (arithmetic op a' b') := by
  cases first with
  | numeric same =>
    cases second with
    | numeric same' => exact .some (.numeric (.both op same same'))
    | _ => exact .none
  | _ => cases second <;> exact .none

theorem sum_coincide (first : Coincide here there a a') (second : Coincide here there b b') :
    BothApply here there (TypedMeaning.sum a b) (TypedMeaning.sum a' b') := by
  cases first with
  | text same =>
    cases second with
    | text same' => exact .some (.text (.both (· ++ ·) same same'))
    | _ => exact .none
  | numeric same => exact arithmetic_coincide (· + ·) (.numeric same) second
  | _ => cases second <;> exact .none

theorem matching_coincide (test : List Char → List Char → Bool) (caseful : Bool)
    (first : Coincide here there a a') (second : Coincide here there b b') :
    BothApply here there (matching test caseful a b) (matching test caseful a' b') := by
  cases first with
  | text same =>
    cases second with
    | text same' => exact .some (.boolean (textTest_sameAt test caseful same same'))
    | _ => exact .none
  | _ => cases second <;> exact .none

theorem boolean_coincide {f g : Option (Meaning Bool)} (make : Bool → Bool)
    (same : Option.Rel (SameAt here there) f g) :
    BothApply here there (f.map fun f => .boolean fun s c => make (f s c))
      (g.map fun g => .boolean fun s c => make (g s c)) := by
  cases same with
  | none => exact .none
  | some same => exact .some (.boolean (same.one make))

theorem ofUnary_coincide (op : UnaryOp) (inner : Coincide here there a a') :
    Together here there (ofUnary op a) (ofUnary op a') := by
  cases op with
  | caseful => exact .ok inner
  | not =>
    cases inner with
    | boolean same => exact .ok (.boolean (same.one (!·)))
    | _ => exact .error
  | negate =>
    cases inner with
    | numeric same => exact .ok (.numeric (same.one (-·)))
    | _ => exact .error

theorem Coincide.asMember? (same : Coincide here there a a') :
    Option.Rel (SameIds here there) a.asMember? a'.asMember? := by
  cases same with
  | numeric same =>
    refine .some fun id => ?_
    rw [List.mem_singleton, List.mem_singleton, same]
  | user same => exact .some same
  | _ => exact .none

theorem mem_ofMembers {vs : List Value} {f : Meaning (List Int64)} (found : ofMembers vs = .ok f)
    {s : Status} {c : Context} {id : Int64} :
    id ∈ f s c ↔ ∃ v ∈ vs, ∃ g, (ofValue v).asMember? = some g ∧ id ∈ g s c := by
  induction vs generalizing f with
  | nil =>
    cases found
    simp
  | cons v vs ih =>
    unfold ofMembers at found
    split at found
    · cases found
    · rename_i member
      split at found
      · cases found
      · rename_i others
        cases found
        rw [List.mem_append, ih others]
        simp [member]

theorem exists_ofMembers {vs : List Value} (members : ∀ v ∈ vs, v.isMember = true) :
    ∃ f, ofMembers vs = .ok f := by
  cases found : ofMembers vs with
  | ok f => exact ⟨f, rfl⟩
  | error e =>
    obtain ⟨v, first, -⟩ := ofMembers_error found
    rw [Predicate.find?_of_members members] at first
    cases first

variable [Regex.Engine]

theorem dynamicSearch_coincide (caseful : Bool) (first : Coincide here there a a')
    (second : Coincide here there b b') :
    BothApply here there (dynamicSearch caseful a b) (dynamicSearch caseful a' b') := by
  cases first with
  | text same =>
    cases second with
    | text same' =>
      exact .some (.boolean (.both (fun text pattern => searches caseful pattern text) same same'))
    | _ => exact .none
  | _ => cases second <;> exact .none

theorem apply_coincide (op : BinaryOp) (caseful : Bool) (first : Coincide here there a a')
    (second : Coincide here there b b') :
    BothApply here there (apply op caseful a b) (apply op caseful a' b') := by
  cases op with
  | or | and => exact logical_coincide _ first second
  | equals => exact boolean_coincide (fun b => b) (equality_coincide caseful first second)
  | notEquals => exact boolean_coincide (!·) (equality_coincide caseful first second)
  | less | lessOrEqual | greater | greaterOrEqual =>
    unfold apply
    exact comparison_coincide _ first second
  | contains => exact boolean_coincide (fun b => b) (containment_coincide caseful first second)
  | containedIn => exact boolean_coincide (fun b => b) (containment_coincide caseful second first)
  | startsWith | endsWith => exact matching_coincide _ caseful first second
  | regex => exact dynamicSearch_coincide caseful first second
  | add => exact sum_coincide first second
  | subtract | multiply | divide => exact arithmetic_coincide _ first second

theorem constantSearch_coincide (caseful : Bool) (pattern : String)
    (first : Coincide here there a a') (b b' : TypedMeaning) :
    Together here there (constantSearch caseful pattern a b)
      (constantSearch caseful pattern a' b') := by
  cases first with
  | text same =>
    unfold constantSearch
    cases Regex.Engine.read (!caseful) pattern with
    | error reason => exact .error
    | ok test => exact .ok (.boolean (same.one test))
  | _ => exact .error

theorem ofBinary_coincide (op : BinaryOp) (caseful : Bool) (constant : Option String)
    (first : Coincide here there a a') (second : Coincide here there b b') :
    Together here there (ofBinary op caseful constant a b)
      (ofBinary op caseful constant a' b') := by
  unfold ofBinary
  split
  · exact constantSearch_coincide caseful _ first b b'
  · have applied := apply_coincide op caseful first second
    generalize apply op caseful a b = d, apply op caseful a' b' = d' at applied
    cases applied with
    | none => exact .error
    | some same => exact .ok same

end TypedMeaning

namespace Predicate

open TypedMeaning (Coincide Together)

/-- Trees of one shape whose values are related. Of the members of a set literal neither their order
nor repetitions matter. -/
inductive Alike (related : Value → Value → Prop) : Predicate → Predicate → Prop
  | binary {op : BinaryOp} {left left' right right' : Predicate} (first : Alike related left left')
      (second : Alike related right right') :
      Alike related (.binary op left right) (.binary op left' right')
  | unary {op : UnaryOp} {p p' : Predicate} (inner : Alike related p p') :
      Alike related (.unary op p) (.unary op p')
  | always : Alike related .always .always
  | bracket {p p' : Predicate} (inner : Alike related p p') :
      Alike related (.bracket p) (.bracket p')
  | set {vs vs' : List Value} (forth : ∀ v ∈ vs, ∃ v' ∈ vs', related v v')
      (back : ∀ v' ∈ vs', ∃ v ∈ vs, related v v') : Alike related (.set vs) (.set vs')
  | value {v v' : Value} (same : related v v') : Alike related (.value v) (.value v')

/-- Related values coincide, and texts are related to nothing else. -/
structure Transports (related : Value → Value → Prop) (here there : Place) : Prop where
  coincide : ∀ {v v'}, related v v' → Coincide here there (.ofValue v) (.ofValue v')
  constant : ∀ {v v' t}, related v v' → (v = .text t ↔ v' = .text t)

variable {related : Value → Value → Prop} {p p' : Predicate}

theorem Alike.mentionsCaseful (alike : Alike related p p') :
    p.mentionsCaseful = p'.mentionsCaseful := by
  induction alike with
  | binary _ _ ih ih' => simp [Predicate.mentionsCaseful, ih, ih']
  | unary _ ih => simp [Predicate.mentionsCaseful, ih]
  | bracket _ ih => exact ih
  | _ => rfl

theorem Alike.constantText? (alike : Alike related p p')
    (constant : ∀ {v v' t}, related v v' → (v = .text t ↔ v' = .text t)) :
    p.constantText? = p'.constantText? := by
  induction alike with
  | @unary op _ _ _ ih =>
    cases op with
    | caseful => exact ih
    | _ => rfl
  | bracket _ ih => exact ih
  | @value v v' same =>
    cases v with
    | text t => rw [(constant same).1 rfl]
    | _ =>
      cases v' with
      | text t => cases (constant same).2 rfl
      | _ => rfl
  | _ => rfl

def values : Predicate → List Value
  | .binary _ left right => left.values ++ right.values
  | .unary _ operand => operand.values
  | .always => []
  | .bracket inner => inner.values
  | .set members => members
  | .value v => [v]

theorem alike_self (p : Predicate) (each : ∀ v ∈ p.values, related v v) : Alike related p p := by
  induction p with
  | binary op left right ih ih' =>
    obtain ⟨first, second⟩ := List.forall_mem_append.1 each
    exact .binary (ih first) (ih' second)
  | unary op operand ih => exact .unary (ih each)
  | always => exact .always
  | bracket inner ih => exact .bracket (ih each)
  | set members =>
    exact .set (fun v mem => ⟨v, mem, each v mem⟩) fun v mem => ⟨v, mem, each v mem⟩
  | value v => exact .value (each v (List.mem_singleton_self v))

namespace Transports

variable (transports : Transports related here there)

include transports

theorem isMember {v v' : Value} (same : related v v') : v.isMember = v'.isMember := by
  have members := (transports.coincide same).asMember?
  rw [← TypedMeaning.asMember?_isSome, ← TypedMeaning.asMember?_isSome]
  generalize (TypedMeaning.ofValue v).asMember? = f, (TypedMeaning.ofValue v').asMember? = f'
    at members
  cases members <;> rfl

theorem mem_member {v v' : Value} (same : related v v') (id : Int64) :
    (∃ g, (TypedMeaning.ofValue v).asMember? = some g ∧ id ∈ g here.status here.context) ↔
      ∃ g, (TypedMeaning.ofValue v').asMember? = some g ∧ id ∈ g there.status there.context := by
  have members := (transports.coincide same).asMember?
  generalize (TypedMeaning.ofValue v).asMember? = f, (TypedMeaning.ofValue v').asMember? = f'
    at members
  cases members with
  | none => simp
  | some same => simpa using same id

variable [Regex.Engine]

theorem set {vs vs' : List Value} (forth : ∀ v ∈ vs, ∃ v' ∈ vs', related v v')
    (back : ∀ v' ∈ vs', ∃ v ∈ vs, related v v') (caseful caseful' : Bool) :
    Together here there ((Predicate.set vs).denote caseful)
      ((Predicate.set vs').denote caseful') := by
  unfold denote
  cases found : TypedMeaning.ofMembers vs with
  | error e =>
    cases found' : TypedMeaning.ofMembers vs' with
    | error e' => exact .error
    | ok f' =>
      -- A value that can be no member is related to one that can be none either.
      have members : ∀ v ∈ vs, v.isMember = true := by
        intro v mem
        obtain ⟨v', mem', same⟩ := forth v mem
        rw [transports.isMember same]
        exact TypedMeaning.ofMembers_ok found' v' mem'
      obtain ⟨f, impossible⟩ := TypedMeaning.exists_ofMembers members
      rw [found] at impossible
      cases impossible
  | ok f =>
    have members : ∀ v' ∈ vs', v'.isMember = true := by
      intro v' mem'
      obtain ⟨v, mem, same⟩ := back v' mem'
      rw [← transports.isMember same]
      exact TypedMeaning.ofMembers_ok found v mem
    obtain ⟨f', found'⟩ := TypedMeaning.exists_ofMembers members
    have ids : SameIds here there f f' := by
      intro id
      rw [TypedMeaning.mem_ofMembers found, TypedMeaning.mem_ofMembers found']
      constructor
      · rintro ⟨v, mem, inside⟩
        obtain ⟨v', mem', same⟩ := forth v mem
        exact ⟨v', mem', (transports.mem_member same id).1 inside⟩
      · rintro ⟨v', mem', inside⟩
        obtain ⟨v, mem, same⟩ := back v' mem'
        exact ⟨v, mem, (transports.mem_member same id).2 inside⟩
    rw [found']
    exact .ok (.set ids.ofList)

end Transports

variable [Regex.Engine]

/-- The operators of both trees are the same, so the trees coincide as their values do. -/
theorem Alike.denote (transports : Transports related here there) (alike : Alike related p p')
    (caseful : Bool) : Together here there (p.denote caseful) (p'.denote caseful) := by
  induction alike generalizing caseful with
  | @binary op left left' right right' first second ih ih' =>
    unfold Predicate.denote
    rw [first.mentionsCaseful, second.mentionsCaseful, second.constantText? transports.constant]
    have one := ih caseful
    have two := ih' caseful
    generalize left.denote caseful = r, left'.denote caseful = r' at one
    generalize right.denote caseful = t, right'.denote caseful = t' at two
    cases one with
    | error => exact .error
    | ok same =>
      cases two with
      | error => exact .error
      | ok same' => exact TypedMeaning.ofBinary_coincide _ _ _ same same'
  | @unary op p p' inner ih =>
    unfold Predicate.denote
    have one := ih (caseful || op == .caseful)
    generalize p.denote (caseful || op == .caseful) = r,
      p'.denote (caseful || op == .caseful) = r' at one
    cases one with
    | error => exact .error
    | ok same => exact TypedMeaning.ofUnary_coincide op same
  | always => exact .ok (.boolean rfl)
  | bracket _ ih => exact ih caseful
  | set forth back => exact transports.set forth back caseful caseful
  | value same => exact .ok (transports.coincide same)

theorem Alike.meaning (transports : Transports related here there) (alike : Alike related p p') :
    (∃ e e', p.meaning = .error e ∧ p'.meaning = .error e') ∨
      ∃ f f', p.meaning = .ok f ∧ p'.meaning = .ok f' ∧ SameAt here there f f' := by
  unfold Predicate.meaning
  have whole := alike.denote transports false
  generalize p.denote false = r, p'.denote false = r' at whole
  cases whole with
  | error => exact .inl ⟨_, _, rfl, rfl⟩
  | ok same =>
    cases same with
    | boolean same => exact .inr ⟨_, _, rfl, rfl, same⟩
    | _ => exact .inl ⟨_, _, rfl, rfl⟩

theorem Alike.builds_iff (transports : Transports related here there)
    (alike : Alike related p p') : (∃ f, p.meaning = .ok f) ↔ ∃ f', p'.meaning = .ok f' := by
  obtain ⟨e, e', failed, failed'⟩ | ⟨f, f', meant, meant', -⟩ := alike.meaning transports
  · simp [failed, failed']
  · simp [meant, meant']

theorem Alike.same_result (transports : Transports related here there)
    (alike : Alike related p p') {f f' : Meaning Bool} (found : p.meaning = .ok f)
    (found' : p'.meaning = .ok f') : SameAt here there f f' := by
  obtain ⟨_, _, failed, _⟩ | ⟨g, g', meant, meant', same⟩ := alike.meaning transports
  · rw [found] at failed
    cases failed
  · rw [found] at meant
    rw [found'] at meant'
    cases meant
    cases meant'
    exact same

end Predicate

end TimelineFilter
