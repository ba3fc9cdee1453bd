import TimelineFilter.Proofs.Correspondence
import TimelineFilter.Proofs.Grammar.Expressions
import TimelineFilter.Proofs.LetterCase.Tokens
import TimelineFilter.Standalone
import Mathlib.Data.List.Forall2

/-! Predicates whose bare words are written in other cases. The names of accounts and lists are kept
as they are written, so the trees can differ, even in the number of members that their sets have.
They differ in nothing that a context looks at. -/
namespace TimelineFilter

theorem forall₂_append {α : Type} {R : α → α → Prop} {xs ys zs : List α}
    (each : List.Forall₂ R (xs ++ ys) zs) :
    ∃ xs' ys', zs = xs' ++ ys' ∧ List.Forall₂ R xs xs' ∧ List.Forall₂ R ys ys' := by
  have front := List.forall₂_take xs.length each
  have back := List.forall₂_drop xs.length each
  rw [List.take_left] at front
  rw [List.drop_left] at back
  exact ⟨_, _, (List.take_append_drop xs.length zs).symm, front, back⟩

theorem forall₂_mem {α : Type} {R : α → α → Prop} {xs ys : List α} (each : List.Forall₂ R xs ys) :
    ∀ x ∈ xs, ∃ y ∈ ys, R x y := by
  induction each with
  | nil => simp
  | cons first _ ih =>
    intro x mem
    rcases List.mem_cons.1 mem with rfl | mem
    · exact ⟨_, List.mem_cons_self, first⟩
    · obtain ⟨y, mem', same⟩ := ih x mem
      exact ⟨y, List.mem_cons_of_mem _ mem', same⟩

namespace Text

theorem sameIgnoringCase_refl (a : String) : sameIgnoringCase a a = true :=
  sameIgnoringCase_iff.2 rfl

theorem sameIgnoringCase_symm {a b : String} (same : sameIgnoringCase a b = true) :
    sameIgnoringCase b a = true :=
  sameIgnoringCase_iff.2 (sameIgnoringCase_iff.1 same).symm

theorem marked_recased (mark : Char) (plain : mark.isAlpha = false) (rest : String) {word : String}
    (same : sameIgnoringCase (String.ofList [mark] ++ rest) word = true) :
    ∃ rest', word = String.ofList [mark] ++ rest' ∧ sameIgnoringCase rest rest' = true := by
  have letters := sameIgnoringCase_iff.1 same
  rw [String.toList_append, String.toList_ofList, List.cons_append, List.nil_append,
    List.map_cons] at letters
  obtain ⟨d, tail, whole, first, behind⟩ := List.map_eq_cons_iff.1 letters.symm
  refine ⟨String.ofList tail, ?_, ?_⟩
  · rw [← String.ofList_toList (s := word), whole, eq_of_toLower_eq plain first.symm,
      ← String.ofList_append]
    rfl
  · rw [sameIgnoringCase_iff, String.toList_ofList, behind]

end Text

namespace Lexeme.Recased

variable {x y : Lexeme}

theorem symm (recased : x.Recased y) : y.Recased x := by
  cases recased with
  | word same => exact .word (Text.sameIgnoringCase_symm same)
  | quoted => exact .quoted
  | symbol => exact .symbol

theorem isKeyword {keyword : String} (recased : x.Recased y) (same : x.IsKeyword keyword) :
    y.IsKeyword keyword := by
  obtain ⟨word, rfl, same⟩ := same
  cases recased with
  | word letters =>
    exact ⟨_, rfl, (Text.sameIgnoringCase_congr letters keyword).symm.trans same⟩

theorem name? {name : String} (recased : x.Recased y) (names : x.name? = some name) :
    ∃ name', y.name? = some name' ∧ Text.sameIgnoringCase name name' = true := by
  cases recased with
  | word same =>
    cases names
    exact ⟨_, rfl, same⟩
  | quoted =>
    cases names
    exact ⟨_, rfl, Text.sameIgnoringCase_refl _⟩
  | symbol => cases names

theorem writtenBinary {op : BinaryOp} (recased : x.Recased y) (written : op.Written x) :
    op.Written y := by
  rcases written with ⟨s, found, rfl⟩ | ⟨k, known, same⟩
  · cases recased
    exact .inl ⟨s, found, rfl⟩
  · exact .inr ⟨k, known, recased.isKeyword same⟩

theorem writtenUnary {op : UnaryOp} (recased : x.Recased y) (written : op.Written x) :
    op.Written y := by
  cases written with
  | not =>
    cases recased
    exact .not
  | negate =>
    cases recased
    exact .negate
  | caseful same => exact .caseful (recased.isKeyword same)

end Lexeme.Recased

abbrev RecasedAll := List.Forall₂ Lexeme.Recased

theorem Catalogue.Spells.recased {α : Type} [Catalogue α] {word word' : String} {a : α}
    (spells : Catalogue.Spells word a) (same : Text.sameIgnoringCase word word' = true) :
    Catalogue.Spells word' a := by
  obtain ⟨s, known, agrees⟩ := spells
  exact ⟨s, known, (Text.sameIgnoringCase_congr same s).symm.trans agrees⟩

theorem Text.Numeral.recased {digits digits' : List Char} {n : Int64}
    (numeral : Text.Numeral digits n)
    (same : digits.map Char.toLower = digits'.map Char.toLower) : digits' = digits :=
  Text.eq_of_digits numeral.2.1 same

inductive Selector.Recased : Selector → Selector → Prop
  | same (s : Selector) : Recased s s
  | named {name name' : String} (same : Text.sameIgnoringCase name name' = true) :
      Recased (.named name) (.named name')

inductive Value.Recased : Value → Value → Prop
  | same (v : Value) : Recased v v
  | account {s s' : Selector} (selector : s.Recased s') : Recased (.account s) (.account s')
  | relation {s s' : Selector} {r : Relation} (selector : s.Recased s') :
      Recased (.relation s r) (.relation s' r)
  | list {owner owner' slug slug' : String} (owned : Text.sameIgnoringCase owner owner' = true)
      (named : Text.sameIgnoringCase slug slug' = true) :
      Recased (.list owner slug) (.list owner' slug')

variable {xs ys : List Lexeme}

theorem Selector.Spelled.recased {s : Selector} (spelled : Selector.Spelled xs s)
    (each : RecasedAll xs ys) : ∃ s', Selector.Spelled ys s' ∧ s.Recased s' := by
  cases spelled with
  | star =>
    obtain _ | ⟨⟨⟩, ⟨⟩⟩ := each
    exact ⟨_, .star, .same _⟩
  | ours known same =>
    obtain _ | ⟨first, ⟨⟩⟩ := each
    exact ⟨_, .ours known (first.isKeyword same), .same _⟩
  | attached nonempty =>
    obtain _ | ⟨⟨same⟩, ⟨⟩⟩ := each
    obtain ⟨name', rfl, same'⟩ := Text.marked_recased '@' (by decide) _ same
    refine ⟨_, .attached ?_, .named same'⟩
    rintro rfl
    exact nonempty (by simpa [Text.sameIgnoringCase] using same')
  | apart names =>
    obtain _ | ⟨⟨same⟩, _ | ⟨⟨⟩, _ | ⟨last, ⟨⟩⟩⟩⟩ := each
    obtain ⟨rest, rfl, same'⟩ := Text.marked_recased '@' (by decide) "" same
    obtain rfl : rest = "" := by simpa [Text.sameIgnoringCase] using same'
    obtain ⟨name', names', letters⟩ := last.name? names
    exact ⟨_, .apart names', .named letters⟩
  | id numeral =>
    obtain _ | ⟨⟨same⟩, ⟨⟩⟩ := each
    obtain ⟨digits', rfl, same'⟩ := Text.marked_recased '#' (by decide) _ same
    have digits := numeral.recased (Text.sameIgnoringCase_iff.1 same')
    exact ⟨_, .id (digits ▸ numeral), .same _⟩

theorem Value.Followed.recased {α : Type} [Catalogue α] {alone alone' v : Value}
    {entry entry' : α → Value} (followed : Value.Followed alone entry xs v)
    (each : RecasedAll xs ys) (one : alone.Recased alone')
    (other : ∀ a, (entry a).Recased (entry' a)) :
    ∃ v', Value.Followed alone' entry' ys v' ∧ v.Recased v' := by
  cases followed with
  | alone =>
    cases each
    exact ⟨_, .alone, one⟩
  | named known =>
    obtain _ | ⟨⟨⟩, _ | ⟨⟨same⟩, ⟨⟩⟩⟩ := each
    exact ⟨_, .named (known.recased same), other _⟩

theorem Value.Spelled.recased {v : Value} (spelled : Value.Spelled xs v)
    (each : RecasedAll xs ys) : ∃ v', Value.Spelled ys v' ∧ v.Recased v' := by
  cases spelled with
  | text =>
    obtain _ | ⟨⟨⟩, ⟨⟩⟩ := each
    exact ⟨_, .text, .same _⟩
  | number numeral =>
    obtain _ | ⟨⟨same⟩, ⟨⟩⟩ := each
    have digits := numeral.recased (Text.sameIgnoringCase_iff.1 same)
    exact ⟨_, .number (digits ▸ numeral), .same _⟩
  | selected selector rest =>
    obtain ⟨front, back, rfl, first, second⟩ := forall₂_append each
    obtain ⟨s', spelled, same⟩ := selector.recased first
    obtain ⟨v', followed, same'⟩ := rest.recased second (.account same) fun _ => .relation same
    exact ⟨v', .selected spelled followed, same'⟩
  | person keyword rest =>
    obtain _ | ⟨first, second⟩ := each
    obtain ⟨v', followed, same⟩ := rest.recased second (.same _) fun _ => .same _
    exact ⟨v', .person (first.isKeyword keyword) followed, same⟩
  | list keyword owned named =>
    obtain _ | ⟨first, _ | ⟨⟨⟩, _ | ⟨second, _ | ⟨⟨⟩, _ | ⟨third, ⟨⟩⟩⟩⟩⟩⟩ := each
    obtain ⟨owner', owned', same⟩ := second.name? owned
    obtain ⟨slug', named', same'⟩ := third.name? named
    exact ⟨_, .list (first.isKeyword keyword) owned' named', .list same same'⟩
  | field known =>
    obtain _ | ⟨⟨same⟩, ⟨⟩⟩ := each
    exact ⟨_, .field (known.recased same), .same _⟩

theorem Value.SpelledMany.recased {vs : List Value} (spelled : Value.SpelledMany xs vs)
    (each : RecasedAll xs ys) :
    ∃ vs', Value.SpelledMany ys vs' ∧ List.Forall₂ Value.Recased vs vs' := by
  induction spelled generalizing ys with
  | one first =>
    obtain ⟨v', spelled, same⟩ := first.recased each
    exact ⟨[v'], .one spelled, .cons same .nil⟩
  | more first _ ih =>
    obtain ⟨front, back, rfl, one, behind⟩ := forall₂_append each
    obtain _ | ⟨⟨⟩, others⟩ := behind
    obtain ⟨v', spelled, same⟩ := first.recased one
    obtain ⟨vs', spelled', same'⟩ := ih others
    exact ⟨v' :: vs', .more spelled spelled', .cons same same'⟩

namespace Predicate

/-- Each step of the derivation is made again. The members that a set keeps may be others, since two
spellings of one name are two members. -/
theorem Derives.recased {level : Level} {p : Predicate} (derived : Derives level xs p)
    (each : RecasedAll xs ys) : ∃ q, Derives level ys q ∧ Alike Value.Recased p q := by
  induction derived generalizing ys with
  | tighter _ ih =>
    obtain ⟨q, derived, alike⟩ := ih each
    exact ⟨q, .tighter derived, alike⟩
  | binary _ written level _ ih ih' =>
    obtain ⟨front, back, rfl, first, behind⟩ := forall₂_append each
    obtain _ | ⟨operator, second⟩ := behind
    obtain ⟨left, derived, alike⟩ := ih first
    obtain ⟨right, derived', alike'⟩ := ih' second
    exact ⟨_, .binary derived (operator.writtenBinary written) level derived',
      .binary alike alike'⟩
  | atom _ ih =>
    obtain ⟨q, derived, alike⟩ := ih each
    exact ⟨q, .atom derived, alike⟩
  | unary written _ ih =>
    obtain _ | ⟨operator, rest⟩ := each
    obtain ⟨q, derived, alike⟩ := ih rest
    exact ⟨_, .unary (operator.writtenUnary written) derived, .unary alike⟩
  | always =>
    obtain _ | ⟨⟨⟩, _ | ⟨⟨⟩, ⟨⟩⟩⟩ := each
    exact ⟨_, .always, .always⟩
  | bracket _ ih =>
    obtain _ | ⟨⟨⟩, behind⟩ := each
    obtain ⟨front, back, rfl, inner, last⟩ := forall₂_append behind
    obtain _ | ⟨⟨⟩, ⟨⟩⟩ := last
    obtain ⟨q, derived, alike⟩ := ih inner
    exact ⟨_, .bracket derived, .bracket alike⟩
  | emptySet =>
    obtain _ | ⟨⟨⟩, _ | ⟨⟨⟩, ⟨⟩⟩⟩ := each
    exact ⟨_, .emptySet, .set (by simp) (by simp)⟩
  | set members =>
    obtain _ | ⟨⟨⟩, behind⟩ := each
    obtain ⟨front, back, rfl, inner, last⟩ := forall₂_append behind
    obtain _ | ⟨⟨⟩, ⟨⟩⟩ := last
    obtain ⟨vs', spelled, same⟩ := members.recased inner
    refine ⟨_, .set spelled, .set ?_ ?_⟩
    · intro v mem
      obtain ⟨v', mem', same'⟩ := forall₂_mem same v (List.mem_eraseDups.1 mem)
      exact ⟨v', List.mem_eraseDups.2 mem', same'⟩
    · intro v' mem'
      obtain ⟨v, mem, same'⟩ := forall₂_mem (R := flip Value.Recased) same.flip v'
        (List.mem_eraseDups.1 mem')
      exact ⟨v, List.mem_eraseDups.2 mem, same'⟩
  | value spelled =>
    obtain ⟨v', spelled', same⟩ := spelled.recased each
    exact ⟨_, .value spelled', .value same⟩

theorem DerivesWhole.recased {p : Predicate} (derived : DerivesWhole xs p)
    (each : RecasedAll xs ys) : ∃ q, DerivesWhole ys q ∧ Alike Value.Recased p q := by
  cases derived with
  | empty =>
    cases each
    exact ⟨_, .empty, .always⟩
  | bare root =>
    obtain ⟨q, derived, alike⟩ := root.recased each
    exact ⟨q, .bare derived, alike⟩
  | introduced same root =>
    obtain _ | ⟨first, rest⟩ := each
    obtain ⟨q, derived, alike⟩ := root.recased rest
    exact ⟨q, .introduced (first.isKeyword same) derived, alike⟩

end Predicate

namespace Context

theorem select_recased (c : Context) {s s' : Selector} (selector : s.Recased s') :
    c.select s = c.select s' := by
  cases selector with
  | same => rfl
  | named same => simp only [select, findByName?, Text.lower_congr same]

theorem members?_recased (c : Context) {owner owner' slug slug' : String}
    (owned : Text.sameIgnoringCase owner owner' = true)
    (named : Text.sameIgnoringCase slug slug' = true) :
    c.members? owner slug = c.members? owner' slug' := by
  simp only [members?, Text.lower_congr owned, Text.lower_congr named]

end Context

theorem Value.Recased.coincide {v v' : Value} (recased : v.Recased v') (place : Place) :
    TypedMeaning.Coincide place place (.ofValue v) (.ofValue v') := by
  cases recased with
  | same => exact .refl _
  | account selector =>
    refine .user fun id => ?_
    rw [Context.select_recased _ selector]
  | relation selector =>
    refine .set ?_
    simp only [SameAt, Context.related, Context.select_recased _ selector]
  | list owned named =>
    refine .set ?_
    simp only [SameAt, Context.members?_recased _ owned named]

namespace Predicate

theorem transports_recased (place : Place) : Transports Value.Recased place place where
  coincide recased := recased.coincide place
  constant recased := by cases recased <;> simp

theorem ofText_of_closed {text : String} (closed : (scan false text).unclosed = none) :
    ofText text = ofTokens (scan false text).tokens := by
  unfold ofText
  split <;> simp_all

theorem exists_ofTokens {ts ts' : List Token} (each : RecasedAll (lexemes ts) (lexemes ts'))
    {p : Predicate} (read : ofTokens ts = .ok p) :
    ∃ q, ofTokens ts' = .ok q ∧ Alike Value.Recased p q := by
  obtain ⟨q, derived, alike⟩ := (ofTokens_eq_ok_iff.1 read).recased each
  exact ⟨q, ofTokens_eq_ok_iff.2 derived, alike⟩

/-- Outside quoted strings the case of ASCII letters plays no part: recased text is read if the text
is, its tree has a meaning if the tree of the text has, and then both mean the same. -/
theorem ofText_recased [Regex.Engine] {text text' : String}
    (closed : (scan false text).unclosed = none) (recased : Recased text text') :
    ((∃ p, ofText text = .ok p) ↔ ∃ p', ofText text' = .ok p') ∧
      ∀ p p', ofText text = .ok p → ofText text' = .ok p' →
        ((∃ f, p.meaning = .ok f) ↔ ∃ f', p'.meaning = .ok f') ∧
          ∀ f f', p.meaning = .ok f → p'.meaning = .ok f' → ∀ s c, f s c = f' s c := by
  obtain ⟨closed', each⟩ := recased.lexemes closed
  have back : RecasedAll (lexemes (scan false text').tokens) (lexemes (scan false text).tokens) :=
    (each.imp fun _ _ same => same.symm).flip
  rw [ofText_of_closed closed, ofText_of_closed closed']
  refine ⟨⟨?_, ?_⟩, ?_⟩
  · rintro ⟨p, read⟩
    obtain ⟨q, read', -⟩ := exists_ofTokens each read
    exact ⟨q, read'⟩
  · rintro ⟨p', read'⟩
    obtain ⟨q, read, -⟩ := exists_ofTokens back read'
    exact ⟨q, read⟩
  · intro p p' read read'
    obtain ⟨q, again, alike⟩ := exists_ofTokens each read
    obtain rfl : q = p' := Except.ok.inj (again.symm.trans read')
    exact ⟨alike.builds_iff (transports_recased default), fun f f' found found' s c =>
      alike.same_result (transports_recased ⟨s, c⟩) found found'⟩

open scoped Standalone

/-- The name of an account and a keyword in other cases. -/
theorem ofText_recased_account :
    ∃ p p' f f', ofText "@Ann -> user" = .ok p ∧ ofText "@aNn -> User" = .ok p' ∧
      p.meaning = .ok f ∧ p'.meaning = .ok f' ∧ ∀ s c, f s c = f' s c := by
  have scanned : scan false "@Ann -> user" =
      ⟨[⟨.word "@Ann", 0⟩, ⟨.symbol .contains, 5⟩, ⟨.word "user", 8⟩], none⟩ := by decide +kernel
  have closed : (scan false "@Ann -> user").unclosed = none := by rw [scanned]
  have recased : Recased "@Ann -> user" "@aNn -> User" := by
    have inside : ∀ place, place < 4 ∨ 8 ≤ place ∧ place < 12 →
        WordAt (scan false "@Ann -> user").tokens place := by
      rintro place (low | ⟨low, high⟩)
      · exact ⟨⟨.word "@Ann", 0⟩, by simp [scanned], "@Ann", rfl, Nat.zero_le _, low⟩
      · exact ⟨⟨.word "user", 8⟩, by simp [scanned], "user", rfl, low, high⟩
    exact .kept (.changed (inside _ (by decide)) rfl (.changed (inside _ (by decide)) rfl
      (.kept (.kept (.kept (.kept (.kept (.changed (inside _ (by decide)) rfl
        (.kept (.kept (.kept .nil)))))))))))
  have selected : Selector.Spelled [.word "@Ann"] (.named "Ann") :=
    @Selector.Spelled.attached "Ann" (by decide)
  have account : Derives .atom [.word "@Ann"] (.value (.account (.named "Ann"))) :=
    .value (.selected selected .alone)
  have author : Derives .atom [.word "user"] (.value (.person .author)) :=
    .value (.person ⟨_, rfl, by decide⟩ .alone)
  have contains : Derives (.binary .matching) [.word "@Ann", .symbol .contains, .word "user"]
      (.binary .contains (.value (.account (.named "Ann"))) (.value (.person .author))) :=
    .binary (account.loosen (by decide)) (.inl ⟨_, rfl, rfl⟩) rfl (author.loosen (by decide))
  have read : ofText "@Ann -> user" =
      .ok (.binary .contains (.value (.account (.named "Ann"))) (.value (.person .author))) := by
    rw [ofText_of_closed closed, ofTokens_eq_ok_iff, scanned]
    exact .bare (contains.loosen (by decide))
  obtain ⟨again, same⟩ := ofText_recased closed recased
  obtain ⟨p', read'⟩ := again.1 ⟨_, read⟩
  obtain ⟨builds, equal⟩ := same _ _ read read'
  obtain ⟨f', found'⟩ := builds.1 ⟨_, rfl⟩
  exact ⟨_, p', _, f', read, read', rfl, found', equal _ _ rfl found'⟩

end Predicate

end TimelineFilter
