import TimelineFilter.Predicate.Reader
import TimelineFilter.Proofs.Grammar.Values

namespace TimelineFilter

namespace BinaryOp

def symbol? : BinaryOp → Option Symbol
  | .or => some .or
  | .and => some .and
  | .equals => some .equals
  | .notEquals => some .notEquals
  | .less => some .less
  | .lessOrEqual => some .lessOrEqual
  | .greater => some .greater
  | .greaterOrEqual => some .greaterOrEqual
  | .contains => some .contains
  | .containedIn => some .containedIn
  | .add => some .plus
  | .subtract => some .minus
  | .multiply => some .star
  | .divide => some .slash
  | .startsWith | .endsWith | .regex => none

def words : BinaryOp → List String
  | .contains => ["contains"]
  | .containedIn => ["in"]
  | .startsWith => ["startswith", "startwith"]
  | .endsWith => ["endswith", "endwith"]
  | .regex => ["match", "regex"]
  | _ => []

/-- The lexeme is the symbol of the operator, or one of its words in any ASCII case. -/
def Written (op : BinaryOp) (x : Lexeme) : Prop :=
  (∃ s, op.symbol? = some s ∧ x = .symbol s) ∨ ∃ k ∈ op.words, x.IsKeyword k

theorem ofLexeme?_word (word : String) :
    ofLexeme? (.word word) = match Text.lowerAscii word with
    | "contains" => some .contains
    | "in" => some .containedIn
    | "startswith" | "startwith" => some .startsWith
    | "endswith" | "endwith" => some .endsWith
    | "match" | "regex" => some .regex
    | _ => none := rfl

theorem ofLexeme?_of_keyword {op : BinaryOp} {k : String} (mem : k ∈ op.words) :
    ofLexeme? (.word k) = some op ∧ Text.lowerAscii k = k := by
  revert k
  cases op <;> decide

theorem mem_words_of_ofLexeme? {op : BinaryOp} {word : String}
    (found : ofLexeme? (.word word) = some op) : Text.lowerAscii word ∈ op.words := by
  rw [ofLexeme?_word] at found
  split at found <;> cases found <;> simp [words, *]

theorem ofLexeme?_eq_some_iff {op : BinaryOp} {x : Lexeme} :
    ofLexeme? x = some op ↔ op.Written x := by
  constructor
  · intro found
    cases x with
    | word word =>
      have mem := mem_words_of_ofLexeme? found
      have lower := (ofLexeme?_of_keyword mem).2
      exact .inr ⟨_, mem, word, rfl, Text.sameIgnoringCase_of_lowerAscii rfl lower⟩
    | quoted text => cases found
    | symbol s => cases s <;> cases found <;> exact .inl ⟨_, rfl, rfl⟩
  · rintro (⟨s, found, rfl⟩ | ⟨k, mem, word, rfl, same⟩)
    · cases op <;> cases found <;> rfl
    · obtain ⟨found, -⟩ := ofLexeme?_of_keyword mem
      rw [ofLexeme?_word] at found ⊢
      rw [Text.lowerAscii_congr same, found]

end BinaryOp

inductive UnaryOp.Written : UnaryOp → Lexeme → Prop
  | not : Written .not (.symbol .exclamation)
  | negate : Written .negate (.symbol .minus)
  | caseful {x : Lexeme} (same : x.IsKeyword "caseful") : Written .caseful x

theorem UnaryOp.ofLexeme?_eq_some_iff {op : UnaryOp} {x : Lexeme} :
    ofLexeme? x = some op ↔ op.Written x := by
  constructor
  · intro found
    unfold ofLexeme? at found
    split at found
    · cases found
      exact .not
    · cases found
      exact .negate
    · rename_i word
      split at found
      · rename_i same
        cases found
        exact .caseful ⟨word, rfl, same⟩
      · cases found
    · cases found
  · intro written
    cases written with
    | not => rfl
    | negate => rfl
    | caseful same =>
      obtain ⟨word, rfl, same⟩ := same
      simp [ofLexeme?, same]

theorem BinaryLevel.operator?_eq_some_iff {level : BinaryLevel} {op : BinaryOp} {x : Lexeme} :
    level.operator? x = some op ↔ op.Written x ∧ op.level = level := by
  simp [operator?, BinaryOp.ofLexeme?_eq_some_iff]

theorem BinaryLevel.rank_tighter (level : BinaryLevel) :
    level.tighter.rank = level.rank + 1 := by
  cases level <;> rfl

theorem BinaryLevel.rank_inj {a b : BinaryLevel} (same : a.rank = b.rank) : a = b := by
  cases a <;> cases b <;> first | rfl | cases same

theorem BinaryLevel.rank_lt (level : BinaryLevel) : level.rank < Level.unary.rank := by
  cases level <;> decide

theorem Level.rank_inj {a b : Level} (same : a.rank = b.rank) : a = b := by
  cases a with
  | binary a =>
    cases b with
    | binary b => rw [BinaryLevel.rank_inj same]
    | unary => exact absurd same (Nat.ne_of_lt a.rank_lt)
    | atom => exact absurd same (Nat.ne_of_lt (Nat.lt_trans a.rank_lt (by decide)))
  | unary =>
    cases b with
    | binary b => exact absurd same.symm (Nat.ne_of_lt b.rank_lt)
    | unary => rfl
    | atom => cases same
  | atom =>
    cases b with
    | binary b => exact absurd same.symm (Nat.ne_of_lt (Nat.lt_trans b.rank_lt (by decide)))
    | unary => cases same
    | atom => rfl

theorem Level.loosen {P : Level → Prop} (tighter : ∀ {b : BinaryLevel}, P b.tighter → P (.binary b))
    (atom : P .atom → P .unary) {level strong : Level} (holds : P strong)
    (looser : level.rank ≤ strong.rank) : P level := by
  generalize steps : strong.rank - level.rank = n
  induction n generalizing level with
  | zero =>
    obtain rfl : level = strong := Level.rank_inj (by omega)
    exact holds
  | succ n ih =>
    have bound := strong.rank_le
    cases level with
    | binary b =>
      have next := b.rank_tighter
      have own : (Level.binary b).rank = b.rank := rfl
      exact tighter (ih (by omega) (by omega))
    | unary =>
      have own : Level.unary.rank = 7 := rfl
      obtain rfl : strong = .atom := Level.rank_inj (show strong.rank = 8 by omega)
      exact atom holds
    | atom =>
      have own : Level.atom.rank = 8 := rfl
      omega

def reserved : List String := ["from", "where", "caseful"]

theorem reserved_startsLower : ∀ k ∈ reserved, Text.startsLower k = true := by decide

theorem reserved_no_field : ∀ k ∈ reserved, (Catalogue.find? k : Option StatusField) = none := by
  decide

theorem reserved_no_keyword :
    ∀ k ∈ reserved, ∀ other ∈ Value.keywords, Text.sameIgnoringCase k other = false := by
  decide

theorem Lexeme.IsKeyword.agree {x : Lexeme} {k other : String} (same : x.IsKeyword k)
    (again : x.IsKeyword other) : Text.sameIgnoringCase k other = true := by
  obtain ⟨word, rfl, same⟩ := same
  obtain ⟨_, spelled, again⟩ := again
  cases spelled
  rwa [← Text.sameIgnoringCase_congr same]

theorem Selector.Spelled.not_reserved {x : Lexeme} {xs : List Lexeme} {s : Selector} {k : String}
    (spelled : Selector.Spelled (x :: xs) s) (known : k ∈ reserved) : ¬ x.IsKeyword k := by
  intro same
  have members : ∀ k ∈ ["we", "our", "us"], k ∈ Value.keywords := by decide
  have keyword' := same
  obtain ⟨word, rfl, agrees⟩ := keyword'
  obtain ⟨notAt, notHash, notDigits⟩ := Text.plain_of_same agrees (reserved_startsLower k known)
  generalize whole : .word word :: xs = ys at spelled
  cases spelled with
  | star => cases whole
  | ours member keyword =>
    obtain ⟨rfl, -⟩ := List.cons.inj whole
    have apart := reserved_no_keyword k known _ (members _ member)
    rw [same.agree keyword] at apart
    cases apart
  | attached => simp_all
  | apart => simp_all
  | id => simp_all

theorem Value.Spelled.not_reserved {x : Lexeme} {xs : List Lexeme} {v : Value} {k : String}
    (spelled : Value.Spelled (x :: xs) v) (known : k ∈ reserved) : ¬ x.IsKeyword k := by
  intro same
  have apart := reserved_no_keyword k known
  generalize whole : x :: xs = ys at spelled
  cases spelled with
  | text =>
    obtain ⟨rfl, -⟩ := List.cons.inj whole
    obtain ⟨_, impossible, -⟩ := same
    cases impossible
  | number numeral =>
    obtain ⟨rfl, -⟩ := List.cons.inj whole
    obtain ⟨_, spelled, agrees⟩ := same
    cases spelled
    obtain ⟨-, -, notDigits⟩ := Text.plain_of_same agrees (reserved_startsLower k known)
    rw [List.all_eq_true.2 numeral.2.1] at notDigits
    cases notDigits
  | @selected xs' ys s v selector rest =>
    cases xs' with
    | nil => cases selector
    | cons y xs' =>
      obtain ⟨rfl, -⟩ := List.cons.inj whole
      exact selector.not_reserved known same
  | @person y ys who v keyword rest =>
    obtain ⟨rfl, -⟩ := List.cons.inj whole
    have none := apart who.render (by cases who <;> decide)
    rw [same.agree keyword] at none
    cases none
  | list keyword =>
    obtain ⟨rfl, -⟩ := List.cons.inj whole
    have none := apart "list" (by decide)
    rw [same.agree keyword] at none
    cases none
  | field spells =>
    obtain ⟨rfl, -⟩ := List.cons.inj whole
    obtain ⟨_, spelled, agrees⟩ := same
    cases spelled
    have found := Catalogue.find?_eq_some_iff.2 spells
    rw [Catalogue.find?_congr agrees, reserved_no_field k known] at found
    cases found

theorem Value.Spelled.symbol_eq_star {s : Symbol} {xs : List Lexeme} {v : Value}
    (spelled : Value.Spelled (.symbol s :: xs) v) : s = .star := by
  generalize whole : .symbol s :: xs = ys at spelled
  cases spelled with
  | @selected xs' ys s v selector rest =>
    cases selector with
    | star => exact Lexeme.symbol.inj (List.cons.inj whole).1
    | ours known keyword =>
      obtain ⟨_, rfl, -⟩ := keyword
      cases whole
    | attached => cases whole
    | apart => cases whole
    | id => cases whole
  | person keyword =>
    obtain ⟨_, rfl, -⟩ := keyword
    cases whole
  | list keyword =>
    obtain ⟨_, rfl, -⟩ := keyword
    cases whole
  | _ => cases whole

theorem Value.SpelledMany.head {xs : List Lexeme} {vs : List Value}
    (spelled : Value.SpelledMany xs vs) :
    ∃ x tail v ys, xs = x :: tail ∧ Value.Spelled (x :: ys) v := by
  cases spelled with
  | @one xs v first | @more xs ys v vs first =>
    cases xs with
    | nil => exact absurd rfl first.ne_nil
    | cons x xs => exact ⟨x, _, v, xs, rfl, first⟩

theorem Value.SpelledMany.lacks_close {xs : List Lexeme} {vs : List Value}
    (spelled : Value.SpelledMany xs vs) (ys : List Lexeme) : Lacks .closeSquare (xs ++ ys) := by
  obtain ⟨x, tail, v, zs, rfl, first⟩ := spelled.head
  intro closed
  obtain rfl : x = .symbol .closeSquare := by simpa using closed
  cases first.symbol_eq_star

theorem Value.Spelled.not_unary {x : Lexeme} {xs : List Lexeme} {v : Value}
    (spelled : Value.Spelled (x :: xs) v) : UnaryOp.ofLexeme? x = none := by
  cases found : UnaryOp.ofLexeme? x with
  | none => rfl
  | some op =>
    cases UnaryOp.ofLexeme?_eq_some_iff.1 found with
    | not => cases spelled.symbol_eq_star
    | negate => cases spelled.symbol_eq_star
    | caseful same => exact absurd same (spelled.not_reserved (by decide))

namespace Predicate

/-- The grammar. A binary operator stands between an expression of the next tighter level and one
of its own level, so it associates to the right. A member of a set that stands twice counts once,
at its first place. -/
inductive Derives : Level → List Lexeme → Predicate → Prop
  | tighter {b : BinaryLevel} {xs : List Lexeme} {p : Predicate}
      (inner : Derives b.tighter xs p) : Derives (.binary b) xs p
  | binary {b : BinaryLevel} {op : BinaryOp} {x : Lexeme} {xs ys : List Lexeme}
      {left right : Predicate} (first : Derives b.tighter xs left) (written : op.Written x)
      (level : op.level = b) (second : Derives (.binary b) ys right) :
      Derives (.binary b) (xs ++ x :: ys) (.binary op left right)
  | atom {xs : List Lexeme} {p : Predicate} (inner : Derives .atom xs p) : Derives .unary xs p
  | unary {op : UnaryOp} {x : Lexeme} {xs : List Lexeme} {operand : Predicate}
      (written : op.Written x) (inner : Derives .unary xs operand) :
      Derives .unary (x :: xs) (.unary op operand)
  | always : Derives .atom [.symbol .openParen, .symbol .closeParen] .always
  | bracket {xs : List Lexeme} {p : Predicate} (inner : Derives .loosest xs p) :
      Derives .atom (.symbol .openParen :: xs ++ [.symbol .closeParen]) (.bracket p)
  | emptySet : Derives .atom [.symbol .openSquare, .symbol .closeSquare] (.set [])
  | set {xs : List Lexeme} {vs : List Value} (members : Value.SpelledMany xs vs) :
      Derives .atom (.symbol .openSquare :: xs ++ [.symbol .closeSquare]) (.set vs.eraseDups)
  | value {xs : List Lexeme} {v : Value} (spelled : Value.Spelled xs v) :
      Derives .atom xs (.value v)

theorem Derives.loosen {level strong : Level} {xs : List Lexeme} {p : Predicate}
    (derived : Derives strong xs p) (looser : level.rank ≤ strong.rank) : Derives level xs p :=
  Level.loosen (P := fun level => Derives level xs p) .tighter .atom derived looser

/-- A predicate whose last lexemes could go on behind a period. -/
def isOpen : Predicate → Bool
  | .binary _ _ right => right.isOpen
  | .unary _ operand => operand.isOpen
  | .value v => v.isOpen
  | _ => false

/-- The lexemes that follow do not go on with an expression of this level. -/
def EndsBefore (level : Level) (p : Predicate) (xs : List Lexeme) : Prop :=
  (∀ x ∈ xs.head?, ∀ op : BinaryOp, op.Written x → op.level.rank < level.rank) ∧
    (p.isOpen = true → Lacks .period xs)

theorem endsBefore_nil (level : Level) (p : Predicate) : p.EndsBefore level [] := by
  constructor
  · intro x mem
    cases mem
  · intro _
    simp [Lacks]

theorem EndsBefore.tighter {b : BinaryLevel} {p : Predicate} {xs : List Lexeme}
    (ends : p.EndsBefore (.binary b) xs) : p.EndsBefore b.tighter xs := by
  refine ⟨?_, ends.2⟩
  intro x mem op written
  have looser : op.level.rank < b.rank := ends.1 x mem op written
  rw [b.rank_tighter]
  omega

theorem endsBefore_operator {op : BinaryOp} {x : Lexeme} (written : op.Written x) (p : Predicate)
    (xs : List Lexeme) : p.EndsBefore op.level.tighter (x :: xs) := by
  constructor
  · intro y mem other written'
    obtain rfl : x = y := by simpa using mem
    have same : some op = some other := by
      rw [← BinaryOp.ofLexeme?_eq_some_iff.2 written, BinaryOp.ofLexeme?_eq_some_iff.2 written']
    cases same
    exact op.level.rank_lt_tighter
  · rintro - same
    obtain rfl : x = .symbol .period := by simpa using same
    cases BinaryOp.ofLexeme?_eq_some_iff.2 written

theorem endsBefore_symbol {s : Symbol} (closing : s = .closeParen ∨ s = .closeSquare)
    (level : Level) (p : Predicate) (xs : List Lexeme) : p.EndsBefore level (.symbol s :: xs) := by
  constructor
  · intro x mem op written
    obtain rfl : .symbol s = x := by simpa using mem
    have none : BinaryOp.ofLexeme? (.symbol s) = none := by rcases closing with rfl | rfl <;> rfl
    rw [BinaryOp.ofLexeme?_eq_some_iff.2 written] at none
    cases none
  · rintro -
    rcases closing with rfl | rfl <;> simp [Lacks]

theorem operator?_eq_none {b : BinaryLevel} {p : Predicate} {x : Lexeme} {xs : List Lexeme}
    (ends : p.EndsBefore (.binary b) (x :: xs)) : b.operator? x = none := by
  cases found : b.operator? x with
  | none => rfl
  | some op =>
    obtain ⟨written, same⟩ := BinaryLevel.operator?_eq_some_iff.1 found
    have looser : op.level.rank < b.rank := ends.1 x rfl op written
    rw [same] at looser
    omega

theorem EndsBefore.loosen {b : BinaryLevel} {p : Predicate} {xs : List Lexeme}
    (ends : p.EndsBefore b.tighter xs) (last : ∀ x ∈ xs.head?, b.operator? x = none) :
    p.EndsBefore (.binary b) xs := by
  refine ⟨?_, ends.2⟩
  intro x mem op written
  have bound := ends.1 x mem op written
  rw [b.rank_tighter] at bound
  have apart : op.level.rank ≠ b.rank := by
    intro same
    have found := BinaryLevel.operator?_eq_some_iff.2 ⟨written, BinaryLevel.rank_inj same⟩
    rw [last x mem] at found
    cases found
  show op.level.rank < b.rank
  omega

theorem endsBefore_atom {p : Predicate} {xs : List Lexeme}
    (ends : p.isOpen = true → Lacks .period xs) : p.EndsBefore .atom xs := by
  refine ⟨?_, ends⟩
  intro x mem op written
  exact Nat.lt_trans op.level.rank_lt (by decide)

theorem filter_distinct (keep : Value → Bool) (vs : List Value) :
    (distinct vs).filter keep = distinct (vs.filter keep) := by
  induction vs with
  | nil => rfl
  | cons v vs ih =>
    by_cases kept : keep v = true
    · rw [distinct, List.filter_cons_of_pos kept, List.filter_cons_of_pos kept, distinct, ← ih,
        List.filter_filter, List.filter_filter]
      simp only [Bool.and_comm]
    · rw [distinct, List.filter_cons_of_neg kept, List.filter_cons_of_neg kept, ← ih,
        List.filter_filter]
      apply List.filter_congr
      intro w mem
      by_cases same : w = v
      · simp [same, kept]
      · simp [same]

theorem distinct_eq_eraseDups (vs : List Value) : distinct vs = vs.eraseDups := by
  induction h : vs.length using Nat.strongRecOn generalizing vs with
  | _ n ih =>
    cases vs with
    | nil => rfl
    | cons v vs =>
      have shorter : (vs.filter fun w => !w == v).length < n := by
        have := List.length_filter_le (fun w => !w == v) vs
        simp only [List.length_cons] at h
        omega
      rw [distinct, filter_distinct, List.eraseDups_cons, ← ih _ shorter _ rfl]
      rfl

abbrev SetBody (xs : List Lexeme) (p : Predicate) : Prop :=
  (xs = [.symbol .closeSquare] ∧ p = .set []) ∨
    ∃ ys vs, xs = ys ++ [.symbol .closeSquare] ∧ Value.SpelledMany ys vs ∧ p = .set vs.eraseDups

theorem readSet_reads : Reads readSet SetBody Anywhere := by
  intro ts p rest
  constructor
  · intro got
    unfold readSet at got
    split at got
    · rename_i after accepted
      obtain ⟨after, lt⟩ := after
      obtain ⟨t, rfl, same⟩ := of_accept?_eq_some accepted
      obtain ⟨rfl, rfl⟩ := leaves_ok.1 got
      exact ⟨[t], rfl, .inl ⟨by simp [same], rfl⟩, trivial⟩
    · split at got
      · exact absurd got leaves_error
      · rename_i vs more lt found
        obtain ⟨front, rfl, members, -⟩ := Value.readMany_reads.sound found
        split at got
        · exact absurd got leaves_error
        · rename_i after lt' accepted
          obtain ⟨t, rfl, same⟩ := of_expect_eq_ok accepted
          obtain ⟨rfl, rfl⟩ := leaves_ok.1 got
          refine ⟨front ++ [t], by simp, .inr ⟨_, vs, by simp [same], members, ?_⟩, trivial⟩
          rw [setOf, distinct_eq_eraseDups]
  · rintro ⟨front, rfl, ⟨whole, rfl⟩ | ⟨ys, vs, whole, members, rfl⟩, -⟩
    · obtain ⟨t, _, rfl, same, empty⟩ := lexemes_eq_cons.1 whole
      obtain rfl := lexemes_eq_nil.1 empty
      simp [readSet, accept?_cons same, setOf, distinct]
    · obtain ⟨inner, _, rfl, rfl, closing⟩ := lexemes_eq_append.1 whole
      obtain ⟨t, _, rfl, same, empty⟩ := lexemes_eq_cons.1 closing
      obtain rfl := lexemes_eq_nil.1 empty
      have ended : Value.ManyEndBefore vs (lexemes (t :: rest)) := by
        constructor
        · simp [Lacks, same]
        · intro v _ _
          simp [Lacks, same]
      obtain ⟨_, found⟩ := Value.readMany_reads.complete (t :: rest) members ended
      have going : accept? .closeSquare (inner ++ t :: rest) = none := by
        rw [accept?_eq_none_iff, lexemes_append]
        exact members.lacks_close _
      rw [List.append_assoc, List.singleton_append]
      simp [readSet, going, found, expect, accept?_cons same, setOf, distinct_eq_eraseDups]

theorem readAt_sound {level : Level} {ts rest : List Token} {p : Predicate}
    (got : Leaves (readAt level ts) p rest) :
    ∃ front, ts = front ++ rest ∧ Derives level (lexemes front) p ∧
      p.EndsBefore level (lexemes rest) := by
  fun_induction readAt level ts generalizing p rest with
  | case1 => exact absurd got leaves_error
  | case2 ts b left lt found ih =>
    obtain ⟨front, rfl, derived, -⟩ := ih ⟨lt, found⟩
    obtain ⟨rfl, rfl⟩ := leaves_ok.1 got
    exact ⟨front, rfl, .tighter derived, endsBefore_nil _ _⟩
  | case3 ts b left t more lt found absent ih =>
    obtain ⟨front, rfl, derived, ends⟩ := ih ⟨lt, found⟩
    obtain ⟨rfl, rfl⟩ := leaves_ok.1 got
    exact ⟨front, rfl, .tighter derived, ends.loosen (by simpa using absent)⟩
  | case4 => exact absurd got leaves_error
  | case5 ts b left t more lt found op present right after lt' found' ih ih' =>
    obtain ⟨front, rfl, derived, -⟩ := ih ⟨lt, found⟩
    obtain ⟨back, rfl, derived', ends⟩ := ih' ⟨lt', found'⟩
    obtain ⟨rfl, rfl⟩ := leaves_ok.1 got
    obtain ⟨written, same⟩ := BinaryLevel.operator?_eq_some_iff.1 present
    refine ⟨front ++ t :: back, by simp, ?_, ends⟩
    rw [lexemes_append, lexemes_cons]
    exact .binary derived written same derived'
  | case6 => exact absurd got leaves_error
  | case7 t more absent ih =>
    obtain ⟨front, whole, derived, ends⟩ := ih got
    refine ⟨front, whole, .atom derived, ?_, ends.2⟩
    intro x mem op written
    exact op.level.rank_lt
  | case8 => exact absurd got leaves_error
  | case9 t more op present operand after lt found ih =>
    obtain ⟨front, rfl, derived, ends⟩ := ih ⟨lt, found⟩
    obtain ⟨rfl, rfl⟩ := leaves_ok.1 got
    exact ⟨t :: front, rfl, .unary (UnaryOp.ofLexeme?_eq_some_iff.1 present) derived, ends⟩
  | case10 ts more lt opened after lt' closed =>
    obtain ⟨t, rfl, same⟩ := of_accept?_eq_some opened
    obtain ⟨t', rfl, same'⟩ := of_accept?_eq_some closed
    obtain ⟨rfl, rfl⟩ := leaves_ok.1 got
    refine ⟨[t, t'], rfl, ?_, endsBefore_atom (by simp [isOpen])⟩
    simpa [same, same'] using Derives.always
  | case11 => exact absurd got leaves_error
  | case12 => exact absurd got leaves_error
  | case13 ts more lt opened _ inner behind lt' found after lt'' closed ih =>
    obtain ⟨t, rfl, same⟩ := of_accept?_eq_some opened
    obtain ⟨front, rfl, derived, -⟩ := ih ⟨lt', found⟩
    obtain ⟨t', rfl, same'⟩ := of_expect_eq_ok closed
    obtain ⟨rfl, rfl⟩ := leaves_ok.1 got
    refine ⟨t :: front ++ [t'], by simp, ?_, endsBefore_atom (by simp [isOpen])⟩
    simpa [same, same'] using Derives.bracket derived
  | case14 => exact absurd got leaves_error
  | case15 ts _ more lt opened literal after lt' found =>
    obtain ⟨t, rfl, same⟩ := of_accept?_eq_some opened
    obtain ⟨front, rfl, spelled, -⟩ := readSet_reads.sound found
    obtain ⟨rfl, rfl⟩ := leaves_ok.1 got
    refine ⟨t :: front, rfl, ?_, ?_⟩
    · rw [lexemes_cons, same]
      obtain ⟨whole, rfl⟩ | ⟨ys, vs, whole, members, rfl⟩ := spelled
      · rw [whole]
        exact .emptySet
      · rw [whole]
        exact .set members
    · obtain ⟨-, rfl⟩ | ⟨-, vs, -, -, rfl⟩ := spelled <;> exact endsBefore_atom (by simp [isOpen])
  | case16 => exact absurd got leaves_error
  | case17 ts _ _ v after found =>
    obtain ⟨after, lt⟩ := after
    obtain ⟨front, rfl, spelled, ended⟩ := Value.readNext_reads.sound found
    obtain ⟨rfl, rfl⟩ := leaves_ok.1 got
    exact ⟨front, rfl, .value spelled, endsBefore_atom ended⟩

theorem accept?_value {s : Symbol} (other : s ≠ .star) {front : List Token} {v : Value}
    (spelled : Value.Spelled (lexemes front) v) (rest : List Token) :
    accept? s (front ++ rest) = none := by
  cases front with
  | nil => exact absurd rfl spelled.ne_nil
  | cons t front =>
    rw [accept?_eq_none_iff]
    intro same
    have first : t.lexeme = .symbol s := by simpa using same
    rw [lexemes_cons, first] at spelled
    exact other spelled.symbol_eq_star

theorem Derives.ne_nil {level : Level} {xs : List Lexeme} {p : Predicate}
    (derived : Derives level xs p) : xs ≠ [] := by
  induction derived with
  | tighter _ ih => exact ih
  | atom _ ih => exact ih
  | value spelled => exact spelled.ne_nil
  | _ => simp

theorem Derives.not_unary {x : Lexeme} {xs ys : List Lexeme} {p : Predicate}
    (derived : Derives .atom ys p) (whole : ys = x :: xs) : UnaryOp.ofLexeme? x = none := by
  cases derived with
  | value spelled =>
    rw [whole] at spelled
    exact spelled.not_unary
  | _ =>
    obtain ⟨rfl, -⟩ := List.cons.inj whole
    rfl

theorem Derives.not_closing {level : Level} {xs ys : List Lexeme} {p : Predicate}
    (derived : Derives level ys p) : ys ≠ .symbol .closeParen :: xs := by
  induction derived generalizing xs with
  | tighter _ ih => exact ih
  | atom _ ih => exact ih
  | @binary b op x first second left right derived written level derived' ih ih' =>
    intro whole
    cases first with
    | nil => exact derived.ne_nil rfl
    | cons y first =>
      obtain ⟨rfl, -⟩ := List.cons.inj whole
      exact ih rfl
  | unary written =>
    intro whole
    obtain ⟨rfl, -⟩ := List.cons.inj whole
    rw [← UnaryOp.ofLexeme?_eq_some_iff] at written
    cases written
  | value spelled =>
    rintro rfl
    cases spelled.symbol_eq_star
  | _ =>
    intro whole
    cases whole

theorem Derives.lacks_close {level : Level} {xs : List Lexeme} {p : Predicate}
    (derived : Derives level xs p) (ys : List Lexeme) : Lacks .closeParen (xs ++ ys) := by
  cases xs with
  | nil => exact absurd rfl derived.ne_nil
  | cons x xs =>
    intro closed
    obtain rfl : x = .symbol .closeParen := by simpa using closed
    exact derived.not_closing rfl

theorem readAt_set {t : Token} {front rest : List Token} {p : Predicate}
    {lt : rest.length < (front ++ rest).length} (same : t.lexeme = .symbol .openSquare)
    (found : readSet (front ++ rest) = .ok (p, ⟨rest, lt⟩)) :
    Leaves (readAt .atom (t :: front ++ rest)) p rest := by
  have other : accept? .openParen (t :: (front ++ rest)) = none := by
    simp [accept?_eq_none_iff, Lacks, same]
  rw [List.cons_append, readAt]
  simp [other, accept?_cons same, found]

/-! Reading an expression fails as the reading of a part of it does. -/

section

variable {t : Token} {ts rest : List Token} {e : Failure}

theorem readAt_left_error {b : BinaryLevel} (failed : readAt b.tighter ts = .error e) :
    readAt (.binary b) ts = .error e := by
  rw [readAt]
  simp [failed]

theorem readAt_right_error {op : BinaryOp} {left : Predicate}
    (found : Leaves (readAt op.level.tighter ts) left (t :: rest)) (written : op.Written t.lexeme)
    (failed : readAt (.binary op.level) rest = .error e) :
    readAt (.binary op.level) ts = .error e := by
  obtain ⟨_, found⟩ := found
  have present : op.level.operator? t.lexeme = some op :=
    BinaryLevel.operator?_eq_some_iff.2 ⟨written, rfl⟩
  rw [readAt, found]
  simp [present, failed]

theorem readAt_atom_error (absent : UnaryOp.ofLexeme? t.lexeme = none)
    (failed : readAt .atom (t :: rest) = .error e) : readAt .unary (t :: rest) = .error e := by
  rw [readAt]
  simp [absent, failed]

theorem readAt_operand_error {op : UnaryOp} (written : op.Written t.lexeme)
    (failed : readAt .unary rest = .error e) : readAt .unary (t :: rest) = .error e := by
  rw [readAt]
  simp [UnaryOp.ofLexeme?_eq_some_iff.2 written, failed]

theorem readAt_inside_error (opened : t.lexeme = .symbol .openParen)
    (unclosed : accept? .closeParen rest = none) (failed : readAt .loosest rest = .error e) :
    readAt .atom (t :: rest) = .error e := by
  rw [readAt]
  simp [accept?_cons opened, unclosed, failed]

theorem readAt_set_error (opened : t.lexeme = .symbol .openSquare)
    (failed : readSet rest = .error e) : readAt .atom (t :: rest) = .error e := by
  have other : accept? .openParen (t :: rest) = none := by
    simp [accept?_eq_none_iff, Lacks, opened]
  rw [readAt]
  simp [other, accept?_cons opened, failed]

theorem readAt_value_error (noParen : accept? .openParen ts = none)
    (noSquare : accept? .openSquare ts = none) (failed : Value.readNext ts = .error e) :
    readAt .atom ts = .error e := by
  rw [readAt]
  simp [noParen, noSquare, failed]

end

theorem readAt_complete {level : Level} {xs : List Lexeme} {p : Predicate}
    (derived : Derives level xs p) {front rest : List Token} (whole : lexemes front = xs)
    (ends : p.EndsBefore level (lexemes rest)) : Leaves (readAt level (front ++ rest)) p rest := by
  -- The place where the tree may end moves with the derivation: an operator or a closing bracket
  -- ends what stands in front of it, and everything else is handed on from the root.
  induction derived generalizing front rest with
  | @tighter b xs p inner ih =>
    obtain ⟨_, found⟩ := ih whole ends.tighter
    rw [readAt, found]
    cases rest with
    | nil => simp
    | cons t rest =>
      have absent : b.operator? t.lexeme = none := operator?_eq_none ends
      simp [absent]
  | @binary b op x xs ys left right first written level second ih ih' =>
    obtain ⟨front, back, rfl, same, whole⟩ := lexemes_eq_append.1 whole
    obtain ⟨t, back, rfl, rfl, same'⟩ := lexemes_eq_cons.1 whole
    obtain rfl := level
    have apart : left.EndsBefore op.level.tighter (lexemes (t :: (back ++ rest))) :=
      endsBefore_operator written left _
    obtain ⟨_, found⟩ := ih same apart
    obtain ⟨_, found'⟩ := ih' same' ends
    have present : op.level.operator? t.lexeme = some op :=
      BinaryLevel.operator?_eq_some_iff.2 ⟨written, rfl⟩
    rw [List.append_assoc, List.cons_append, readAt, found]
    simp [present, found']
  | @atom xs p inner ih =>
    cases front with
    | nil => exact absurd whole.symm inner.ne_nil
    | cons t front =>
      obtain ⟨_, found⟩ := ih whole (endsBefore_atom ends.2)
      have absent := inner.not_unary (whole.symm.trans (lexemes_cons t front))
      simp only [List.cons_append] at found ⊢
      rw [readAt]
      simp [absent, found]
  | @unary op x xs operand written inner ih =>
    obtain ⟨t, front, rfl, rfl, same⟩ := lexemes_eq_cons.1 whole
    obtain ⟨_, found⟩ := ih same ends
    have present := UnaryOp.ofLexeme?_eq_some_iff.2 written
    rw [List.cons_append, readAt]
    simp [present, found]
  | always =>
    obtain ⟨t, front, rfl, same, whole⟩ := lexemes_eq_cons.1 whole
    obtain ⟨t', front, rfl, same', whole⟩ := lexemes_eq_cons.1 whole
    obtain rfl := lexemes_eq_nil.1 whole
    rw [readAt]
    simp [accept?_cons same, accept?_cons same']
  | @bracket xs p inner ih =>
    obtain ⟨front, back, rfl, opened, closed⟩ := lexemes_eq_append.1 whole
    obtain ⟨t, front, rfl, same, inside⟩ := lexemes_eq_cons.1 opened
    obtain ⟨t', back, rfl, same', empty⟩ := lexemes_eq_cons.1 closed
    obtain rfl := lexemes_eq_nil.1 empty
    have apart : p.EndsBefore .loosest (lexemes (t' :: rest)) := by
      rw [lexemes_cons, same']
      exact endsBefore_symbol (.inl rfl) _ _ _
    have going : accept? .closeParen (front ++ t' :: rest) = none := by
      rw [accept?_eq_none_iff, lexemes_append, inside]
      exact inner.lacks_close _
    obtain ⟨_, found⟩ := ih inside apart
    rw [List.append_assoc, List.cons_append, List.singleton_append, readAt]
    simp [accept?_cons same, going, found, expect_cons same']
  | emptySet =>
    obtain ⟨t, front, rfl, same, inside⟩ := lexemes_eq_cons.1 whole
    obtain ⟨_, found⟩ := readSet_reads.complete rest (.inl ⟨inside, rfl⟩) trivial
    exact readAt_set same found
  | @set xs vs members =>
    obtain ⟨t, front, rfl, same, inside⟩ := lexemes_eq_cons.1 whole
    obtain ⟨_, found⟩ := readSet_reads.complete rest (.inr ⟨xs, vs, inside, members, rfl⟩) trivial
    exact readAt_set same found
  | @value xs v spelled =>
    subst whole
    obtain ⟨_, found⟩ := Value.readNext_reads.complete rest spelled ends.2
    rw [readAt]
    simp [accept?_value _ spelled, found]

/-- Each reader takes the sentences of its level. -/
theorem readAt_reads (level : Level) :
    Reads (readAt level) (Derives level) (EndsBefore level) := by
  intro ts p rest
  constructor
  · exact readAt_sound
  · rintro ⟨front, rfl, derived, ends⟩
    exact readAt_complete derived rfl ends

theorem readWhole_eq_ok_iff {ts : List Token} {p : Predicate} :
    readWhole ts = .ok p ↔ Derives .loosest (lexemes ts) p := by
  constructor
  · intro got
    unfold readWhole at got
    split at got
    · cases got
    · rename_i root lt found
      cases got
      obtain ⟨front, rfl, derived, -⟩ := (readAt_reads _).sound found
      simpa using derived
    · cases got
  · intro derived
    have ended : p.EndsBefore .loosest (lexemes []) := endsBefore_nil _ _
    obtain ⟨lt, found⟩ := (readAt_reads .loosest ts p []).2 ⟨ts, by simp, derived, ended⟩
    simp [readWhole, found]

theorem Derives.not_reserved {k : String} (known : k ∈ ["from", "where"]) {level : Level}
    {x : Lexeme} {xs ys : List Lexeme} {p : Predicate} (derived : Derives level ys p)
    (whole : ys = x :: xs) : ¬ x.IsKeyword k := by
  induction derived generalizing xs with
  | tighter _ ih => exact ih whole
  | atom _ ih => exact ih whole
  | @binary b op y first second left right derived written level derived' ih ih' =>
    cases first with
    | nil => exact absurd rfl derived.ne_nil
    | cons z first =>
      obtain ⟨rfl, -⟩ := List.cons.inj whole
      exact ih rfl
  | unary written =>
    obtain ⟨rfl, -⟩ := List.cons.inj whole
    cases written with
    | caseful same =>
      intro again
      have apart : ∀ k ∈ ["from", "where"], Text.sameIgnoringCase "caseful" k = false := by decide
      have agrees := same.agree again
      rw [apart k known] at agrees
      cases agrees
    | _ =>
      rintro ⟨_, impossible, -⟩
      cases impossible
  | value spelled =>
    rw [whole] at spelled
    have member : ∀ k ∈ ["from", "where"], k ∈ reserved := by decide
    exact spelled.not_reserved (member k known)
  | _ =>
    obtain ⟨rfl, -⟩ := List.cons.inj whole
    rintro ⟨_, impossible, -⟩
    cases impossible

/-- What a whole text of a predicate holds: nothing, or an expression behind an optional `where`. -/
inductive DerivesWhole : List Lexeme → Predicate → Prop
  | empty : DerivesWhole [] .always
  | bare {xs : List Lexeme} {p : Predicate} (root : Derives .loosest xs p) : DerivesWhole xs p
  | introduced {x : Lexeme} {xs : List Lexeme} {p : Predicate} (same : x.IsKeyword "where")
      (root : Derives .loosest xs p) : DerivesWhole (x :: xs) p

theorem ofTokens_eq_ok_iff {ts : List Token} {p : Predicate} :
    ofTokens ts = .ok p ↔ DerivesWhole (lexemes ts) p := by
  cases ts with
  | nil =>
    constructor
    · intro got
      cases got
      exact .empty
    · intro derived
      cases derived with
      | empty => rfl
      | bare root => exact absurd rfl root.ne_nil
  | cons t ts =>
    by_cases introduced : t.isKeyword "where" = true
    · have same := Token.isKeyword_iff.1 introduced
      rw [ofTokens, if_pos introduced, readWhole_eq_ok_iff]
      constructor
      · exact .introduced same
      · intro derived
        cases derived with
        | bare root => exact absurd same (root.not_reserved (by decide) rfl)
        | introduced _ root => exact root
    · rw [ofTokens, if_neg introduced, readWhole_eq_ok_iff]
      constructor
      · exact .bare
      · intro derived
        cases derived with
        | bare root => exact root
        | introduced same _ => exact absurd (Token.isKeyword_iff.2 same) introduced

theorem DerivesWhole.unique {xs : List Lexeme} {p q : Predicate} (first : DerivesWhole xs p)
    (second : DerivesWhole xs q) : p = q := by
  obtain ⟨ts, rfl⟩ := exists_lexemes xs
  have found := ofTokens_eq_ok_iff.2 first
  rw [ofTokens_eq_ok_iff.2 second] at found
  exact (Except.ok.inj found).symm

/-- A text is read as the predicate that its lexemes derive, and as an error when they derive
none. -/
theorem ofText_eq_ok_iff (text : String) :
    (∀ p, ofText text = .ok p ↔ (scan false text).unclosed = none ∧
      DerivesWhole (lexemes (scan false text).tokens) p) ∧
    ((∃ e, ofText text = .error e) ↔ (scan false text).unclosed ≠ none ∨
      ∀ p, ¬ DerivesWhole (lexemes (scan false text).tokens) p) ∧
    ∀ xs p q, DerivesWhole xs p → DerivesWhole xs q → p = q := by
  have accepted : ∀ p, ofText text = .ok p ↔ (scan false text).unclosed = none ∧
      DerivesWhole (lexemes (scan false text).tokens) p := by
    intro p
    unfold ofText
    split
    · rename_i found
      simp [found]
    · rename_i found
      simp [found, ofTokens_eq_ok_iff]
  refine ⟨accepted, ?_, fun _ _ _ => DerivesWhole.unique⟩
  constructor
  · rintro ⟨e, rejected⟩
    cases closed : (scan false text).unclosed with
    | some u => exact .inl (by simp)
    | none =>
      refine .inr fun p derived => ?_
      rw [(accepted p).2 ⟨closed, derived⟩] at rejected
      cases rejected
  · intro underivable
    cases result : ofText text with
    | error e => exact ⟨e, rfl⟩
    | ok p =>
      obtain ⟨closed, derived⟩ := (accepted p).1 result
      rcases underivable with unclosed | none
      · exact absurd closed unclosed
      · exact absurd derived (none p)

end Predicate

end TimelineFilter
