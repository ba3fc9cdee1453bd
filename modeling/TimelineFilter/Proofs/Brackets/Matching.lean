import TimelineFilter.Proofs.Grammar.Queries

namespace TimelineFilter

inductive Bracket
  | paren | square
deriving DecidableEq, Repr

namespace Bracket

def opening : Bracket → Symbol
  | .paren => .openParen
  | .square => .openSquare

def closing : Bracket → Symbol
  | .paren => .closeParen
  | .square => .closeSquare

end Bracket

def Lexeme.isPlain : Lexeme → Bool
  | .symbol .openParen | .symbol .closeParen | .symbol .openSquare | .symbol .closeSquare => false
  | _ => true

theorem Lexeme.ne_opening {x : Lexeme} (plain : x.isPlain = true) (b : Bracket) :
    x ≠ .symbol b.opening := by
  rintro rfl
  cases b <;> cases plain

/-- Every bracket has its counterpart, and pairs do not overlap. -/
inductive Balanced : List Lexeme → Prop
  | nil : Balanced []
  | plain {x : Lexeme} {xs : List Lexeme} (apart : x.isPlain = true) (rest : Balanced xs) :
      Balanced (x :: xs)
  | pair (b : Bracket) {xs ys : List Lexeme} (inner : Balanced xs) (rest : Balanced ys) :
      Balanced (.symbol b.opening :: xs ++ .symbol b.closing :: ys)

/-- A closing bracket behind the lexemes has an opening bracket of its kind among them: what stands
between the two is balanced. -/
def Bracket.Matched (b : Bracket) (xs : List Lexeme) : Prop :=
  ∃ outer inner, xs = outer ++ .symbol b.opening :: inner ∧ Balanced inner

theorem Balanced.append {xs ys : List Lexeme} (first : Balanced xs) (second : Balanced ys) :
    Balanced (xs ++ ys) := by
  induction first with
  | nil => exact second
  | plain apart _ ih => exact .plain apart ih
  | pair b inner _ _ ih =>
    rw [List.append_assoc, List.cons_append]
    exact .pair b inner ih

theorem balanced_of_plain {xs : List Lexeme} (plain : ∀ x ∈ xs, x.isPlain = true) :
    Balanced xs := by
  induction xs with
  | nil => exact .nil
  | cons x xs ih =>
    obtain ⟨apart, rest⟩ := List.forall_mem_cons.1 plain
    exact .plain apart (ih rest)

def openBehind (opened : List Bracket) : Lexeme → List Bracket
  | .symbol .openParen => .paren :: opened
  | .symbol .openSquare => .square :: opened
  | .symbol .closeParen | .symbol .closeSquare => opened.tail
  | _ => opened

@[simp] theorem openBehind_opening (opened : List Bracket) (b : Bracket) :
    openBehind opened (.symbol b.opening) = b :: opened := by
  cases b <;> rfl

@[simp] theorem openBehind_closing (opened : List Bracket) (b : Bracket) :
    openBehind opened (.symbol b.closing) = opened.tail := by
  cases b <;> rfl

theorem openBehind_plain {x : Lexeme} (plain : x.isPlain = true) (opened : List Bracket) :
    openBehind opened x = opened := by
  unfold openBehind
  split <;> first | rfl | cases plain

theorem Balanced.foldl {xs : List Lexeme} (balanced : Balanced xs) (opened : List Bracket) :
    xs.foldl openBehind opened = opened := by
  induction balanced generalizing opened with
  | nil => rfl
  | plain apart _ ih => rw [List.foldl_cons, openBehind_plain apart, ih]
  | pair b _ _ ih ih' => simp [ih, ih']

theorem Bracket.Matched.foldl {b : Bracket} {xs : List Lexeme} (matched : b.Matched xs) :
    (xs.foldl openBehind []).head? = some b := by
  obtain ⟨outer, inner, rfl, balanced⟩ := matched
  simp [balanced.foldl]

theorem Balanced.not_matched {xs : List Lexeme} (balanced : Balanced xs) (b : Bracket) :
    ¬ b.Matched xs := by
  intro matched
  have top := matched.foldl
  rw [balanced.foldl] at top
  cases top

theorem Bracket.Matched.eq_last {b c : Bracket} {xs : List Lexeme}
    (matched : b.Matched (xs ++ [.symbol c.opening])) : b = c := by
  have top := matched.foldl
  simpa [eq_comm] using top

theorem Bracket.matched_opening (b : Bracket) (xs : List Lexeme) :
    b.Matched (xs ++ [.symbol b.opening]) := ⟨xs, [], rfl, .nil⟩

/-! Words and strings are no brackets, and nothing else is in values and sources. -/

theorem Lexeme.IsKeyword.isPlain {x : Lexeme} {k : String} (same : x.IsKeyword k) :
    x.isPlain = true := by
  obtain ⟨word, rfl, -⟩ := same
  rfl

theorem Lexeme.isPlain_of_name? {x : Lexeme} {name : String} (names : x.name? = some name) :
    x.isPlain = true := by
  cases x with
  | symbol => cases names
  | _ => rfl

theorem Selector.Spelled.plain {xs : List Lexeme} {s : Selector} (spelled : Selector.Spelled xs s) :
    ∀ x ∈ xs, x.isPlain = true := by
  cases spelled with
  | ours _ same => simpa using same.isPlain
  | apart names => simpa using ⟨rfl, rfl, Lexeme.isPlain_of_name? names⟩
  | _ => simp [Lexeme.isPlain]

theorem Value.Followed.plain {α : Type} [Catalogue α] {alone : Value} {entry : α → Value}
    {xs : List Lexeme} {v : Value} (followed : Value.Followed alone entry xs v) :
    ∀ x ∈ xs, x.isPlain = true := by
  cases followed <;> simp [Lexeme.isPlain]

theorem Value.Spelled.plain {xs : List Lexeme} {v : Value} (spelled : Value.Spelled xs v) :
    ∀ x ∈ xs, x.isPlain = true := by
  cases spelled with
  | selected selector rest => exact List.forall_mem_append.2 ⟨selector.plain, rest.plain⟩
  | person same rest => exact List.forall_mem_cons.2 ⟨same.isPlain, rest.plain⟩
  | list same owned named =>
    simpa using ⟨same.isPlain, rfl, Lexeme.isPlain_of_name? owned, rfl,
      Lexeme.isPlain_of_name? named⟩
  | _ => simp [Lexeme.isPlain]

theorem Value.SpelledMany.plain {xs : List Lexeme} {vs : List Value}
    (spelled : Value.SpelledMany xs vs) : ∀ x ∈ xs, x.isPlain = true := by
  induction spelled with
  | one first => exact first.plain
  | more first _ ih =>
    exact List.forall_mem_append.2 ⟨first.plain, List.forall_mem_cons.2 ⟨rfl, ih⟩⟩

theorem BinaryOp.Written.isPlain {op : BinaryOp} {x : Lexeme} (written : op.Written x) :
    x.isPlain = true := by
  obtain ⟨s, found, rfl⟩ | ⟨k, _, same⟩ := written
  · cases op <;> cases found <;> rfl
  · exact same.isPlain

theorem UnaryOp.Written.isPlain {op : UnaryOp} {x : Lexeme} (written : op.Written x) :
    x.isPlain = true := by
  cases written with
  | caseful same => exact same.isPlain
  | _ => rfl

theorem Predicate.Derives.balanced {level : Level} {xs : List Lexeme} {p : Predicate}
    (derived : Predicate.Derives level xs p) : Balanced xs := by
  induction derived with
  | tighter _ ih => exact ih
  | binary _ written _ _ ih ih' => exact ih.append (.plain written.isPlain ih')
  | atom _ ih => exact ih
  | unary written _ ih => exact .plain written.isPlain ih
  | always => exact .pair .paren .nil .nil
  | bracket _ ih => exact .pair .paren ih .nil
  | emptySet => exact .pair .square .nil .nil
  | set members => exact .pair .square (balanced_of_plain members.plain) .nil
  | value spelled => exact balanced_of_plain spelled.plain

namespace Source

theorem Part.isPlain {bare : Bool} {x : Lexeme} {text : String} (part : Part bare x text) :
    x.isPlain = true := by
  cases part <;> rfl

theorem Argument.plain {bare : Bool} {xs : List Lexeme} {argument : String}
    (spelled : Argument bare xs argument) : ∀ x ∈ xs, x.isPlain = true := by
  induction spelled with
  | one part => simpa using part.isPlain
  | more part _ ih =>
    exact List.forall_mem_cons.2 ⟨part.isPlain, List.forall_mem_cons.2 ⟨rfl, ih⟩⟩

theorem Arguments.plain {bare : Bool} {xs : List Lexeme} {arguments : List String}
    (listed : Arguments bare xs arguments) : ∀ x ∈ xs, x.isPlain = true := by
  induction listed with
  | one first => exact first.plain
  | more first _ ih =>
    exact List.forall_mem_append.2 ⟨first.plain, List.forall_mem_cons.2 ⟨rfl, ih⟩⟩

theorem Names.isPlain {x : Lexeme} {kind : SourceKind} (names : Names x kind) :
    x.isPlain = true := by
  obtain ⟨keyword, -, spelled⟩ := names
  unfold keyword? at spelled
  split at spelled
  · rfl
  · rfl
  · cases spelled

theorem Group.plain {xs : List Lexeme} {sources : List Source} (group : Group xs sources) :
    ∀ x ∈ xs, x.isPlain = true := by
  cases group with
  | alone names => simpa using names.isPlain
  | drawn names listed =>
    exact List.forall_mem_cons.2 ⟨names.isPlain, List.forall_mem_cons.2 ⟨rfl, listed.plain⟩⟩

theorem Spelled.plain {xs : List Lexeme} {sources : List Source} (spelled : Spelled xs sources) :
    ∀ x ∈ xs, x.isPlain = true := by
  induction spelled with
  | one group => exact group.plain
  | more group _ ih =>
    exact List.forall_mem_append.2 ⟨group.plain, List.forall_mem_cons.2 ⟨rfl, ih⟩⟩

end Source

end TimelineFilter
