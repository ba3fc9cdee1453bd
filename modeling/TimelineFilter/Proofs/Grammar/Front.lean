import TimelineFilter.Proofs.Spelling
import TimelineFilter.Token.Front

/-! What it means that a reader takes exactly the sentences of a grammar off the front of a list of
tokens. A grammar here is any relation between lexemes and what they spell. Readers look one
lexeme ahead, so a sentence is taken only where the lexemes behind it let it end. -/
namespace TimelineFilter

@[simp] theorem lexemes_nil : lexemes [] = [] := rfl

@[simp] theorem lexemes_cons (t : Token) (ts : List Token) :
    lexemes (t :: ts) = t.lexeme :: lexemes ts := rfl

@[simp] theorem lexemes_append (front rest : List Token) :
    lexemes (front ++ rest) = lexemes front ++ lexemes rest := List.map_append

@[simp] theorem length_lexemes (ts : List Token) : (lexemes ts).length = ts.length :=
  List.length_map _

theorem lexemes_eq_nil {ts : List Token} : lexemes ts = [] ↔ ts = [] := List.map_eq_nil_iff

theorem lexemes_eq_cons {ts : List Token} {x : Lexeme} {xs : List Lexeme} :
    lexemes ts = x :: xs ↔ ∃ t rest, ts = t :: rest ∧ t.lexeme = x ∧ lexemes rest = xs :=
  List.map_eq_cons_iff

theorem lexemes_eq_append {ts : List Token} {xs ys : List Lexeme} :
    lexemes ts = xs ++ ys ↔ ∃ front rest, ts = front ++ rest ∧ lexemes front = xs ∧
      lexemes rest = ys :=
  List.map_eq_append_iff

theorem exists_lexemes (xs : List Lexeme) : ∃ ts, lexemes ts = xs := by
  induction xs with
  | nil => exact ⟨[], rfl⟩
  | cons x xs ih =>
    obtain ⟨ts, rfl⟩ := ih
    exact ⟨⟨x, 0⟩ :: ts, rfl⟩

def Lacks (s : Symbol) (xs : List Lexeme) : Prop := xs.head? ≠ some (.symbol s)

theorem accept?_eq_none_iff {s : Symbol} {ts : List Token} :
    accept? s ts = none ↔ Lacks s (lexemes ts) := by
  cases ts with
  | nil => simp [accept?, Lacks]
  | cons t rest => simp [accept?, Lacks]

theorem accept?_cons {s : Symbol} {t : Token} (same : t.lexeme = .symbol s) (rest : List Token) :
    accept? s (t :: rest) = some ⟨rest, tail_shorter t rest⟩ := if_pos same

theorem of_accept?_eq_some {s : Symbol} {ts rest : List Token} {lt : rest.length < ts.length}
    (accepted : accept? s ts = some ⟨rest, lt⟩) : ∃ t, ts = t :: rest ∧ t.lexeme = .symbol s := by
  cases ts with
  | nil => cases accepted
  | cons t after =>
    by_cases same : t.lexeme = .symbol s
    · obtain rfl : after = rest := by simpa [accept?, same] using accepted
      exact ⟨t, rfl, same⟩
    · simp [accept?, same] at accepted

theorem of_expect_eq_ok {s : Symbol} {ts rest : List Token} {lt : rest.length < ts.length}
    (found : expect s ts = .ok ⟨rest, lt⟩) : ∃ t, ts = t :: rest ∧ t.lexeme = .symbol s := by
  unfold expect at found
  split at found
  · rename_i accepted
    cases found
    exact of_accept?_eq_some accepted
  · cases found

theorem expect_cons {s : Symbol} {t : Token} (same : t.lexeme = .symbol s) (rest : List Token) :
    expect s (t :: rest) = .ok ⟨rest, tail_shorter t rest⟩ := by
  simp [expect, accept?_cons same]

variable {α : Type} {P : List Token → Prop}

def Leaves (result : Except Failure (α × {rest : List Token // P rest})) (a : α)
    (rest : List Token) : Prop :=
  ∃ fits, result = .ok (a, ⟨rest, fits⟩)

@[simp] theorem leaves_ok {a b : α} {after rest : List Token} {fits : P after} :
    Leaves (.ok (a, ⟨after, fits⟩)) b rest ↔ a = b ∧ after = rest := by
  constructor
  · rintro ⟨_, same⟩
    cases same
    exact ⟨rfl, rfl⟩
  · rintro ⟨rfl, rfl⟩
    exact ⟨fits, rfl⟩

@[simp] theorem leaves_error {e : Failure} {b : α} {rest : List Token} :
    ¬ Leaves (.error e : Except Failure (α × {rest : List Token // P rest})) b rest := by
  rintro ⟨_, same⟩
  cases same

/-- A reader takes exactly the sentences of a grammar, where they can end. -/
def Reads {P : List Token → List Token → Prop}
    (read : (ts : List Token) → Except Failure (α × {rest : List Token // P ts rest}))
    (spells : List Lexeme → α → Prop) (ends : α → List Lexeme → Prop) : Prop :=
  ∀ ts a rest, Leaves (read ts) a rest ↔
    ∃ front, ts = front ++ rest ∧ spells (lexemes front) a ∧ ends a (lexemes rest)

def Anywhere : α → List Lexeme → Prop := fun _ _ => True

section

variable {P : List Token → List Token → Prop}
  {read : (ts : List Token) → Except Failure (α × {rest : List Token // P ts rest})}
  {spells : List Lexeme → α → Prop} {ends : α → List Lexeme → Prop}

theorem Reads.sound (reads : Reads read spells ends) {ts rest : List Token} {a : α}
    {fits : P ts rest} (got : read ts = .ok (a, ⟨rest, fits⟩)) :
    ∃ front, ts = front ++ rest ∧ spells (lexemes front) a ∧ ends a (lexemes rest) :=
  (reads ts a rest).1 ⟨fits, got⟩

theorem Reads.complete (reads : Reads read spells ends) (rest : List Token) {front : List Token}
    {a : α} (spelled : spells (lexemes front) a) (ended : ends a (lexemes rest)) :
    ∃ fits, read (front ++ rest) = .ok (a, ⟨rest, fits⟩) :=
  (reads (front ++ rest) a rest).2 ⟨front, rfl, spelled, ended⟩

end

def Lexeme.name? : Lexeme → Option String
  | .word text | .quoted text => some text
  | .symbol _ => none

theorem expectWord_reads : Reads expectWord (fun xs text => xs = [.word text]) Anywhere := by
  intro ts text rest
  constructor
  · intro got
    unfold expectWord at got
    split at got
    · exact absurd got leaves_error
    · rename_i t after
      split at got
      · rename_i same
        obtain ⟨rfl, rfl⟩ := leaves_ok.1 got
        exact ⟨[t], rfl, by simp [same], trivial⟩
      · exact absurd got leaves_error
  · rintro ⟨front, rfl, spelled, -⟩
    obtain ⟨t, _, rfl, same, empty⟩ := lexemes_eq_cons.1 spelled
    obtain rfl := lexemes_eq_nil.1 empty
    simp [expectWord, same]

theorem expectName_reads :
    Reads expectName (fun xs text => ∃ x, xs = [x] ∧ x.name? = some text) Anywhere := by
  intro ts text rest
  constructor
  · intro got
    unfold expectName at got
    split at got
    · exact absurd got leaves_error
    · rename_i t after
      split at got
      · rename_i same
        obtain ⟨rfl, rfl⟩ := leaves_ok.1 got
        exact ⟨[t], rfl, ⟨t.lexeme, rfl, by simp [same, Lexeme.name?]⟩, trivial⟩
      · rename_i same
        obtain ⟨rfl, rfl⟩ := leaves_ok.1 got
        exact ⟨[t], rfl, ⟨t.lexeme, rfl, by simp [same, Lexeme.name?]⟩, trivial⟩
      · exact absurd got leaves_error
  · rintro ⟨front, rfl, ⟨x, spelled, names⟩, -⟩
    obtain ⟨t, _, rfl, rfl, empty⟩ := lexemes_eq_cons.1 spelled
    obtain rfl := lexemes_eq_nil.1 empty
    cases same : t.lexeme with
    | word | quoted => simp_all [expectName, Lexeme.name?]
    | symbol s => simp [same, Lexeme.name?] at names

theorem dotted_word {ts rest after : List Token} {name : String} {lt : rest.length < ts.length}
    {lt' : after.length < rest.length} (accepted : accept? .period ts = some ⟨rest, lt⟩)
    (got : expectWord rest = .ok (name, ⟨after, lt'⟩)) :
    ∃ front, ts = front ++ after ∧ lexemes front = [.symbol .period, .word name] := by
  obtain ⟨t, rfl, same⟩ := of_accept?_eq_some accepted
  obtain ⟨front, rfl, spelled, -⟩ := expectWord_reads.sound got
  exact ⟨t :: front, rfl, by simp [same, spelled]⟩

end TimelineFilter
