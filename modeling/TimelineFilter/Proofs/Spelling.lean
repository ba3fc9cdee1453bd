import TimelineFilter.Token.Scan
import TimelineFilter.Proofs.Runs

namespace TimelineFilter

def lexemes (ts : List Token) : List Lexeme := ts.map Token.lexeme

/-- A lexeme that some text spells. Only a word can fail to be one, if it is not bare. -/
def Lexeme.Writable : Lexeme → Prop
  | .word text => isBareWord text = true
  | .quoted _ | .symbol _ => True

/-- The symbol and the character together start another symbol. -/
def Symbol.takes (s : Symbol) (c : Char) : Bool :=
  match s with
  | .exclamation | .greater => c == '='
  | .less => c == '=' || c == '-'
  | .minus => c == '>'
  | .and => c == '&'
  | .or => c == '|'
  | _ => false

/-- The character would be read as a part of the lexeme in front of it. -/
def Lexeme.takes : Lexeme → Char → Bool
  | .word _, c => !isDelimiter c
  | .quoted _, _ => false
  | .symbol s, c => s.takes c

theorem isTokenBlank_of_plain {c : Char} (plain : isDelimiter c = false) :
    isTokenBlank c = false := by
  simp only [isDelimiter, Bool.or_eq_false_iff] at plain
  exact plain.1

theorem Symbol.read?_plain {c : Char} (plain : isDelimiter c = false) (rest : List Char) :
    Symbol.read? c rest = none := by
  unfold Symbol.read?
  split <;> first | rfl | exact absurd plain (by decide)

theorem Symbol.text_ne_nil (s : Symbol) : ∃ c tail, s.text.toList = c :: tail := by
  cases s <;> exact ⟨_, _, rfl⟩

theorem Symbol.read?_text {s : Symbol} {c : Char} {tail : List Char}
    (same : s.text.toList = c :: tail) {rest : List Char}
    (free : ∀ c ∈ rest.head?, s.takes c = false) :
    isTokenBlank c = false ∧ c ≠ '"' ∧ Symbol.read? c (tail ++ rest) = some (s, rest) := by
  cases rest with
  | nil =>
    cases s <;> simp [Symbol.text] at same <;> obtain ⟨rfl, rfl⟩ := same <;>
      exact ⟨by decide, by decide, rfl⟩
  | cons d rest =>
    have apart := free d rfl
    cases s <;> simp [Symbol.text] at same <;> obtain ⟨rfl, rfl⟩ := same <;>
      simp_all [Symbol.takes, Symbol.read?, isTokenBlank]

theorem isBareWord_iff {text : String} :
    isBareWord text = true ↔
      ∃ c tail, text.toList = c :: tail ∧ ∀ d ∈ c :: tail, isDelimiter d = false := by
  unfold isBareWord
  cases text.toList with
  | nil => simp
  | cons c tail =>
    constructor
    · intro bare
      exact ⟨c, tail, rfl, by simpa using bare⟩
    · rintro ⟨d, rest, same, plain⟩
      obtain ⟨rfl, rfl⟩ := List.cons.inj same
      simpa using plain

theorem span_plain {tail : List Char} (rest : List Char) (plain : ∀ d ∈ tail, isDelimiter d = false)
    (free : ∀ d ∈ rest.head?, isDelimiter d = true) :
    (tail ++ rest).takeWhile (!isDelimiter ·) = tail ∧
      (tail ++ rest).dropWhile (!isDelimiter ·) = rest :=
  Text.span_run (by simpa using plain) (by simpa using free)

theorem plain_of_takeWhile {rest : List Char} :
    ∀ d ∈ rest.takeWhile (!isDelimiter ·), isDelimiter d = false := by
  intro d mem
  simpa using List.all_eq_true.1 List.all_takeWhile d mem

theorem step_render (lenient : Bool) {x : Lexeme} (writable : x.Writable) {rest : List Char}
    (free : ∀ c ∈ rest.head?, x.takes c = false) :
    ∃ c tail shorter, x.render.toList = c :: tail ∧ isTokenBlank c = false ∧
      step lenient c (tail ++ rest) = .token x rest shorter := by
  cases x with
  | word text =>
    obtain ⟨c, tail, same, plain⟩ := isBareWord_iff.1 writable
    have first := plain c List.mem_cons_self
    have apart : c ≠ '"' := by rintro rfl; exact absurd first (by decide)
    obtain ⟨taken, dropped⟩ := span_plain rest (fun d mem => plain d (List.mem_cons_of_mem _ mem))
      (fun d mem => by simpa [Lexeme.takes] using free d mem)
    have whole : String.ofList (c :: tail) = text := by rw [← same, String.ofList_toList]
    refine ⟨c, tail, by simp, same, isTokenBlank_of_plain first, ?_⟩
    unfold step
    rw [if_neg apart]
    split
    · rename_i found
      simp [Symbol.read?_plain first] at found
    · simp only [taken, dropped, whole]
  | quoted text =>
    have closed := unquote_escapeChars text.toList rest
    refine ⟨'"', escapeChars text.toList ++ ['"'], by simp; omega, by simp [Lexeme.render, quote],
      by decide, ?_⟩
    unfold step
    rw [if_pos rfl]
    split
    · rename_i found
      simp only [List.append_assoc, List.cons_append, List.nil_append, closed, Option.some.injEq,
        Prod.mk.injEq] at found
      obtain ⟨rfl, rfl⟩ := found
      simp
    · rename_i found
      simp [closed] at found
  | symbol s =>
    obtain ⟨c, tail, same⟩ := s.text_ne_nil
    obtain ⟨blank, apart, read⟩ := Symbol.read?_text same free
    refine ⟨c, tail, by simp, same, blank, ?_⟩
    unfold step
    rw [if_neg apart]
    split
    · rename_i found
      obtain ⟨rfl, rfl⟩ : s = _ ∧ rest = _ := by simpa [read] using found
      rfl
    · rename_i found
      simp [read] at found

theorem byteLength_append (cs ds : List Char) :
    byteLength (cs ++ ds) = byteLength cs + byteLength ds := by
  induction cs with
  | nil => simp [byteLength]
  | cons c cs ih => simp only [List.cons_append, byteLength, ih, Nat.add_assoc]

theorem byteLength_used (c : Char) (taken after : List Char) :
    byteLength (c :: (taken ++ after)) - byteLength after = byteLength (c :: taken) := by
  rw [← List.cons_append, byteLength_append]
  omega

theorem scanFrom_render (lenient : Bool) (position : Nat) {x : Lexeme} (writable : x.Writable)
    {rest : List Char} (free : ∀ c ∈ rest.head?, x.takes c = false) :
    scanFrom lenient position (x.render.toList ++ rest) =
      (scanFrom lenient (position + byteLength x.render.toList) rest).cons ⟨x, position⟩ := by
  obtain ⟨c, tail, shorter, same, blank, read⟩ := step_render lenient writable free
  rw [same, List.cons_append, scanFrom, if_neg (by simp [blank]), read]
  simp only [byteLength_used]

theorem scanFrom_blank (lenient : Bool) (position : Nat) {c : Char} (blank : isTokenBlank c = true)
    (rest : List Char) :
    scanFrom lenient position (c :: rest) = scanFrom lenient (position + c.utf8Size) rest := by
  rw [scanFrom, if_pos blank]

/-- The characters spell these lexemes, wherever in a text they stand at its end. -/
def Spells (cs : List Char) (xs : List Lexeme) : Prop :=
  ∀ position, lexemes (scanFrom false position cs).tokens = xs ∧
    (scanFrom false position cs).unclosed = none

theorem spells_nil : Spells [] [] := fun position => by simp [scanFrom, lexemes]

theorem spells_blank {c : Char} {rest : List Char} {xs : List Lexeme}
    (blank : isTokenBlank c = true) (spelled : Spells rest xs) : Spells (c :: rest) xs := by
  intro position
  rw [scanFrom_blank false position blank]
  exact spelled _

theorem spells_lexeme {x : Lexeme} {rest : List Char} {xs : List Lexeme} (writable : x.Writable)
    (free : ∀ c ∈ rest.head?, x.takes c = false) (spelled : Spells rest xs) :
    Spells (x.render.toList ++ rest) (x :: xs) := by
  intro position
  rw [scanFrom_render false position writable free]
  obtain ⟨same, closed⟩ := spelled (position + byteLength x.render.toList)
  exact ⟨congrArg (x :: ·) same, closed⟩

theorem takes_blank {c : Char} (blank : isTokenBlank c = true) (x : Lexeme) :
    x.takes c = false := by
  cases x with
  | word text => simp [Lexeme.takes, isDelimiter, blank]
  | quoted text => rfl
  | symbol s =>
    have cases : ((c = ' ' ∨ c = '\t') ∨ c = '\r') ∨ c = '\n' := by simpa [isTokenBlank] using blank
    rcases cases with ((rfl | rfl) | rfl) | rfl <;> cases s <;> rfl

theorem spells_renderAll (xs : List Lexeme) (writable : ∀ x ∈ xs, x.Writable) :
    Spells (" ".intercalate (xs.map Lexeme.render)).toList xs := by
  rw [String.toList_intercalate]
  induction xs with
  | nil => exact spells_nil
  | cons x xs ih =>
    have first := writable x List.mem_cons_self
    have rest := ih fun y mem => writable y (List.mem_cons_of_mem _ mem)
    cases xs with
    | nil =>
      have alone : ∀ c ∈ ([] : List Char).head?, x.takes c = false := by simp
      simpa using spells_lexeme first alone spells_nil
    | cons y xs =>
      simp only [List.map_cons, List.intercalate_cons_cons] at rest ⊢
      have apart : x.takes ' ' = false := takes_blank (by decide) x
      rw [List.append_assoc]
      exact spells_lexeme first (by simpa using apart) (spells_blank (by decide) rest)

theorem plain_of_unread {c : Char} {rest : List Char} (solid : isTokenBlank c = false)
    (apart : c ≠ '"') (unread : Symbol.read? c rest = none) : isDelimiter c = false := by
  unfold Symbol.read? at unread
  split at unread <;> simp_all [isDelimiter]

theorem step_writable {lenient : Bool} {c : Char} {rest after : List Char} {x : Lexeme}
    {shorter : after.length ≤ rest.length} (solid : isTokenBlank c = false)
    (found : step lenient c rest = .token x after shorter) : x.Writable := by
  unfold step at found
  split at found
  · split at found
    · cases found; trivial
    · split at found
      · cases found; trivial
      · cases found
  · rename_i apart
    split at found
    · cases found; trivial
    · rename_i unread
      cases found
      have first := plain_of_unread solid apart unread
      refine isBareWord_iff.2 ⟨c, _, String.toList_ofList, ?_⟩
      intro d mem
      rcases List.mem_cons.1 mem with rfl | mem
      · exact first
      · exact plain_of_takeWhile d mem

theorem scanFrom_writable (lenient : Bool) (position : Nat) (cs : List Char) :
    ∀ x ∈ lexemes (scanFrom lenient position cs).tokens, x.Writable := by
  fun_induction scanFrom lenient position cs with
  | case1 => simp [lexemes]
  | case2 position c rest blank ih => exact ih
  | case3 => simp [lexemes]
  | case4 position c rest solid x after shorter found used ih =>
    intro y mem
    rcases List.mem_cons.1 mem with rfl | mem
    · exact step_writable (by simpa using solid) found
    · exact ih y mem

end TimelineFilter
