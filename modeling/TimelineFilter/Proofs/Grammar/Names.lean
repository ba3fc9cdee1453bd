import TimelineFilter.Field
import TimelineFilter.Text.Decimal
import TimelineFilter.Token

namespace TimelineFilter

def Lexeme.IsKeyword (x : Lexeme) (keyword : String) : Prop :=
  ∃ word, x = .word word ∧ Text.sameIgnoringCase word keyword = true

theorem Token.isKeyword_iff {t : Token} {keyword : String} :
    t.isKeyword keyword = true ↔ t.lexeme.IsKeyword keyword := by
  unfold Token.isKeyword Lexeme.IsKeyword
  cases t.lexeme <;> simp

namespace Text

theorem sameIgnoringCase_congr {a b : String} (same : sameIgnoringCase a b = true) (c : String) :
    sameIgnoringCase a c = sameIgnoringCase b c := by
  simp only [sameIgnoringCase, sameIgnoringCase_iff.1 same]

theorem lowerAscii_congr {a b : String} (same : sameIgnoringCase a b = true) :
    lowerAscii a = lowerAscii b :=
  congrArg String.ofList (sameIgnoringCase_iff.1 same)

theorem sameIgnoringCase_of_lowerAscii {word keyword : String}
    (same : lowerAscii word = keyword) (lower : lowerAscii keyword = keyword) :
    sameIgnoringCase word keyword = true := by
  rw [sameIgnoringCase_iff]
  exact String.ofList_injective (same.trans lower.symm)

def startsLower (text : String) : Bool := text.toList.head?.any Char.isLower

theorem toLower_val (c : Char) :
    c.toLower.val = if 'A'.val ≤ c.val ∧ c.val ≤ 'Z'.val then c.val + 32 else c.val := by
  change (if h : 'A'.val ≤ c.val ∧ c.val ≤ 'Z'.val then (⟨c.val + 32, _⟩ : Char) else c).val = _
  split <;> rfl

theorem isLower_iff {c : Char} : c.isLower = true ↔ 'a'.val ≤ c.val ∧ c.val ≤ 'z'.val := by
  change (decide ('a'.val ≤ c.val) && decide (c.val ≤ 'z'.val)) = true ↔ _
  simp

theorem isLower_toLower {c : Char} (lower : c.isLower = true) : c.toLower.isLower = true := by
  rw [isLower_iff] at *
  rw [toLower_val]
  grind

theorem plain_of_isLower_toLower {c : Char} (lower : c.toLower.isLower = true) :
    c ≠ '@' ∧ c ≠ '#' ∧ c.isDigit = false := by
  refine ⟨?_, ?_, ?_⟩
  · rintro rfl
    exact absurd lower (by decide)
  · rintro rfl
    exact absurd lower (by decide)
  · rw [isLower_iff, toLower_val] at lower
    simp [Char.isDigit]
    grind

def Plain (word : String) : Prop :=
  word.toList.head? ≠ some '@' ∧ word.toList.head? ≠ some '#' ∧
    word.toList.all Char.isDigit = false

theorem plain_of_same {word keyword : String} (same : sameIgnoringCase word keyword = true)
    (lower : startsLower keyword = true) : Plain word := by
  have letters := sameIgnoringCase_iff.1 same
  unfold startsLower at lower
  unfold Plain
  cases spelled : keyword.toList with
  | nil => simp [spelled] at lower
  | cons k ks =>
    rw [spelled, List.map_cons] at letters
    obtain ⟨c, tail, whole, first, -⟩ := List.map_eq_cons_iff.1 letters
    have small : k.isLower = true := by simpa [spelled] using lower
    obtain ⟨notAt, notHash, notDigit⟩ : c ≠ '@' ∧ c ≠ '#' ∧ c.isDigit = false := by
      apply plain_of_isLower_toLower
      rw [first]
      exact isLower_toLower small
    simp [whole, notAt, notHash, notDigit]

/-- Digits, at least one, whose value fits a 64-bit number. -/
def Numeral (digits : List Char) (n : Int64) : Prop :=
  digits ≠ [] ∧ (∀ c ∈ digits, c.isDigit = true) ∧ n.toInt = Nat.ofDigitChars 10 digits 0

theorem natural64?_eq_some_iff {digits : List Char} {n : Int64} :
    natural64? digits = some n ↔ Numeral digits n := by
  unfold natural64? natural? Numeral
  cases shape : !digits.isEmpty && digits.all Char.isDigit with
  | false =>
    have broken : digits ≠ [] → ∃ c ∈ digits, c.isDigit = false := by simpa using shape
    constructor
    · intro absent
      simp at absent
    · rintro ⟨nonempty, all, -⟩
      obtain ⟨c, mem, other⟩ := broken nonempty
      simp [all c mem] at other
  | true =>
    have whole : digits ≠ [] ∧ ∀ c ∈ digits, c.isDigit = true := by simpa using shape
    have limit : Int64.maxValue.toInt = 2 ^ 63 - 1 := by decide
    rw [if_pos rfl]
    constructor
    · intro read
      simp only at read
      split at read
      · rename_i small
        cases read
        exact ⟨whole.1, whole.2, Int64.toInt_ofNat_of_lt (by omega)⟩
      · cases read
    · rintro ⟨-, -, value⟩
      have small : (Nat.ofDigitChars 10 digits 0 : Int) ≤ Int64.maxValue.toInt :=
        value ▸ n.toInt_le
      simp only
      rw [if_pos small, Option.some.injEq, ← Int64.toInt_inj, value]
      exact Int64.toInt_ofNat_of_lt (by omega)

end Text

namespace Catalogue

variable {α : Type} [Catalogue α]

def Spells (text : String) (a : α) : Prop :=
  ∃ s ∈ spellings a, Text.sameIgnoringCase text s = true

theorem find?_congr {a b : String} (same : Text.sameIgnoringCase a b = true) :
    (find? a : Option α) = find? b := by
  unfold find?
  congr 1
  funext c
  exact Text.sameIgnoringCase_congr same c

/-- No spelling belongs to two entries, and all start with a lower-case letter. -/
class Unambiguous (α : Type) [Catalogue α] : Prop where
  find?_spelling : ∀ (a : α), ∀ s ∈ spellings a, find? s = some a
  startsLower_spelling : ∀ (a : α), ∀ s ∈ spellings a, Text.startsLower s = true

theorem find?_eq_some_iff [Unambiguous α] {text : String} {a : α} :
    find? text = some a ↔ Spells text a := by
  constructor
  · intro found
    simpa [Spells] using List.find?_some found
  · rintro ⟨s, mem, same⟩
    rw [find?_congr same]
    exact Unambiguous.find?_spelling a s mem

instance : Unambiguous Relation where
  find?_spelling a := by cases a <;> decide
  startsLower_spelling a := by cases a <;> decide

instance : Unambiguous UserField where
  find?_spelling a := by cases a <;> decide
  startsLower_spelling a := by cases a <;> decide

instance : Unambiguous StatusField where
  find?_spelling a := by cases a <;> decide
  startsLower_spelling a := by cases a <;> decide

end Catalogue

end TimelineFilter
