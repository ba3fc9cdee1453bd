import TimelineFilter.Json.Piece
import TimelineFilter.Proofs.Runs

namespace TimelineFilter.Json

/-- A number would not go on with these characters. -/
def Free (cs : List Char) : Prop :=
  ∀ c ∈ cs.head?, c.isDigit = false ∧ c ≠ '.' ∧ c ≠ 'e' ∧ c ≠ 'E'

theorem free_nil : Free [] := by simp [Free]

theorem free_cons {c : Char} {cs : List Char} :
    Free (c :: cs) ↔ c.isDigit = false ∧ c ≠ '.' ∧ c ≠ 'e' ∧ c ≠ 'E' := by simp [Free]

/-! Strings -/

/-- How a character of a string is read: as itself, or as a unit where it is written by number. -/
def partOf (c : Char) : TextPart :=
  if escapeLetter? c = none ∧ c.toNat < 32 then .unit c.toNat else .char c

theorem escaped?_escapeLetter? {c letter : Char} (escape : escapeLetter? c = some letter) :
    letter ≠ 'u' ∧ escaped? letter = some c := by
  unfold escapeLetter? at escape
  split at escape
  · rename_i same
    cases escape
    rcases same with rfl | rfl <;> exact ⟨by decide, rfl⟩
  · repeat' split at escape
    all_goals cases escape
    all_goals
      subst_vars
      exact ⟨by decide, rfl⟩

theorem plain_of_escapeLetter? {c : Char} (plain : escapeLetter? c = none) :
    c ≠ '"' ∧ c ≠ '\\' := by
  constructor <;> rintro rfl <;> cases plain

theorem hexNumber?_control : ∀ n < 32,
    Text.hexNumber? ['0', '0', Nat.digitChar (n / 16), Nat.digitChar (n % 16)] = some n := by decide

theorem readParts_escapeChar (c : Char) (rest : List Char) :
    readParts (escapeChar c ++ rest) = (readParts rest).map (withPart (partOf c)) := by
  unfold escapeChar partOf
  cases escape : escapeLetter? c with
  | some letter =>
    -- No letter of an escape is the `u` in front of a number.
    obtain ⟨notUnit, back⟩ := escaped?_escapeLetter? escape
    have read := readParts.eq_6 letter rest (fun _ _ _ _ _ isUnit => absurd isUnit notUnit) notUnit
    simpa [back] using read
  | none =>
    obtain ⟨notQuote, notBackslash⟩ := plain_of_escapeLetter? escape
    by_cases control : c.toNat < 32
    · have back := hexNumber?_control c.toNat control
      simp [control, readParts, back]
    · have read := readParts.eq_7 c rest notQuote (fun _ _ _ _ _ h => absurd h notBackslash)
        (fun _ h => absurd h notBackslash) (fun h => absurd h notBackslash)
        (fun _ _ h => absurd h notBackslash)
      simpa [control] using read

theorem readParts_escaped (cs rest : List Char) :
    readParts (cs.flatMap escapeChar ++ '"' :: rest) = .ok (cs.map partOf, rest) := by
  induction cs with
  | nil => rfl
  | cons c cs ih =>
    rw [List.flatMap_cons, List.append_assoc, readParts_escapeChar, ih]
    rfl

theorem joinParts_partOf (cs : List Char) : joinParts (cs.map partOf) = .ok cs := by
  induction cs with
  | nil => rfl
  | cons c cs ih =>
    rw [List.map_cons, partOf]
    split
    · rename_i control
      have small : c.toNat < 0xD800 ∨ 0xDFFF < c.toNat := by omega
      unfold joinParts
      rw [if_pos small, ih, Char.ofNat_toNat]
      rfl
    · rw [joinParts, ih]
      rfl

theorem readPiece_quoted (t : String) (rest : List Char) :
    readPiece '"' (t.toList.flatMap escapeChar ++ '"' :: rest) = (.text t, rest) := by
  have piece : Piece.ofParts (t.toList.map partOf) = .text t := by
    unfold Piece.ofParts
    simp only [joinParts_partOf, String.ofList_toList]
  simp only [readPiece, readText, readParts_escaped, piece]

/-! Numbers -/

theorem readWhole_toDigits (n : Nat) {rest : List Char} (free : Free rest) :
    readWhole (Nat.toDigits 10 n ++ rest) = .ok (Nat.toDigits 10 n, rest) := by
  have stop : ∀ c ∈ rest.head?, c.isDigit = false := fun c mem => (free c mem).1
  obtain ⟨taken, left⟩ := Text.span_run (Text.isDigit_of_toDigits (n := n)) stop
  have read : readDigits (Nat.toDigits 10 n ++ rest) = .ok (Nat.toDigits 10 n, rest) := by
    cases digits : Nat.toDigits 10 n with
    | nil => exact absurd digits Nat.toDigits_ne_nil
    | cons d more =>
      have first : d.isDigit = true := Text.isDigit_of_toDigits (n := n) d (by simp [digits])
      rw [digits, List.cons_append] at taken left
      rw [List.cons_append, readDigits, if_pos first, taken, left]
  unfold readWhole
  split
  · rename_i zero
    rw [read] at zero
    obtain ⟨digits, -⟩ := Prod.mk.inj (Except.ok.inj zero)
    obtain rfl := Text.toDigits_zero_leading digits
    cases digits
  · exact read

theorem readNumeral_toDigits (n : Nat) {rest : List Char} (free : Free rest) :
    readNumeral (Nat.toDigits 10 n ++ rest) = .ok (⟨Nat.toDigits 10 n, [], none⟩, rest) := by
  have fraction : readFraction rest = .ok ([], rest) := by
    unfold readFraction
    split
    · exact absurd rfl (free _ rfl).2.1
    · rfl
  have exponent : readExponent rest = .ok (none, rest) := by
    unfold readExponent
    split
    · rename_i c tail
      obtain ⟨-, -, lower, upper⟩ := free c rfl
      rw [if_neg (by simp [lower, upper])]
    · rfl
  simp only [readNumeral, readWhole_toDigits n free, fraction, exponent]

/-- The whole numbers that are read back: those of 64 bits, signed or unsigned. -/
def FitsWhole (n : Int) : Prop := Int64.minValue.toInt ≤ n ∧ n < UInt64.size

theorem fitsWhole_int64 (n : Int64) : FitsWhole n.toInt := by
  have low : Int64.minValue.toInt = -2 ^ 63 := by decide
  have above := n.le_toInt
  have below := n.toInt_lt
  simp only [FitsWhole, low, UInt64.size]
  omega

theorem pieces_cons {c : Char} {cs rest : List Char} {p : Piece} (solid : isBlank c = false)
    (read : readPiece c cs = (p, rest)) : pieces (c :: cs) = p :: pieces rest := by
  rw [pieces, if_neg (by simp [solid]), read]

theorem pieces_blank {c : Char} {cs : List Char} (blank : isBlank c = true) :
    pieces (c :: cs) = pieces cs := by
  rw [pieces, if_pos blank]

theorem readPiece_digit {c : Char} {cs : List Char} (digit : c.isDigit = true) :
    readPiece c cs = readNumber false (c :: cs) := by
  unfold readPiece
  split
  case h_12 => rw [if_pos digit]
  all_goals exact absurd digit (by decide)

theorem blank_of_isDigit {c : Char} (digit : c.isDigit = true) : isBlank c = false := by
  have apart (d : Char) (other : d.isDigit = false) : c ≠ d := by
    rintro rfl
    rw [digit] at other
    cases other
  simp [isBlank, apart ' ' rfl, apart '\n' rfl, apart '\t' rfl, apart '\r' rfl]

theorem pieces_whole {n : Int} (fits : FitsWhole n) {rest : List Char} (free : Free rest) :
    pieces (Text.decimalChars n ++ rest) = .whole n :: pieces rest := by
  obtain ⟨low, high⟩ := fits
  cases n with
  | ofNat n =>
    have small : n < UInt64.size := Int.ofNat_lt.1 high
    have piece : Piece.ofNumeral false ⟨Nat.toDigits 10 n, [], none⟩ = .whole n := by
      simp [Piece.ofNumeral, Nat.ofDigitChars_ten_toDigits, small]
    have read := readNumeral_toDigits n free
    rw [Text.decimalChars]
    cases digits : Nat.toDigits 10 n with
    | nil => exact absurd digits Nat.toDigits_ne_nil
    | cons d more =>
      have digit : d.isDigit = true := Text.isDigit_of_toDigits (n := n) d (by simp [digits])
      rw [digits] at read piece
      rw [List.cons_append] at read ⊢
      refine pieces_cons (blank_of_isDigit digit) ?_
      rw [readPiece_digit digit, readNumber, read]
      exact congrArg (·, rest) piece
  | negSucc n =>
    have piece : Piece.ofNumeral true ⟨Nat.toDigits 10 (n + 1), [], none⟩ =
        .whole (.negSucc n) := by
      have inside : Int64.minValue.toInt ≤ -((n + 1 : Nat) : Int) := low
      simp only [Piece.ofNumeral, Nat.ofDigitChars_ten_toDigits, List.isEmpty_nil,
        Option.isNone_none, Bool.and_self, if_true]
      rw [if_pos ⟨Nat.succ_pos n, inside⟩]
      rfl
    refine pieces_cons (by decide) ?_
    change readNumber true (Nat.toDigits 10 (n + 1) ++ rest) = _
    rw [readNumber, readNumeral_toDigits (n + 1) free]
    exact congrArg (·, rest) piece

/-! Values -/

mutual

/-- The value can be read back: its numbers are whole and fit. -/
def Plain : Json → Prop
  | .whole n => FitsWhole n
  | .real _ => False
  | .array items => PlainItems items
  | .object members => PlainMembers members
  | _ => True

def PlainItems : List Json → Prop
  | [] => True
  | item :: rest => Plain item ∧ PlainItems rest

def PlainMembers : List (String × Json) → Prop
  | [] => True
  | (_, value) :: rest => Plain value ∧ PlainMembers rest

end

mutual

def toPieces : Json → List Piece
  | .null => [.null]
  | .bool b => [.bool b]
  | .whole n => [.whole n]
  | .real x => [.real x]
  | .text t => [.text t]
  | .array [] => [.openArray, .closeArray]
  | .array (item :: rest) => .openArray :: (toPieces item ++ itemPieces rest ++ [.closeArray])
  | .object [] => [.openObject, .closeObject]
  | .object ((key, value) :: rest) =>
    .openObject :: .text key :: .colon :: (toPieces value ++ memberPieces rest ++ [.closeObject])

def itemPieces : List Json → List Piece
  | [] => []
  | item :: rest => .comma :: (toPieces item ++ itemPieces rest)

def memberPieces : List (String × Json) → List Piece
  | [] => []
  | (key, value) :: rest =>
    .comma :: .text key :: .colon :: (toPieces value ++ memberPieces rest)

end

theorem pieces_quoted (t : String) (rest : List Char) :
    pieces (quotedChars t ++ rest) = .text t :: pieces rest := by
  rw [quotedChars, List.cons_append, List.append_assoc]
  exact pieces_cons (by decide) (readPiece_quoted t rest)

def mark? : Char → Option Piece
  | '[' => some .openArray
  | ']' => some .closeArray
  | '{' => some .openObject
  | '}' => some .closeObject
  | ',' => some .comma
  | ':' => some .colon
  | _ => none

theorem pieces_mark {c : Char} {p : Piece} (isMark : mark? c = some p) (rest : List Char) :
    pieces (c :: rest) = p :: pieces rest := by
  unfold mark? at isMark
  split at isMark <;> cases isMark <;> exact pieces_cons (by decide) rfl

theorem pieces_newLine (level : Nat) (rest : List Char) :
    pieces (newLine level ++ rest) = pieces rest := by
  have blanks (n : Nat) : pieces (List.replicate n ' ' ++ rest) = pieces rest := by
    induction n with
    | zero => rfl
    | succ n ih => exact (pieces_blank (by decide)).trans ih
  exact (pieces_blank (by decide)).trans (blanks _)

theorem pieces_word (word : List Char) {c : Char} {p : Piece} (solid : isBlank c = false)
    (starts : ∀ cs, readPiece c cs = readWord word p cs) (rest : List Char) :
    pieces (c :: (word ++ rest)) = p :: pieces rest := by
  refine pieces_cons solid ?_
  have found : word.isPrefixOf (word ++ rest) = true :=
    List.isPrefixOf_iff_prefix.2 (List.prefix_append word rest)
  rw [starts, readWord, if_pos found, List.drop_left]

theorem free_mark {c : Char} (mark : c ∈ [',', ']', '}', '\n']) (rest : List Char) :
    Free (c :: rest) := by
  rw [free_cons]
  simp only [List.mem_cons, List.not_mem_nil, or_false] at mark
  rcases mark with rfl | rfl | rfl | rfl <;> decide

theorem free_compactItems (items : List Json) {rest : List Char} (free : Free rest) :
    Free (compactItems items ++ rest) := by
  cases items with
  | nil => simpa [compactItems] using free
  | cons item items => simpa [compactItems] using free_mark (by decide) _

theorem free_compactMembers (members : List (String × Json)) {rest : List Char} (free : Free rest) :
    Free (compactMembers members ++ rest) := by
  cases members with
  | nil => simpa [compactMembers] using free
  | cons member members => simpa [compactMembers] using free_mark (by decide) _

theorem free_newLine (level : Nat) (rest : List Char) : Free (newLine level ++ rest) :=
  free_mark (by decide) _

theorem free_indentedItems (level : Nat) (items : List Json) {rest : List Char}
    (free : Free rest) : Free (indentedItems level items ++ rest) := by
  cases items with
  | nil => simpa [indentedItems] using free
  | cons item items => simpa [indentedItems] using free_mark (by decide) _

theorem free_indentedMembers (level : Nat) (members : List (String × Json)) {rest : List Char}
    (free : Free rest) : Free (indentedMembers level members ++ rest) := by
  cases members with
  | nil => simpa [indentedMembers] using free
  | cons member members => simpa [indentedMembers] using free_mark (by decide) _

mutual

theorem pieces_compact {j : Json} (plain : Plain j) {rest : List Char} (free : Free rest) :
    pieces (compactChars j ++ rest) = toPieces j ++ pieces rest := by
  -- Inside a value it is a comma or a closing bracket that stops a number.
  match j with
  | .null => exact pieces_word ['u', 'l', 'l'] (by decide) (fun _ => rfl) rest
  | .bool true => exact pieces_word ['r', 'u', 'e'] (by decide) (fun _ => rfl) rest
  | .bool false => exact pieces_word ['a', 'l', 's', 'e'] (by decide) (fun _ => rfl) rest
  | .whole n => exact pieces_whole plain free
  | .text t => exact pieces_quoted t rest
  | .array [] => simp [compactChars, leafChars, pieces_mark, mark?, toPieces]
  | .object [] => simp [compactChars, leafChars, pieces_mark, mark?, toPieces]
  | .array (item :: items) =>
    obtain ⟨first, others⟩ := plain
    have closing : Free (']' :: rest) := free_mark (by decide) rest
    have head := pieces_compact first (free_compactItems items closing)
    have tail := pieces_compactItems others closing
    simp [compactChars, toPieces, pieces_mark, mark?, head, tail]
  | .object ((key, value) :: members) =>
    obtain ⟨first, others⟩ := plain
    have closing : Free ('}' :: rest) := free_mark (by decide) rest
    have head := pieces_compact first (free_compactMembers members closing)
    have tail := pieces_compactMembers others closing
    simp [compactChars, toPieces, pieces_mark, mark?, pieces_quoted, head, tail]

theorem pieces_compactItems {items : List Json} (plain : PlainItems items) {rest : List Char}
    (free : Free rest) : pieces (compactItems items ++ rest) = itemPieces items ++ pieces rest := by
  match items with
  | [] => simp [compactItems, itemPieces]
  | item :: items =>
    obtain ⟨first, others⟩ := plain
    have head := pieces_compact first (free_compactItems items free)
    have tail := pieces_compactItems others free
    simp [compactItems, itemPieces, pieces_mark, mark?, head, tail]

theorem pieces_compactMembers {members : List (String × Json)} (plain : PlainMembers members)
    {rest : List Char} (free : Free rest) :
    pieces (compactMembers members ++ rest) = memberPieces members ++ pieces rest := by
  match members with
  | [] => simp [compactMembers, memberPieces]
  | (key, value) :: members =>
    obtain ⟨first, others⟩ := plain
    have head := pieces_compact first (free_compactMembers members free)
    have tail := pieces_compactMembers others free
    simp [compactMembers, memberPieces, pieces_mark, mark?, pieces_quoted, head, tail]

end

theorem pieces_space (rest : List Char) : pieces (' ' :: rest) = pieces rest :=
  pieces_blank (by decide)

mutual

theorem pieces_indented {j : Json} (level : Nat) (plain : Plain j) {rest : List Char}
    (free : Free rest) : pieces (indentedChars level j ++ rest) = toPieces j ++ pieces rest := by
  match j with
  | .null => exact pieces_compact plain free
  | .bool true => exact pieces_compact plain free
  | .bool false => exact pieces_compact plain free
  | .whole n => exact pieces_whole plain free
  | .text t => exact pieces_quoted t rest
  | .array [] => simp [indentedChars, leafChars, pieces_mark, mark?, toPieces]
  | .object [] => simp [indentedChars, leafChars, pieces_mark, mark?, toPieces]
  | .array (item :: items) =>
    obtain ⟨first, others⟩ := plain
    have closing : Free (newLine level ++ ']' :: rest) := free_newLine level _
    have head := pieces_indented (level + 1) first (free_indentedItems (level + 1) items closing)
    have tail := pieces_indentedItems (level + 1) others closing
    simp [indentedChars, toPieces, pieces_mark, mark?, pieces_newLine, head, tail]
  | .object ((key, value) :: members) =>
    obtain ⟨first, others⟩ := plain
    have closing : Free (newLine level ++ '}' :: rest) := free_newLine level _
    have head := pieces_indented (level + 1) first
      (free_indentedMembers (level + 1) members closing)
    have tail := pieces_indentedMembers (level + 1) others closing
    simp [indentedChars, toPieces, pieces_mark, mark?, pieces_newLine, pieces_quoted, pieces_space,
      head, tail]

theorem pieces_indentedItems {items : List Json} (level : Nat) (plain : PlainItems items)
    {rest : List Char} (free : Free rest) :
    pieces (indentedItems level items ++ rest) = itemPieces items ++ pieces rest := by
  match items with
  | [] => simp [indentedItems, itemPieces]
  | item :: items =>
    obtain ⟨first, others⟩ := plain
    have head := pieces_indented level first (free_indentedItems level items free)
    have tail := pieces_indentedItems level others free
    simp [indentedItems, itemPieces, pieces_mark, mark?, pieces_newLine, head, tail]

theorem pieces_indentedMembers {members : List (String × Json)} (level : Nat)
    (plain : PlainMembers members) {rest : List Char} (free : Free rest) :
    pieces (indentedMembers level members ++ rest) = memberPieces members ++ pieces rest := by
  match members with
  | [] => simp [indentedMembers, memberPieces]
  | (key, value) :: members =>
    obtain ⟨first, others⟩ := plain
    have head := pieces_indented level first (free_indentedMembers level members free)
    have tail := pieces_indentedMembers level others free
    simp [indentedMembers, memberPieces, pieces_mark, mark?, pieces_newLine, pieces_quoted,
      pieces_space, head, tail]

end

end TimelineFilter.Json
