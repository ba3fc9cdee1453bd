import TimelineFilter.Text.Hex

/-!
Quoted text in TOML. Between double quotes a backslash starts an escape; between single quotes
every character stands for itself. Three quotes enclose text of several lines, whose first line
break is dropped; up to two more quotes in front of the closing ones belong to the text.
-/
namespace TimelineFilter.Toml

def isBlank (c : Char) : Bool := c == ' ' || c == '\t'

def isPlain (c : Char) : Bool := c == '\t' || (' ' ≤ c && c != '\x7f')

def escaped? (letter : Char) : Option Char :=
  match letter with
  | '"' => some '"'
  | '\\' => some '\\'
  | 'b' => some '\x08'
  | 'f' => some '\x0c'
  | 'n' => some '\n'
  | 'r' => some '\r'
  | 't' => some '\t'
  | _ => none

def point? (digits : List Char) : Option Char := (Text.hexNumber? digits).bind Text.charOf?

def readEscape : List Char → Option (Char × List Char)
  | 'u' :: a :: b :: c :: d :: rest => (point? [a, b, c, d]).map (·, rest)
  | 'U' :: a :: b :: c :: d :: e :: f :: g :: h :: rest =>
    (point? [a, b, c, d, e, f, g, h]).map (·, rest)
  | letter :: rest => (escaped? letter).map (·, rest)
  | [] => none

theorem readEscape_shorter {cs after : List Char} {c : Char}
    (read : readEscape cs = some (c, after)) : after.length < cs.length := by
  unfold readEscape at read
  split at read
  case h_4 => simp at read
  all_goals
    obtain ⟨_, _, same⟩ := Option.map_eq_some_iff.1 read
    obtain ⟨_, rfl⟩ := Prod.mk.inj same
    simp only [List.length_cons]
    omega

def withChar (c : Char) : List Char × List Char → List Char × List Char
  | (found, after) => (c :: found, after)

def readBasic (cs : List Char) : Option (List Char × List Char) :=
  match cs with
  | [] => none
  | '"' :: rest => some ([], rest)
  | '\\' :: rest =>
    match _ : readEscape rest with
    | none => none
    | some (c, after) => (readBasic after).map (withChar c)
  | c :: rest => if isPlain c then (readBasic rest).map (withChar c) else none
termination_by cs.length
decreasing_by
  · have := readEscape_shorter (by assumption)
    simp only [List.length_cons]
    omega
  · simp

def readLiteral : List Char → Option (List Char × List Char)
  | [] => none
  | '\'' :: rest => some ([], rest)
  | c :: rest => if isPlain c then (readLiteral rest).map (withChar c) else none

/-- What follows three closing quotes, with the quotes that belong to the text. -/
def closing (q : Char) : List Char → List Char × List Char
  | c :: d :: rest =>
    if c = q then if d = q then ([q, q], rest) else ([q], d :: rest) else ([], c :: d :: rest)
  | [c] => if c = q then ([q], []) else ([], [c])
  | [] => ([], [])

def dropBreak : List Char → List Char
  | '\n' :: rest => rest
  | '\r' :: '\n' :: rest => rest
  | cs => cs

/-- The characters behind a backslash at the end of a line: blanks and line breaks are dropped. -/
def continued? (cs : List Char) : Option (List Char) :=
  match cs.dropWhile isBlank with
  | '\n' :: rest => some (rest.dropWhile fun c => isBlank c || c == '\n' || c == '\r')
  | '\r' :: '\n' :: rest => some (rest.dropWhile fun c => isBlank c || c == '\n' || c == '\r')
  | _ => none

theorem continued?_shorter {cs after : List Char} (found : continued? cs = some after) :
    after.length < cs.length := by
  unfold continued? at found
  have whole := (List.dropWhile_suffix isBlank (l := cs)).length_le
  split at found
  · rename_i rest same
    have tail := (List.dropWhile_suffix (fun c => isBlank c || c == '\n' || c == '\r')
      (l := rest)).length_le
    rw [same] at whole
    obtain rfl := Option.some.inj found
    simp only [List.length_cons] at whole
    omega
  · rename_i rest same
    have tail := (List.dropWhile_suffix (fun c => isBlank c || c == '\n' || c == '\r')
      (l := rest)).length_le
    rw [same] at whole
    obtain rfl := Option.some.inj found
    simp only [List.length_cons] at whole
    omega
  · simp at found

def readBasicLines (cs : List Char) : Option (List Char × List Char) :=
  match cs with
  | [] => none
  | '"' :: '"' :: '"' :: rest => some (closing '"' rest)
  | '\r' :: '\n' :: rest => (readBasicLines rest).map (withChar '\n')
  | '\\' :: rest =>
    match _ : continued? rest with
    | some after => readBasicLines after
    | none =>
      match _ : readEscape rest with
      | none => none
      | some (c, after) => (readBasicLines after).map (withChar c)
  | c :: rest =>
    if isPlain c || c == '\n' then (readBasicLines rest).map (withChar c) else none
termination_by cs.length
decreasing_by
  · simp only [List.length_cons]
    omega
  · have := continued?_shorter (by assumption)
    simp only [List.length_cons]
    omega
  · have := readEscape_shorter (by assumption)
    simp only [List.length_cons]
    omega
  · simp

def readLiteralLines : List Char → Option (List Char × List Char)
  | [] => none
  | '\'' :: '\'' :: '\'' :: rest => some (closing '\'' rest)
  | '\r' :: '\n' :: rest => (readLiteralLines rest).map (withChar '\n')
  | c :: rest =>
    if isPlain c || c == '\n' then (readLiteralLines rest).map (withChar c) else none

def readQuoted : List Char → Option (List Char × List Char)
  | '"' :: '"' :: '"' :: rest => readBasicLines (dropBreak rest)
  | '"' :: rest => readBasic rest
  | '\'' :: '\'' :: '\'' :: rest => readLiteralLines (dropBreak rest)
  | '\'' :: rest => readLiteral rest
  | _ => none

def escapeLetter? (c : Char) : Option Char :=
  if c = '"' ∨ c = '\\' then some c
  else if c = '\x08' then some 'b'
  else if c = '\t' then some 't'
  else if c = '\n' then some 'n'
  else if c = '\x0c' then some 'f'
  else if c = '\r' then some 'r'
  else none

def escapeChar (c : Char) : List Char :=
  match escapeLetter? c with
  | some letter => ['\\', letter]
  | none =>
    if isPlain c then [c]
    else ['\\', 'u', '0', '0', Nat.digitChar (c.toNat / 16), Nat.digitChar (c.toNat % 16)]

def quotedChars (text : String) : List Char :=
  '"' :: (text.toList.flatMap escapeChar ++ ['"'])

end TimelineFilter.Toml
