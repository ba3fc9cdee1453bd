/-!
Quoting of text inside a query. Exactly two characters are escaped inside quotes, the quote and
the backslash; a backslash in front of any other character stands for itself.
-/
namespace TimelineFilter

def isTokenBlank (c : Char) : Bool := c == ' ' || c == '\t' || c == '\r' || c == '\n'

/-- The characters that end a bare word: blanks and the characters that symbols start with. -/
def isDelimiter (c : Char) : Bool :=
  isTokenBlank c || ['"', '.', ',', ':', '!', '&', '|', '=', '<', '>', '-', '+', '*', '/',
    '(', ')', '[', ']'].contains c

def escapeChars : List Char → List Char
  | [] => []
  | c :: rest => if c = '"' ∨ c = '\\' then '\\' :: c :: escapeChars rest else c :: escapeChars rest

def escape (text : String) : String := String.ofList (escapeChars text.toList)

def quote (text : String) : String :=
  String.ofList ('"' :: (escapeChars text.toList ++ ['"']))

/-- The contents of a string whose opening quote has been read and the characters after its
closing quote, or nothing if it is never closed. -/
def unquote : List Char → Option (List Char × List Char)
  | [] => none
  | '"' :: rest => some ([], rest)
  | '\\' :: '"' :: rest => (unquote rest).map fun (text, after) => ('"' :: text, after)
  | '\\' :: '\\' :: rest => (unquote rest).map fun (text, after) => ('\\' :: text, after)
  | c :: rest => (unquote rest).map fun (text, after) => (c :: text, after)

def unescape : List Char → List Char
  | [] => []
  | '\\' :: '"' :: rest => '"' :: unescape rest
  | '\\' :: '\\' :: rest => '\\' :: unescape rest
  | c :: rest => c :: unescape rest

theorem unquote_shorter {cs text after : List Char} (closed : unquote cs = some (text, after)) :
    after.length < cs.length := by
  fun_induction unquote cs generalizing text after with
  | case1 => simp at closed
  | case2 rest =>
    obtain ⟨_, rfl⟩ : [] = text ∧ rest = after := by simpa using closed
    simp
  | case3 rest ih | case4 rest ih =>
    obtain ⟨⟨t, a⟩, found, same⟩ := Option.map_eq_some_iff.1 closed
    obtain ⟨_, rfl⟩ := Prod.mk.inj same
    have := ih found
    simp only [List.length_cons]
    omega
  | case5 c rest _ _ _ ih =>
    obtain ⟨⟨t, a⟩, found, same⟩ := Option.map_eq_some_iff.1 closed
    obtain ⟨_, rfl⟩ := Prod.mk.inj same
    have := ih found
    simp only [List.length_cons]
    omega

theorem unquote_escapeChars (text rest : List Char) :
    unquote (escapeChars text ++ '"' :: rest) = some (text, rest) := by
  induction text with
  | nil => rfl
  | cons c text ih =>
    by_cases isQuote : c = '"'
    · subst isQuote
      simp [escapeChars, unquote, ih]
    · by_cases isBackslash : c = '\\'
      · subst isBackslash
        simp [escapeChars, unquote, ih]
      · simp [escapeChars, unquote, isQuote, isBackslash, ih]

def isBareWord (text : String) : Bool := !text.toList.isEmpty && !text.toList.any isDelimiter

def bareOrQuoted (text : String) : String := if isBareWord text then text else quote text

end TimelineFilter
