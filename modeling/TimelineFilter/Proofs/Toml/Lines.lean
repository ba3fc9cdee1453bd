import TimelineFilter.Proofs.Runs
import TimelineFilter.Toml.Reader

namespace TimelineFilter.Toml

/-! Quoted texts -/

theorem readEscape_escapeLetter? {c letter : Char} (escape : escapeLetter? c = some letter)
    (rest : List Char) : readEscape (letter :: rest) = some (c, rest) := by
  unfold escapeLetter? at escape
  split at escape
  · rename_i same
    cases escape
    rcases same with rfl | rfl <;> simp [readEscape, escaped?]
  · repeat' split at escape
    all_goals cases escape
    all_goals
      subst_vars
      simp [readEscape, escaped?]

theorem plain_of_escapeLetter? {c : Char} (plain : escapeLetter? c = none) :
    c ≠ '"' ∧ c ≠ '\\' := by
  constructor <;> rintro rfl <;> cases plain

theorem readBasic_escape {cs after : List Char} {c : Char}
    (read : readEscape cs = some (c, after)) :
    readBasic ('\\' :: cs) = (readBasic after).map (withChar c) := by
  rw [readBasic]
  split
  · rename_i failed
    rw [read] at failed
    cases failed
  · rename_i found
    rw [read] at found
    cases found
    rfl

theorem readBasic_plain {c : Char} (notQuote : c ≠ '"') (notBackslash : c ≠ '\\')
    (plain : isPlain c = true) (rest : List Char) :
    readBasic (c :: rest) = (readBasic rest).map (withChar c) := by
  rw [readBasic.eq_4 c rest notQuote notBackslash, if_pos plain]

theorem control_of_not_plain {c : Char} (control : isPlain c = false) : c.toNat < 128 := by
  simp only [isPlain, Bool.or_eq_false_iff, Bool.and_eq_false_iff, decide_eq_false_iff_not,
    bne_eq_false_iff_eq] at control
  obtain ⟨-, low | rfl⟩ := control
  · have low' : ¬ 32 ≤ c.toNat := low
    omega
  · decide

theorem point?_control : ∀ n < 128,
    point? ['0', '0', Nat.digitChar (n / 16), Nat.digitChar (n % 16)] = some (Char.ofNat n) := by
  decide

theorem readBasic_escapeChar (c : Char) (rest : List Char) :
    readBasic (escapeChar c ++ rest) = (readBasic rest).map (withChar c) := by
  unfold escapeChar
  cases escape : escapeLetter? c with
  | some letter => exact readBasic_escape (readEscape_escapeLetter? escape rest)
  | none =>
    obtain ⟨notQuote, notBackslash⟩ := plain_of_escapeLetter? escape
    cases plain : isPlain c with
    | true => exact readBasic_plain notQuote notBackslash plain rest
    | false =>
      have back := point?_control c.toNat (control_of_not_plain plain)
      rw [Char.ofNat_toNat] at back
      exact readBasic_escape (by simp [readEscape, back])

theorem readBasic_escaped (cs rest : List Char) :
    readBasic (cs.flatMap escapeChar ++ '"' :: rest) = some (cs, rest) := by
  induction cs with
  | nil => rw [List.flatMap_nil, List.nil_append, readBasic]
  | cons c cs ih =>
    rw [List.flatMap_cons, List.append_assoc, readBasic_escapeChar, ih]
    rfl

theorem escapeChar_head (c : Char) : ∃ d tail, escapeChar c = d :: tail ∧ d ≠ '"' := by
  unfold escapeChar
  cases escape : escapeLetter? c with
  | some letter => exact ⟨_, _, rfl, by decide⟩
  | none =>
    dsimp only
    split
    · exact ⟨_, _, rfl, (plain_of_escapeLetter? escape).1⟩
    · exact ⟨_, _, rfl, by decide⟩

theorem quotedChars_append (text : String) (rest : List Char) :
    quotedChars text ++ rest = '"' :: (text.toList.flatMap escapeChar ++ '"' :: rest) := by
  simp [quotedChars]

theorem readQuoted_quotedChars (text : String) {rest : List Char}
    (apart : ∀ c ∈ rest.head?, c ≠ '"') :
    readQuoted (quotedChars text ++ rest) = some (text.toList, rest) := by
  have single : ∀ more, text.toList.flatMap escapeChar ++ '"' :: rest ≠ '"' :: '"' :: more := by
    intro more same
    cases cs : text.toList with
    | nil =>
      rw [cs] at same
      obtain rfl := (List.cons.inj same).2
      exact apart '"' rfl rfl
    | cons c cs' =>
      obtain ⟨d, tail, written, notQuote⟩ := escapeChar_head c
      rw [cs, List.flatMap_cons, written] at same
      exact notQuote (List.cons.inj same).1
  rw [quotedChars_append, readQuoted.eq_2 _ single, readBasic_escaped]

/-! Keys and values -/

def startsKey (c : Char) : Bool := isKeyChar c || c == '"'

theorem ne_of_startsKey {c d : Char} (starts : startsKey c = true) (other : startsKey d = false) :
    c ≠ d := by
  rintro rfl
  rw [starts] at other
  cases other

theorem isBlank_eq_false {c : Char} (notSpace : c ≠ ' ') (notTab : c ≠ '\t') :
    isBlank c = false := by
  simp [isBlank, notSpace, notTab]

theorem skipBlanks_solid {c : Char} (solid : isBlank c = false) (tail : List Char) :
    skipBlanks (c :: tail) = c :: tail := by
  simp [skipBlanks, solid]

/-- The characters are read as one part of a key in front of whatever does not go on with it. -/
structure SpellsKey (cs : List Char) (name : String) : Prop where
  starts : ∃ c tail, cs = c :: tail ∧ startsKey c = true
  reads : ∀ rest, (∀ c ∈ rest.head?, isKeyChar c = false) →
    readKeyPart (cs ++ rest) = some (name, rest)

/-- The characters are read as a value that ends with the line. -/
structure SpellsValue (cs : List Char) (v : Toml) : Prop where
  starts : ∃ c tail, cs = c :: tail ∧ isBlank c = false
  reads : ∀ rest, readValue maxDepth (cs ++ '\n' :: rest) = some (v, '\n' :: rest)

theorem spellsKey_bare {name : String} (nonempty : name.toList ≠ [])
    (all : ∀ c ∈ name.toList, isKeyChar c = true) : SpellsKey name.toList name := by
  obtain ⟨c, tail, same⟩ := List.exists_cons_of_ne_nil nonempty
  have first : isKeyChar c = true := all c (same ▸ List.mem_cons_self)
  refine ⟨⟨c, tail, same, by simp [startsKey, first]⟩, ?_⟩
  intro rest stop
  obtain ⟨taken, dropped⟩ := Text.span_run all stop
  have notDouble : c ≠ '"' := by
    rintro rfl
    cases first
  have notSingle : c ≠ '\'' := by
    rintro rfl
    cases first
  have whole : String.ofList (c :: tail) = name := by rw [← same, String.ofList_toList]
  rw [same, List.cons_append] at taken dropped
  rw [same, List.cons_append, readKeyPart]
  · rw [taken, dropped]
    exact congrArg some (congrArg (·, rest) whole)
  · intro more clash
    exact notDouble (List.cons.inj clash).1
  · intro more clash
    exact notSingle (List.cons.inj clash).1

theorem spellsKey_quoted (name : String) : SpellsKey (quotedChars name) name where
  starts := ⟨'"', _, rfl, rfl⟩
  reads rest _ := by
    rw [quotedChars_append, readKeyPart, readBasic_escaped, Option.map_some]
    simp only [String.ofList_toList]

theorem spellsValue_quoted (text : String) : SpellsValue (quotedChars text) (.text text) where
  starts := ⟨'"', _, rfl, rfl⟩
  reads rest := by
    have apart : ∀ c ∈ ('\n' :: rest).head?, c ≠ '"' := by simp
    have read := readQuoted_quotedChars text apart
    rw [quotedChars_append] at read ⊢
    rw [readValue, read, Option.map_some]
    simp only [String.ofList_toList]

theorem readValue_scalar {c : Char} (scalar : isScalarChar c = true) (depth : Nat)
    (tail : List Char) : readValue depth (c :: tail) = readScalar (c :: tail) := by
  have apart : ∀ d, isScalarChar d = false → c ≠ d := by
    rintro d other rfl
    rw [scalar] at other
    cases other
  have double := apart '"' (by decide)
  have single := apart '\'' (by decide)
  have square := apart '[' (by decide)
  have brace := apart '{' (by decide)
  unfold readValue
  split <;> simp_all

theorem spellsValue_scalar {c : Char} {tail : List Char} {v : Toml}
    (all : ∀ d ∈ c :: tail, isScalarChar d = true) (found : scalar? (c :: tail) = some v) :
    SpellsValue (c :: tail) v := by
  have first := all c List.mem_cons_self
  refine ⟨⟨c, tail, rfl, ?_⟩, ?_⟩
  · cases blank : isBlank c with
    | false => rfl
    | true =>
      have two : c = ' ' ∨ c = '\t' := by simpa [isBlank] using blank
      rcases two with rfl | rfl <;> cases first
  · intro rest
    have stop : ∀ d ∈ ('\n' :: rest).head?, isScalarChar d = false := by
      rintro d ⟨⟩
      decide
    obtain ⟨taken, dropped⟩ := Text.span_run all stop
    rw [List.cons_append, readValue_scalar first, ← List.cons_append]
    unfold readScalar
    rw [taken, dropped]
    dsimp only
    rw [found]
    rfl

theorem spellsValue_flag (b : Bool) :
    SpellsValue (if b then "true" else "false").toList (.bool b) := by
  cases b with
  | true => exact spellsValue_scalar (List.all_eq_true.1 rfl) rfl
  | false => exact spellsValue_scalar (List.all_eq_true.1 rfl) rfl

theorem spellsValue_one : SpellsValue (Nat.toDigits 10 1) (.whole 1) := by
  have whole : whole? ['1'] = some 1 := by decide
  have found : scalar? ['1'] = some (.whole 1) := by
    unfold scalar?
    rw [whole]
    rfl
  exact spellsValue_scalar (List.all_eq_true.1 rfl) found

theorem SpellsKey.solid {cs : List Char} {name : String} (spelled : SpellsKey cs name)
    (rest : List Char) : skipBlanks (cs ++ rest) = cs ++ rest := by
  obtain ⟨c, tail, rfl, starts⟩ := spelled.starts
  exact skipBlanks_solid (isBlank_eq_false (ne_of_startsKey starts (by decide))
    (ne_of_startsKey starts (by decide))) _

theorem readKey_spelled {cs : List Char} {name : String} (spelled : SpellsKey cs name)
    (rest : List Char) (stop : ∀ c ∈ rest.head?, isKeyChar c = false)
    (last : ∀ c ∈ (skipBlanks rest).head?, c ≠ '.') :
    readKey (cs ++ rest) = some ([name], skipBlanks rest) := by
  rw [readKey, spelled.solid, spelled.reads rest stop]
  dsimp only
  split
  · rename_i point
    exact absurd rfl (last '.' (by rw [point]; rfl))
  · rfl

/-! Lines -/

theorem endLine_break (rest : List Char) : endLine ('\n' :: rest) = some rest := by
  have here : skipBlanks ('\n' :: rest) = '\n' :: rest := skipBlanks_solid (by decide) rest
  unfold endLine
  rw [here]
  rfl

theorem readStatements_empty (rest : List Char) :
    readStatements ('\n' :: rest) = readStatements rest := by
  have here : skipBlanks ('\n' :: rest) = '\n' :: rest := skipBlanks_solid (by decide) rest
  rw [readStatements, here]
  simp only [isBare, if_true, endLine_break, List.length_cons, Nat.lt_succ_self]

theorem readStatements_line {c : Char} {tail rest : List Char} {s : Statement}
    (solid : isBlank c = false) (speaks : isBare (c :: tail) = false)
    (read : readStatement (c :: tail) = some (s, '\n' :: rest))
    (shorter : rest.length < (c :: tail).length) :
    readStatements (c :: tail) = (readStatements rest).map (s :: ·) := by
  rw [readStatements, skipBlanks_solid solid]
  simp only [speaks, Bool.false_eq_true, if_false, read, endLine_break, if_pos shorter]

/-- Only the first character of a line and, behind a carriage return, the second tell whether it
says anything. -/
theorem isBare_eq_false {c : Char} (notBreak : c ≠ '\n') (notReturn : c ≠ '\r')
    (notComment : c ≠ '#') (tail : List Char) : isBare (c :: tail) = false := by
  unfold isBare
  split <;> simp_all

theorem readStatement_assign {key value : List Char} {name : String} {v : Toml}
    (named : SpellsKey key name) (valued : SpellsValue value v) (rest : List Char) :
    readStatement (key ++ (' ' :: '=' :: ' ' :: (value ++ '\n' :: rest))) =
      some (.assign [] name v, '\n' :: rest) := by
  obtain ⟨d, more, rfl, solid⟩ := valued.starts
  have equals : skipBlanks (' ' :: '=' :: ' ' :: (d :: more ++ '\n' :: rest)) =
      '=' :: ' ' :: (d :: more ++ '\n' :: rest) := rfl
  have behind : skipBlanks (' ' :: (d :: more ++ '\n' :: rest)) = d :: more ++ '\n' :: rest :=
    skipBlanks_solid solid _
  have read := readKey_spelled named (' ' :: '=' :: ' ' :: (d :: more ++ '\n' :: rest))
    (by rintro e ⟨⟩; decide) (by rw [equals]; rintro e ⟨⟩; decide)
  obtain ⟨c, tail, rfl, starts⟩ := named.starts
  have notSquare : c ≠ '[' := ne_of_startsKey starts (by decide)
  rw [equals] at read
  rw [List.cons_append] at read ⊢
  unfold readStatement
  split
  · rename_i same
    exact absurd (List.cons.inj same).1 notSquare
  · rename_i same
    exact absurd (List.cons.inj same).1 notSquare
  · rw [read]
    simp only [splitKey, behind, valued.reads]
    rfl

theorem readStatements_assign {key value : List Char} {name : String} {v : Toml}
    (named : SpellsKey key name) (valued : SpellsValue value v) (rest : List Char) :
    readStatements (key ++ (' ' :: '=' :: ' ' :: (value ++ '\n' :: rest))) =
      (readStatements rest).map (.assign [] name v :: ·) := by
  have read := readStatement_assign named valued rest
  obtain ⟨c, tail, rfl, starts⟩ := named.starts
  have apart : ∀ d, startsKey d = false → c ≠ d := fun d other => ne_of_startsKey starts other
  rw [List.cons_append] at read ⊢
  refine readStatements_line (isBlank_eq_false (apart _ (by decide)) (apart _ (by decide)))
    (isBare_eq_false (apart _ (by decide)) (apart _ (by decide)) (apart _ (by decide)) _) read ?_
  simp only [List.length_append, List.length_cons]
  omega

theorem readStatement_header {key : List Char} {name : String} (named : SpellsKey key name)
    (rest : List Char) :
    readStatement ('[' :: (key ++ ']' :: '\n' :: rest)) =
      some (.openTable [] name, '\n' :: rest) := by
  have bracket : skipBlanks (']' :: '\n' :: rest) = ']' :: '\n' :: rest :=
    skipBlanks_solid (by decide) _
  have read := readKey_spelled named (']' :: '\n' :: rest) (by rintro e ⟨⟩; decide)
    (by rw [bracket]; rintro e ⟨⟩; decide)
  obtain ⟨c, tail, rfl, starts⟩ := named.starts
  have notSquare : c ≠ '[' := ne_of_startsKey starts (by decide)
  rw [bracket] at read
  unfold readStatement
  split
  · rename_i same
    exact absurd (List.cons.inj (List.cons.inj same).2).1 notSquare
  · rename_i same
    obtain rfl := (List.cons.inj same).2
    rw [read]
    rfl
  · rename_i single
    exact (single _ rfl).elim

theorem readStatements_header {key : List Char} {name : String} (named : SpellsKey key name)
    (rest : List Char) :
    readStatements ('[' :: (key ++ ']' :: '\n' :: rest)) =
      (readStatements rest).map (.openTable [] name :: ·) := by
  refine readStatements_line (by decide) (isBare_eq_false (by decide) (by decide) (by decide) _)
    (readStatement_header named rest) ?_
  simp only [List.length_append, List.length_cons]
  omega

end TimelineFilter.Toml
