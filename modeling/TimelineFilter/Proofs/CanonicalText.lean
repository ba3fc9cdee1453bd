import TimelineFilter.Proofs.GrammarForm

/-! The canonical text of a query compiles to that query again, exactly if the query has the form
of the grammar. The lexemes of the text are given first; that they are read off the text and that
they derive the query are separate facts. -/
namespace TimelineFilter

def Lexeme.ofName (name : String) : Lexeme := if isBareWord name then .word name else .quoted name

def Selector.spelling : Selector → List Lexeme
  | .any => [.word "our"]
  | .named name =>
    if isBareWord name then [.word ("@" ++ name)]
    else [.word "@", .symbol .period, .quoted name]
  | .id n => [.word ("#" ++ Text.decimal n.toInt)]

def Value.spelling : Value → List Lexeme
  | .text t => [.quoted t]
  | .number n => [.word (Text.decimal n.toInt)]
  | .account s => s.spelling
  | .relation s r => s.spelling ++ [.symbol .period, .word (Catalogue.name r)]
  | .person who => [.word who.render]
  | .personField who f => [.word who.render, .symbol .period, .word (Catalogue.name f)]
  | .field f => [.word (Catalogue.name f)]
  | .list owner slug =>
    [.word "list", .symbol .period, .ofName owner, .symbol .period, .ofName slug]

def BinaryOp.lexeme (op : BinaryOp) : Lexeme :=
  match op.symbol? with
  | some s => .symbol s
  | none => .word op.text

def UnaryOp.lexeme : UnaryOp → Lexeme
  | .not => .symbol .exclamation
  | .negate => .symbol .minus
  | .caseful => .word "caseful"

def commas : List (List Lexeme) → List Lexeme
  | [] => []
  | [xs] => xs
  | xs :: rest => xs ++ .symbol .comma :: commas rest

def Predicate.spelling : Predicate → List Lexeme
  | .binary op left right => left.spelling ++ op.lexeme :: right.spelling
  | .unary op operand => op.lexeme :: operand.spelling
  | .always => [.symbol .openParen, .symbol .closeParen]
  | .bracket inner => .symbol .openParen :: inner.spelling ++ [.symbol .closeParen]
  | .set members =>
    .symbol .openSquare :: commas (members.map Value.spelling) ++ [.symbol .closeSquare]
  | .value v => v.spelling

def Source.spelling (s : Source) : List Lexeme :=
  match s.arguments with
  | [] => [.word (Catalogue.name s.kind)]
  | arguments =>
    .word (Catalogue.name s.kind) :: .symbol .colon :: commas (arguments.map fun a => [.quoted a])

def Query.spelling (q : Query) : List Lexeme :=
  .word "from" :: commas (q.sources.map Source.spelling)
    ++ (if q.root = .always then [] else .word "where" :: q.root.spelling)

/-- A character that no lexeme in front of it takes. -/
def Separates (c : Char) : Prop := ∀ x : Lexeme, x.takes c = false

theorem separates_of_delimiter {c : Char} (delimiter : isDelimiter c = true)
    (apart : ∀ s : Symbol, s.takes c = false) : Separates c := by
  intro x
  cases x with
  | word text => simp [Lexeme.takes, delimiter]
  | quoted text => rfl
  | symbol s => exact apart s

/-- The characters are read as these lexemes in front of whatever does not go on with the last
one. -/
def Writes (cs : List Char) (xs : List Lexeme) : Prop :=
  ∀ rest ys, (∀ c ∈ rest.head?, Separates c) → Spells rest ys → Spells (cs ++ rest) (xs ++ ys)

theorem Writes.spells {cs : List Char} {xs : List Lexeme} (writes : Writes cs xs) :
    Spells cs xs := by
  simpa using writes [] [] (by simp) spells_nil

theorem writes_nil : Writes [] [] := fun _ _ _ spelled => spelled

theorem Writes.append {cs ds : List Char} {xs ys : List Lexeme} (first : Writes cs xs)
    (second : Writes ds ys) (apart : ∀ c ∈ ds.head?, Separates c) :
    Writes (cs ++ ds) (xs ++ ys) := by
  intro rest zs free spelled
  rw [List.append_assoc, List.append_assoc]
  refine first _ _ ?_ (second rest zs free spelled)
  cases ds with
  | nil => exact free
  | cons d ds => exact apart

theorem writes_lexeme {x : Lexeme} (writable : x.Writable) {ds : List Char} {ys : List Lexeme}
    (behind : Writes ds ys) (apart : ∀ c ∈ ds.head?, x.takes c = false) :
    Writes (x.render.toList ++ ds) (x :: ys) := by
  intro rest zs free spelled
  rw [List.append_assoc]
  refine spells_lexeme writable ?_ (behind rest zs free spelled)
  cases ds with
  | nil => exact fun c mem => free c mem x
  | cons d ds => exact apart

theorem Lexeme.Writable.writes {x : Lexeme} (writable : x.Writable) :
    Writes x.render.toList [x] := by
  simpa using writes_lexeme writable writes_nil (by simp)

theorem Writes.blank {cs : List Char} {xs : List Lexeme} (writes : Writes cs xs) :
    Writes (' ' :: cs) xs := by
  intro rest ys free spelled
  exact spells_blank (by decide) (writes rest ys free spelled)

theorem writes_dotted {cs ds : List Char} {xs ys : List Lexeme} (first : Writes cs xs)
    (second : Writes ds ys) : Writes (cs ++ '.' :: ds) (xs ++ .symbol .period :: ys) := by
  have period : Writes ('.' :: ds) (.symbol .period :: ys) :=
    writes_lexeme (x := .symbol .period) trivial second fun _ _ => rfl
  refine first.append period ?_
  intro c mem
  obtain rfl : '.' = c := by simpa using mem
  exact separates_of_delimiter (by decide) fun s => by cases s <;> rfl

theorem writes_commas {cs ds : List Char} {xs ys : List Lexeme} (first : Writes cs xs)
    (second : Writes ds ys) : Writes (cs ++ ',' :: ' ' :: ds) (xs ++ .symbol .comma :: ys) := by
  have comma : Writes (',' :: ' ' :: ds) (.symbol .comma :: ys) :=
    writes_lexeme (x := .symbol .comma) trivial second.blank fun _ _ => rfl
  refine first.append comma ?_
  intro c mem
  obtain rfl : ',' = c := by simpa using mem
  exact separates_of_delimiter (by decide) fun s => by cases s <;> rfl

theorem isDelimiter_of_isDigit {c : Char} (digit : c.isDigit = true) : isDelimiter c = false := by
  have delimiters : [' ', '\t', '\r', '\n', '"', '.', ',', ':', '!', '&', '|', '=', '<', '>',
      '-', '+', '*', '/', '(', ')', '[', ']'].all (!Char.isDigit ·) = true := rfl
  cases found : isDelimiter c with
  | false => rfl
  | true =>
    have mem := List.all_eq_true.1 delimiters c
      (by simpa [isDelimiter, isTokenBlank, or_assoc] using found)
    simp [digit] at mem

theorem isBareWord_append {a b : String} (first : isBareWord a = true)
    (second : isBareWord b = true) : isBareWord (a ++ b) = true := by
  obtain ⟨c, cs, same, plain⟩ := isBareWord_iff.1 first
  obtain ⟨d, ds, same', plain'⟩ := isBareWord_iff.1 second
  refine isBareWord_iff.2 ⟨c, cs ++ d :: ds, by simp [same, same'], ?_⟩
  intro e mem
  rcases List.mem_append.1 (show e ∈ (c :: cs) ++ d :: ds from mem) with mem | mem
  · exact plain e mem
  · exact plain' e mem

theorem numeral_decimal {n : Int64} (nonnegative : 0 ≤ n.toInt) :
    Text.Numeral (Text.decimal n.toInt).toList n := by
  obtain ⟨k, same⟩ := Int.eq_ofNat_of_zero_le nonnegative
  have spelled : (Text.decimal n.toInt).toList = Nat.toDigits 10 k := by
    rw [same]
    exact String.toList_ofList
  rw [spelled]
  refine ⟨Nat.toDigits_ne_nil, ?_, ?_⟩
  · intro c mem
    exact Nat.isDigit_of_mem_toDigits (by decide) (by decide) mem
  · rw [Nat.ofDigitChars_ten_toDigits]
    exact same

theorem isBareWord_of_numeral {digits : String} {n : Int64}
    (numeral : Text.Numeral digits.toList n) : isBareWord digits = true := by
  obtain ⟨nonempty, all, -⟩ := numeral
  cases same : digits.toList with
  | nil => exact absurd same nonempty
  | cons c tail =>
    refine isBareWord_iff.2 ⟨c, tail, same, ?_⟩
    intro d mem
    exact isDelimiter_of_isDigit (all d (same ▸ mem))

theorem Person.isBareWord_render (who : Person) : isBareWord who.render = true := by
  cases who <;> decide

theorem Relation.isBareWord_name (r : Relation) : isBareWord (Catalogue.name r) = true := by
  cases r <;> decide

theorem UserField.isBareWord_name (f : UserField) : isBareWord (Catalogue.name f) = true := by
  cases f <;> decide

theorem StatusField.isBareWord_name (f : StatusField) : isBareWord (Catalogue.name f) = true := by
  cases f <;> decide

theorem SourceKind.isBareWord_name (kind : SourceKind) :
    isBareWord (Catalogue.name kind) = true := by
  cases kind <;> decide

theorem writes_word {text : String} (bare : isBareWord text = true) :
    Writes text.toList [.word text] :=
  Lexeme.Writable.writes (x := .word text) bare

theorem writes_quoted (text : String) : Writes (quote text).toList [.quoted text] :=
  Lexeme.Writable.writes (x := .quoted text) trivial

theorem writes_name (name : String) : Writes (bareOrQuoted name).toList [.ofName name] := by
  unfold bareOrQuoted Lexeme.ofName
  split
  · rename_i bare
    exact writes_word bare
  · exact writes_quoted name

theorem Selector.writes {s : Selector} (form : s.InGrammarForm) :
    Writes s.render.toList s.spelling := by
  cases s with
  | any => exact writes_word (by decide)
  | named name =>
    have mark : isBareWord "@" = true := by decide
    by_cases bare : isBareWord name = true
    · simp only [render, spelling, if_pos bare]
      exact writes_word (isBareWord_append mark bare)
    · have dotted := writes_dotted (writes_word mark) (writes_quoted name)
      simpa [render, spelling, bare] using dotted
  | id n =>
    have digits := isBareWord_of_numeral (numeral_decimal form)
    exact writes_word (isBareWord_append (by decide) digits)

theorem Value.writes {v : Value} (form : v.InGrammarForm) : Writes v.render.toList v.spelling := by
  cases v with
  | text t => exact writes_quoted t
  | number n => exact writes_word (isBareWord_of_numeral (numeral_decimal form))
  | account s => exact Selector.writes form
  | relation s r =>
    have dotted := writes_dotted (Selector.writes form) (writes_word r.isBareWord_name)
    simpa [render, spelling] using dotted
  | person who => exact writes_word who.isBareWord_render
  | personField who f =>
    have dotted := writes_dotted (writes_word who.isBareWord_render) (writes_word f.isBareWord_name)
    simpa [render, spelling] using dotted
  | field f => exact writes_word f.isBareWord_name
  | list owner slug =>
    have keyword : Writes "list".toList [.word "list"] := writes_word (by decide)
    have dotted := writes_dotted (writes_dotted keyword (writes_name owner)) (writes_name slug)
    simpa [render, spelling] using dotted

theorem Lexeme.name?_ofName (name : String) : (ofName name).name? = some name := by
  unfold ofName
  split <;> rfl

theorem Catalogue.spells_name {α : Type} [Catalogue α] {a : α}
    (named : Catalogue.name a ∈ spellings a) : Spells (Catalogue.name a) a :=
  ⟨_, named, Text.sameIgnoringCase_iff.2 rfl⟩

theorem Selector.spelled_spelling {s : Selector} (form : s.InGrammarForm) :
    Selector.Spelled s.spelling s := by
  cases s with
  | any =>
    have known : "our" ∈ ["we", "our", "us"] := by decide
    exact .ours known ⟨_, rfl, Text.sameIgnoringCase_iff.2 rfl⟩
  | named name =>
    by_cases bare : isBareWord name = true
    · simp only [spelling, if_pos bare]
      refine .attached ?_
      rintro rfl
      exact absurd bare (by decide)
    · simp only [spelling, if_neg bare]
      exact .apart rfl
  | id n => exact .id (numeral_decimal form)

theorem Value.spelled_spelling {v : Value} (form : v.InGrammarForm) :
    Value.Spelled v.spelling v := by
  cases v with
  | text t => exact .text
  | number n => exact .number (numeral_decimal form)
  | account s =>
    have alone := Spelled.selected (Selector.spelled_spelling form) .alone
    simpa [spelling] using alone
  | relation s r =>
    have known := Catalogue.spells_name (a := r) (by cases r <;> decide)
    exact .selected (Selector.spelled_spelling form) (.named known)
  | person who => exact .person ⟨_, rfl, Text.sameIgnoringCase_iff.2 rfl⟩ .alone
  | personField who f =>
    have known := Catalogue.spells_name (a := f) (by cases f <;> decide)
    exact .person ⟨_, rfl, Text.sameIgnoringCase_iff.2 rfl⟩ (.named known)
  | field f => exact .field (Catalogue.spells_name (by cases f <;> decide))
  | list owner slug =>
    exact .list ⟨_, rfl, Text.sameIgnoringCase_iff.2 rfl⟩ (Lexeme.name?_ofName owner)
      (Lexeme.name?_ofName slug)

/-- No symbol of one character in front of these is read as a longer one. -/
def StartsFree (cs : List Char) : Prop := ∀ c ∈ cs.head?, c ≠ '=' ∧ c ≠ '>'

theorem StartsFree.append {cs ds : List Char} (first : StartsFree cs) (second : StartsFree ds) :
    StartsFree (cs ++ ds) := by
  cases cs with
  | nil => exact second
  | cons c cs => exact first

theorem startsFree_of_bare {text : String} (bare : isBareWord text = true) :
    StartsFree text.toList := by
  obtain ⟨c, tail, same, plain⟩ := isBareWord_iff.1 bare
  intro d mem
  obtain rfl : c = d := by simpa [same] using mem
  have solid := plain c List.mem_cons_self
  constructor
  · rintro rfl
    exact absurd solid (by decide)
  · rintro rfl
    exact absurd solid (by decide)

theorem Selector.startsFree {s : Selector} : StartsFree s.render.toList := by
  cases s with
  | any => exact startsFree_of_bare (by decide)
  | named name =>
    by_cases bare : isBareWord name = true
    · simp [StartsFree, render, bare]
    · simp [StartsFree, render, bare]
  | id n => simp [StartsFree, render]

theorem Value.startsFree {v : Value} (form : v.InGrammarForm) : StartsFree v.render.toList := by
  cases v with
  | text t => simp [StartsFree, render, quote]
  | number n => exact startsFree_of_bare (isBareWord_of_numeral (numeral_decimal form))
  | account s => exact Selector.startsFree
  | relation s r =>
    have dotted : StartsFree ("." ++ Catalogue.name r).toList := by simp [StartsFree]
    simpa [render] using Selector.startsFree.append dotted
  | person who => exact startsFree_of_bare who.isBareWord_render
  | personField who f =>
    have dotted : StartsFree ("." ++ Catalogue.name f).toList := by simp [StartsFree]
    simpa [render] using (startsFree_of_bare who.isBareWord_render).append dotted
  | field f => exact startsFree_of_bare f.isBareWord_name
  | list owner slug => simp [StartsFree, render]

theorem Predicate.startsFree {p : Predicate} (form : p.InGrammarForm) :
    StartsFree p.render.toList := by
  induction p with
  | binary op left right ih _ =>
    obtain ⟨-, -, first, -⟩ := form
    have behind : StartsFree (" " ++ op.text ++ " " ++ right.render).toList := by simp [StartsFree]
    simpa [render] using (ih first).append behind
  | unary op operand => cases op <;> simp [StartsFree, render, UnaryOp.lead]
  | always => simp [StartsFree, render]
  | bracket inner => simp [StartsFree, render]
  | set members => simp [StartsFree, render]
  | value v => exact Value.startsFree form

theorem writes_intercalate {α : Type} (render : α → String) (spelling : α → List Lexeme)
    (parts : List α) (each : ∀ a ∈ parts, Writes (render a).toList (spelling a)) :
    Writes (", ".intercalate (parts.map render)).toList (commas (parts.map spelling)) := by
  rw [String.toList_intercalate]
  induction parts with
  | nil => exact writes_nil
  | cons a parts ih =>
    have first := each a List.mem_cons_self
    have others := ih fun b mem => each b (List.mem_cons_of_mem _ mem)
    cases parts with
    | nil => simpa [commas] using first
    | cons b parts =>
      simp only [List.map_cons, List.intercalate_cons_cons, commas] at others ⊢
      rw [List.append_assoc]
      exact writes_commas first others

theorem BinaryOp.render_lexeme (op : BinaryOp) : op.lexeme.render = op.text := by
  cases op <;> rfl

theorem BinaryOp.lexeme_writable (op : BinaryOp) : op.lexeme.Writable := by
  cases op <;> trivial

theorem BinaryOp.written_lexeme (op : BinaryOp) : op.Written op.lexeme := by
  rw [← ofLexeme?_eq_some_iff]
  cases op <;> rfl

theorem UnaryOp.written_lexeme (op : UnaryOp) : op.Written op.lexeme := by
  rw [← ofLexeme?_eq_some_iff]
  cases op <;> rfl

theorem UnaryOp.writes {op : UnaryOp} {cs : List Char} {xs : List Lexeme} (operand : Writes cs xs)
    (free : StartsFree cs) : Writes (op.lead.toList ++ cs) (op.lexeme :: xs) := by
  cases op with
  | not =>
    refine writes_lexeme (x := .symbol .exclamation) trivial operand ?_
    intro c mem
    simpa [Lexeme.takes, Symbol.takes] using (free c mem).1
  | negate =>
    refine writes_lexeme (x := .symbol .minus) trivial operand ?_
    intro c mem
    simpa [Lexeme.takes, Symbol.takes] using (free c mem).2
  | caseful =>
    have bare : isBareWord "caseful" = true := by decide
    have keyword := writes_lexeme (x := .word "caseful") bare operand.blank fun c mem => by
      obtain rfl : ' ' = c := by simpa using mem
      exact takes_blank (by decide) _
    simpa [lead, lexeme, Lexeme.render] using keyword

theorem BinaryOp.writes (op : BinaryOp) {cs ds : List Char} {xs ys : List Lexeme}
    (left : Writes cs xs) (right : Writes ds ys) :
    Writes (cs ++ ' ' :: (op.text.toList ++ ' ' :: ds)) (xs ++ op.lexeme :: ys) := by
  rw [← op.render_lexeme]
  refine left.append (writes_lexeme op.lexeme_writable right.blank ?_).blank ?_
  · intro c mem
    obtain rfl : ' ' = c := by simpa using mem
    exact takes_blank (by decide) _
  · intro c mem
    obtain rfl : ' ' = c := by simpa using mem
    exact takes_blank (by decide)

theorem writes_enclosed (opening closing : Symbol) {cs : List Char} {xs : List Lexeme}
    (inner : Writes cs xs) (free : ∀ c, opening.takes c = false)
    (apart : ∀ c ∈ closing.text.toList.head?, Separates c) :
    Writes (opening.text.toList ++ (cs ++ closing.text.toList))
      (.symbol opening :: xs ++ [.symbol closing]) := by
  have behind : Writes closing.text.toList [.symbol closing] :=
    Lexeme.Writable.writes (x := .symbol closing) trivial
  exact writes_lexeme (x := .symbol opening) trivial (inner.append behind apart) fun c _ => free c

theorem separates_closing {closing : Symbol} {c : Char}
    (known : closing = .closeParen ∨ closing = .closeSquare)
    (mem : c ∈ closing.text.toList.head?) : Separates c := by
  rcases known with rfl | rfl
  · obtain rfl : ')' = c := by simpa [Symbol.text] using mem
    exact separates_of_delimiter (by decide) fun s => by cases s <;> rfl
  · obtain rfl : ']' = c := by simpa [Symbol.text] using mem
    exact separates_of_delimiter (by decide) fun s => by cases s <;> rfl

theorem Predicate.writes {p : Predicate} (form : p.InGrammarForm) :
    Writes p.render.toList p.spelling := by
  induction p with
  | binary op left right ih ih' =>
    obtain ⟨-, -, first, second⟩ := form
    have both := op.writes (ih first) (ih' second)
    simpa [render, spelling] using both
  | unary op operand ih =>
    have operator := op.writes (ih form.2) (startsFree form.2)
    simpa [render, spelling] using operator
  | always =>
    exact writes_enclosed .openParen .closeParen writes_nil (fun _ => rfl) fun _ mem =>
      separates_closing (.inl rfl) mem
  | bracket inner ih =>
    have enclosed := writes_enclosed .openParen .closeParen (ih form) (fun _ => rfl) fun _ mem =>
      separates_closing (.inl rfl) mem
    simpa [render, spelling, Symbol.text] using enclosed
  | set members =>
    have listed := writes_intercalate Value.render Value.spelling members
      fun v mem => Value.writes (form.2 v mem)
    have enclosed := writes_enclosed .openSquare .closeSquare listed (fun _ => rfl) fun _ mem =>
      separates_closing (.inr rfl) mem
    simpa [render, spelling, Symbol.text] using enclosed
  | value v => exact Value.writes form

theorem Value.spelledMany_spelling {vs : List Value} (nonempty : vs ≠ [])
    (form : ∀ v ∈ vs, v.InGrammarForm) : Value.SpelledMany (commas (vs.map Value.spelling)) vs := by
  induction vs with
  | nil => exact absurd rfl nonempty
  | cons v vs ih =>
    have first := Value.spelled_spelling (form v List.mem_cons_self)
    cases vs with
    | nil => exact .one first
    | cons w vs =>
      exact .more first (ih (by simp) fun u mem => form u (List.mem_cons_of_mem _ mem))

theorem Predicate.derives_spelling {p : Predicate} (form : p.InGrammarForm) :
    Derives p.level p.spelling p := by
  induction p with
  | binary op left right ih ih' =>
    obtain ⟨tight, bound, first, second⟩ := form
    have next := op.level.rank_tighter
    have outer : Derives op.level.tighter left.spelling left := (ih first).loosen (by omega)
    have own : Derives (.binary op.level) right.spelling right := (ih' second).loosen bound
    exact .binary outer op.written_lexeme rfl own
  | unary op operand ih => exact .unary op.written_lexeme ((ih form.2).loosen form.1)
  | always => exact .always
  | bracket inner ih => exact .bracket ((ih form).loosen (Nat.zero_le _))
  | set members =>
    cases members with
    | nil => exact .emptySet
    | cons v vs =>
      have listed := Value.spelledMany_spelling (List.cons_ne_nil v vs) form.2
      have same : (v :: vs).eraseDups = v :: vs := by
        rw [← distinct_eq_eraseDups, distinct_of_nodup form.1]
      have whole := Derives.set listed
      rw [same] at whole
      exact whole
  | value v => exact .value (Value.spelled_spelling form)

theorem Source.writes (s : Source) : Writes s.render.toList s.spelling := by
  obtain ⟨kind, arguments⟩ := s
  have keyword := writes_word kind.isBareWord_name
  cases arguments with
  | nil => exact keyword
  | cons argument arguments =>
    have listed := writes_intercalate quote (fun a => [.quoted a]) (argument :: arguments)
      fun a _ => writes_quoted a
    have colon := writes_lexeme (x := .symbol .colon) trivial listed.blank fun _ _ => rfl
    have whole := keyword.append colon fun c mem => by
      obtain rfl : ':' = c := by simpa [Lexeme.render, Symbol.text] using mem
      exact separates_of_delimiter (by decide) fun s => by cases s <;> rfl
    simpa [render, spelling, Lexeme.render, Symbol.text] using whole

theorem Source.group_spelling {s : Source} (form : s.InGrammarForm) : Group s.spelling [s] := by
  obtain ⟨kind, arguments⟩ := s
  have names : Names (.word (Catalogue.name kind)) kind := ⟨_, by cases kind <;> decide, rfl⟩
  obtain ⟨short, needed⟩ := form
  cases arguments with
  | nil =>
    refine .alone names ?_
    cases wanted : kind.needsArgument with
    | false => rfl
    | true => exact absurd (needed wanted) (by simp)
  | cons argument arguments =>
    obtain rfl : arguments = [] := by simpa using short
    exact .drawn names (.one (.one .quoted))

theorem Source.spelled_spelling {sources : List Source} (drawn : sources ≠ [])
    (form : ∀ s ∈ sources, s.InGrammarForm) :
    Spelled (commas (sources.map Source.spelling)) sources := by
  induction sources with
  | nil => exact absurd rfl drawn
  | cons s sources ih =>
    have first := group_spelling (form s List.mem_cons_self)
    cases sources with
    | nil => exact .one first
    | cons s' sources =>
      exact .more first (ih (by simp) fun other mem => form other (List.mem_cons_of_mem _ mem))

theorem Query.writes {q : Query} (form : q.root.InGrammarForm) :
    Writes q.render.toList q.spelling := by
  have listed : Writes (Source.renderAll q.sources).toList
      (commas (q.sources.map Source.spelling)) :=
    writes_intercalate Source.render Source.spelling q.sources fun s _ => s.writes
  have blank : ∀ (x : Lexeme) (cs : List Char), ∀ c ∈ (' ' :: cs).head?, x.takes c = false := by
    intro x cs c mem
    obtain rfl : ' ' = c := by simpa using mem
    exact takes_blank (by decide) x
  have opens : isBareWord "from" = true := by decide
  have follows : isBareWord "where" = true := by decide
  unfold render spelling
  split
  · have whole := writes_lexeme (x := .word "from") opens listed.blank (blank _ _)
    simpa [Lexeme.render] using whole
  · have root := writes_lexeme (x := .word "where") follows (Predicate.writes form).blank
      (blank _ _)
    have both := listed.append root.blank fun c mem x => blank x _ c mem
    have whole := writes_lexeme (x := .word "from") opens both.blank (blank _ _)
    simpa [Lexeme.render] using whole

theorem Query.derives_spelling {q : Query} (form : q.InGrammarForm) : Derives q.spelling q := by
  obtain ⟨sources, root⟩ := q
  have drawn := Source.spelled_spelling form.drawn form.sources
  unfold spelling
  split
  · rename_i always
    obtain rfl : root = .always := always
    rw [List.append_nil]
    exact .unfiltered ⟨_, rfl, by decide⟩ drawn
  · have tree : Predicate.Derives .loosest root.spelling root :=
      (Predicate.derives_spelling form.root).loosen (Nat.zero_le _)
    exact .filtered ⟨_, rfl, by decide⟩ drawn ⟨_, rfl, by decide⟩ tree

theorem Query.compile_canonical {text : String} {q : Query} (compiled : compile text = .ok q) :
    compile q.render = .ok q := by
  have formed : q.InGrammarForm := (compile_eq_ok_iff.1 compiled).2.inGrammarForm
  exact (compile_of_spells (writes formed.root).spells q).2 (derives_spelling formed)

/-- The canonical text compiles to the query itself exactly for the queries in the form of the
grammar, and every query that is compiled has this form. -/
theorem Query.compile_render_iff :
    (∀ q, compile q.render = .ok q ↔ q.InGrammarForm) ∧
      ∀ text q, compile text = .ok q → q.InGrammarForm := by
  have form : ∀ text q, compile text = .ok q → q.InGrammarForm := by
    intro text q compiled
    exact (compile_eq_ok_iff.1 compiled).2.inGrammarForm
  refine ⟨?_, form⟩
  intro q
  constructor
  · exact form q.render q
  · intro formed
    exact (compile_of_spells (writes formed.root).spells q).2 (derives_spelling formed)

end TimelineFilter
