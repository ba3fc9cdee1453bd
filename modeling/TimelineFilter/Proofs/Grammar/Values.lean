import TimelineFilter.Proofs.Grammar.Front
import TimelineFilter.Proofs.Grammar.Names
import TimelineFilter.Value.Reader

namespace TimelineFilter

/-- A selector of accounts. An id is a numeral behind a hash. -/
inductive Selector.Spelled : List Lexeme → Selector → Prop
  | star : Spelled [.symbol .star] .any
  | ours {x : Lexeme} {keyword : String} (known : keyword ∈ ["we", "our", "us"])
      (same : x.IsKeyword keyword) : Spelled [x] .any
  | attached {name : String} (nonempty : name ≠ "") : Spelled [.word ("@" ++ name)] (.named name)
  | apart {x : Lexeme} {name : String} (names : x.name? = some name) :
      Spelled [.word "@", .symbol .period, x] (.named name)
  | id {digits : String} {n : Int64} (numeral : Text.Numeral digits.toList n) :
      Spelled [.word ("#" ++ digits)] (.id n)

/-- What follows a reference: the name of an entry behind a period, or nothing. -/
inductive Value.Followed {α : Type} [Catalogue α] (alone : Value) (entry : α → Value) :
    List Lexeme → Value → Prop
  | alone : Followed alone entry [] alone
  | named {name : String} {a : α} (known : Catalogue.Spells name a) :
      Followed alone entry [.symbol .period, .word name] (entry a)

abbrev Value.OfSelector (s : Selector) := Value.Followed (.account s) (.relation s)

abbrev Value.OfPerson (who : Person) := Value.Followed (.person who) (.personField who)

inductive Value.Spelled : List Lexeme → Value → Prop
  | text {t : String} : Spelled [.quoted t] (.text t)
  | number {digits : String} {n : Int64} (numeral : Text.Numeral digits.toList n) :
      Spelled [.word digits] (.number n)
  | selected {xs ys : List Lexeme} {s : Selector} {v : Value} (selector : Selector.Spelled xs s)
      (rest : OfSelector s ys v) : Spelled (xs ++ ys) v
  | person {x : Lexeme} {ys : List Lexeme} {who : Person} {v : Value}
      (same : x.IsKeyword who.render) (rest : OfPerson who ys v) : Spelled (x :: ys) v
  | list {x y z : Lexeme} {owner slug : String} (same : x.IsKeyword "list")
      (owned : y.name? = some owner) (named : z.name? = some slug) :
      Spelled [x, .symbol .period, y, .symbol .period, z] (.list owner slug)
  | field {word : String} {f : StatusField} (known : Catalogue.Spells word f) :
      Spelled [.word word] (.field f)

namespace Value

def isOpen : Value → Bool
  | .account _ | .person _ => true
  | _ => false

/-- The lexemes that follow do not go on with the value. -/
def EndsBefore (v : Value) (xs : List Lexeme) : Prop := v.isOpen = true → Lacks .period xs

theorem all_fit (ts : List Token) : ts.length ≤ ts.length := Nat.le_refl _

theorem shorter_fits {after rest ts : List Token} (second : after.length < rest.length)
    (first : rest.length < ts.length) : after.length ≤ ts.length :=
  Nat.le_of_lt (shorter_trans second first)

def readEntry {α : Type} [Catalogue α] (alone : Value) (entry : α → Value)
    (unknown : String → Problem) (ts : List Token) : Except Failure (Value × Tail ts) :=
  match accept? .period ts with
  | none => .ok (alone, ⟨ts, all_fit ts⟩)
  | some ⟨rest, lt⟩ =>
    match expectWord rest with
    | .error e => .error e
    | .ok (name, ⟨after, lt'⟩) =>
      match Catalogue.find? name with
      | some a => .ok (entry a, ⟨after, shorter_fits lt' lt⟩)
      | none => .error (.before after (unknown name))

theorem readRelation_eq (s : Selector) :
    readRelation s = readEntry (.account s) (.relation s) .unknownRelation := by
  funext ts
  unfold readRelation readEntry
  cases accept? .period ts with
  | none => rfl
  | some more =>
    dsimp only
    cases expectWord more.1 with
    | error e => rfl
    | ok found =>
      dsimp only
      cases Catalogue.find? (α := Relation) found.1 <;> rfl

theorem readField_eq (who : Person) :
    readField who = readEntry (.person who) (.personField who) fun name =>
      .unknownUserField name (suggest name (Catalogue.allSpellings UserField)) := by
  funext ts
  unfold readField readEntry
  cases accept? .period ts with
  | none => rfl
  | some more =>
    dsimp only
    cases expectWord more.1 with
    | error e => rfl
    | ok found =>
      dsimp only
      cases Catalogue.find? (α := UserField) found.1 <;> rfl

theorem readEntry_reads {α : Type} [Catalogue α] [Catalogue.Unambiguous α] {alone : Value}
    {entry : α → Value} (unknown : String → Problem) (going : alone.isOpen = true)
    (whole : ∀ a, (entry a).isOpen = false) :
    Reads (readEntry alone entry unknown) (Followed alone entry) EndsBefore := by
  intro ts v rest
  constructor
  · intro got
    unfold readEntry at got
    split at got
    · rename_i absent
      obtain ⟨rfl, rfl⟩ := leaves_ok.1 got
      exact ⟨[], rfl, .alone, fun _ => accept?_eq_none_iff.1 absent⟩
    · rename_i accepted
      split at got
      · exact absurd got leaves_error
      · rename_i word
        obtain ⟨front, rfl, spelled⟩ := dotted_word accepted word
        split at got
        · rename_i a found
          obtain ⟨rfl, rfl⟩ := leaves_ok.1 got
          refine ⟨front, rfl, ?_, by simp [EndsBefore, whole a]⟩
          rw [spelled]
          exact .named (Catalogue.find?_eq_some_iff.1 found)
        · exact absurd got leaves_error
  · rintro ⟨front, rfl, spelled, ends⟩
    generalize same : lexemes front = xs at spelled
    cases spelled with
    | alone =>
      obtain rfl := lexemes_eq_nil.1 same
      have absent : accept? .period rest = none := accept?_eq_none_iff.2 (ends going)
      simp [readEntry, absent]
    | named known =>
      obtain ⟨t, front, rfl, period, same⟩ := lexemes_eq_cons.1 same
      obtain ⟨word, _, rfl, spelled, empty⟩ := lexemes_eq_cons.1 same
      obtain rfl := lexemes_eq_nil.1 empty
      simp [readEntry, accept?_cons period, expectWord, spelled,
        Catalogue.find?_eq_some_iff.2 known]

theorem readRelation_reads (s : Selector) : Reads (readRelation s) (OfSelector s) EndsBefore := by
  rw [readRelation_eq]
  exact readEntry_reads _ rfl fun _ => rfl

theorem readField_reads (who : Person) : Reads (readField who) (OfPerson who) EndsBefore := by
  rw [readField_eq]
  exact readEntry_reads _ rfl fun _ => rfl

abbrev Dotted (xs : List Lexeme) (text : String) : Prop :=
  ∃ x, xs = [.symbol .period, x] ∧ x.name? = some text

theorem readDotted_reads : Reads readDotted Dotted Anywhere := by
  intro ts text rest
  constructor
  · intro got
    unfold readDotted at got
    split at got
    · exact absurd got leaves_error
    · rename_i more lt found
      obtain ⟨t, rfl, same⟩ := of_expect_eq_ok found
      split at got
      · exact absurd got leaves_error
      · rename_i named
        obtain ⟨front, rfl, ⟨x, spelled, names⟩, -⟩ := expectName_reads.sound named
        obtain ⟨rfl, rfl⟩ := leaves_ok.1 got
        exact ⟨t :: front, rfl, ⟨x, by simp [same, spelled], names⟩, trivial⟩
  · rintro ⟨front, rfl, ⟨x, whole, names⟩, ended⟩
    obtain ⟨t, front, rfl, same, whole⟩ := lexemes_eq_cons.1 whole
    obtain ⟨_, named⟩ := expectName_reads.complete rest ⟨x, whole, names⟩ ended
    simp [readDotted, expect_cons same, named]

abbrev NamedAccount (xs : List Lexeme) (v : Value) : Prop :=
  ∃ x name ys, xs = .symbol .period :: x :: ys ∧ x.name? = some name ∧
    OfSelector (.named name) ys v

theorem readNamedAccount_reads : Reads readNamedAccount NamedAccount EndsBefore := by
  intro ts v rest
  constructor
  · intro got
    unfold readNamedAccount at got
    split at got
    · exact absurd got leaves_error
    · rename_i name more lt dotted
      obtain ⟨front, rfl, ⟨x, spelled, names⟩, -⟩ := readDotted_reads.sound dotted
      split at got
      · exact absurd got leaves_error
      · rename_i suffix
        obtain ⟨tail, rfl, related, ended⟩ := (readRelation_reads _).sound suffix
        obtain ⟨rfl, rfl⟩ := leaves_ok.1 got
        exact ⟨front ++ tail, by simp, ⟨x, name, lexemes tail, by simp [spelled], names, related⟩,
          ended⟩
  · rintro ⟨front, rfl, ⟨x, name, ys, whole, names, related⟩, ended⟩
    obtain ⟨head, tail, rfl, headWhole, rfl⟩ :=
      lexemes_eq_append.1 (show lexemes front = [.symbol .period, x] ++ ys from whole)
    rw [List.append_assoc]
    obtain ⟨_, dotted⟩ := readDotted_reads.complete (tail ++ rest) ⟨x, headWhole, names⟩ trivial
    obtain ⟨_, suffix⟩ := (readRelation_reads _).complete rest related ended
    simp [readNamedAccount, dotted, suffix]

abbrev Listed (xs : List Lexeme) (v : Value) : Prop :=
  ∃ y z owner slug, xs = [.symbol .period, y, .symbol .period, z] ∧ y.name? = some owner ∧
    z.name? = some slug ∧ v = .list owner slug

theorem readList_reads : Reads readList Listed Anywhere := by
  intro ts v rest
  constructor
  · intro got
    unfold readList at got
    split at got
    · exact absurd got leaves_error
    · rename_i owner more lt first
      obtain ⟨front, rfl, ⟨y, spelled, owned⟩, -⟩ := readDotted_reads.sound first
      split at got
      · exact absurd got leaves_error
      · rename_i slug after lt' second
        obtain ⟨tail, rfl, ⟨z, spelled', named⟩, -⟩ := readDotted_reads.sound second
        obtain ⟨rfl, rfl⟩ := leaves_ok.1 got
        exact ⟨front ++ tail, by simp, ⟨y, z, owner, slug, by simp [spelled, spelled'], owned,
          named, rfl⟩, trivial⟩
  · rintro ⟨front, rfl, ⟨y, z, owner, slug, whole, owned, named, rfl⟩, -⟩
    obtain ⟨head, tail, rfl, headWhole, tailWhole⟩ := lexemes_eq_append.1
      (show lexemes front = [.symbol .period, y] ++ [.symbol .period, z] from whole)
    rw [List.append_assoc]
    obtain ⟨_, first⟩ := readDotted_reads.complete (tail ++ rest) ⟨y, headWhole, owned⟩ trivial
    obtain ⟨_, second⟩ := readDotted_reads.complete rest ⟨z, tailWhole, named⟩ trivial
    simp [readList, first, second]

def keywords : List String := ["we", "our", "us", "user", "retweeter", "list"]

theorem keywords_lower : ∀ k ∈ keywords, Text.startsLower k = true ∧ Text.lowerAscii k = k := by
  decide

theorem keywords_no_field : ∀ k ∈ keywords, (Catalogue.find? k : Option StatusField) = none := by
  decide

theorem readWord_keyword (t : Token) {word keyword : String} (known : keyword ∈ keywords)
    (same : Text.sameIgnoringCase word keyword = true) (ts : List Token) :
    readWord t word ts = readWord t keyword ts := by
  obtain ⟨first, lower⟩ := keywords_lower keyword known
  obtain ⟨notAt, notHash, -⟩ := Text.plain_of_same same first
  have spelled : Text.lowerAscii word = keyword := (Text.lowerAscii_congr same).trans lower
  conv => lhs; unfold readWord
  split
  · simp_all
  · simp_all
  · simp_all
  · rw [spelled]
    simp only [keywords, List.mem_cons, List.not_mem_nil, or_false] at known
    rcases known with rfl | rfl | rfl | rfl | rfl | rfl <;> rfl

theorem readWord_other (t : Token) {word : String} (notAt : ∀ name, word.toList ≠ '@' :: name)
    (notHash : ∀ digits, word.toList ≠ '#' :: digits) (other : Text.lowerAscii word ∉ keywords)
    (ts : List Token) :
    readWord t word ts =
      if word.toList.all Char.isDigit then
        match Text.natural64? word.toList with
        | some n => .ok (.number n, ⟨ts, Nat.le_refl _⟩)
        | none => .error (.before (t :: ts) (.invalidNumber word))
      else
        match Catalogue.find? word with
        | some f => .ok (.field f, ⟨ts, Nat.le_refl _⟩)
        | none =>
          .error (.before (t :: ts) (.unknownWord word
            (suggest word (Catalogue.allSpellings StatusField)))) := by
  simp only [keywords, List.mem_cons, List.not_mem_nil, or_false, not_or] at other
  obtain ⟨notWe, notOur, notUs, notUser, notRetweeter, notList⟩ := other
  unfold readWord
  split
  · rename_i spelled
    exact absurd spelled (notAt [])
  · rename_i spelled
    exact absurd spelled (notAt _)
  · rename_i spelled
    exact absurd spelled (notHash _)
  · cases Text.natural64? word.toList <;> cases (Catalogue.find? word : Option StatusField) <;> simp

theorem not_keyword_of_find? {word : String} {f : StatusField}
    (found : Catalogue.find? word = some f) : Text.lowerAscii word ∉ keywords := by
  intro keyword
  have again := Text.sameIgnoringCase_of_lowerAscii rfl (keywords_lower _ keyword).2
  rw [Catalogue.find?_congr again, keywords_no_field _ keyword] at found
  cases found

theorem not_keyword_of_digits {word : String} (digits : word.toList.all Char.isDigit = true) :
    Text.lowerAscii word ∉ keywords := by
  intro keyword
  obtain ⟨first, lower⟩ := keywords_lower _ keyword
  have plain := Text.plain_of_same (Text.sameIgnoringCase_of_lowerAscii rfl lower) first
  simp [plain.2.2] at digits

theorem readWord_field (t : Token) {word : String} {f : StatusField}
    (known : Catalogue.Spells word f) (ts : List Token) :
    readWord t word ts = .ok (.field f, ⟨ts, Nat.le_refl _⟩) := by
  have found := Catalogue.find?_eq_some_iff.2 known
  obtain ⟨s, mem, same⟩ := known
  obtain ⟨notAt, notHash, notDigits⟩ :=
    Text.plain_of_same same (Catalogue.Unambiguous.startsLower_spelling f s mem)
  rw [readWord_other t ?_ ?_ (not_keyword_of_find? found)]
  · simp [notDigits, found]
  · intro name spelled
    simp [spelled] at notAt
  · intro digits spelled
    simp [spelled] at notHash

theorem readWord_number (t : Token) {digits : String} {n : Int64}
    (numeral : Text.Numeral digits.toList n) (ts : List Token) :
    readWord t digits ts = .ok (.number n, ⟨ts, Nat.le_refl _⟩) := by
  have found := Text.natural64?_eq_some_iff.2 numeral
  obtain ⟨nonempty, all, -⟩ := numeral
  have digit : digits.toList.all Char.isDigit = true := List.all_eq_true.2 all
  rw [readWord_other t ?_ ?_ (not_keyword_of_digits digit)]
  · simp [digit, found]
  · intro name spelled
    exact absurd (all '@' (by simp [spelled])) (by decide)
  · intro name spelled
    exact absurd (all '#' (by simp [spelled])) (by decide)

theorem spelled_ours {word k : String} (same : Text.lowerAscii word = k)
    (known : k ∈ ["we", "our", "us"]) : Selector.Spelled [.word word] .any := by
  have lower : ∀ k ∈ ["we", "our", "us"], Text.lowerAscii k = k := by decide
  exact .ours known ⟨word, rfl, Text.sameIgnoringCase_of_lowerAscii same (lower k known)⟩

theorem spelled_selected {xs : List Lexeme} {s : Selector} {ts rest : List Token} {v : Value}
    (selector : Selector.Spelled xs s) (got : Leaves (readRelation s ts) v rest) :
    ∃ front, ts = front ++ rest ∧ Spelled (xs ++ lexemes front) v ∧
      v.EndsBefore (lexemes rest) := by
  obtain ⟨front, whole, related, ended⟩ := (readRelation_reads s ts v rest).1 got
  exact ⟨front, whole, .selected selector related, ended⟩

theorem spelled_person {word : String} {who : Person} {ts rest : List Token} {v : Value}
    (same : Text.lowerAscii word = who.render) (got : Leaves (readField who ts) v rest) :
    ∃ front, ts = front ++ rest ∧ Spelled (.word word :: lexemes front) v ∧
      v.EndsBefore (lexemes rest) := by
  obtain ⟨front, whole, field, ended⟩ := (readField_reads who ts v rest).1 got
  have keyword := Text.sameIgnoringCase_of_lowerAscii same (by cases who <;> decide)
  exact ⟨front, whole, .person ⟨word, rfl, keyword⟩ field, ended⟩

theorem readWord_sound {t : Token} {word : String} {ts rest : List Token} {v : Value}
    (got : Leaves (readWord t word ts) v rest) :
    ∃ front, ts = front ++ rest ∧ Spelled (.word word :: lexemes front) v ∧
      v.EndsBefore (lexemes rest) := by
  unfold readWord at got
  split at got
  · rename_i spelled
    obtain rfl : word = "@" := String.toList_inj.1 spelled
    obtain ⟨front, rfl, ⟨x, name, ys, whole, names, related⟩, ended⟩ :=
      (readNamedAccount_reads ts v rest).1 got
    refine ⟨front, rfl, ?_, ended⟩
    rw [whole]
    exact .selected (.apart names) related
  · rename_i name marked spelled
    obtain rfl : word = "@" ++ String.ofList name := String.toList_inj.1 (by simp [spelled])
    exact spelled_selected (.attached fun none => marked (by simpa using none)) got
  · rename_i digits spelled
    obtain rfl : word = "#" ++ String.ofList digits := String.toList_inj.1 (by simp [spelled])
    split at got
    · rename_i id found
      have numeral := Text.natural64?_eq_some_iff.1 found
      exact spelled_selected (.id (by simpa using numeral)) got
    · exact absurd got leaves_error
  · split at got
    · exact spelled_selected (spelled_ours ‹_› (by decide)) got
    · exact spelled_selected (spelled_ours ‹_› (by decide)) got
    · exact spelled_selected (spelled_ours ‹_› (by decide)) got
    · exact spelled_person ‹_› got
    · exact spelled_person ‹_› got
    · rename_i same
      obtain ⟨front, rfl, ⟨y, z, owner, slug, whole, owned, named, rfl⟩, -⟩ :=
        (readList_reads ts v rest).1 got
      refine ⟨front, rfl, ?_, by simp [EndsBefore, isOpen]⟩
      rw [whole]
      exact .list ⟨word, rfl, Text.sameIgnoringCase_of_lowerAscii same (by decide)⟩ owned named
    · split at got
      · split at got
        · rename_i found
          obtain ⟨rfl, rfl⟩ := leaves_ok.1 got
          exact ⟨[], rfl, .number (Text.natural64?_eq_some_iff.1 found),
            by simp [EndsBefore, isOpen]⟩
        · exact absurd got leaves_error
      · split at got
        · rename_i found
          obtain ⟨rfl, rfl⟩ := leaves_ok.1 got
          exact ⟨[], rfl, .field (Catalogue.find?_eq_some_iff.1 found),
            by simp [EndsBefore, isOpen]⟩
        · exact absurd got leaves_error

theorem readWord_attached (t : Token) {name : String} (nonempty : name ≠ "") (ts : List Token) :
    readWord t ("@" ++ name) ts = readRelation (.named name) ts := by
  have marked : name.toList ≠ [] := fun none => nonempty (String.toList_eq_nil_iff.1 none)
  have spelled : ("@" ++ name).toList = '@' :: name.toList := by simp
  unfold readWord
  rw [spelled]
  split
  · simp_all
  · rename_i same
    rw [← (List.cons.inj same).2, String.ofList_toList]
  · simp_all
  · simp_all

theorem readWord_id (t : Token) {digits : String} {n : Int64}
    (numeral : Text.Numeral digits.toList n) (ts : List Token) :
    readWord t ("#" ++ digits) ts = readRelation (.id n) ts := by
  have found := Text.natural64?_eq_some_iff.2 numeral
  have spelled : ("#" ++ digits).toList = '#' :: digits.toList := by simp
  unfold readWord
  rw [spelled]
  split
  · simp_all
  · simp_all
  · rename_i same
    rw [← (List.cons.inj same).2, found]
  · simp_all

theorem read_selected {t : Token} {front rest : List Token} {xs ys : List Lexeme} {s : Selector}
    {v : Value} (selector : Selector.Spelled xs s) (related : OfSelector s ys v)
    (whole : t.lexeme :: lexemes front = xs ++ ys) (ended : v.EndsBefore (lexemes rest)) :
    Leaves (read t (front ++ rest)) v rest := by
  cases selector with
  | star =>
    obtain ⟨same, rfl⟩ := List.cons.inj whole
    obtain ⟨_, got⟩ := (readRelation_reads _).complete rest related ended
    simp [read, same, got]
  | @ours x k known keyword =>
    obtain ⟨rfl, rfl⟩ := List.cons.inj whole
    obtain ⟨word, same, keyword⟩ := keyword
    have member : ∀ k ∈ ["we", "our", "us"], k ∈ keywords := by decide
    have meant : readWord t k (front ++ rest) = readRelation .any (front ++ rest) := by
      simp only [List.mem_cons, List.not_mem_nil, or_false] at known
      rcases known with rfl | rfl | rfl <;> rfl
    obtain ⟨_, got⟩ := (readRelation_reads _).complete rest related ended
    simp [read, same, readWord_keyword t (member k known) keyword, meant, got]
  | attached nonempty =>
    obtain ⟨same, rfl⟩ := List.cons.inj whole
    obtain ⟨_, got⟩ := (readRelation_reads _).complete rest related ended
    simp [read, same, readWord_attached t nonempty, got]
  | @apart x name names =>
    obtain ⟨same, whole⟩ := List.cons.inj whole
    have meant : readWord t "@" (front ++ rest) = readNamedAccount (front ++ rest) := rfl
    obtain ⟨_, got⟩ := readNamedAccount_reads.complete rest
      ⟨x, name, ys, whole, names, related⟩ ended
    simp [read, same, meant, got]
  | id numeral =>
    obtain ⟨same, rfl⟩ := List.cons.inj whole
    obtain ⟨_, got⟩ := (readRelation_reads _).complete rest related ended
    simp [read, same, readWord_id t numeral, got]

theorem read_reads (t : Token) :
    Reads (read t) (fun xs v => Spelled (t.lexeme :: xs) v) EndsBefore := by
  intro ts v rest
  constructor
  · intro got
    unfold read at got
    split at got
    · rename_i same
      obtain ⟨rfl, rfl⟩ := leaves_ok.1 got
      exact ⟨[], rfl, same ▸ .text, by simp [EndsBefore, isOpen]⟩
    · rename_i same
      rw [same]
      exact readWord_sound got
    · rename_i same
      rw [same]
      exact spelled_selected .star got
    · exact absurd got leaves_error
  · rintro ⟨front, rfl, spelled, ended⟩
    generalize whole : t.lexeme :: lexemes front = xs at spelled
    cases spelled with
    | text =>
      obtain ⟨same, empty⟩ := List.cons.inj whole
      obtain rfl := lexemes_eq_nil.1 empty
      simp [read, same]
    | number numeral =>
      obtain ⟨same, empty⟩ := List.cons.inj whole
      obtain rfl := lexemes_eq_nil.1 empty
      simp [read, same, readWord_number t numeral]
    | selected selector related => exact read_selected selector related whole ended
    | @person x ys who v keyword field =>
      obtain ⟨rfl, rfl⟩ := List.cons.inj whole
      obtain ⟨word, same, keyword⟩ := keyword
      have meant : readWord t who.render (front ++ rest) = readField who (front ++ rest) := by
        cases who <;> rfl
      have member : who.render ∈ keywords := by cases who <;> decide
      obtain ⟨_, got⟩ := (readField_reads _).complete rest field ended
      simp [read, same, readWord_keyword t member keyword, meant, got]
    | @list x y z owner slug keyword owned named =>
      obtain ⟨rfl, behind⟩ := List.cons.inj whole
      obtain ⟨word, same, keyword⟩ := keyword
      have meant : readWord t "list" (front ++ rest) = readList (front ++ rest) := rfl
      obtain ⟨_, got⟩ := readList_reads.complete rest
        ⟨y, z, owner, slug, behind, owned, named, rfl⟩ trivial
      simp [read, same, readWord_keyword t (by decide) keyword, meant, got]
    | field known =>
      obtain ⟨same, empty⟩ := List.cons.inj whole
      obtain rfl := lexemes_eq_nil.1 empty
      simp [read, same, readWord_field t known]

theorem Spelled.ne_nil {xs : List Lexeme} {v : Value} (spelled : Spelled xs v) : xs ≠ [] := by
  cases spelled with
  | selected selector => cases selector <;> simp
  | _ => simp

theorem readNext_reads : Reads readNext Spelled EndsBefore := by
  intro ts v rest
  constructor
  · intro got
    unfold readNext at got
    split at got
    · exact absurd got leaves_error
    · rename_i t more
      split at got
      · exact absurd got leaves_error
      · rename_i found
        obtain ⟨front, rfl, spelled, ended⟩ := (read_reads t).sound found
        obtain ⟨rfl, rfl⟩ := leaves_ok.1 got
        exact ⟨t :: front, rfl, spelled, ended⟩
  · rintro ⟨front, rfl, spelled, ended⟩
    cases front with
    | nil => exact absurd rfl spelled.ne_nil
    | cons t front =>
      obtain ⟨_, got⟩ := (read_reads t).complete rest spelled ended
      simp [readNext, got]

inductive SpelledMany : List Lexeme → List Value → Prop
  | one {xs : List Lexeme} {v : Value} (spelled : Spelled xs v) : SpelledMany xs [v]
  | more {xs ys : List Lexeme} {v : Value} {vs : List Value} (spelled : Spelled xs v)
      (others : SpelledMany ys vs) : SpelledMany (xs ++ .symbol .comma :: ys) (v :: vs)

def ManyEndBefore (vs : List Value) (xs : List Lexeme) : Prop :=
  Lacks .comma xs ∧ ∀ v ∈ vs.getLast?, v.EndsBefore xs

theorem SpelledMany.ne_nil {xs : List Lexeme} {vs : List Value} (spelled : SpelledMany xs vs) :
    vs ≠ [] := by
  cases spelled with
  | one => simp
  | more => simp

theorem readMany_reads : Reads readMany SpelledMany ManyEndBefore := by
  intro ts vs rest
  constructor
  · intro got
    fun_induction readMany ts generalizing vs rest with
    | case1 => exact absurd got leaves_error
    | case2 ts v rest lt first absent =>
      obtain ⟨front, rfl, spelled, ended⟩ := readNext_reads.sound first
      obtain ⟨rfl, rfl⟩ := leaves_ok.1 got
      exact ⟨front, rfl, .one spelled, accept?_eq_none_iff.1 absent, by simpa using ended⟩
    | case3 => exact absurd got leaves_error
    | case4 ts v rest lt first more lt' accepted others after lt'' found ih =>
      obtain ⟨front, rfl, spelled, -⟩ := readNext_reads.sound first
      obtain ⟨t, rfl, same⟩ := of_accept?_eq_some accepted
      obtain ⟨back, rfl, spelled', comma, ended⟩ := ih others after ⟨lt'', found⟩
      obtain ⟨rfl, rfl⟩ := leaves_ok.1 got
      refine ⟨front ++ t :: back, by simp, ?_, comma, ?_⟩
      · simpa [same] using SpelledMany.more spelled spelled'
      · rwa [List.getLast?_cons_of_ne_nil spelled'.ne_nil]
  · rintro ⟨front, rfl, spelled, comma, ended⟩
    generalize whole : lexemes front = xs at spelled
    induction spelled generalizing front with
    | one spelled =>
      subst whole
      obtain ⟨_, first⟩ := readNext_reads.complete rest spelled (ended _ rfl)
      rw [readMany]
      simp [first, accept?_eq_none_iff.2 comma]
    | @more xs ys v vs spelled others ih =>
      obtain ⟨head, tail, rfl, rfl, behind⟩ := lexemes_eq_append.1 whole
      obtain ⟨t, back, rfl, same, behind⟩ := lexemes_eq_cons.1 behind
      rw [List.getLast?_cons_of_ne_nil others.ne_nil] at ended
      have apart : v.EndsBefore (lexemes (t :: (back ++ rest))) := by
        intro _
        simp [Lacks, same]
      obtain ⟨_, first⟩ := readNext_reads.complete (t :: (back ++ rest)) spelled apart
      obtain ⟨_, found⟩ := ih back ended behind
      rw [List.append_assoc, List.cons_append, readMany]
      simp [first, accept?_cons same, found]

end Value

end TimelineFilter
