import TimelineFilter.Proofs.Grammar.Front
import TimelineFilter.Source.Reader

namespace TimelineFilter

theorem SourceKind.ofKeyword?_eq_some_iff {keyword : String} {kind : SourceKind} :
    ofKeyword? keyword = some kind ↔ keyword ∈ kind.keywords := by
  constructor
  · intro found
    have agrees := List.find?_some found
    simpa [Catalogue.spellings] using agrees
  · have known : ∀ kind : SourceKind, ∀ k ∈ kind.keywords, ofKeyword? k = some kind := by
      intro kind
      cases kind <;> decide
    exact known kind keyword

namespace Source

inductive Part (bare : Bool) : Lexeme → String → Prop
  | quoted {text : String} : Part bare (.quoted text) text
  | word {text : String} (allowed : bare = true) : Part bare (.word text) text

/-- Parts between periods. Those behind a period may be bare words. -/
inductive Argument : Bool → List Lexeme → String → Prop
  | one {bare : Bool} {x : Lexeme} {text : String} (part : Part bare x text) :
      Argument bare [x] text
  | more {bare : Bool} {x : Lexeme} {xs : List Lexeme} {text texts : String}
      (part : Part bare x text) (others : Argument true xs texts) :
      Argument bare (x :: .symbol .period :: xs) (text ++ "/" ++ texts)

inductive Arguments : Bool → List Lexeme → List String → Prop
  | one {bare : Bool} {xs : List Lexeme} {argument : String}
      (first : Argument bare xs argument) : Arguments bare xs [argument]
  | more {bare : Bool} {xs ys : List Lexeme} {argument : String} {arguments : List String}
      (first : Argument bare xs argument) (others : Arguments false ys arguments) :
      Arguments bare (xs ++ .symbol .comma :: ys) (argument :: arguments)

def Names (x : Lexeme) (kind : SourceKind) : Prop :=
  ∃ keyword ∈ kind.keywords, keyword? x = some keyword

/-- The sources behind one keyword, each with at most one argument. -/
inductive Group : List Lexeme → List Source → Prop
  | alone {x : Lexeme} {kind : SourceKind} (names : Names x kind)
      (free : kind.needsArgument = false) : Group [x] [⟨kind, []⟩]
  | drawn {x : Lexeme} {kind : SourceKind} {xs : List Lexeme} {arguments : List String}
      (names : Names x kind) (listed : Arguments true xs arguments) :
      Group (x :: .symbol .colon :: xs) (arguments.map fun a => ⟨kind, [a]⟩)

inductive Spelled : List Lexeme → List Source → Prop
  | one {xs : List Lexeme} {sources : List Source} (group : Group xs sources) :
      Spelled xs sources
  | more {xs ys : List Lexeme} {sources others : List Source} (group : Group xs sources)
      (rest : Spelled ys others) : Spelled (xs ++ .symbol .comma :: ys) (sources ++ others)

/-- A string behind a comma goes on with the arguments. -/
def Continues (xs : List Lexeme) : Prop := ∃ text ys, xs = .symbol .comma :: .quoted text :: ys

def EndsBefore (s : Source) (xs : List Lexeme) : Prop :=
  if s.arguments = [] then Lacks .colon xs else Lacks .period xs ∧ ¬ Continues xs

theorem readPart_reads (bare : Bool) :
    Reads (readPart bare) (fun xs text => ∃ x, xs = [x] ∧ Part bare x text) Anywhere := by
  intro ts text rest
  constructor
  · intro got
    unfold readPart at got
    split at got
    · exact absurd got leaves_error
    · rename_i t more
      split at got
      · rename_i same
        obtain ⟨rfl, rfl⟩ := leaves_ok.1 got
        exact ⟨[t], rfl, ⟨_, rfl, same ▸ .quoted⟩, trivial⟩
      · rename_i same
        obtain ⟨rfl, rfl⟩ := leaves_ok.1 got
        exact ⟨[t], rfl, ⟨_, rfl, same ▸ .word rfl⟩, trivial⟩
      · exact absurd got leaves_error
  · rintro ⟨front, rfl, ⟨x, whole, part⟩, -⟩
    obtain ⟨t, _, rfl, same, empty⟩ := lexemes_eq_cons.1 whole
    obtain rfl := lexemes_eq_nil.1 empty
    cases part with
    | quoted => simp [readPart, same]
    | word allowed =>
      subst allowed
      simp [readPart, same]

theorem readArgument_reads (bare : Bool) :
    Reads (readArgument bare) (Argument bare) (fun _ xs => Lacks .period xs) := by
  intro ts argument rest
  constructor
  · intro got
    fun_induction readArgument bare ts generalizing argument rest with
    | case1 => exact absurd got leaves_error
    | case2 bare ts text after lt found absent =>
      obtain ⟨front, rfl, ⟨x, whole, part⟩, -⟩ := (readPart_reads bare).sound found
      obtain ⟨rfl, rfl⟩ := leaves_ok.1 got
      exact ⟨front, rfl, whole ▸ .one part, accept?_eq_none_iff.1 absent⟩
    | case3 => exact absurd got leaves_error
    | case4 bare ts text after lt found more lt' accepted texts behind lt'' others ih =>
      obtain ⟨front, rfl, ⟨x, whole, part⟩, -⟩ := (readPart_reads bare).sound found
      obtain ⟨t, rfl, same⟩ := of_accept?_eq_some accepted
      obtain ⟨back, rfl, spelled, ended⟩ := ih texts behind ⟨lt'', others⟩
      obtain ⟨rfl, rfl⟩ := leaves_ok.1 got
      refine ⟨front ++ t :: back, by simp, ?_, ended⟩
      simpa [whole, same] using Argument.more part spelled
  · rintro ⟨front, rfl, spelled, ended⟩
    generalize whole : lexemes front = xs at spelled
    induction spelled generalizing front with
    | @one bare x text part =>
      obtain ⟨_, found⟩ := (readPart_reads bare).complete rest ⟨x, whole, part⟩ trivial
      rw [readArgument]
      simp [found, accept?_eq_none_iff.2 ended]
    | @more bare x xs text texts part others ih =>
      obtain ⟨head, tail, rfl, same, behind⟩ :=
        lexemes_eq_append.1 (show lexemes front = [x] ++ .symbol .period :: xs from whole)
      obtain ⟨t, back, rfl, same', behind⟩ := lexemes_eq_cons.1 behind
      obtain ⟨_, found⟩ :=
        (readPart_reads bare).complete (t :: (back ++ rest)) ⟨x, same, part⟩ trivial
      obtain ⟨_, found'⟩ := ih back behind
      rw [List.append_assoc, List.cons_append, readArgument]
      simp [found, accept?_cons same', found']

theorem of_acceptContinuation?_eq_some {ts more : List Token} {lt : more.length < ts.length}
    (accepted : acceptContinuation? ts = some ⟨more, lt⟩) :
    ∃ t, ts = t :: more ∧ t.lexeme = .symbol .comma ∧ Continues (lexemes ts) := by
  unfold acceptContinuation? at accepted
  split at accepted
  · cases accepted
  · cases accepted
  · rename_i t rest lt comma
    split at accepted
    · rename_i quoted
      cases accepted
      obtain ⟨t', rfl, same⟩ := of_accept?_eq_some comma
      refine ⟨t', rfl, same, ?_⟩
      cases kind : t.lexeme with
      | quoted text => exact ⟨text, lexemes rest, by simp [same, kind]⟩
      | word | symbol => simp [Token.kind, kind, Lexeme.kind] at quoted
    · cases accepted

theorem acceptContinuation?_cons {t : Token} {ts : List Token}
    (continues : Continues (lexemes (t :: ts))) :
    acceptContinuation? (t :: ts) = some ⟨ts, tail_shorter t ts⟩ := by
  obtain ⟨text, ys, whole⟩ := continues
  obtain ⟨same, behind⟩ := List.cons.inj whole
  obtain ⟨t', rest, rfl, same', -⟩ := lexemes_eq_cons.1 behind
  simp [acceptContinuation?, accept?_cons same, Token.kind, same', Lexeme.kind]

theorem acceptContinuation?_eq_none_iff {ts : List Token} :
    acceptContinuation? ts = none ↔ ¬ Continues (lexemes ts) := by
  constructor
  · intro absent continues
    cases ts with
    | nil =>
      obtain ⟨_, _, impossible⟩ := continues
      cases impossible
    | cons t ts =>
      rw [acceptContinuation?_cons continues] at absent
      cases absent
  · intro ended
    cases accepted : acceptContinuation? ts with
    | none => rfl
    | some more =>
      obtain ⟨more, lt⟩ := more
      obtain ⟨t, -, -, continues⟩ := of_acceptContinuation?_eq_some accepted
      exact absurd continues ended

theorem Part.quoted_of_not_bare {x : Lexeme} {text : String} (part : Part false x text) :
    x = .quoted text := by
  cases part with
  | quoted => rfl
  | word allowed => cases allowed

theorem Arguments.first_quoted {xs : List Lexeme} {arguments : List String}
    (listed : Arguments false xs arguments) : ∃ text ys, xs = .quoted text :: ys := by
  have first : ∀ {xs argument}, Argument false xs argument →
      ∃ text ys, xs = .quoted text :: ys := by
    intro xs argument spelled
    cases spelled with
    | one part => exact ⟨_, _, by rw [part.quoted_of_not_bare]⟩
    | more part => exact ⟨_, _, by rw [part.quoted_of_not_bare]⟩
  cases listed with
  | one spelled => exact first spelled
  | more spelled =>
    obtain ⟨text, ys, rfl⟩ := first spelled
    exact ⟨text, _, rfl⟩

theorem readArguments_reads (bare : Bool) :
    Reads (readArguments bare) (Arguments bare)
      (fun _ xs => Lacks .period xs ∧ ¬ Continues xs) := by
  intro ts arguments rest
  constructor
  · intro got
    fun_induction readArguments bare ts generalizing arguments rest with
    | case1 => exact absurd got leaves_error
    | case2 bare ts argument after lt found absent =>
      obtain ⟨front, rfl, spelled, ended⟩ := (readArgument_reads bare).sound found
      obtain ⟨rfl, rfl⟩ := leaves_ok.1 got
      exact ⟨front, rfl, .one spelled, ended, acceptContinuation?_eq_none_iff.1 absent⟩
    | case3 => exact absurd got leaves_error
    | case4 bare ts argument after lt found more lt' accepted others behind lt'' found' ih =>
      obtain ⟨front, rfl, spelled, -⟩ := (readArgument_reads bare).sound found
      obtain ⟨t, rfl, same, -⟩ := of_acceptContinuation?_eq_some accepted
      obtain ⟨back, rfl, listed, ended⟩ := ih others behind ⟨lt'', found'⟩
      obtain ⟨rfl, rfl⟩ := leaves_ok.1 got
      refine ⟨front ++ t :: back, by simp, ?_, ended⟩
      simpa [same] using Arguments.more spelled listed
  · rintro ⟨front, rfl, listed, period, stops⟩
    generalize whole : lexemes front = xs at listed
    induction listed generalizing front with
    | @one bare xs argument first =>
      subst whole
      obtain ⟨_, found⟩ := (readArgument_reads bare).complete rest first period
      rw [readArguments]
      simp [found, acceptContinuation?_eq_none_iff.2 stops]
    | @more bare xs ys argument others first listed ih =>
      obtain ⟨head, tail, rfl, rfl, behind⟩ := lexemes_eq_append.1 whole
      obtain ⟨t, back, rfl, same, behind⟩ := lexemes_eq_cons.1 behind
      obtain ⟨text, zs, quoted⟩ := listed.first_quoted
      have apart : Lacks .period (lexemes (t :: (back ++ rest))) := by simp [Lacks, same]
      have continues : Continues (lexemes (t :: (back ++ rest))) :=
        ⟨text, zs ++ lexemes rest, by simp [same, behind, quoted]⟩
      obtain ⟨_, found⟩ := (readArgument_reads bare).complete (t :: (back ++ rest)) first apart
      obtain ⟨_, found'⟩ := ih back behind
      rw [List.append_assoc, List.cons_append, readArguments]
      simp [found, acceptContinuation?_cons continues, found']

theorem of_readKind_eq_ok {ts rest : List Token} {kind : SourceKind} {keyword : String}
    {lt : rest.length < ts.length} (found : readKind ts = .ok (kind, keyword, ⟨rest, lt⟩)) :
    ∃ t, ts = t :: rest ∧ keyword? t.lexeme = some keyword ∧ keyword ∈ kind.keywords := by
  unfold readKind at found
  split at found
  · cases found
  · rename_i t more
    split at found
    · cases found
    · rename_i word spelled
      split at found
      · rename_i known
        cases found
        exact ⟨t, rfl, spelled, SourceKind.ofKeyword?_eq_some_iff.1 known⟩
      · cases found

theorem readKind_cons {t : Token} {kind : SourceKind} {keyword : String}
    (spelled : keyword? t.lexeme = some keyword) (known : keyword ∈ kind.keywords)
    (rest : List Token) :
    readKind (t :: rest) = .ok (kind, keyword, ⟨rest, tail_shorter t rest⟩) := by
  simp [readKind, spelled, SourceKind.ofKeyword?_eq_some_iff.2 known]

def AllEndBefore (sources : List Source) (xs : List Lexeme) : Prop :=
  ∀ s ∈ sources.getLast?, s.EndsBefore xs

theorem allEndBefore_drawn {kind : SourceKind} {bare : Bool} {xs : List Lexeme}
    {arguments : List String} (listed : Arguments bare xs arguments) (ys : List Lexeme) :
    AllEndBefore (arguments.map fun a => ⟨kind, [a]⟩) ys ↔ Lacks .period ys ∧ ¬ Continues ys := by
  have nonempty : arguments ≠ [] := by cases listed <;> simp
  have last := List.getLast?_eq_some_getLast nonempty
  simp [AllEndBefore, List.getLast?_map, last, EndsBefore]

theorem readGroup_reads : Reads readGroup Group AllEndBefore := by
  intro ts sources rest
  constructor
  · intro got
    unfold readGroup at got
    split at got
    · exact absurd got leaves_error
    · rename_i kind keyword more lt found
      obtain ⟨t, rfl, spelled, known⟩ := of_readKind_eq_ok found
      split at got
      · rename_i more lt' colon
        obtain ⟨t', rfl, same⟩ := of_accept?_eq_some colon
        split at got
        · exact absurd got leaves_error
        · rename_i arguments after lt'' found'
          obtain ⟨front, rfl, listed, ended⟩ := (readArguments_reads true).sound found'
          obtain ⟨rfl, rfl⟩ := leaves_ok.1 got
          refine ⟨t :: t' :: front, rfl, ?_, (allEndBefore_drawn listed _).2 ended⟩
          rw [lexemes_cons, lexemes_cons, same]
          exact .drawn ⟨keyword, known, spelled⟩ listed
      · rename_i absent
        split at got
        · exact absurd got leaves_error
        · rename_i free
          obtain ⟨rfl, rfl⟩ := leaves_ok.1 got
          have ended := accept?_eq_none_iff.1 absent
          exact ⟨[t], rfl, .alone ⟨keyword, known, spelled⟩ (by simpa using free),
            by simpa [AllEndBefore, EndsBefore] using ended⟩
  · rintro ⟨front, rfl, group, ended⟩
    generalize whole : lexemes front = xs at group
    cases group with
    | alone names free =>
      obtain ⟨keyword, known, spelled⟩ := names
      obtain ⟨t, _, rfl, rfl, empty⟩ := lexemes_eq_cons.1 whole
      obtain rfl := lexemes_eq_nil.1 empty
      have absent : accept? .colon rest = none := by
        simpa [AllEndBefore, EndsBefore, accept?_eq_none_iff] using ended
      simp [readGroup, readKind_cons spelled known, absent, free]
    | drawn names listed =>
      obtain ⟨keyword, known, spelled⟩ := names
      obtain ⟨t, front, rfl, rfl, behind⟩ := lexemes_eq_cons.1 whole
      obtain ⟨t', front, rfl, same, behind⟩ := lexemes_eq_cons.1 behind
      subst behind
      obtain ⟨_, found⟩ := (readArguments_reads true).complete rest listed
        ((allEndBefore_drawn listed _).1 ended)
      simp [readGroup, readKind_cons spelled known, accept?_cons same, found]

theorem Group.ne_nil {xs : List Lexeme} {sources : List Source} (group : Group xs sources) :
    sources ≠ [] := by
  cases group with
  | alone => simp
  | drawn names listed => cases listed <;> simp

theorem Spelled.ne_nil {xs : List Lexeme} {sources : List Source} (spelled : Spelled xs sources) :
    sources ≠ [] := by
  cases spelled with
  | one group => exact group.ne_nil
  | more group => simp [group.ne_nil]

theorem allEndBefore_append (first : List Source) {others : List Source} (nonempty : others ≠ [])
    (xs : List Lexeme) : AllEndBefore (first ++ others) xs ↔ AllEndBefore others xs := by
  simp [AllEndBefore, List.getLast?_append, List.getLast?_eq_some_getLast nonempty]

theorem allEndBefore_comma {sources : List Source} {x : Lexeme} {kind : SourceKind}
    (names : Names x kind) (xs : List Lexeme) :
    AllEndBefore sources (.symbol .comma :: x :: xs) := by
  obtain ⟨keyword, -, spelled⟩ := names
  intro s mem
  unfold EndsBefore
  split
  · simp [Lacks]
  · refine ⟨by simp [Lacks], ?_⟩
    rintro ⟨text, ys, whole⟩
    obtain ⟨rfl, -⟩ := List.cons.inj (List.cons.inj whole).2
    cases spelled

theorem Group.head {xs : List Lexeme} {sources : List Source} (group : Group xs sources) :
    ∃ x ys kind, xs = x :: ys ∧ Names x kind := by
  cases group with
  | alone names => exact ⟨_, _, _, rfl, names⟩
  | drawn names => exact ⟨_, _, _, rfl, names⟩

theorem Spelled.head {xs : List Lexeme} {sources : List Source} (spelled : Spelled xs sources) :
    ∃ x ys kind, xs = x :: ys ∧ Names x kind := by
  cases spelled with
  | one group => exact group.head
  | more group =>
    obtain ⟨x, ys, kind, rfl, names⟩ := group.head
    exact ⟨x, _, kind, rfl, names⟩

theorem readMany_reads :
    Reads readMany Spelled (fun sources xs => Lacks .comma xs ∧ AllEndBefore sources xs) := by
  intro ts sources rest
  constructor
  · intro got
    fun_induction readMany ts generalizing sources rest with
    | case1 => exact absurd got leaves_error
    | case2 ts first after lt found absent =>
      obtain ⟨front, rfl, group, ended⟩ := readGroup_reads.sound found
      obtain ⟨rfl, rfl⟩ := leaves_ok.1 got
      exact ⟨front, rfl, .one group, accept?_eq_none_iff.1 absent, ended⟩
    | case3 => exact absurd got leaves_error
    | case4 ts first after lt found more lt' accepted others behind lt'' found' ih =>
      obtain ⟨front, rfl, group, -⟩ := readGroup_reads.sound found
      obtain ⟨t, rfl, same⟩ := of_accept?_eq_some accepted
      obtain ⟨back, rfl, spelled, comma, ended⟩ := ih others behind ⟨lt'', found'⟩
      obtain ⟨rfl, rfl⟩ := leaves_ok.1 got
      refine ⟨front ++ t :: back, by simp, ?_, comma,
        (allEndBefore_append first spelled.ne_nil _).2 ended⟩
      simpa [same] using Spelled.more group spelled
  · rintro ⟨front, rfl, spelled, comma, ended⟩
    generalize whole : lexemes front = xs at spelled
    induction spelled generalizing front with
    | one group =>
      subst whole
      obtain ⟨_, found⟩ := readGroup_reads.complete rest group ended
      rw [readMany]
      simp [found, accept?_eq_none_iff.2 comma]
    | @more xs ys first others group spelled ih =>
      obtain ⟨head, tail, rfl, rfl, behind⟩ := lexemes_eq_append.1 whole
      obtain ⟨t, back, rfl, same, behind⟩ := lexemes_eq_cons.1 behind
      rw [allEndBefore_append first spelled.ne_nil] at ended
      have apart : AllEndBefore first (lexemes (t :: (back ++ rest))) := by
        obtain ⟨x, zs, kind, rfl, names⟩ := spelled.head
        rw [lexemes_cons, same, lexemes_append, behind]
        exact allEndBefore_comma names _
      obtain ⟨_, found⟩ := readGroup_reads.complete (t :: (back ++ rest)) group apart
      obtain ⟨_, found'⟩ := ih back ended behind
      rw [List.append_assoc, List.cons_append, readMany]
      simp [found, accept?_cons same, found']

end Source

end TimelineFilter
