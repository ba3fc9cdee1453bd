import TimelineFilter.Proofs.Brackets.Matching
import TimelineFilter.Proofs.Stopping.Queries

namespace TimelineFilter

def Failure.isUnbalanced (e : Failure) : Bool :=
  match e.problem with
  | .unbalancedBracket _ => true
  | _ => false

@[simp] theorem wanted_isUnbalanced (what : Expectation) (ts : List Token) :
    (Failure.wanted what ts).isUnbalanced = false := by
  cases ts <;> rfl

theorem misplaced_closing {t : Token} {b : Bracket} (same : t.lexeme = .symbol b.closing)
    (rest : List Token) :
    Failure.misplaced t rest = .before (t :: rest) (.unbalancedBracket t.lexeme) := by
  unfold Failure.misplaced
  rw [same]
  cases b <;> rfl

theorem misplaced_isUnbalanced {t : Token} {rest : List Token} :
    (Failure.misplaced t rest).isUnbalanced = true ↔
      ∃ b : Bracket, t.lexeme = .symbol b.closing := by
  constructor
  · intro unbalanced
    unfold Failure.misplaced at unbalanced
    split at unbalanced
    · exact ⟨.paren, ‹_›⟩
    · exact ⟨.square, ‹_›⟩
    · cases unbalanced
  · rintro ⟨b, same⟩
    rw [misplaced_closing same]
    rfl

def ReportsAt (due : Bracket → List Lexeme → Prop) (ts : List Token) (e : Failure) : Prop :=
  ∃ front t rest b, ts = front ++ t :: rest ∧ t.lexeme = .symbol (Bracket.closing b) ∧
    e = .misplaced t rest ∧ due b (lexemes front)

/-- A reader reports exactly the closing brackets that stand at such a place. -/
def Reports {β : List Token → Type} (read : (ts : List Token) → Except Failure (β ts))
    (due : Bracket → List Lexeme → Prop) : Prop :=
  ∀ ts e, (read ts = .error e ∧ e.isUnbalanced = true) ↔ ReportsAt due ts e

def Calm {β : List Token → Type} (read : (ts : List Token) → Except Failure (β ts)) : Prop :=
  ∀ ts e, read ts = .error e → e.isUnbalanced = false

section

variable {β : List Token → Type} {read : (ts : List Token) → Except Failure (β ts)}
  {due due' : Bracket → List Lexeme → Prop} {ts rest : List Token} {e : Failure}

theorem Reports.sound (reports : Reports read due) (failed : read ts = .error e)
    (unbalanced : e.isUnbalanced = true) : ReportsAt due ts e :=
  (reports ts e).1 ⟨failed, unbalanced⟩

theorem Reports.complete (reports : Reports read due) {front : List Token} {t : Token}
    {b : Bracket} (same : t.lexeme = .symbol b.closing) (here : due b (lexemes front))
    (rest : List Token) : read (front ++ t :: rest) = .error (.misplaced t rest) :=
  ((reports _ _).2 ⟨front, t, rest, b, rfl, same, rfl, here⟩).1

theorem ReportsAt.shift (front : List Token) (reported : ReportsAt due rest e)
    (moves : ∀ b xs, due b xs → due' b (lexemes front ++ xs)) :
    ReportsAt due' (front ++ rest) e := by
  obtain ⟨read, t, rest, b, rfl, same, rfl, here⟩ := reported
  exact ⟨front ++ read, t, rest, b, by simp, same, rfl, by simpa using moves b _ here⟩

theorem Calm.absurd {p : Prop} (calm : Calm read) (failed : read ts = .error e)
    (unbalanced : e.isUnbalanced = true) : p := by
  rw [calm ts e failed] at unbalanced
  cases unbalanced

end

def Lexeme.Joins (x : Lexeme) : Prop :=
  (∃ op : BinaryOp, op.Written x) ∨ (∃ op : UnaryOp, op.Written x) ∨ x = .symbol .comma

theorem Lexeme.Joins.isPlain {x : Lexeme} (joins : x.Joins) : x.isPlain = true := by
  obtain ⟨op, written⟩ | ⟨op, written⟩ | rfl := joins
  · exact written.isPlain
  · exact written.isPlain
  · rfl

theorem closing_not_word {t : Token} {b : Bracket} (same : t.lexeme = .symbol b.closing)
    (keyword : String) : t.isKeyword keyword = false := by
  simp [Token.isKeyword, same]

theorem expect_calm (s : Symbol) : Calm (expect s) := by
  intro ts e failed
  unfold expect at failed
  split at failed
  · cases failed
  · cases failed
    simp

theorem expectWord_calm : Calm expectWord := by
  intro ts e failed
  unfold expectWord at failed
  split at failed
  · cases failed
    rfl
  · split at failed
    · cases failed
    · cases failed
      rfl

theorem expectName_calm : Calm expectName := by
  intro ts e failed
  unfold expectName at failed
  split at failed
  · cases failed
    rfl
  · split at failed
    · cases failed
    · cases failed
    · cases failed
      rfl

namespace Value

theorem readEntry_calm {α : Type} [Catalogue α] {alone : Value} {entry : α → Value}
    {unknown : String → Problem}
    (other : ∀ name rest, (Failure.before rest (unknown name)).isUnbalanced = false) :
    Calm (readEntry alone entry unknown) := by
  intro ts e failed
  unfold readEntry at failed
  split at failed
  · cases failed
  · split at failed
    · rename_i e wordless
      cases failed
      exact expectWord_calm _ _ wordless
    · split at failed
      · cases failed
      · cases failed
        exact other _ _

theorem readRelation_calm (s : Selector) : Calm (readRelation s) := by
  rw [readRelation_eq]
  exact readEntry_calm fun _ _ => rfl

theorem readField_calm (who : Person) : Calm (readField who) := by
  rw [readField_eq]
  exact readEntry_calm fun _ _ => rfl

theorem readDotted_calm : Calm readDotted := by
  intro ts e failed
  unfold readDotted at failed
  split at failed
  · rename_i e apart
    cases failed
    exact expect_calm _ _ _ apart
  · split at failed
    · rename_i e nameless
      cases failed
      exact expectName_calm _ _ nameless
    · cases failed

theorem readNamedAccount_calm : Calm readNamedAccount := by
  intro ts e failed
  unfold readNamedAccount at failed
  split at failed
  · rename_i e dotless
    cases failed
    exact readDotted_calm _ _ dotless
  · split at failed
    · rename_i e unrelated
      cases failed
      exact readRelation_calm _ _ _ unrelated
    · cases failed

theorem readList_calm : Calm readList := by
  intro ts e failed
  unfold readList at failed
  split at failed
  · rename_i e dotless
    cases failed
    exact readDotted_calm _ _ dotless
  · split at failed
    · rename_i e dotless
      cases failed
      exact readDotted_calm _ _ dotless
    · cases failed

theorem readWord_calm (t : Token) (word : String) : Calm (readWord t word) := by
  intro ts e failed
  unfold readWord at failed
  split at failed
  · exact readNamedAccount_calm _ _ failed
  · exact readRelation_calm _ _ _ failed
  · split at failed
    · exact readRelation_calm _ _ _ failed
    · cases failed
      rfl
  · split at failed
    · exact readRelation_calm _ _ _ failed
    · exact readRelation_calm _ _ _ failed
    · exact readRelation_calm _ _ _ failed
    · exact readField_calm _ _ _ failed
    · exact readField_calm _ _ _ failed
    · exact readList_calm _ _ failed
    · split at failed
      · split at failed
        · cases failed
        · cases failed
          rfl
      · split at failed
        · cases failed
        · cases failed
          rfl

theorem readNext_rejects {b : Bracket} {t : Token} (same : t.lexeme = .symbol b.closing)
    (rest : List Token) : readNext (t :: rest) = .error (.misplaced t rest) := by
  cases b <;> simp [readNext, read, same, Bracket.closing]

theorem readNext_reports : Reports readNext fun _ xs => xs = [] := by
  intro ts e
  constructor
  · rintro ⟨failed, unbalanced⟩
    unfold readNext at failed
    split at failed
    · cases failed
      cases unbalanced
    · rename_i t rest
      split at failed
      · rename_i e unread
        cases failed
        unfold read at unread
        split at unread
        · cases unread
        · exact (readWord_calm _ _).absurd unread unbalanced
        · exact (readRelation_calm _).absurd unread unbalanced
        · cases unread
          obtain ⟨b, same⟩ := misplaced_isUnbalanced.1 unbalanced
          exact ⟨[], t, rest, b, rfl, same, rfl, rfl⟩
      · cases failed
  · rintro ⟨front, t, rest, b, rfl, same, rfl, empty⟩
    obtain rfl := lexemes_eq_nil.1 empty
    exact ⟨readNext_rejects same rest, misplaced_isUnbalanced.2 ⟨b, same⟩⟩

/-- A member of a set literal has to come next: the first one, or one behind a comma. -/
inductive MemberDue : List Lexeme → Prop
  | first : MemberDue []
  | next {xs : List Lexeme} {vs : List Value} (members : SpelledMany xs vs) :
      MemberDue (xs ++ [.symbol .comma])

theorem MemberDue.behind {xs ys : List Lexeme} {v : Value} (due : MemberDue ys)
    (spelled : Spelled xs v) : MemberDue (xs ++ .symbol .comma :: ys) := by
  cases due with
  | first => exact .next (.one spelled)
  | next members =>
    rw [← List.cons_append, ← List.append_assoc]
    exact .next (.more spelled members)

theorem SpelledMany.append {xs ys : List Lexeme} {vs ws : List Value} (first : SpelledMany xs vs)
    (second : SpelledMany ys ws) : SpelledMany (xs ++ .symbol .comma :: ys) (vs ++ ws) := by
  induction first with
  | one spelled => exact .more spelled second
  | more spelled _ ih =>
    rw [List.append_assoc, List.cons_append]
    exact .more spelled ih

theorem MemberDue.completable {xs : List Lexeme} (due : MemberDue xs) :
    Completable SpelledMany xs := by
  have text : SpelledMany [.quoted ""] [.text ""] := .one .text
  cases due with
  | first => exact ⟨[.quoted ""], _, by simp [Lexeme.Writable], text⟩
  | next members =>
    exact ⟨[.quoted ""], _, by simp [Lexeme.Writable], by simpa using members.append text⟩

theorem readMany_behind {xs : List Lexeme} {v : Value} (spelled : Spelled xs v)
    {first more : List Token} (whole : lexemes first = xs) {comma : Token}
    (isComma : comma.lexeme = .symbol .comma) {e : Failure} (failed : readMany more = .error e) :
    readMany (first ++ comma :: more) = .error e := by
  subst whole
  obtain ⟨_, found⟩ := readNext_reads.complete (comma :: more) spelled
    fun _ => by simp [Lacks, isComma]
  rw [readMany]
  simp [found, accept?_cons isComma, failed]

theorem readMany_rejects {b : Bracket} {t : Token} (same : t.lexeme = .symbol b.closing)
    {front : List Token} (due : MemberDue (lexemes front)) (rest : List Token) :
    readMany (front ++ t :: rest) = .error (.misplaced t rest) := by
  have here : readMany (t :: rest) = .error (.misplaced t rest) := by
    rw [readMany]
    simp [readNext_rejects same rest]
  generalize whole : lexemes front = xs at due
  cases due with
  | first =>
    obtain rfl := lexemes_eq_nil.1 whole
    exact here
  | @next ys vs members =>
    induction members generalizing front with
    | one spelled =>
      obtain ⟨first, back, rfl, same, behind⟩ := lexemes_eq_append.1 whole
      obtain ⟨comma, _, rfl, isComma, empty⟩ := lexemes_eq_cons.1 behind
      obtain rfl := lexemes_eq_nil.1 empty
      rw [List.append_assoc, List.singleton_append]
      exact readMany_behind spelled same isComma here
    | more spelled _ ih =>
      rw [List.append_assoc] at whole
      obtain ⟨first, back, rfl, same, behind⟩ := lexemes_eq_append.1 whole
      obtain ⟨comma, back, rfl, isComma, others⟩ := lexemes_eq_cons.1 behind
      rw [List.append_assoc, List.cons_append]
      exact readMany_behind spelled same isComma (ih others)

theorem readMany_reports : Reports readMany fun _ => MemberDue := by
  intro ts e
  constructor
  · rintro ⟨failed, unbalanced⟩
    fun_induction readMany ts generalizing e with
    | case1 ts e unread =>
      cases failed
      refine (readNext_reports.sound unread unbalanced).shift [] ?_
      rintro b _ rfl
      exact .first
    | case2 => cases failed
    | case3 ts v rest lt first more lt' accepted e unread ih =>
      cases failed
      obtain ⟨front, rfl, spelled, -⟩ := readNext_reads.sound first
      obtain ⟨t, rfl, same⟩ := of_accept?_eq_some accepted
      rw [← List.singleton_append, ← List.append_assoc]
      refine (ih e unread unbalanced).shift (front ++ [t]) ?_
      intro b xs due
      simpa [same] using due.behind spelled
    | case4 => cases failed
  · rintro ⟨front, t, rest, b, rfl, same, rfl, due⟩
    exact ⟨readMany_rejects same due rest, misplaced_isUnbalanced.2 ⟨b, same⟩⟩

end Value

namespace Source

theorem readPart_calm (bare : Bool) : Calm (readPart bare) := by
  intro ts e failed
  unfold readPart at failed
  split at failed
  · cases failed
    rfl
  · split at failed
    · cases failed
    · cases failed
    · cases failed
      rfl

theorem readArgument_calm (bare : Bool) : Calm (readArgument bare) := by
  intro ts e failed
  fun_induction readArgument bare ts generalizing e with
  | case1 bare ts e unread =>
    cases failed
    exact readPart_calm _ _ _ unread
  | case2 => cases failed
  | case3 bare ts text after lt found more lt' accepted e unread ih =>
    cases failed
    exact ih e unread
  | case4 => cases failed

theorem readArguments_calm (bare : Bool) : Calm (readArguments bare) := by
  intro ts e failed
  fun_induction readArguments bare ts generalizing e with
  | case1 bare ts e unread =>
    cases failed
    exact readArgument_calm _ _ _ unread
  | case2 => cases failed
  | case3 bare ts argument after lt found more lt' accepted e unread ih =>
    cases failed
    exact ih e unread
  | case4 => cases failed

theorem readKind_calm {ts : List Token} {e : Failure} (failed : readKind ts = .error e) :
    e.isUnbalanced = false := by
  unfold readKind at failed
  split at failed
  · cases failed
    rfl
  · split at failed
    · cases failed
      rfl
    · split at failed
      · cases failed
      · cases failed
        rfl

theorem readGroup_calm : Calm readGroup := by
  intro ts e failed
  unfold readGroup at failed
  split at failed
  · rename_i e unread
    cases failed
    exact readKind_calm unread
  · split at failed
    · split at failed
      · rename_i e unread
        cases failed
        exact readArguments_calm _ _ _ unread
      · cases failed
    · split at failed
      · cases failed
        rfl
      · cases failed

theorem readMany_calm : Calm readMany := by
  intro ts e failed
  fun_induction readMany ts generalizing e with
  | case1 ts e unread =>
    cases failed
    exact readGroup_calm _ _ unread
  | case2 => cases failed
  | case3 ts sources after lt found more lt' accepted e unread ih =>
    cases failed
    exact ih e unread
  | case4 => cases failed

end Source

end TimelineFilter
