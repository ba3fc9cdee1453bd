import TimelineFilter.Proofs.Grammar.Expressions
import TimelineFilter.Proofs.Stopping.Front

namespace TimelineFilter.Value

section

variable {α : Type} [Catalogue α] {alone : Value} {entry : α → Value}
  {unknown : String → Problem}

theorem readEntry_fails {xs : List Lexeme} (fails : Fails expectWord xs) :
    Fails (readEntry alone entry unknown) (.symbol .period :: xs) := by
  intro front rest whole
  obtain ⟨t, front, rfl, same, whole⟩ := lexemes_eq_cons.1 whole
  obtain ⟨e, failed⟩ := fails front rest whole
  exact ⟨e, by simp [readEntry, accept?_cons same, failed]⟩

theorem readEntry_unknown {name : String} (missing : (Catalogue.find? name : Option α) = none) :
    Fails (readEntry alone entry unknown) [.symbol .period, .word name] := by
  intro front rest whole
  obtain ⟨t, front, rfl, same, whole⟩ := lexemes_eq_cons.1 whole
  obtain ⟨t', front, rfl, named, whole⟩ := lexemes_eq_cons.1 whole
  obtain rfl := lexemes_eq_nil.1 whole
  simp [readEntry, accept?_cons same, expectWord, named, missing]

theorem readEntry_stops {a : α} {sample : String} (known : Catalogue.Spells sample a)
    (bare : isBareWord sample = true)
    (late : ∀ name, (unknown name).lateName? = some name) :
    Stops (readEntry alone entry unknown) (Followed alone entry) := by
  intro ts e failed
  have goes : Completable (Followed alone entry) [.symbol .period] :=
    ⟨[.word sample], _, by simpa [Lexeme.Writable] using bare, .named known⟩
  unfold readEntry at failed
  split at failed
  · cases failed
  · rename_i rest lt accepted
    obtain ⟨t, rfl, same⟩ := of_accept?_eq_some accepted
    split at failed
    · rename_i e wordless
      cases failed
      refine (expectWord_stops wordless).shift [t] ?_ ?_
      · rintro _ rfl
        simpa [same] using goes
      · intro xs _ fails
        simpa [same] using readEntry_fails fails
    · rename_i name after lt' word
      obtain ⟨front, rfl, spelled, -⟩ := expectWord_reads.sound word
      obtain ⟨t', _, rfl, named, empty⟩ := lexemes_eq_cons.1 spelled
      obtain rfl := lexemes_eq_nil.1 empty
      split at failed
      · cases failed
      · rename_i missing
        cases failed
        refine .late [t] after (late name) rfl named ?_ ?_ rfl
        · simpa [same] using goes
        · simpa [same, named] using readEntry_unknown missing

end

theorem readRelation_stops (s : Selector) : Stops (readRelation s) (OfSelector s) := by
  have known : Catalogue.Spells "following" Relation.following :=
    Catalogue.find?_eq_some_iff.1 rfl
  rw [readRelation_eq]
  exact readEntry_stops known (by decide) fun _ => rfl

theorem readField_stops (who : Person) : Stops (readField who) (OfPerson who) := by
  have known : Catalogue.Spells "id" UserField.id := Catalogue.find?_eq_some_iff.1 rfl
  rw [readField_eq]
  exact readEntry_stops known (by decide) fun _ => rfl

theorem readDotted_fails {xs : List Lexeme} (fails : Fails expectName xs) :
    Fails readDotted (.symbol .period :: xs) := by
  intro front rest whole
  obtain ⟨t, front, rfl, same, whole⟩ := lexemes_eq_cons.1 whole
  obtain ⟨e, failed⟩ := fails front rest whole
  exact ⟨e, by simp [readDotted, expect_cons same, failed]⟩

theorem readDotted_stops : Stops readDotted Dotted := by
  intro ts e failed
  unfold readDotted at failed
  split at failed
  · rename_i e apart
    cases failed
    refine (expect_stops apart).mono ?_ ?_
    · rintro _ rfl
      exact ⟨[.symbol .period, .quoted ""], "", by simp [Lexeme.Writable], _, rfl, rfl⟩
    · intro xs _ fails front rest whole
      obtain ⟨e, failed⟩ := fails front rest whole
      exact ⟨e, by simp [readDotted, failed]⟩
  · rename_i rest lt found
    obtain ⟨t, rfl, same⟩ := of_expect_eq_ok found
    split at failed
    · rename_i e nameless
      cases failed
      refine (expectName_stops nameless).shift [t] ?_ ?_
      · rintro _ rfl
        exact ⟨[.quoted ""], "", by simp [Lexeme.Writable], .quoted "", by simp [same], rfl⟩
      · intro xs _ fails
        simpa [same] using readDotted_fails fails
    · cases failed

theorem readNamedAccount_stops : Stops readNamedAccount NamedAccount := by
  intro ts e failed
  unfold readNamedAccount at failed
  split at failed
  · rename_i e dotless
    cases failed
    refine (readDotted_stops _ _ dotless).mono ?_ ?_
    · intro xs goes
      refine goes.extend ?_
      rintro _ name ⟨x, rfl, names⟩
      exact ⟨[], _, by simp, x, name, [], rfl, names, .alone⟩
    · intro xs _ fails front rest whole
      obtain ⟨e, failed⟩ := fails front rest whole
      exact ⟨e, by simp [readNamedAccount, failed]⟩
  · rename_i name rest lt dotted
    obtain ⟨front, rfl, ⟨x, spelled, names⟩, -⟩ := readDotted_reads.sound dotted
    split at failed
    · rename_i e unrelated
      cases failed
      refine (readRelation_stops _ _ _ unrelated).shift front ?_ ?_
      · intro xs goes
        refine goes.within ?_
        intro ys v related
        exact ⟨[], v, by simp, x, name, ys, by simp [spelled], names, related⟩
      · intro xs _ fails both rest whole
        obtain ⟨more, _, e, dotted, failed⟩ := readDotted_reads.then_fails fails
          ⟨x, spelled, names⟩ (fun _ => trivial) whole rest
        exact ⟨e, by simp [readNamedAccount, dotted, failed]⟩
    · cases failed

theorem readList_stops : Stops readList Listed := by
  intro ts e failed
  unfold readList at failed
  split at failed
  · rename_i e dotless
    cases failed
    refine (readDotted_stops _ _ dotless).mono ?_ ?_
    · intro xs goes
      refine goes.extend ?_
      rintro _ owner ⟨x, rfl, names⟩
      exact ⟨[.symbol .period, .quoted ""], _, by simp [Lexeme.Writable], x, .quoted "", owner, "",
        rfl, names, rfl, rfl⟩
    · intro xs _ fails front rest whole
      obtain ⟨e, failed⟩ := fails front rest whole
      exact ⟨e, by simp [readList, failed]⟩
  · rename_i owner rest lt dotted
    obtain ⟨front, rfl, ⟨x, spelled, names⟩, -⟩ := readDotted_reads.sound dotted
    split at failed
    · rename_i e dotless
      cases failed
      refine (readDotted_stops _ _ dotless).shift front ?_ ?_
      · intro xs goes
        refine goes.within ?_
        rintro _ slug ⟨y, rfl, names'⟩
        exact ⟨[], _, by simp, x, y, owner, slug, by simp [spelled], names, names', rfl⟩
      · intro xs _ fails both rest whole
        obtain ⟨more, _, e, dotted, failed⟩ := readDotted_reads.then_fails fails
          ⟨x, spelled, names⟩ (fun _ => trivial) whole rest
        exact ⟨e, by simp [readList, dotted, failed]⟩
    · cases failed

theorem read_stops {x : Lexeme} {next : (ts : List Token) → Except Failure (Value × Tail ts)}
    {spells : List Lexeme → Value → Prop} (stops : Stops next spells)
    (same : ∀ t ts, t.lexeme = x → read t ts = next ts)
    (spelled : ∀ ys v, spells ys v → Spelled (x :: ys) v) {t : Token} {rest : List Token}
    {e : Failure} (first : t.lexeme = x) (failed : next rest = .error e) :
    Stop (Completable Spelled) (Fails readNext) (t :: rest) e := by
  refine (stops _ _ failed).shift [t] ?_ ?_
  · intro xs goes
    refine goes.within ?_
    intro ys v behind
    exact ⟨[], v, by simp, by simpa [first] using spelled ys v behind⟩
  · intro xs _ fails front rest whole
    obtain ⟨t', front, rfl, named, behind⟩ := lexemes_eq_cons.1 whole
    obtain ⟨e, failed⟩ := fails front rest behind
    exact ⟨e, by simp [readNext, same t' _ (named.trans first), failed]⟩

theorem read_stuck {t : Token} {word : String} {p : Problem} {rest : List Token}
    (early : p.lateName? = none) (first : t.lexeme = .word word)
    (stuck : ∀ t ts, readWord t word ts = .error (.before (t :: ts) p)) :
    Stop (Completable Spelled) (Fails readNext) (t :: rest) (.before (t :: rest) p) := by
  refine .here early rfl ⟨[.quoted ""], _, by simp [Lexeme.Writable], .text⟩ ?_
  intro x mem front rest whole
  obtain rfl : t.lexeme = x := by simpa using mem
  obtain ⟨t', front, rfl, named, -⟩ := lexemes_eq_cons.1 whole
  simp [readNext, read, named, first, stuck]

theorem readWord_invalidId {word : String} {digits : List Char}
    (spelled : word.toList = '#' :: digits) (invalid : Text.natural64? digits = none) (t : Token)
    (ts : List Token) :
    readWord t word ts = .error (.before (t :: ts) (.invalidNumber (String.ofList digits))) := by
  unfold readWord
  rw [spelled]
  simp [invalid]

theorem keyword_stops {t : Token} {word keyword : String} {rest : List Token} {e : Failure}
    {next : (ts : List Token) → Except Failure (Value × Tail ts)}
    {spells : List Lexeme → Value → Prop} (known : keyword ∈ keywords)
    (same : Text.lowerAscii word = keyword) (first : t.lexeme = .word word)
    (stops : Stops next spells) (meant : ∀ t ts, readWord t keyword ts = next ts)
    (spelled : ∀ ys v, spells ys v → Spelled (.word word :: ys) v)
    (failed : next rest = .error e) :
    Stop (Completable Spelled) (Fails readNext) (t :: rest) e := by
  have agrees := Text.sameIgnoringCase_of_lowerAscii same (keywords_lower keyword known).2
  refine read_stops stops ?_ spelled first failed
  intro t' ts named
  simp [read, named, readWord_keyword t' known agrees, meant]

theorem ours_stops {t : Token} {word keyword : String} {rest : List Token} {e : Failure}
    (known : keyword ∈ ["we", "our", "us"]) (same : Text.lowerAscii word = keyword)
    (first : t.lexeme = .word word) (failed : readRelation .any rest = .error e) :
    Stop (Completable Spelled) (Fails readNext) (t :: rest) e := by
  have members : ∀ k ∈ ["we", "our", "us"], k ∈ keywords := by decide
  refine keyword_stops (members _ known) same first (readRelation_stops .any) ?_ ?_ failed
  · intro t' ts
    simp only [List.mem_cons, List.not_mem_nil, or_false] at known
    rcases known with rfl | rfl | rfl <;> rfl
  · intro ys v related
    exact .selected (spelled_ours same known) related

theorem person_stops {t : Token} {word : String} {who : Person} {rest : List Token} {e : Failure}
    (same : Text.lowerAscii word = who.render) (first : t.lexeme = .word word)
    (failed : readField who rest = .error e) :
    Stop (Completable Spelled) (Fails readNext) (t :: rest) e := by
  have known : who.render ∈ keywords := by cases who <;> decide
  have agrees := Text.sameIgnoringCase_of_lowerAscii same (keywords_lower _ known).2
  refine keyword_stops known same first (readField_stops who) ?_ ?_ failed
  · intro t' ts
    cases who <;> rfl
  · intro ys v field
    exact .person ⟨word, rfl, agrees⟩ field

theorem readWord_stops {t : Token} {word : String} {rest : List Token} {e : Failure}
    (first : t.lexeme = .word word) (failed : readWord t word rest = .error e) :
    Stop (Completable Spelled) (Fails readNext) (t :: rest) e := by
  have same : ∀ t' ts, t'.lexeme = .word word → read t' ts = readWord t' word ts := by
    intro t' ts named
    simp [read, named]
  unfold readWord at failed
  split at failed
  · rename_i spelled
    obtain rfl : word = "@" := String.toList_inj.1 spelled
    refine read_stops readNamedAccount_stops same ?_ first failed
    rintro _ v ⟨x, name, ys, rfl, names, related⟩
    exact .selected (.apart names) related
  · rename_i name marked spelled
    obtain rfl : word = "@" ++ String.ofList name := String.toList_inj.1 (by simp [spelled])
    have nonempty : String.ofList name ≠ "" := fun none => marked (by simpa using none)
    refine read_stops (readRelation_stops _) ?_ ?_ first failed
    · intro t' ts named
      rw [same t' ts named, readWord_attached t' nonempty]
    · intro ys v related
      exact .selected (.attached nonempty) related
  · rename_i digits spelled
    obtain rfl : word = "#" ++ String.ofList digits := String.toList_inj.1 (by simp [spelled])
    split at failed
    · rename_i id found
      have numeral : Text.Numeral (String.ofList digits).toList id := by
        simpa using Text.natural64?_eq_some_iff.1 found
      refine read_stops (readRelation_stops _) ?_ ?_ first failed
      · intro t' ts named
        rw [same t' ts named, readWord_id t' numeral]
      · intro ys v related
        exact .selected (.id numeral) related
    · rename_i invalid
      cases failed
      exact read_stuck rfl first (readWord_invalidId spelled invalid)
  · rename_i notAt notMarked notHash
    split at failed
    · rename_i lower
      exact ours_stops (by decide) lower first failed
    · rename_i lower
      exact ours_stops (by decide) lower first failed
    · rename_i lower
      exact ours_stops (by decide) lower first failed
    · exact person_stops ‹_› first failed
    · exact person_stops ‹_› first failed
    · rename_i lower
      refine keyword_stops (by decide) lower first readList_stops (fun _ _ => rfl) ?_ failed
      rintro _ _ ⟨y, z, owner, slug, rfl, owned, named, rfl⟩
      have agrees := Text.sameIgnoringCase_of_lowerAscii lower (by decide)
      exact .list ⟨word, rfl, agrees⟩ owned named
    · rename_i notWe notOur notUs notUser notRetweeter notList
      have other : Text.lowerAscii word ∉ keywords := by
        simp only [keywords, List.mem_cons, List.not_mem_nil, or_false, not_or]
        exact ⟨notWe, notOur, notUs, notUser, notRetweeter, notList⟩
      have meant := fun t ts => readWord_other t notMarked notHash other ts
      split at failed
      · rename_i digits
        split at failed
        · cases failed
        · rename_i invalid
          cases failed
          refine read_stuck rfl first fun t' ts => ?_
          rw [meant, if_pos digits, invalid]
      · rename_i digits
        split at failed
        · cases failed
        · rename_i missing
          cases failed
          refine read_stuck rfl first fun t' ts => ?_
          rw [meant, if_neg digits, missing]

theorem readNext_stops : Stops readNext Spelled := by
  have goes : Completable Spelled [] := ⟨[.quoted ""], _, by simp [Lexeme.Writable], .text⟩
  intro ts e failed
  unfold readNext at failed
  split at failed
  · cases failed
    exact .here rfl rfl goes (by simp)
  · rename_i t rest
    split at failed
    · rename_i e unread
      cases failed
      unfold read at unread
      split at unread
      · cases unread
      · rename_i word first
        exact readWord_stops first unread
      · rename_i first
        refine read_stops (readRelation_stops _) ?_ (fun _ _ => .selected .star) first unread
        intro t' ts named
        simp [read, named]
      · rename_i s other first
        cases unread
        refine .here (by simp) (by simp) goes ?_
        intro x mem
        obtain rfl : t.lexeme = x := by simpa using mem
        refine readNext_reads.fails ?_
        intro ys v spelled
        cases ys with
        | nil => exact absurd rfl spelled.ne_nil
        | cons y ys =>
          refine ⟨y, ys, rfl, ?_⟩
          rintro rfl
          rw [first] at spelled
          exact other spelled.symbol_eq_star
    · cases failed

theorem readMany_stops : Stops readMany SpelledMany := by
  intro ts e failed
  fun_induction readMany ts generalizing e with
  | case1 ts e unread =>
    cases failed
    refine (readNext_stops _ _ unread).mono ?_ ?_
    · intro xs goes
      exact goes.extend fun ys v spelled => ⟨[], [v], by simp, by simpa using .one spelled⟩
    · intro xs _ fails front rest whole
      obtain ⟨e, failed⟩ := fails front rest whole
      rw [readMany]
      simp [failed]
  | case2 => cases failed
  | case3 ts v rest lt first more lt' accepted e unread ih =>
    cases failed
    obtain ⟨front, rfl, spelled, -⟩ := readNext_reads.sound first
    obtain ⟨t, rfl, same⟩ := of_accept?_eq_some accepted
    rw [← List.singleton_append, ← List.append_assoc]
    refine (ih e unread).shift (front ++ [t]) ?_ ?_
    · intro xs goes
      refine goes.within ?_
      intro ys vs others
      exact ⟨[], v :: vs, by simp, by simpa [same] using SpelledMany.more spelled others⟩
    · intro xs _ fails both rest whole
      have behind : lexemes both = lexemes front ++ .symbol .comma :: xs := by
        simpa [same] using whole
      have apart : ∀ zs, v.EndsBefore (.symbol .comma :: xs ++ zs) := fun _ _ => by simp [Lacks]
      obtain ⟨back, _, found, commas⟩ := readNext_reads.splits spelled apart behind rest
      obtain ⟨t', back, rfl, comma, others⟩ := lexemes_eq_cons.1 commas
      obtain ⟨e, failed⟩ := fails back rest others
      rw [readMany]
      simp [found, accept?_cons comma, failed]
  | case4 => cases failed

end TimelineFilter.Value
