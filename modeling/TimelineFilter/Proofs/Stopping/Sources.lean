import TimelineFilter.Proofs.Grammar.Sources
import TimelineFilter.Proofs.Stopping.Front

namespace TimelineFilter.Source

theorem readPart_stops (bare : Bool) :
    Stops (readPart bare) (fun xs text => ∃ x, xs = [x] ∧ Part bare x text) := by
  have goes : Completable (fun xs text => ∃ x, xs = [x] ∧ Part bare x text) [] :=
    ⟨[.quoted ""], "", by simp [Lexeme.Writable], _, rfl, .quoted⟩
  intro ts e failed
  unfold readPart at failed
  split at failed
  · cases failed
    exact .here rfl rfl goes (by simp)
  · rename_i t rest
    split at failed
    · cases failed
    · cases failed
    · rename_i notQuoted notWord
      cases failed
      refine .here (by simp) (by simp) goes ?_
      intro x mem
      obtain rfl : t.lexeme = x := by simpa using mem
      refine (readPart_reads _).fails ?_
      rintro _ text ⟨y, rfl, part⟩
      refine ⟨y, [], rfl, ?_⟩
      intro same
      cases part with
      | quoted => exact notQuoted text same.symm
      | word allowed => exact notWord text same.symm allowed

theorem readArgument_stops (bare : Bool) : Stops (readArgument bare) (Argument bare) := by
  intro ts e failed
  fun_induction readArgument bare ts generalizing e with
  | case1 bare ts e unread =>
    cases failed
    refine (readPart_stops bare _ _ unread).mono ?_ ?_
    · intro xs goes
      refine goes.extend ?_
      rintro _ text ⟨x, rfl, part⟩
      exact ⟨[], text, by simp, .one part⟩
    · intro xs _ fails front rest whole
      obtain ⟨e, failed⟩ := fails front rest whole
      rw [readArgument]
      simp [failed]
  | case2 => cases failed
  | case3 bare ts text after lt found more lt' accepted e unread ih =>
    cases failed
    obtain ⟨front, rfl, ⟨x, spelled, part⟩, -⟩ := (readPart_reads bare).sound found
    obtain ⟨t, rfl, same⟩ := of_accept?_eq_some accepted
    rw [← List.singleton_append, ← List.append_assoc]
    refine (ih e unread).shift (front ++ [t]) ?_ ?_
    · intro xs goes
      refine goes.within ?_
      intro ys texts others
      exact ⟨[], _, by simp, by simpa [spelled, same] using .more part others⟩
    · intro xs _ fails both rest whole
      have behind : lexemes both = [x] ++ .symbol .period :: xs := by
        simpa [spelled, same] using whole
      obtain ⟨back, _, found, others⟩ := (readPart_reads bare).splits ⟨x, rfl, part⟩
        (fun _ => trivial) behind rest
      obtain ⟨t', back, rfl, period, others⟩ := lexemes_eq_cons.1 others
      obtain ⟨e, failed⟩ := fails back rest others
      rw [readArgument]
      simp [found, accept?_cons period, failed]
  | case4 => cases failed

theorem readArguments_stops (bare : Bool) : Stops (readArguments bare) (Arguments bare) := by
  intro ts e failed
  fun_induction readArguments bare ts generalizing e with
  | case1 bare ts e unread =>
    cases failed
    refine (readArgument_stops bare _ _ unread).mono ?_ ?_
    · intro xs goes
      refine goes.extend fun ys argument spelled => ⟨[], [argument], by simp, ?_⟩
      simpa using .one spelled
    · intro xs _ fails front rest whole
      obtain ⟨e, failed⟩ := fails front rest whole
      rw [readArguments]
      simp [failed]
  | case2 => cases failed
  | case3 bare ts argument after lt found more lt' accepted e unread ih =>
    cases failed
    obtain ⟨front, rfl, spelled, -⟩ := (readArgument_reads bare).sound found
    obtain ⟨t, rfl, same, text, zs, continues⟩ := of_acceptContinuation?_eq_some accepted
    obtain ⟨t', more, rfl, quoted, -⟩ := lexemes_eq_cons.1 (List.cons.inj continues).2
    rw [← List.singleton_append, ← List.append_assoc]
    refine (ih e unread).shift (front ++ [t]) ?_ ?_
    · intro xs goes
      refine goes.within ?_
      intro ys others listed
      exact ⟨[], _, by simp, by simpa [same] using .more spelled listed⟩
    · intro xs heads fails both rest whole
      have behind : lexemes both = lexemes front ++ .symbol .comma :: xs := by
        simpa [same] using whole
      obtain ⟨back, _, found, others⟩ := (readArgument_reads bare).splits spelled
        (fun _ => by simp [Lacks]) behind rest
      obtain ⟨comma, back, rfl, same', others⟩ := lexemes_eq_cons.1 others
      obtain ⟨e, failed⟩ := fails back rest others
      obtain ⟨ys, rfl⟩ := eq_cons_of_heads heads
      have going : Continues (lexemes (comma :: (back ++ rest))) :=
        ⟨text, ys ++ lexemes rest, by simp [same', others, quoted]⟩
      rw [readArguments]
      simp only [found, List.cons_append]
      simp [acceptContinuation?_cons going, failed]
  | case4 => cases failed

theorem readKind_stops {ts : List Token} {e : Failure} (failed : readKind ts = .error e) :
    Stop (· = []) (Fails readKind) ts e := by
  unfold readKind at failed
  split at failed
  · cases failed
    exact .here rfl rfl rfl (by simp)
  · rename_i t rest
    split at failed
    · rename_i unnamed
      cases failed
      refine .here (by simp) (by simp) rfl ?_
      intro x mem front rest' whole
      obtain rfl : t.lexeme = x := by simpa using mem
      obtain ⟨t', _, rfl, same, -⟩ := lexemes_eq_cons.1 whole
      simp [readKind, same, unnamed]
    · rename_i keyword named
      split at failed
      · cases failed
      · rename_i unknown
        cases failed
        refine .here rfl rfl rfl ?_
        intro x mem front rest' whole
        obtain rfl : t.lexeme = x := by simpa using mem
        obtain ⟨t', _, rfl, same, -⟩ := lexemes_eq_cons.1 whole
        simp [readKind, same, named, unknown]

theorem group_completable {x : Lexeme} {kind : SourceKind} (names : Names x kind) :
    Completable Group [x] :=
  ⟨[.symbol .colon, .quoted ""], _, by simp [Lexeme.Writable],
    .drawn names (.one (.one .quoted))⟩

theorem readGroup_stops : Stops readGroup Group := by
  have home : Names (.word "home") .home := ⟨"home", by decide, rfl⟩
  intro ts e failed
  unfold readGroup at failed
  split at failed
  · rename_i e unread
    cases failed
    refine (readKind_stops unread).mono ?_ ?_
    · rintro _ rfl
      exact ⟨[.word "home"], _, by simpa [Lexeme.Writable] using (by decide), .alone home rfl⟩
    · intro xs _ fails front rest whole
      obtain ⟨e, failed⟩ := fails front rest whole
      exact ⟨e, by simp [readGroup, failed]⟩
  · rename_i kind keyword rest lt found
    obtain ⟨t, rfl, spelled, known⟩ := of_readKind_eq_ok found
    have names : Names t.lexeme kind := ⟨keyword, known, spelled⟩
    split at failed
    · rename_i more lt' colon
      obtain ⟨t', rfl, same⟩ := of_accept?_eq_some colon
      split at failed
      · rename_i e unread
        cases failed
        refine (readArguments_stops true _ _ unread).shift [t, t'] ?_ ?_
        · intro xs goes
          refine goes.within ?_
          intro ys arguments listed
          exact ⟨[], _, by simp, by simpa [same] using .drawn names listed⟩
        · intro xs _ fails both rest whole
          obtain ⟨u, both, rfl, named, whole⟩ := lexemes_eq_cons.1 whole
          obtain ⟨u', back, rfl, colon, others⟩ := lexemes_eq_cons.1 whole
          obtain ⟨e, failed⟩ := fails back rest others
          have found := readKind_cons (named ▸ spelled) known (u' :: (back ++ rest))
          exact ⟨e, by simp [readGroup, found, accept?_cons (colon.trans same), failed]⟩
      · cases failed
    · rename_i absent
      split at failed
      · rename_i needed
        cases failed
        refine .early [t] rest rfl rfl (group_completable names) ?_ rfl
        intro x mem both rest' whole
        obtain ⟨u, both, rfl, named, whole⟩ := lexemes_eq_cons.1 whole
        obtain ⟨u', back, rfl, same, -⟩ := lexemes_eq_cons.1 whole
        have other : accept? .colon (u' :: (back ++ rest')) = none := by
          rw [accept?_eq_none_iff] at *
          rw [Lacks, lexemes_cons, same, List.head?_cons, ← mem]
          exact absent
        have found := readKind_cons (named ▸ spelled) known (u' :: (back ++ rest'))
        simp [readGroup, found, other, needed]
      · cases failed

theorem EndsBefore.congr {s : Source} {x : Lexeme} {xs ys : List Lexeme}
    (other : x ≠ .symbol .comma) (ends : s.EndsBefore (x :: xs)) : s.EndsBefore (x :: ys) := by
  unfold EndsBefore Lacks at *
  split
  · simpa [*] using ends
  · rename_i drawn
    rw [if_neg drawn] at ends
    refine ⟨by simpa using ends.1, ?_⟩
    rintro ⟨text, zs, whole⟩
    exact other (List.cons.inj whole).1

theorem EndsBefore.congr_comma {s : Source} {xs ys : List Lexeme} (same : xs.head? = ys.head?)
    (ends : s.EndsBefore (.symbol .comma :: xs)) : s.EndsBefore (.symbol .comma :: ys) := by
  unfold EndsBefore at *
  split
  · simp [Lacks]
  · rename_i drawn
    rw [if_neg drawn] at ends
    refine ⟨by simp [Lacks], ?_⟩
    rintro ⟨text, zs, whole⟩
    rw [(List.cons.inj whole).2] at same
    cases xs with
    | nil => cases same
    | cons x xs =>
      obtain rfl : x = .quoted text := by simpa using same
      exact ends.2 ⟨text, xs, rfl⟩

theorem readMany_stops : Stops readMany Spelled := by
  intro ts e failed
  fun_induction readMany ts generalizing e with
  | case1 ts e unread =>
    cases failed
    refine (readGroup_stops _ _ unread).mono ?_ ?_
    · intro xs goes
      exact goes.extend fun ys sources group => ⟨[], sources, by simp, by simpa using .one group⟩
    · intro xs _ fails front rest whole
      obtain ⟨e, failed⟩ := fails front rest whole
      rw [readMany]
      simp [failed]
  | case2 => cases failed
  | case3 ts sources after lt found more lt' accepted e unread ih =>
    cases failed
    obtain ⟨front, rfl, group, ends⟩ := readGroup_reads.sound found
    obtain ⟨t, rfl, same⟩ := of_accept?_eq_some accepted
    rw [← List.singleton_append, ← List.append_assoc]
    refine (ih e unread).shift (front ++ [t]) ?_ ?_
    · intro xs goes
      refine goes.within ?_
      intro ys others spelled
      exact ⟨[], _, by simp, by simpa [same] using .more group spelled⟩
    · intro xs heads fails both rest whole
      have behind : lexemes both = lexemes front ++ .symbol .comma :: xs := by
        simpa [same] using whole
      have apart : ∀ zs, AllEndBefore sources (.symbol .comma :: xs ++ zs) := by
        intro zs s mem
        have last := ends s mem
        rw [lexemes_cons, same] at last
        exact last.congr_comma (heads zs).symm
      obtain ⟨back, _, found, others⟩ := readGroup_reads.splits group apart behind rest
      obtain ⟨comma, back, rfl, same', others⟩ := lexemes_eq_cons.1 others
      obtain ⟨e, failed⟩ := fails back rest others
      rw [readMany]
      simp [found, accept?_cons same', failed]
  | case4 => cases failed

end TimelineFilter.Source
