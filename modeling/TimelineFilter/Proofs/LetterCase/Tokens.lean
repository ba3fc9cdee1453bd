import TimelineFilter.Proofs.LetterCase.Texts
import TimelineFilter.Proofs.Slices

namespace TimelineFilter

/-- The byte belongs to one of the bare words. -/
def WordAt (ts : List Token) (place : Nat) : Prop :=
  ∃ t ∈ ts, ∃ word, t.lexeme = .word word ∧ t.position ≤ place ∧
    place < t.position + byteLength word.toList

/-- The characters from byte `place` on and the same with other cases of ASCII letters, each of them
at a byte where that is allowed. -/
inductive RecasedFrom (allowed : Nat → Prop) : Nat → List Char → List Char → Prop
  | nil {place : Nat} : RecasedFrom allowed place [] []
  | kept {place : Nat} {c : Char} {cs ds : List Char}
      (rest : RecasedFrom allowed (place + c.utf8Size) cs ds) :
      RecasedFrom allowed place (c :: cs) (c :: ds)
  | changed {place : Nat} {c d : Char} {cs ds : List Char} (inside : allowed place)
      (same : c.toLower = d.toLower) (rest : RecasedFrom allowed (place + c.utf8Size) cs ds) :
      RecasedFrom allowed place (c :: cs) (d :: ds)

/-- The second text is the first with other cases of ASCII letters in its bare words. -/
def Recased (text text' : String) : Prop :=
  RecasedFrom (WordAt (scan false text).tokens) 0 text.toList text'.toList

inductive Lexeme.Recased : Lexeme → Lexeme → Prop
  | word {text text' : String} (same : Text.sameIgnoringCase text text' = true) :
      Recased (.word text) (.word text')
  | quoted {text : String} : Recased (.quoted text) (.quoted text)
  | symbol {s : Symbol} : Recased (.symbol s) (.symbol s)

namespace RecasedFrom

variable {allowed : Nat → Prop} {place : Nat} {cs ds : List Char}

theorem same_letters (recased : RecasedFrom allowed place cs ds) :
    cs.map Char.toLower = ds.map Char.toLower := by
  induction recased with
  | nil => rfl
  | kept _ ih => rw [List.map_cons, List.map_cons, ih]
  | changed _ same _ ih => rw [List.map_cons, List.map_cons, same, ih]

theorem split (front : List Char) {back : List Char}
    (recased : RecasedFrom allowed place (front ++ back) ds) :
    ∃ front' back', ds = front' ++ back' ∧ RecasedFrom allowed place front front' ∧
      RecasedFrom allowed (place + byteLength front) back back' := by
  induction front generalizing place ds with
  | nil => exact ⟨[], ds, rfl, .nil, recased⟩
  | cons c front ih =>
    cases recased with
    | kept rest =>
      obtain ⟨front', back', rfl, first, second⟩ := ih rest
      rw [Nat.add_assoc] at second
      exact ⟨c :: front', back', rfl, .kept first, second⟩
    | @changed _ _ d _ _ inside same rest =>
      obtain ⟨front', back', rfl, first, second⟩ := ih rest
      rw [Nat.add_assoc] at second
      exact ⟨d :: front', back', rfl, .changed inside same first, second⟩

theorem uncons {c : Char} (recased : RecasedFrom allowed place (c :: cs) ds) :
    ∃ d ds', ds = d :: ds' ∧ c.toLower = d.toLower ∧
      RecasedFrom allowed (place + c.utf8Size) cs ds' := by
  cases recased with
  | kept rest => exact ⟨c, _, rfl, rfl, rest⟩
  | changed _ same rest => exact ⟨_, _, rfl, same, rest⟩

theorem eq_of_not_allowed (recased : RecasedFrom allowed place cs ds)
    (outside : ∀ p, place ≤ p → p < place + byteLength cs → ¬ allowed p) : ds = cs := by
  induction recased with
  | nil => rfl
  | @kept place c cs ds rest ih =>
    rw [ih fun p low high => outside p (by omega) (by simp only [byteLength]; omega)]
  | @changed place c d cs ds inside same rest ih =>
    have size := c.utf8Size_pos
    exact absurd inside (outside place (Nat.le_refl _) (by simp only [byteLength]; omega))

end RecasedFrom

/-- A symbol is told from a longer one by the character behind it, whose case does not matter. -/
theorem Symbol.read?_recased {c : Char} {rest after : List Char} {s : Symbol}
    (read : Symbol.read? c rest = some (s, after)) :
    ∃ taken, rest = taken ++ after ∧ ∀ after',
      after.map Char.toLower = after'.map Char.toLower →
        Symbol.read? c (taken ++ after') = some (s, after') := by
  unfold Symbol.read? at read
  split at read
  all_goals cases read
  all_goals first
    | exact ⟨[], rfl, fun _ _ => rfl⟩
    | exact ⟨[_], rfl, fun _ _ => rfl⟩
    | refine ⟨[], rfl, ?_⟩
      rintro (_ | ⟨d, after'⟩) same
      · rfl
      · obtain ⟨e, after, rfl, first, -⟩ := List.map_eq_cons_iff.1 same
        have other : ∀ k : Char, k.isAlpha = false → e ≠ k → d ≠ k := by
          rintro k plain apart rfl
          exact apart (Text.eq_of_toLower_eq plain first.symm)
        simp_all [Symbol.read?]

variable {c d : Char} {taken taken' after after' : List Char} {x : Lexeme}

theorem Takes.kept (takes : Takes false c (taken ++ after) x after) (other : ∀ word, x ≠ .word word)
    (same : after.map Char.toLower = after'.map Char.toLower) :
    Takes false c (taken ++ after') x after' := by
  generalize whole : taken ++ after = rest at takes
  cases takes with
  | quoted closed =>
    obtain ⟨e, tail, split, again⟩ := unquote_cut closed
    rw [List.append_cancel_right (whole.trans split)]
    exact .quoted (again after')
  | unclosed _ leniently => cases leniently
  | symbol apart read =>
    obtain ⟨taken', split, again⟩ := Symbol.read?_recased read
    rw [List.append_cancel_right (whole.trans split)]
    exact .symbol apart (again after' same)
  | word => exact absurd rfl (other _)

theorem Takes.of_word {word : String} (solid : isTokenBlank c = false)
    (takes : Takes false c (taken ++ after) (.word word) after) :
    word.toList = c :: taken ∧ (∀ e ∈ c :: taken, isDelimiter e = false) ∧
      ∀ e ∈ after.head?, isDelimiter e = true := by
  generalize whole : taken ++ after = rest at takes
  cases takes with
  | word apart unread =>
    have split : taken ++ _ = rest.takeWhile (!isDelimiter ·) ++ _ :=
      whole.trans List.takeWhile_append_dropWhile.symm
    rw [List.append_cancel_right split, String.toList_ofList]
    refine ⟨rfl, ?_, ?_⟩
    · exact List.forall_mem_cons.2 ⟨plain_of_unread solid apart unread, plain_of_takeWhile⟩
    · intro e first
      have stopped := List.head?_dropWhile_not (!isDelimiter ·) rest
      simpa [Option.mem_def.1 first] using stopped

theorem takes_word (plain : ∀ e ∈ c :: taken, isDelimiter e = false)
    (free : ∀ e ∈ after.head?, isDelimiter e = true) :
    Takes false c (taken ++ after) (.word (String.ofList (c :: taken))) after := by
  obtain ⟨first, others⟩ := List.forall_mem_cons.1 plain
  obtain ⟨front, back⟩ := span_plain after others free
  have apart : c ≠ '"' := by
    rintro rfl
    exact absurd first (by decide)
  have whole : Takes false c (taken ++ after) _ _ := .word apart (Symbol.read?_plain first _)
  rwa [front, back] at whole

theorem Takes.recased {allowed : Nat → Prop} {place : Nat} {front : List Char}
    (solid : isTokenBlank c = false) (takes : Takes false c (taken ++ after) x after)
    (first : RecasedFrom allowed place (c :: taken) front)
    (behind : after.map Char.toLower = after'.map Char.toLower)
    (outside : (∀ word, x ≠ .word word) →
      ∀ p, place ≤ p → p < place + byteLength (c :: taken) → ¬ allowed p) :
    ∃ d taken' y, front = d :: taken' ∧ isTokenBlank d = false ∧ x.Recased y ∧
      Takes false d (taken' ++ after') y after' := by
  cases x with
  | word word =>
    obtain ⟨letters, plain, free⟩ := takes.of_word solid
    obtain ⟨d, taken', rfl, same, rest⟩ := List.map_eq_cons_iff.1 first.same_letters.symm
    have plain' : ∀ e ∈ d :: taken', isDelimiter e = false := by
      intro e mem
      have mem' := List.mem_map_of_mem (f := Char.toLower) mem
      rw [← first.same_letters] at mem'
      obtain ⟨e', inside, letter⟩ := List.mem_map.1 mem'
      rw [← Text.isDelimiter_congr letter, plain e' inside]
    have free' : ∀ e ∈ after'.head?, isDelimiter e = true := by
      intro e mem
      obtain ⟨more, rfl⟩ := List.head?_eq_some_iff.1 mem
      obtain ⟨e', more', rfl, letter, -⟩ := List.map_eq_cons_iff.1 behind
      rw [← Text.isDelimiter_congr letter, free e' rfl]
    refine ⟨d, taken', _, rfl, isTokenBlank_of_plain (plain' d List.mem_cons_self), .word ?_,
      takes_word plain' free'⟩
    rw [Text.sameIgnoringCase_iff, letters, String.toList_ofList, first.same_letters]
  | quoted text =>
    have other : ∀ word, Lexeme.quoted text ≠ .word word := by simp
    exact ⟨c, taken, _, first.eq_of_not_allowed (outside other), solid, .quoted,
      takes.kept other behind⟩
  | symbol s =>
    have other : ∀ word, Lexeme.symbol s ≠ .word word := by simp
    exact ⟨c, taken, _, first.eq_of_not_allowed (outside other), solid, .symbol,
      takes.kept other behind⟩

theorem spells_takes {xs : List Lexeme} (solid : isTokenBlank c = false)
    (takes : Takes false c (taken ++ after) x after) (spelled : Spells after xs) :
    Spells (c :: (taken ++ after)) (x :: xs) := by
  intro position
  rw [scanFrom_takes solid takes]
  obtain ⟨same, closed⟩ := spelled (position + byteLength (c :: taken))
  exact ⟨congrArg (x :: ·) same, closed⟩

theorem scanFrom_behind (place : Nat) (cs : List Char) :
    ∀ t ∈ (scanFrom false place cs).tokens, place ≤ t.position := by
  intro t mem
  obtain ⟨lead, rest, -, -, sliced⟩ := scanFrom_sliced false place cs
  have item : (⟨t.position, .lexeme t.lexeme⟩ : Item) ∈ (scanFrom false place cs).items :=
    List.mem_append_left _ (List.mem_map_of_mem mem)
  have behind := sliced.ascending.1 _ item
  dsimp only at behind
  omega

theorem scanFrom_recased {allowed : Nat → Prop} (place : Nat) (cs : List Char)
    (closed : (scanFrom false place cs).unclosed = none)
    (inside : ∀ p, place ≤ p → allowed p → WordAt (scanFrom false place cs).tokens p)
    {ds : List Char} (recased : RecasedFrom allowed place cs ds) :
    ∃ ys, Spells ds ys ∧
      List.Forall₂ Lexeme.Recased (lexemes (scanFrom false place cs).tokens) ys := by
  fun_induction scanFrom false place cs generalizing ds with
  | case1 =>
    cases recased
    exact ⟨[], spells_nil, .nil⟩
  | case2 place c rest blank ih =>
    obtain ⟨d, ds, rfl, same, behind⟩ := recased.uncons
    obtain ⟨ys, spelled, alike⟩ := ih closed (fun p low => inside p (by omega)) behind
    exact ⟨ys, spells_blank (Text.isTokenBlank_congr same ▸ blank) spelled, alike⟩
  | case3 => cases closed
  | case4 place c rest solid x after shorter found used ih =>
    have solid : isTokenBlank c = false := by simpa using solid
    have takes := takes_of_step found
    obtain ⟨taken, rfl, -⟩ := takes.cut
    have length : used = byteLength (c :: taken) := byteLength_used c taken after
    obtain ⟨front, after', rfl, first, behind⟩ := recased.split (c :: taken)
    rw [← length] at behind
    -- Of the bytes that may change, those of a word belong to its own token and no others do.
    have inside' : ∀ p, place + used ≤ p → allowed p →
        WordAt (scanFrom false (place + used) after).tokens p := by
      intro p low allow
      obtain ⟨t, mem, word, same, within⟩ := inside p (by omega) allow
      rcases List.mem_cons.1 mem with rfl | mem
      · dsimp only at same within
        subst same
        rw [(takes.of_word solid).1] at within
        omega
      · exact ⟨t, mem, word, same, within⟩
    have outside : (∀ word, x ≠ .word word) →
        ∀ p, place ≤ p → p < place + byteLength (c :: taken) → ¬ allowed p := by
      intro other p low high allow
      obtain ⟨t, mem, word, same, within⟩ := inside p low allow
      rcases List.mem_cons.1 mem with rfl | mem
      · exact other word same
      · have later := scanFrom_behind (place + used) after t mem
        omega
    obtain ⟨d, taken', y, rfl, solid', alike, takes'⟩ :=
      takes.recased solid first behind.same_letters outside
    obtain ⟨ys, spelled, others⟩ := ih closed inside' behind
    exact ⟨y :: ys, spells_takes solid' takes' spelled, .cons alike others⟩

theorem Recased.lexemes {text text' : String} (closed : (scan false text).unclosed = none)
    (recased : Recased text text') :
    (scan false text').unclosed = none ∧
      List.Forall₂ Lexeme.Recased (lexemes (scan false text).tokens)
        (TimelineFilter.lexemes (scan false text').tokens) := by
  obtain ⟨ys, spelled, alike⟩ :=
    scanFrom_recased 0 text.toList closed (fun _ _ inside => inside) recased
  obtain ⟨rfl, closed'⟩ := spelled 0
  exact ⟨closed', alike⟩

end TimelineFilter
