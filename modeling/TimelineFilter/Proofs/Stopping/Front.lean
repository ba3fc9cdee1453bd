import TimelineFilter.Proofs.Grammar.Front

/-! Where a reader stops when it fails. The lexemes in front of that place can still be completed,
and no lexemes go on behind the next one. Two problems are reported one token late, behind the name
that causes them. -/
namespace TimelineFilter

/-- The unknown name behind which a problem is reported. Every other problem is reported in front
of the token that causes it. -/
def Problem.lateName? : Problem → Option String
  | .unknownUserField name _ | .unknownRelation name => some name
  | _ => none

def Fails {β : List Token → Type} (read : (ts : List Token) → Except Failure (β ts))
    (xs : List Lexeme) : Prop :=
  ∀ front rest, lexemes front = xs → ∃ e, read (front ++ rest) = .error e

/-- Lexemes that some text can add make a sentence. -/
def Completable {α : Type} (spells : List Lexeme → α → Prop) (xs : List Lexeme) : Prop :=
  ∃ more a, (∀ x ∈ more, x.Writable) ∧ spells (xs ++ more) a

theorem Completable.within {α β : Type} {spells : List Lexeme → α → Prop}
    {spells' : List Lexeme → β → Prop} {pre xs : List Lexeme} (completable : Completable spells xs)
    (within : ∀ ys a, spells ys a → ∃ post b, (∀ x ∈ post, x.Writable) ∧
      spells' (pre ++ ys ++ post) b) : Completable spells' (pre ++ xs) := by
  obtain ⟨more, a, writable, spelled⟩ := completable
  obtain ⟨post, b, writable', spelled'⟩ := within _ _ spelled
  refine ⟨more ++ post, b, ?_, by simpa using spelled'⟩
  intro x mem
  rcases List.mem_append.1 mem with mem | mem
  · exact writable x mem
  · exact writable' x mem

theorem Completable.extend {α β : Type} {spells : List Lexeme → α → Prop}
    {spells' : List Lexeme → β → Prop} {xs : List Lexeme} (completable : Completable spells xs)
    (extend : ∀ ys a, spells ys a → ∃ post b, (∀ x ∈ post, x.Writable) ∧
      spells' (ys ++ post) b) : Completable spells' xs :=
  show Completable spells' ([] ++ xs) from completable.within extend

/-- The place at which a failure says that reading stopped. `going` are the beginnings that can be
completed and `stuck` those that cannot. -/
inductive Stop (going stuck : List Lexeme → Prop) (ts : List Token) (e : Failure) : Prop
  | early (front rest : List Token) (problem : e.problem.lateName? = none)
      (split : ts = front ++ rest) (goes : going (lexemes front))
      (sticks : ∀ x ∈ (lexemes rest).head?, stuck (lexemes front ++ [x]))
      (remaining : e.remaining = Token.renderAll rest)
  | late (front rest : List Token) {t : Token} {name : String}
      (problem : e.problem.lateName? = some name) (split : ts = front ++ t :: rest)
      (named : t.lexeme = .word name) (goes : going (lexemes front))
      (sticks : stuck (lexemes front ++ [t.lexeme]))
      (remaining : e.remaining = Token.renderAll rest)

theorem eq_cons_of_heads {x : Lexeme} {xs ys : List Lexeme}
    (heads : ∀ zs, (xs ++ zs).head? = (x :: ys).head?) : ∃ rest, xs = x :: rest := by
  have first := heads []
  rw [List.append_nil] at first
  exact List.head?_eq_some_iff.1 first

/-- Every failure of a reader tells where the reader had to stop. -/
def Stops {α : Type} {β : List Token → Type} (read : (ts : List Token) → Except Failure (β ts))
    (spells : List Lexeme → α → Prop) : Prop :=
  ∀ ts e, read ts = .error e → Stop (Completable spells) (Fails read) ts e

section

variable {going going' stuck stuck' : List Lexeme → Prop} {ts rest : List Token}
  {e : Failure}

theorem Stop.here (problem : e.problem.lateName? = none)
    (remaining : e.remaining = Token.renderAll ts) (goes : going [])
    (sticks : ∀ x ∈ (lexemes ts).head?, stuck [x]) : Stop going stuck ts e :=
  .early [] ts problem rfl goes sticks remaining

theorem head?_of_split {xs ys : List Lexeme} {x : Lexeme} (mem : x ∈ ys.head?)
    (zs : List Lexeme) : (xs ++ [x] ++ zs).head? = (xs ++ ys).head? := by
  cases ys with
  | nil => cases mem
  | cons y ys =>
    obtain rfl : y = x := by simpa using mem
    cases xs <;> rfl

theorem Stop.shift (front : List Token) (stop : Stop going stuck rest e)
    (goes : ∀ xs, going xs → going' (lexemes front ++ xs))
    (sticks : ∀ xs, (∀ zs, (xs ++ zs).head? = (lexemes rest).head?) → stuck xs →
      stuck' (lexemes front ++ xs)) :
    Stop going' stuck' (front ++ rest) e := by
  cases stop with
  | early read left problem split going last remaining =>
    refine .early (front ++ read) left problem (by simp [split]) ?_ ?_ remaining
    · rw [lexemes_append]
      exact goes _ going
    · intro x mem
      rw [lexemes_append, List.append_assoc]
      refine sticks _ ?_ (last x mem)
      intro zs
      rw [split, lexemes_append]
      exact head?_of_split mem zs
  | @late read left t name problem split named going last remaining =>
    refine .late (front ++ read) left problem (by simp [split]) named ?_ ?_ remaining
    · rw [lexemes_append]
      exact goes _ going
    · rw [lexemes_append, List.append_assoc]
      refine sticks _ ?_ last
      intro zs
      rw [split, lexemes_append]
      exact head?_of_split (by simp) zs

theorem Stop.mono (stop : Stop going stuck ts e) (goes : ∀ xs, going xs → going' xs)
    (sticks : ∀ xs, (∀ zs, (xs ++ zs).head? = (lexemes ts).head?) → stuck xs → stuck' xs) :
    Stop going' stuck' ts e :=
  stop.shift [] goes sticks

end

@[simp] theorem wanted_remaining (what : Expectation) (ts : List Token) :
    (Failure.wanted what ts).remaining = Token.renderAll ts := by
  cases ts <;> rfl

@[simp] theorem wanted_lateName? (what : Expectation) (ts : List Token) :
    (Failure.wanted what ts).problem.lateName? = none := by
  cases ts <;> rfl

@[simp] theorem misplaced_remaining (t : Token) (rest : List Token) :
    (Failure.misplaced t rest).remaining = Token.renderAll (t :: rest) := rfl

@[simp] theorem misplaced_lateName? (t : Token) (rest : List Token) :
    (Failure.misplaced t rest).problem.lateName? = none := by
  unfold Failure.misplaced Failure.before
  split <;> rfl

theorem expect_fails {s : Symbol} {x : Lexeme} (other : x ≠ .symbol s) : Fails (expect s) [x] := by
  intro front rest same
  obtain ⟨t, _, rfl, rfl, empty⟩ := lexemes_eq_cons.1 same
  obtain rfl := lexemes_eq_nil.1 empty
  simp [expect, accept?, other]

section

variable {α : Type} {P : List Token → List Token → Prop}
  {read : (ts : List Token) → Except Failure (α × {rest : List Token // P ts rest})}
  {spells : List Lexeme → α → Prop} {ends : α → List Lexeme → Prop}

theorem Reads.fails (reads : Reads read spells ends) {x : Lexeme}
    (other : ∀ ys a, spells ys a → ∃ y zs, ys = y :: zs ∧ y ≠ x) : Fails read [x] := by
  intro front rest same
  cases result : read (front ++ rest) with
  | error e => exact ⟨e, rfl⟩
  | ok found =>
    obtain ⟨a, after, fits⟩ := found
    obtain ⟨taken, split, spelled, -⟩ := reads.sound result
    obtain ⟨y, zs, whole, apart⟩ := other _ _ spelled
    have agree := congrArg lexemes split
    rw [lexemes_append, lexemes_append, same, whole] at agree
    exact absurd (List.cons.inj agree).1.symm apart

theorem Reads.splits (reads : Reads read spells ends) {xs ys : List Lexeme} {a : α}
    (spelled : spells ys a) (ended : ∀ zs, ends a (xs ++ zs)) {both : List Token}
    (whole : lexemes both = ys ++ xs) (rest : List Token) :
    ∃ back fits, read (both ++ rest) = .ok (a, ⟨back ++ rest, fits⟩) ∧ lexemes back = xs := by
  obtain ⟨first, second, rfl, rfl, same⟩ := lexemes_eq_append.1 whole
  have ends : ends a (lexemes (second ++ rest)) := by
    rw [lexemes_append, same]
    exact ended _
  obtain ⟨fits, found⟩ := reads.complete (second ++ rest) spelled ends
  rw [List.append_assoc]
  exact ⟨second, fits, found, same⟩

theorem Reads.then_fails (reads : Reads read spells ends) {β : List Token → Type}
    {next : (ts : List Token) → Except Failure (β ts)} {xs ys : List Lexeme} {a : α}
    (fails : Fails next xs) (spelled : spells ys a) (ended : ∀ zs, ends a (xs ++ zs))
    {both : List Token} (whole : lexemes both = ys ++ xs) (rest : List Token) :
    ∃ more fits e, read (both ++ rest) = .ok (a, ⟨more, fits⟩) ∧ next more = .error e := by
  obtain ⟨back, fits, found, same⟩ := reads.splits spelled ended whole rest
  obtain ⟨e, failed⟩ := fails back rest same
  exact ⟨_, fits, e, found, failed⟩

end

theorem expectWord_fails {x : Lexeme} (other : ∀ text, x ≠ .word text) :
    Fails expectWord [x] := by
  refine expectWord_reads.fails ?_
  rintro _ text rfl
  exact ⟨_, [], rfl, (other text).symm⟩

theorem expectName_fails {x : Lexeme} (other : x.name? = none) : Fails expectName [x] := by
  refine expectName_reads.fails ?_
  rintro _ text ⟨y, rfl, names⟩
  refine ⟨y, [], rfl, ?_⟩
  rintro rfl
  rw [other] at names
  cases names

theorem expect_stops {s : Symbol} {ts : List Token} {e : Failure}
    (failed : expect s ts = .error e) : Stop (· = []) (Fails (expect s)) ts e := by
  unfold expect at failed
  split at failed
  · cases failed
  · rename_i absent
    cases failed
    refine .here (by simp) (by simp) rfl ?_
    intro x mem
    refine expect_fails ?_
    rintro rfl
    exact accept?_eq_none_iff.1 absent mem

theorem expectWord_stops {ts : List Token} {e : Failure} (failed : expectWord ts = .error e) :
    Stop (· = []) (Fails expectWord) ts e := by
  unfold expectWord at failed
  split at failed
  · cases failed
    exact .here rfl rfl rfl (by simp)
  · rename_i t rest
    split at failed
    · cases failed
    · rename_i other
      cases failed
      refine .here (by simp) (by simp) rfl ?_
      intro x mem
      obtain rfl : t.lexeme = x := by simpa using mem
      exact expectWord_fails other

theorem expectName_stops {ts : List Token} {e : Failure} (failed : expectName ts = .error e) :
    Stop (· = []) (Fails expectName) ts e := by
  unfold expectName at failed
  split at failed
  · cases failed
    exact .here rfl rfl rfl (by simp)
  · rename_i t rest
    split at failed
    · cases failed
    · cases failed
    · rename_i notWord notQuoted
      cases failed
      refine .here (by simp) (by simp) rfl ?_
      intro x mem
      obtain rfl : t.lexeme = x := by simpa using mem
      refine expectName_fails ?_
      cases same : t.lexeme with
      | word text => exact absurd same (notWord text)
      | quoted text => exact absurd same (notQuoted text)
      | symbol s => rfl

end TimelineFilter
