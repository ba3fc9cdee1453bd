import TimelineFilter.Proofs.Report.Cells
import TimelineFilter.Report.Check
import Mathlib.Data.List.Forall2

namespace TimelineFilter

namespace Text

/-- What stands behind a code that sets styles, given what stands behind its escape character. -/
def afterCode? : List Char → Option (List Char)
  | '[' :: rest =>
    match rest.dropWhile fun c => c.isDigit || c == ';' with
    | 'm' :: after => some after
    | _ => none
  | _ => none

theorem afterCode?_shorter {cs after : List Char} (code : afterCode? cs = some after) :
    after.length < cs.length := by
  unfold afterCode? at code
  split at code
  · rename_i rest
    split at code
    · rename_i found
      cases code
      have shorter := (List.dropWhile_suffix (fun c => c.isDigit || c == ';') (l := rest)).length_le
      rw [found] at shorter
      simp only [List.length_cons] at shorter ⊢
      omega
    · cases code
  · cases code

def withoutCodes (cs : List Char) : List Char :=
  match cs with
  | [] => []
  | c :: rest =>
    if c = '\x1b' then
      match code : afterCode? rest with
      | some after =>
        have := afterCode?_shorter code
        withoutCodes after
      | none => c :: withoutCodes rest
    else c :: withoutCodes rest
termination_by cs.length
decreasing_by all_goals simp only [List.length_cons]; omega

def unstyled (text : String) : String := String.ofList (withoutCodes text.toList)

def EscapeFree (text : String) : Prop := '\x1b' ∉ text.toList

instance (text : String) : Decidable (EscapeFree text) :=
  inferInstanceAs (Decidable ('\x1b' ∉ text.toList))

theorem EscapeFree.append {a b : String} (left : EscapeFree a) (right : EscapeFree b) :
    EscapeFree (a ++ b) := by
  intro mem
  rw [String.toList_append, List.mem_append] at mem
  exact mem.elim left right

theorem EscapeFree.padRight {text : String} (free : EscapeFree text) (width : Nat) :
    EscapeFree (padRight width text) := by
  rw [padRight_eq]
  apply free.append
  rw [EscapeFree, spaces, String.toList_ofList]
  intro mem
  exact absurd (List.mem_replicate.1 mem).2 (by decide)

theorem Printable.escapeFree {text : String} (printable : Printable text) : EscapeFree text := by
  intro mem
  exact absurd (printable _ mem).1 (by decide)

/-- Without codes the one text is the other, whatever follows. -/
def Fades (styled plain : String) : Prop :=
  ∀ rest, withoutCodes (styled.toList ++ rest) = plain.toList ++ withoutCodes rest

-- What follows is part of the relation, so that pieces can be put together one by one.
theorem Fades.append {a a' b b' : String} (left : Fades a a') (right : Fades b b') :
    Fades (a ++ b) (a' ++ b') := by
  intro rest
  rw [String.toList_append, String.toList_append, List.append_assoc, left, right, List.append_assoc]

theorem fades_free {text : String} (free : EscapeFree text) : Fades text text := by
  intro rest
  unfold EscapeFree at free
  generalize text.toList = cs at free
  induction cs with
  | nil => rfl
  | cons c cs ih =>
    have other : c ≠ '\x1b' := fun same => free (same ▸ List.mem_cons_self)
    rw [List.cons_append, withoutCodes, if_neg other,
      ih fun mem => free (List.mem_cons_of_mem _ mem), List.cons_append]

theorem Fades.plain {a a' b : String} (fades : Fades a a') (free : EscapeFree b) :
    Fades (a ++ b) (a' ++ b) :=
  fades.append (fades_free free)

theorem Fades.line {a a' label b : String} (fades : Fades a a') (freeLabel : EscapeFree label)
    (free : EscapeFree b) : Fades (a ++ label ++ b ++ "\n") (a' ++ label ++ b ++ "\n") :=
  ((fades.plain freeLabel).plain free).plain (by decide)

theorem withoutCodes_code {cs after : List Char} (code : afterCode? cs = some after) :
    withoutCodes ('\x1b' :: cs) = withoutCodes after := by
  rw [withoutCodes, if_pos rfl]
  split
  · rename_i found
    cases code.symm.trans found
    rfl
  · rename_i none
    cases code.symm.trans none

def styleCode (number : String) : String := "\x1b[" ++ number ++ "m"

theorem fades_styleCode {number : String} (digits : number.toList.all Char.isDigit = true) :
    Fades (styleCode number) "" := by
  intro rest
  have found : afterCode? ('[' :: (number.toList ++ 'm' :: rest)) = some rest := by
    have behind : (number.toList ++ 'm' :: rest).dropWhile (fun c => c.isDigit || c == ';') =
        'm' :: rest := by
      apply (span_run _ _).2
      · intro c mem
        rw [List.all_eq_true.1 digits c mem, Bool.true_or]
      · intro c mem
        cases mem
        rfl
    rw [afterCode?, behind]
    rfl
  have whole := withoutCodes_code found
  simpa [styleCode] using whole

theorem Fades.unstyled {styled plain : String} (fades : Fades styled plain) :
    unstyled styled = plain := by
  have whole := fades []
  rw [List.append_nil, withoutCodes, List.append_nil] at whole
  rw [Text.unstyled, whole, String.ofList_toList]

example : unstyled "\x1b[1;31mred\x1b[m [0m" = "red [0m" := by decide +kernel

end Text

namespace Report

open Text

def Style.numbers : Style → List String × List String
  | .dimmed => (["2"], ["0"])
  | .cyan => (["36"], ["39"])
  | .magenta => (["35"], ["39"])
  | .boldGreen => (["1", "32"], ["39", "0"])
  | .boldRed => (["1", "31"], ["39", "0"])

theorem Style.codes_eq (style : Style) : style.codes =
    (String.join (style.numbers.1.map styleCode), String.join (style.numbers.2.map styleCode)) := by
  cases style <;> decide +kernel

theorem fades_join {numbers : List String}
    (digits : ∀ n ∈ numbers, n.toList.all Char.isDigit = true) :
    Fades (String.join (numbers.map styleCode)) "" := by
  induction numbers with
  | nil => exact fades_free (by decide)
  | cons n numbers ih =>
    rw [List.map_cons, String.join_cons]
    exact (fades_styleCode (digits n List.mem_cons_self)).append
      (ih fun other mem => digits other (List.mem_cons_of_mem _ mem))

theorem fades_codes (style : Style) : Fades style.codes.1 "" ∧ Fades style.codes.2 "" := by
  rw [Style.codes_eq]
  constructor
  all_goals
    apply fades_join
    cases style <;> decide

theorem fades_paint (style : Style) {text : String} (free : EscapeFree text) :
    Fades (paint true style text) (paint false style text) := by
  obtain ⟨front, behind⟩ := fades_codes style
  have between := (front.plain free).append behind
  simpa [paint] using between

theorem fades_lines {styled plain : List String} (each : List.Forall₂ Fades styled plain) :
    Fades (lines styled) (lines plain) := by
  induction each with
  | nil => exact fades_free (by decide)
  | cons first _ ih =>
    rw [lines_cons, lines_cons]
    exact (first.plain (by decide : EscapeFree "\n")).append ih

theorem fades_row {id age user user' text text' : String} (freeId : EscapeFree id)
    (freeAge : EscapeFree age) (users : Fades user user') (texts : Fades text text') :
    Fades (row id age user text) (row id age user' text') := by
  have space : EscapeFree " " := by decide
  have ids := (fades_free (freeId.padRight 20)).plain space
  have ages := (ids.plain (freeAge.padRight 6)).plain space
  exact ((ages.append users).plain space).append texts

theorem fades_header : Fades (header true) (header false) :=
  fades_paint .dimmed (by decide +kernel)

def shownStrings (t : Status) : List String := shownText t :: shownNames t

variable {t : Status} (free : ∀ s ∈ shownStrings t, EscapeFree s)

include free

theorem fades_statusText : Fades (statusText true t) (statusText false t) := by
  have mark : Fades (if t.post.isDirectMessage then paint true .magenta "DM" ++ " " else "")
      (if t.post.isDirectMessage then paint false .magenta "DM" ++ " " else "") := by
    split
    · exact (fades_paint .magenta (by decide)).plain (by decide)
    · exact fades_free (by decide)
  have text : EscapeFree (shownText t) := free _ List.mem_cons_self
  refine (mark.plain text).append ?_
  cases repeats : t.retweeter? with
  | none => exact fades_free (by decide)
  | some u =>
    have name : EscapeFree u.screenName := free _ (by simp [shownStrings, shownNames, repeats])
    have front : EscapeFree " (RT by @" := by decide
    exact fades_free ((front.append name).append (by decide))

theorem fades_statusRow (now : Instant) : Fades (statusRow true now t) (statusRow false now t) := by
  have id := (printable_decimal t.post.id.toInt).escapeFree
  have since := (printable_age t.post.createdAt now).escapeFree
  have name : EscapeFree (truncate 16 t.author.screenName) :=
    free _ (by simp [shownStrings, shownNames])
  have sign : EscapeFree "@" := by decide
  exact fades_row id since (fades_paint .cyan ((sign.append name).padRight 18))
    (fades_statusText free)

omit free

theorem fades_statusTable (now : Instant) {shown : List Status}
    (free : ∀ t ∈ shown, ∀ s ∈ shownStrings t, EscapeFree s) :
    Fades (statusTable true now shown) (statusTable false now shown) := by
  cases shown with
  | nil => exact fades_free (by decide : EscapeFree "No matching statuses.\n")
  | cons t others =>
    rw [statusTable_cons, statusTable_cons]
    apply fades_lines
    refine .cons fades_header ?_
    rw [List.forall₂_map_left_iff, List.forall₂_map_right_iff, List.forall₂_same]
    exact fun t' mem => fades_statusRow (free t' mem) now

namespace Check

def shownStrings (c : Check) : List String :=
  [c.query.render, Source.renderAll c.query.sources, c.query.root.render]
    ++ (c.problem.map Failure.message).toList

end Check

theorem fades_checkTable {c : Check} (free : ∀ s ∈ c.shownStrings, EscapeFree s) :
    Fades (checkTable true c) (checkTable false c) := by
  obtain ⟨q, problem⟩ := c
  have query : EscapeFree q.render := free _ (by simp [Check.shownStrings])
  have sources : EscapeFree (Source.renderAll q.sources) := free _ (by simp [Check.shownStrings])
  have predicate : EscapeFree q.root.render := free _ (by simp [Check.shownStrings])
  have below {verdict verdict' : String} (fades : Fades verdict verdict') :=
    (((fades.plain (by decide : EscapeFree "\n\n")).line
      (by decide : EscapeFree "Query:     ") query).line
      (by decide : EscapeFree "Sources:   ") sources).line
      (by decide : EscapeFree "Predicate: ") predicate
  cases problem with
  | none => exact (below (fades_paint .boldGreen (by decide))).plain (by decide : EscapeFree "")
  | some f =>
    have message : EscapeFree f.message := free _ (by simp [Check.shownStrings])
    have ending : EscapeFree "\n" := by decide
    exact (below (fades_paint .boldRed (by decide))).plain ((ending.append message).append ending)

/-- The codes of the styles are all that colours add to a table: of statuses at any time, and of a
query with or without a problem. -/
theorem unstyled_tables :
    (∀ now shown, (∀ t ∈ shown, ∀ s ∈ shownStrings t, EscapeFree s) →
      unstyled (statusTable true now shown) = statusTable false now shown) ∧
    ∀ c : Check, (∀ s ∈ c.shownStrings, EscapeFree s) →
      unstyled (checkTable true c) = checkTable false c :=
  ⟨fun now _ free => (fades_statusTable now free).unstyled,
    fun _ free => (fades_checkTable free).unstyled⟩

/-- A direct message that repeats another status, and a query that is no condition. -/
theorem unstyled_tables_message :
    let now : Instant := .ofNanoseconds 0
    let message : Status := .retweet
      { Post.basic 3 (.basic 4 "bob") "" with isDirectMessage := true }
      (.plain (.basic 1 (.basic 2 "seventeen_letters") "psst\n[0m"))
    let check : Check := ⟨⟨[.implied], .value (.text "[1m")⟩,
      some (.inTree (.wrongType .boolean .text))⟩
    (∀ t ∈ [message], ∀ s ∈ shownStrings t, EscapeFree s) ∧
      (∀ s ∈ check.shownStrings, EscapeFree s) ∧
      unstyled (statusTable true now [message]) = statusTable false now [message] ∧
      unstyled (checkTable true check) = checkTable false check := by
  intro now message check
  have free : ∀ t ∈ [message], ∀ s ∈ shownStrings t, EscapeFree s := by decide +kernel
  have free' : ∀ s ∈ check.shownStrings, EscapeFree s := by decide +kernel
  exact ⟨free, free', unstyled_tables.1 now [message] free, unstyled_tables.2 check free'⟩

end Report

end TimelineFilter
