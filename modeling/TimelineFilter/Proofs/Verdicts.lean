import TimelineFilter.Command
import TimelineFilter.Proofs.FirstFault
import TimelineFilter.Proofs.Json.Trees
import TimelineFilter.Proofs.Settings.Changes
import TimelineFilter.Standalone
import Mathlib

/-! Whether a query can be used, as the commands that are given one decide it. The verdict is the
same whether the query is only checked or is tried on a snapshot, and no snapshot has a part in
it. -/
namespace TimelineFilter

namespace Report

/-- The text is one JSON object in which this name has this value and no other. -/
def Says (text name : String) (b : Bool) : Prop :=
  ∃ members, Json.Reading.ofText text = (.object members none, false) ∧
    ∀ r, (.ok name, r) ∈ members ↔ r = .bool b

theorem not_says_empty (name : String) (b : Bool) : ¬ Says "" name b := by
  rintro ⟨members, read, -⟩
  simp [Json.Reading.ofText, Json.pieces] at read

theorem says_line_iff {members : List (String × Json)} (plain : Json.Plain (.object members))
    (name : String) (b : Bool) :
    Says ((Json.object members).indented ++ "\n") name b ↔
      ∀ r, (.ok name, r) ∈ Json.memberReadings members ↔ r = .bool b := by
  have read := Json.Reading.ofText_line plain
  constructor
  · rintro ⟨members', found, only⟩
    cases read.symm.trans found
    exact only
  · exact fun only => ⟨_, read, only⟩

theorem plain_sources (sources : List Source) : Json.PlainItems (sources.map sourceJson) := by
  have plain_texts (ts : List String) : Json.PlainItems (ts.map .text) := by
    induction ts with
    | nil => trivial
    | cons t ts ih => exact ⟨trivial, ih⟩
  induction sources with
  | nil => trivial
  | cons source sources ih => exact ⟨⟨trivial, plain_texts _, trivial⟩, ih⟩

theorem says_checkJson (c : Check) (b : Bool) :
    Says ((checkJson c).indented ++ "\n") "valid" b ↔ c.problem.isNone = b := by
  have sources := plain_sources c.query.sources
  obtain ⟨q, problem⟩ := c
  have only (valid : Bool) :
      (∀ r, r = Json.Reading.bool valid ↔ r = .bool b) ↔ valid = b := by
    constructor
    · intro same
      exact Json.Reading.bool.inj ((same _).1 rfl)
    · rintro rfl r
      exact Iff.rfl
  cases problem with
  | none =>
    have plain : Json.Plain (checkJson ⟨q, none⟩) := ⟨trivial, sources, trivial, trivial, trivial⟩
    refine (says_line_iff plain _ _).trans (.trans (forall_congr' fun r => ?_) (only true))
    simp [Json.memberReadings, Json.reading]
  | some f =>
    have plain : Json.Plain (checkJson ⟨q, some f⟩) :=
      ⟨trivial, sources, trivial, trivial, trivial, trivial⟩
    refine (says_line_iff plain _ _).trans (.trans (forall_congr' fun r => ?_) (only false))
    simp [Json.memberReadings, Json.reading]

end Report

namespace Command

variable {w : World} {flags : Flags} {c : QueryChoice}

theorem compiled_eq_ok_iff {q : Query} : compiled w c = .ok q ↔
    ∃ text, Settings.queryText w.settings c.given c.saved = .ok text ∧
      Query.compile text = .ok q := by
  unfold compiled
  cases Settings.queryText w.settings c.given c.saved with
  | error => simp
  | ok text => cases compiles : Query.compile text <;> simp [compiles, Except.mapError]

section

variable [Wording]

theorem Effect.outcome_code (e : Effect) :
    (e.outcome flags).code = 0 ↔ e.trouble = none := by
  unfold Effect.outcome
  cases e.trouble with
  | none => simp
  | some t => simpa using t.code_ne_zero

theorem Effect.outcome_printed (e : Effect) : (e.outcome flags).stdout = e.printed := by
  unfold Effect.outcome
  split <;> rfl

theorem Effect.outcome_alike {e e' : Effect} {flags' : Flags} (same : e.trouble = e'.trouble)
    (json : flags.json = flags'.json) :
    (e.outcome flags).code = (e'.outcome flags').code ∧
      (e.outcome flags).errorText = (e'.outcome flags').errorText := by
  unfold Effect.outcome
  rw [same, json]
  split <;> exact ⟨rfl, rfl⟩

end

section

variable [Regex.Engine]

/-- Why a query cannot be used: it cannot be compiled, or it is no condition. -/
def objection (w : World) (c : QueryChoice) : Option Trouble :=
  match compiled w c with
  | .error t => some t
  | .ok q =>
    match q.root.meaning with
    | .error f => some (.query f)
    | .ok _ => none

theorem objection_eq_none_iff : objection w c = none ↔
    ∃ text q, Settings.queryText w.settings c.given c.saved = .ok text ∧
      Query.compile text = .ok q ∧ q.root.HasType .boolean ∧ q.root.PatternsRead false := by
  constructor
  · intro clear
    unfold objection at clear
    split at clear
    · cases clear
    · rename_i q found
      obtain ⟨text, given, compiles⟩ := compiled_eq_ok_iff.1 found
      split at clear
      · cases clear
      · rename_i f meaning
        exact ⟨text, q, given, compiles, Predicate.meaning_ok_iff.1 ⟨f, meaning⟩⟩
  · rintro ⟨text, q, given, compiles, usable⟩
    obtain ⟨f, meaning⟩ := Predicate.meaning_ok_iff.2 usable
    rw [objection, compiled_eq_ok_iff.2 ⟨text, given, compiles⟩]
    dsimp only
    rw [meaning]

theorem check_trouble : (check w flags c).trouble = objection w c := by
  unfold check objection
  cases compiled w c with
  | error t => rfl
  | ok q =>
    dsimp only
    cases q.root.meaning <;> rfl

theorem eval_trouble {input : String} {limit : Option Nat} {s : Snapshot}
    (readable : readSnapshot w input = .ok s) :
    (eval w flags c input limit).trouble = objection w c := by
  unfold eval objection
  rw [readable]
  cases compiled w c with
  | error t => rfl
  | ok q =>
    dsimp only
    cases q.root.meaning <;> rfl

theorem says_check (json : flags.json = true) :
    Report.Says (check w flags c).printed "valid" true ↔ objection w c = none := by
  unfold check objection
  cases compiled w c with
  | error t => simpa [Effect.fails] using Report.not_says_empty "valid" true
  | ok q =>
    dsimp only
    rw [report, if_pos json, Report.says_checkJson]
    cases q.root.meaning <;> simp

/-- Checking a query and trying it on a snapshot that can be read end with the same exit code and
the same words about what is wrong. The code is zero for the conditions, and for these alone
checking says in JSON that they are valid. -/
theorem check_eval [Wording] {args args' : List String} {flags' : Flags} {input : String}
    {limit : Option Nat} {s : Snapshot}
    (checks : Invocation.ofArguments args = .ok ⟨flags, .check c⟩)
    (tries : Invocation.ofArguments args' = .ok ⟨flags', .eval c input limit⟩)
    (alike : flags.json = flags'.json) (readable : readSnapshot w input = .ok s) :
    (run w args).code = (run w args').code ∧ (run w args).errorText = (run w args').errorText ∧
    ((run w args).code = 0 ↔
      ∃ text q, Settings.queryText w.settings c.given c.saved = .ok text ∧
        Query.compile text = .ok q ∧ q.root.HasType .boolean ∧ q.root.PatternsRead false) ∧
    (flags.json = true →
      (Report.Says (run w args).stdout "valid" true ↔ (run w args).code = 0)) := by
  have checked : run w args = (check w flags c).outcome flags := by rw [run, checks]; rfl
  have tried : run w args' = (eval w flags' c input limit).outcome flags' := by rw [run, tries]; rfl
  have same : (check w flags c).trouble = (eval w flags' c input limit).trouble :=
    check_trouble.trans (eval_trouble readable).symm
  obtain ⟨code, errorText⟩ := Effect.outcome_alike same alike
  have zero : ((check w flags c).outcome flags).code = 0 ↔ objection w c = none := by
    rw [Effect.outcome_code, check_trouble]
  rw [checked, tried]
  refine ⟨code, errorText, zero.trans objection_eq_none_iff, ?_⟩
  intro json
  rw [Effect.outcome_printed, says_check json, zero]

end

open scoped Standalone

/-- A text alone is no condition, which is found even where there are no statuses to try it on. -/
theorem check_eval_no_statuses :
    let w : World := ⟨"config.toml", .absent, fun _ _ => .ok (), fun _ => .ok "\x7b\x7d",
      .error .notFound, .ofNanoseconds 0⟩
    let checks := ["--json", "check", "--", "\"a\""]
    let tries := ["--json", "eval", "--input=s.json", "--limit=3", "--", "\"a\""]
    readSnapshot w "s.json" = .ok ⟨none, [], [], []⟩ ∧
      (run w checks).code = 1 ∧ (run w tries).code = 1 ∧
      (run w checks).errorText = (run w tries).errorText := by
  intro w checks tries
  have readable : readSnapshot w "s.json" = .ok ⟨none, [], [], []⟩ := by cbv
  have asks : Invocation.ofArguments checks =
      .ok ⟨{ Flags.plain with json := true }, .check ⟨some "\"a\"", none⟩⟩ := rfl
  have asks' : Invocation.ofArguments tries =
      .ok ⟨{ Flags.plain with json := true }, .eval ⟨some "\"a\"", none⟩ "s.json" (some 3)⟩ := by
    cbv
  have agree := check_eval asks asks' rfl readable
  have compiles : Query.compile "\"a\"" = .ok ⟨[.implied], .value (.text "a")⟩ := by cbv
  have code : (run w checks).code = 1 := by
    rw [run, asks]
    change ((check w _ _).outcome _).code = 1
    rw [check, compiled_eq_ok_iff.2 ⟨_, rfl, compiles⟩]
    rfl
  exact ⟨readable, code, agree.1.symm.trans code, agree.2.1⟩

end Command

end TimelineFilter
