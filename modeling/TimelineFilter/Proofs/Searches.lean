import TimelineFilter.Proofs.FirstFault
import TimelineFilter.Standalone

/-! Searches for patterns. A pattern that stands in the query as a constant is read when the query
is compiled, any other pattern whenever a status is tested. Both find the same. -/
namespace TimelineFilter

section

variable [Regex.Engine]

namespace TypedMeaning

theorem searches_invalid {caseful : Bool} {pattern reason : String}
    (invalid : Regex.Engine.read (!caseful) pattern = .error reason) (text : String) :
    searches caseful pattern text = false := by
  rw [searches, invalid]

theorem constantSearch_accepted {caseful : Bool} {pattern : String}
    (accepted : Regex.Accepts (!caseful) pattern) (f : Meaning String) (b : TypedMeaning) :
    constantSearch caseful pattern (.text f) b =
      .ok (.boolean fun s c => searches caseful pattern (f s c)) := by
  obtain ⟨test, read⟩ := accepted
  simp only [constantSearch, searches, read]

theorem constantSearch_rejected {caseful : Bool} {pattern reason : String}
    (invalid : Regex.Engine.read (!caseful) pattern = .error reason) (f : Meaning String)
    (b : TypedMeaning) :
    constantSearch caseful pattern (.text f) b = .error (.invalidPattern pattern reason) := by
  rw [constantSearch, invalid]

end TypedMeaning

namespace Predicate

theorem denote_constant {p : Predicate} {pattern : String}
    (constant : p.constantText? = some pattern) (caseful : Bool) :
    p.denote caseful = .ok (.text fun _ _ => pattern) := by
  induction p generalizing caseful with
  | bracket inner ih => exact ih constant caseful
  | unary op operand ih =>
    cases op with
    | caseful => rw [denote, ih constant]; rfl
    | _ => cases constant
  | value v =>
    cases v with
    | text => cases constant; rfl
    | _ => cases constant
  | _ => cases constant

theorem HasType.has_text {p : Predicate} (typed : HasType p .text) (caseful : Bool) :
    ∃ f, p.denote caseful = .ok (.text f) := typed.denotes (by simp) caseful

section Paths

variable {e p q : Predicate} {pattern : String} {caseful : Bool} {f g : Meaning String}

theorem denote_regex_constant (text : e.denote caseful = .ok (.text f))
    (constant : q.constantText? = some pattern) :
    (binary .regex e q).denote caseful = TypedMeaning.constantSearch (casefulAt caseful e q) pattern
      (.text f) (.text fun _ _ => pattern) := by
  rw [denote_binary text (denote_constant constant caseful), constant]
  rfl

theorem denote_regex_dynamic (text : e.denote caseful = .ok (.text f))
    (written : p.denote caseful = .ok (.text g)) (dynamic : p.constantText? = none) :
    (binary .regex e p).denote caseful =
      .ok (.boolean fun s c => TypedMeaning.searches (casefulAt caseful e p) (g s c) (f s c)) := by
  rw [denote_binary text written, dynamic]
  rfl

/-- A search for a text that is no constant always compiles. Where that text is the constant
pattern of another search, under the same marks of case, both have the same result. If the constant
is no pattern then its search is rejected, and the other one finds nothing there. -/
theorem regex_paths_agree (text : HasType e .text) (constant : q.constantText? = some pattern)
    (written : HasType p .text) (dynamic : p.constantText? = none)
    (marks : p.mentionsCaseful = q.mentionsCaseful) (caseful : Bool) :
    ∃ searched value,
      (binary .regex e p).denote caseful = .ok (.boolean searched) ∧
      p.denote caseful = .ok (.text value) ∧
      (∀ found, (binary .regex e q).denote caseful = .ok (.boolean found) →
        ∀ s c, value s c = pattern → searched s c = found s c) ∧
      ((∃ found, (binary .regex e q).denote caseful = .ok (.boolean found)) ↔
        Regex.Accepts (!casefulAt caseful e q) pattern) ∧
      ∀ reason, Regex.Engine.read (!casefulAt caseful e q) pattern = .error reason →
        (binary .regex e q).denote caseful = .error (.invalidPattern pattern reason) ∧
          ∀ s c, value s c = pattern → searched s c = false := by
  obtain ⟨f, subject⟩ := text.has_text caseful
  obtain ⟨value, denoted⟩ := written.has_text caseful
  have flag : casefulAt caseful e p = casefulAt caseful e q := by rw [casefulAt, casefulAt, marks]
  have searched := denote_regex_dynamic subject denoted dynamic
  rw [flag] at searched
  rw [denote_regex_constant subject constant]
  refine ⟨_, value, searched, denoted, ?_⟩
  -- What the engine says of the pattern decides the search for the constant, and nothing else does.
  cases read : Regex.Engine.read (!casefulAt caseful e q) pattern with
  | ok test =>
    have accepted : Regex.Accepts (!casefulAt caseful e q) pattern := ⟨test, read⟩
    rw [TypedMeaning.constantSearch_accepted accepted]
    refine ⟨?_, ⟨fun _ => accepted, fun _ => ⟨_, rfl⟩⟩, nofun⟩
    rintro found ⟨⟩ s c same
    rw [same]
  | error reason =>
    rw [TypedMeaning.constantSearch_rejected read]
    refine ⟨nofun, ⟨nofun, fun accepted => absurd read accepted.not_error⟩, ?_⟩
    rintro _ ⟨⟩
    refine ⟨rfl, fun s c same => ?_⟩
    rw [same]
    exact TypedMeaning.searches_invalid read (f s c)

end Paths

end Predicate

end

namespace Predicate

open scoped Standalone

/-- `text regex caseful ("l+")` and `text regex caseful user.name`, and a status by someone whose
name is `l+`. -/
theorem regex_paths_agree_name :
    ∃ searched value found,
      (binary .regex (.value (.field .text))
        (.unary .caseful (.value (.personField .author .name)))).denote false =
          .ok (.boolean searched) ∧
      (Predicate.unary .caseful (.value (.personField .author .name))).denote false =
        .ok (.text value) ∧
      (binary .regex (.value (.field .text))
        (.unary .caseful (.bracket (.value (.text "l+"))))).denote false = .ok (.boolean found) ∧
      (∀ s c, value s c = "l+" → searched s c = found s c) ∧
      value (.plain (.basic 1 { User.basic 7 "ann" with name := "l+" } "all")) ⟨[], []⟩ = "l+" ∧
      found (.plain (.basic 1 { User.basic 7 "ann" with name := "l+" } "all")) ⟨[], []⟩ = true := by
  obtain ⟨searched, value, built, denoted, agree, -, -⟩ := regex_paths_agree
    (e := .value (.field .text)) (q := .unary .caseful (.bracket (.value (.text "l+"))))
    (p := .unary .caseful (.value (.personField .author .name))) .value rfl (.caseful .value) rfl
    rfl false
  refine ⟨searched, value, _, built, denoted, rfl, agree _ rfl, ?_, ?_⟩
  · obtain rfl := TypedMeaning.text.inj (Except.ok.inj denoted)
    rfl
  · decide

end Predicate

end TimelineFilter
