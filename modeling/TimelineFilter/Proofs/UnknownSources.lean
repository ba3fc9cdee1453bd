import TimelineFilter.Proofs.Spelling
import TimelineFilter.Proofs.Suggestions
import TimelineFilter.Query

namespace TimelineFilter

namespace SourceKind

def spellings : List String := Catalogue.allSpellings SourceKind

theorem spellings_lower : ∀ s ∈ spellings, s ≠ "" ∧ Text.lowerChars s.toList = s.toList := by
  decide +kernel

end SourceKind

namespace Query

theorem scan_from {w : String} (bare : isBareWord w = true) :
    scan false ("from " ++ w) = ⟨[⟨.word "from", 0⟩, ⟨.word w, 5⟩], none⟩ := by
  have introduced : (Lexeme.word "from").Writable := by
    change isBareWord "from" = true
    decide +kernel
  have blank : isTokenBlank ' ' = true := by decide
  have ended : ∀ c ∈ (' ' :: w.toList).head?, (Lexeme.word "from").takes c = false := by
    simpa using takes_blank blank (.word "from")
  have nothing : ∀ c ∈ ([] : List Char).head?, (Lexeme.word w).takes c = false := by simp
  have named : (Lexeme.word w).Writable := bare
  have first := scanFrom_render false 0 introduced ended
  have second := scanFrom_render false 5 named nothing
  change scanFrom false 0 ("from".toList ++ ' ' :: w.toList) =
    (scanFrom false 4 (' ' :: w.toList)).cons ⟨.word "from", 0⟩ at first
  change scanFrom false 5 (w.toList ++ []) = _ at second
  rw [List.append_nil, scanFrom] at second
  have whole : ("from " ++ w).toList = "from".toList ++ ' ' :: w.toList := by simp
  rw [scan, whole, first, scanFrom_blank false 4 blank]
  change (scanFrom false 5 w.toList).cons _ = _
  rw [second]
  rfl

theorem compile_from_word {w : String} (bare : isBareWord w = true)
    (unknown : SourceKind.ofKeyword? w = none) :
    compile ("from " ++ w) =
      .error ⟨.unknownSource w (suggest w SourceKind.spellings), w⟩ := by
  have introduced : (⟨.word "from", 0⟩ : Token).isKeyword "from" = true := by decide +kernel
  have named : (⟨.word w, 5⟩ : Token).render = w := rfl
  rw [compile, scan_from bare]
  simp [ofTokens, introduced, Source.readMany, Source.readGroup, Source.readKind, Source.keyword?,
    unknown, Failure.before, Token.renderAll, named, SourceKind.spellings]

/-- A source that is no keyword is unknown. It gets a hint if some keyword is within two edits of
its lower-case form and none is that form, and the hint is a keyword to which no more edits lead
than to any other. -/
theorem compile_unknownSource {w : String} (bare : isBareWord w = true)
    (unknown : SourceKind.ofKeyword? w = none) :
    ∃ hint, compile ("from " ++ w) = .error ⟨.unknownSource w hint, w⟩ ∧
      (hint.isSome ↔ Text.lower w ∉ SourceKind.spellings ∧
        ∃ s ∈ SourceKind.spellings, ∃ n ≤ 2, Text.Edits n (Text.lower w).toList s.toList) ∧
      ∀ s ∈ hint, s ∈ SourceKind.spellings ∧
        ∀ s' ∈ SourceKind.spellings, ∀ n, Text.Edits n (Text.lower w).toList s'.toList →
          ∃ m ≤ n, Text.Edits m (Text.lower w).toList s.toList := by
  -- Keywords are in lower case already.
  have edits {n : Nat} {s : String} (listed : s ∈ SourceKind.spellings) :
      NameEdits n w s ↔ Text.Edits n (Text.lower w).toList s.toList := by
    rw [NameEdits, (SourceKind.spellings_lower s listed).2, Text.toList_lower]
  refine ⟨_, compile_from_word bare unknown, ?_, ?_⟩
  · rw [Option.isSome_iff_exists]
    constructor
    · rintro ⟨s, hint⟩
      obtain ⟨d, closest, near⟩ := suggest_eq_some_iff.1 hint
      refine ⟨?_, s, closest.mem, d, by omega, (edits closest.mem).1 closest.away.1⟩
      intro keyword
      have none : NameEdits 0 w (Text.lower w) := (edits keyword).2 (.none _)
      have := closest.le keyword (SourceKind.spellings_lower _ keyword).1 none
      omega
    · rintro ⟨apart, s, listed, n, near, way⟩
      have other := (SourceKind.spellings_lower s listed).1
      obtain ⟨c, d, closest⟩ := exists_closest w listed other
      have short := closest.le listed other ((edits listed).2 way)
      have positive : d ≠ 0 := by
        rintro rfl
        have same := Text.edits_zero_iff.1 ((edits closest.mem).1 closest.away.1)
        rw [String.toList_injective same] at apart
        exact apart closest.mem
      exact ⟨c, suggest_eq_some_iff.2 ⟨d, closest, by omega⟩⟩
  · intro s hint
    obtain ⟨d, closest, -⟩ := suggest_eq_some_iff.1 hint
    refine ⟨closest.mem, ?_⟩
    intro s' listed n way
    have other := (SourceKind.spellings_lower s' listed).1
    exact ⟨d, closest.le listed other ((edits listed).2 way),
      (edits closest.mem).1 closest.away.1⟩

/-- Two edits away from a keyword once the capital is gone. -/
theorem compile_unknownSource_hmoe :
    isBareWord "Hmoe" = true ∧ SourceKind.ofKeyword? "Hmoe" = none ∧
      ∃ s ∈ SourceKind.spellings,
        compile "from Hmoe" = .error ⟨.unknownSource "Hmoe" (some s), "Hmoe"⟩ := by
  have bare : isBareWord "Hmoe" = true := by decide +kernel
  have unknown : SourceKind.ofKeyword? "Hmoe" = none := by decide +kernel
  obtain ⟨hint, failed, hinted, nearest⟩ := compile_unknownSource bare unknown
  have apart : Text.lower "Hmoe" ∉ SourceKind.spellings := by decide +kernel
  have listed : "home" ∈ SourceKind.spellings := by decide +kernel
  have lower : (Text.lower "Hmoe").toList = ['h', 'm', 'o', 'e'] := by decide +kernel
  have way : Text.Edits 2 (Text.lower "Hmoe").toList "home".toList := by
    rw [lower]
    exact .edit (.behind 'h' (.replace 'm' 'o' _)) (.edit (.behind 'h' (.behind 'o'
      (.replace 'o' 'm' _))) (.none _))
  obtain ⟨s, rfl⟩ :=
    Option.isSome_iff_exists.1 (hinted.2 ⟨apart, "home", listed, 2, by decide, way⟩)
  exact ⟨bare, unknown, s, (nearest s rfl).1, failed⟩

/-- A keyword in capitals is no keyword, and no hint leads to it. -/
theorem compile_unknownSource_capitals :
    isBareWord "HOME" = true ∧ SourceKind.ofKeyword? "HOME" = none ∧
      "home" ∈ SourceKind.spellings ∧
      Text.Edits 0 (Text.lower "HOME").toList "home".toList ∧
      compile "from HOME" = .error ⟨.unknownSource "HOME" none, "HOME"⟩ := by
  have same : (Text.lower "HOME").toList = "home".toList := by decide +kernel
  refine ⟨by decide +kernel, by decide +kernel, by decide +kernel, ?_, by decide +kernel⟩
  rw [same]
  exact .none _

end Query

end TimelineFilter
