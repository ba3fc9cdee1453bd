/-!
The search for patterns, of which nothing is assumed but that its outcome depends on the pattern,
on whether case is ignored, and on the text that is searched.
-/
namespace TimelineFilter.Regex

class Engine where
  /-- The test that a pattern stands for, or the reason why a text is no pattern. -/
  read (ignoreCase : Bool) (pattern : String) : Except String (String → Bool)

def Accepts [Engine] (ignoreCase : Bool) (pattern : String) : Prop :=
  ∃ test, Engine.read ignoreCase pattern = .ok test

theorem Accepts.not_error [Engine] {ignoreCase : Bool} {pattern reason : String}
    (accepts : Accepts ignoreCase pattern) : Engine.read ignoreCase pattern ≠ .error reason := by
  obtain ⟨test, read⟩ := accepts
  rw [read]
  exact nofun

end TimelineFilter.Regex
