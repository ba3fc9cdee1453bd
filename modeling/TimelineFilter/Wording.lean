import TimelineFilter.Json.Defect

/-!
The words that are not fixed here: what is said of texts that cannot be read, beyond the cause, and
of command lines that are not carried out.
-/
namespace TimelineFilter

class Wording where
  /-- What is wrong with a text that was to be read as settings. -/
  settings : String → String
  /-- Where in a JSON text a defect is. -/
  place : String → Json.Defect → String
  /-- What is wrong with the words of a command line. -/
  refusal : List String → String
  help : List String → String
  completions (shell : String) : String

end TimelineFilter
