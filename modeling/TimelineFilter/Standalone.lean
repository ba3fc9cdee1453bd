import TimelineFilter.Regex.Engine
import TimelineFilter.Regex.Reader
import TimelineFilter.Wording

/-!
Patterns and words for a program that stands alone. The patterns are those of `Regex.Pattern`, which
knows few classes of characters by their properties.
-/
namespace TimelineFilter.Standalone

def usage : String :=
  "Usage: tlq [OPTIONS] [COMMAND]\n\n"
    ++ "Commands: check, eval, sources, fields, config, completions\n"
    ++ "Options: --verbose, --quiet, --json, --no-color, --help, --version\n"

scoped instance engine : Regex.Engine where
  read ignoreCase pattern :=
    match Regex.Pattern.ofText? ignoreCase pattern with
    | some p => .ok p.matchesIn
    | none => .error "not a pattern"

scoped instance wording : Wording where
  settings _ := "TOML parse error"
  place _ _ := ""
  refusal _ := "error: the arguments do not fit the command\n\n" ++ usage
  help _ := usage
  completions _ := ""

end TimelineFilter.Standalone
