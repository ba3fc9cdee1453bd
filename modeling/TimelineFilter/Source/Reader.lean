import TimelineFilter.Source
import TimelineFilter.Suggestion
import TimelineFilter.Token.Front

/-!
Reading the sources of a query. Several arguments behind one keyword stand for as many sources; of
those only the first may start with a bare word, so that a bare word behind a comma starts the
next source.
-/
namespace TimelineFilter.Source

def readPart (bare : Bool) : (ts : List Token) → Except Failure (String × Shorter ts)
  | [] => .error (.wanted .sourceArgument [])
  | t :: rest =>
    match t.lexeme, bare with
    | .quoted text, _ | .word text, true => .ok (text, ⟨rest, tail_shorter t rest⟩)
    | _, _ => .error (.wanted .sourceArgument (t :: rest))

/-- An argument: parts between periods, joined by slashes. -/
def readArgument (bare : Bool) (ts : List Token) : Except Failure (String × Shorter ts) :=
  match readPart bare ts with
  | .error e => .error e
  | .ok (part, ⟨rest, lt⟩) =>
    match accept? .period rest with
    | none => .ok (part, ⟨rest, lt⟩)
    | some ⟨more, lt'⟩ =>
      match readArgument true more with
      | .error e => .error e
      | .ok (parts, ⟨after, lt''⟩) => .ok (part ++ "/" ++ parts, ⟨after, by omega⟩)
termination_by ts.length
decreasing_by omega

def acceptContinuation? (ts : List Token) : Option (Shorter ts) :=
  match accept? .comma ts with
  | none => none
  | some ⟨[], _⟩ => none
  | some ⟨t :: rest, lt⟩ => if t.kind = .quoted then some ⟨t :: rest, lt⟩ else none

/-- An argument and every further argument that starts with a string behind a comma. -/
def readArguments (bare : Bool) (ts : List Token) :
    Except Failure (List String × Shorter ts) :=
  match readArgument bare ts with
  | .error e => .error e
  | .ok (argument, ⟨rest, lt⟩) =>
    match acceptContinuation? rest with
    | none => .ok ([argument], ⟨rest, lt⟩)
    | some ⟨more, lt'⟩ =>
      match readArguments false more with
      | .error e => .error e
      | .ok (arguments, ⟨after, lt''⟩) => .ok (argument :: arguments, ⟨after, by omega⟩)
termination_by ts.length
decreasing_by omega

def keyword? : Lexeme → Option String
  | .word text => some text
  | .symbol .star => some "*"
  | _ => none

def readKind : (ts : List Token) → Except Failure (SourceKind × String × Shorter ts)
  | [] => .error (.wanted .source [])
  | t :: rest =>
    match keyword? t.lexeme with
    | none => .error (.wanted .source (t :: rest))
    | some keyword =>
      match SourceKind.ofKeyword? keyword with
      | some kind => .ok (kind, keyword, ⟨rest, tail_shorter t rest⟩)
      | none =>
        .error (.before (t :: rest) (.unknownSource keyword
          (suggest keyword (Catalogue.allSpellings SourceKind))))

def readGroup (ts : List Token) : Except Failure (List Source × Shorter ts) :=
  match readKind ts with
  | .error e => .error e
  | .ok (kind, keyword, ⟨rest, lt⟩) =>
    match accept? .colon rest with
    | some ⟨more, lt'⟩ =>
      match readArguments true more with
      | .error e => .error e
      | .ok (arguments, ⟨after, lt''⟩) =>
        .ok (arguments.map fun a => ⟨kind, [a]⟩, ⟨after, by omega⟩)
    | none =>
      if kind.needsArgument then .error (.before rest (.missingArgument keyword))
      else .ok ([⟨kind, []⟩], ⟨rest, lt⟩)

def readMany (ts : List Token) : Except Failure (List Source × Shorter ts) :=
  match readGroup ts with
  | .error e => .error e
  | .ok (sources, ⟨rest, lt⟩) =>
    match accept? .comma rest with
    | none => .ok (sources, ⟨rest, lt⟩)
    | some ⟨more, lt'⟩ =>
      match readMany more with
      | .error e => .error e
      | .ok (others, ⟨after, lt''⟩) => .ok (sources ++ others, ⟨after, by omega⟩)
termination_by ts.length
decreasing_by omega

end TimelineFilter.Source
