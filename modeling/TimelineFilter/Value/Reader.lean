import TimelineFilter.Suggestion
import TimelineFilter.Token.Front

namespace TimelineFilter.Value

def readRelation (selector : Selector) (ts : List Token) : Except Failure (Value × Tail ts) :=
  match accept? .period ts with
  | none => .ok (.account selector, ⟨ts, Nat.le_refl _⟩)
  | some ⟨rest, lt⟩ =>
    match expectWord rest with
    | .error e => .error e
    | .ok (name, ⟨after, lt'⟩) =>
      match Catalogue.find? name with
      | some r => .ok (.relation selector r, ⟨after, by omega⟩)
      | none => .error (.before after (.unknownRelation name))

def readField (who : Person) (ts : List Token) : Except Failure (Value × Tail ts) :=
  match accept? .period ts with
  | none => .ok (.person who, ⟨ts, Nat.le_refl _⟩)
  | some ⟨rest, lt⟩ =>
    match expectWord rest with
    | .error e => .error e
    | .ok (name, ⟨after, lt'⟩) =>
      match Catalogue.find? name with
      | some f => .ok (.personField who f, ⟨after, by omega⟩)
      | none =>
        .error (.before after (.unknownUserField name
          (suggest name (Catalogue.allSpellings UserField))))

def readDotted (ts : List Token) : Except Failure (String × Shorter ts) :=
  match expect .period ts with
  | .error e => .error e
  | .ok ⟨rest, lt⟩ =>
    match expectName rest with
    | .error e => .error e
    | .ok (name, ⟨after, lt'⟩) => .ok (name, ⟨after, shorter_trans lt' lt⟩)

def readNamedAccount (ts : List Token) : Except Failure (Value × Tail ts) :=
  match readDotted ts with
  | .error e => .error e
  | .ok (name, ⟨rest, lt⟩) =>
    match readRelation (.named name) rest with
    | .error e => .error e
    | .ok (v, ⟨after, le⟩) => .ok (v, ⟨after, by omega⟩)

def readList (ts : List Token) : Except Failure (Value × Tail ts) :=
  match readDotted ts with
  | .error e => .error e
  | .ok (owner, ⟨rest, lt⟩) =>
    match readDotted rest with
    | .error e => .error e
    | .ok (slug, ⟨after, lt'⟩) =>
      .ok (.list owner slug, ⟨after, Nat.le_of_lt (shorter_trans lt' lt)⟩)

/-- The value that starts with the bare word `word` of the token `t`; `ts` follows it. A problem
with the word itself is reported in front of it. -/
def readWord (t : Token) (word : String) (ts : List Token) : Except Failure (Value × Tail ts) :=
  match word.toList with
  | ['@'] => readNamedAccount ts
  | '@' :: name => readRelation (.named (String.ofList name)) ts
  | '#' :: digits =>
    match Text.natural64? digits with
    | some id => readRelation (.id id) ts
    | none => .error (.before (t :: ts) (.invalidNumber (String.ofList digits)))
  | characters =>
    match Text.lowerAscii word with
    | "we" | "our" | "us" => readRelation .any ts
    | "user" => readField .author ts
    | "retweeter" => readField .retweeter ts
    | "list" => readList ts
    | _ =>
      if characters.all Char.isDigit then
        match Text.natural64? characters with
        | some n => .ok (.number n, ⟨ts, Nat.le_refl _⟩)
        | none => .error (.before (t :: ts) (.invalidNumber word))
      else
        match Catalogue.find? word with
        | some f => .ok (.field f, ⟨ts, Nat.le_refl _⟩)
        | none =>
          .error (.before (t :: ts) (.unknownWord word
            (suggest word (Catalogue.allSpellings StatusField))))

def read (t : Token) (ts : List Token) : Except Failure (Value × Tail ts) :=
  match t.lexeme with
  | .quoted contents => .ok (.text contents, ⟨ts, Nat.le_refl _⟩)
  | .word word => readWord t word ts
  | .symbol .star => readRelation .any ts
  | .symbol _ => .error (.misplaced t ts)

def readNext : (ts : List Token) → Except Failure (Value × Shorter ts)
  | [] => .error (.before [] .unexpectedEnd)
  | t :: rest =>
    match read t rest with
    | .error e => .error e
    | .ok (v, ⟨after, le⟩) => .ok (v, ⟨after, Nat.lt_succ_of_le le⟩)

def readMany (ts : List Token) : Except Failure (List Value × Shorter ts) :=
  match readNext ts with
  | .error e => .error e
  | .ok (v, ⟨rest, lt⟩) =>
    match accept? .comma rest with
    | none => .ok ([v], ⟨rest, lt⟩)
    | some ⟨more, lt'⟩ =>
      match readMany more with
      | .error e => .error e
      | .ok (vs, ⟨after, lt''⟩) => .ok (v :: vs, ⟨after, by omega⟩)
termination_by ts.length
decreasing_by omega

end TimelineFilter.Value
