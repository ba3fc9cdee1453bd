import TimelineFilter.Regex.Pattern
import TimelineFilter.Text.Hex

namespace TimelineFilter.Regex

structure Flags where
  ignoreCase : Bool
  multiLine : Bool
  dotMatchesAll : Bool
  extended : Bool
  unicode : Bool
  mixedLines : Bool
deriving DecidableEq, Repr

namespace Flags

def initial (ignoreCase : Bool) : Flags := ⟨ignoreCase, false, false, false, true, false⟩

def skipBlanks (inComment : Bool) : List Char → List Char
  | [] => []
  | c :: rest =>
    if inComment then skipBlanks (c != '\n') rest
    else if Text.isBlank c then skipBlanks false rest
    else if c = '#' then skipBlanks true rest
    else c :: rest

def skip (f : Flags) (cs : List Char) : List Char := if f.extended then skipBlanks false cs else cs

def fold (f : Flags) (cls : CharClass) : CharClass :=
  if !f.ignoreCase then cls else if f.unicode then .folded cls else .asciiFolded cls

def set? (f : Flags) (letter : Char) (on : Bool) : Option Flags :=
  match letter with
  | 'i' => some { f with ignoreCase := on }
  | 'm' => some { f with multiLine := on }
  | 's' => some { f with dotMatchesAll := on }
  | 'x' => some { f with extended := on }
  | 'u' => some { f with unicode := on }
  | 'R' => some { f with mixedLines := on }
  | 'U' => some f
  | _ => none

end Flags

def readCodePoint (f : Flags) (count : Nat) (cs : List Char) : Option (Char × List Char) :=
  match f.skip cs with
  | '{' :: rest =>
    let digits := rest.takeWhile (· != '}')
    match rest.drop digits.length with
    | [] => none
    | _ :: after =>
      let kept := if f.extended then digits.filter (!Text.isBlank ·) else digits
      ((Text.hexNumber? kept).bind Text.charOf?).map (·, f.skip after)
  | rest =>
    if rest.length < count then none
    else ((Text.hexNumber? (rest.take count)).bind Text.charOf?).map (·, f.skip (rest.drop count))

inductive Primitive
  | literal (c : Char)
  | cls (cls : CharClass)
  | assertion (a : Assertion)

/-- The class of a property by its name, which is read without regard to case, blanks, hyphens and
underscores. -/
def property? (name : List Char) : Option CharClass :=
  let plain := (name.filter fun c => !(Text.isBlank c || c == '-' || c == '_')).map Char.toLower
  match String.ofList plain with
  | "alphabetic" | "alpha" => some .alphabetic
  | "whitespace" | "wspace" | "space" => some .blank
  | "decimalnumber" | "digit" | "nd" => some .digit
  | "any" => some (.complement .none)
  | "ascii" => some (.ranges [(0, 0x7F)])
  | _ => none

def readProperty (f : Flags) (negated : Bool) (cs : List Char) : Option (Primitive × List Char) :=
  let finish (name rest : List Char) : Option (Primitive × List Char) :=
    if f.unicode then
      (property? name).map fun cls =>
        (.cls (if negated then .complement (f.fold cls) else f.fold cls), rest)
    else none
  match f.skip cs with
  | [] => none
  | '{' :: rest =>
    let name := rest.takeWhile (· != '}')
    match rest.drop name.length with
    | [] => none
    | _ :: after => finish name after
  | c :: rest => if c = '\\' then none else finish [c] (f.skip rest)

def letterClass? (f : Flags) (c : Char) : Option CharClass :=
  let pick (wide ascii : CharClass) := if f.unicode then wide else ascii
  let outside (wide : CharClass) := if f.unicode then some (CharClass.complement wide) else none
  match c with
  | 'd' => some (pick .digit .asciiDigit)
  | 's' => some (pick .blank .asciiBlank)
  | 'w' => some (pick .word .asciiWord)
  | 'D' => outside .digit
  | 'S' => outside .blank
  | 'W' => outside .word
  | _ => none

def Flags.word (f : Flags) : CharClass := if f.unicode then .word else .asciiWord

/-- The name in braces that may follow `\b`. Braces that cannot hold such a name are left alone. -/
def readBoundary (f : Flags) (cs : List Char) : Option (Assertion × List Char) :=
  let nameChar (c : Char) := c.isAlpha || c == '-'
  match cs with
  | '{' :: rest =>
    match f.skip rest with
    | [] => none
    | c :: more =>
      if !nameChar c then some (.boundary f.word, cs)
      else
        let raw := (c :: more).takeWhile fun c => nameChar c || (f.extended && Text.isBlank c)
        match (c :: more).drop raw.length, String.ofList (raw.filter nameChar) with
        | '}' :: after, "start" => some (.wordStart f.word, after)
        | '}' :: after, "end" => some (.wordEnd f.word, after)
        | '}' :: after, "start-half" => some (.wordStartHalf f.word, after)
        | '}' :: after, "end-half" => some (.wordEndHalf f.word, after)
        | _, _ => none
  | _ => some (.boundary f.word, cs)

/-- What stands behind a backslash. Every ASCII character that is neither a letter nor a digit
stands for itself. -/
def readEscape (f : Flags) (cs : List Char) : Option (Primitive × List Char) :=
  match cs with
  | [] => none
  | c :: rest =>
    match c with
    | 'x' =>
      match readCodePoint f 2 rest with
      | some (c, after) =>
        -- Two digits are a byte where characters are not meant, and a byte above these is no text.
        let byte := !f.unicode && (f.skip rest).head? != some '\x7b'
        if byte && 0x80 ≤ c.toNat then none else some (.literal c, after)
      | none => none
    | 'u' => (readCodePoint f 4 rest).map fun (c, rest) => (.literal c, rest)
    | 'U' => (readCodePoint f 8 rest).map fun (c, rest) => (.literal c, rest)
    | 'p' => readProperty f false rest
    | 'P' => readProperty f true rest
    | 'a' => some (.literal '\x07', rest)
    | 'f' => some (.literal '\x0C', rest)
    | 't' => some (.literal '\t', rest)
    | 'n' => some (.literal '\n', rest)
    | 'r' => some (.literal '\r', rest)
    | 'v' => some (.literal '\x0B', rest)
    | 'A' => some (.assertion .textStart, rest)
    | 'z' => some (.assertion .textEnd, rest)
    | 'b' => (readBoundary f rest).map fun (a, rest) => (.assertion a, rest)
    | 'B' => some (.assertion (.notBoundary f.word), rest)
    | '<' => some (.assertion (.wordStart f.word), rest)
    | '>' => some (.assertion (.wordEnd f.word), rest)
    | c =>
      match letterClass? f c with
      | some cls => some (.cls cls, rest)
      | none => if c.toNat < 128 && !c.isAlphanum then some (.literal c, rest) else none

/-! Bracketed classes. -/

inductive ClassOp
  | intersection | difference | symmetricDifference

structure Bracket where
  negated : Bool
  members : CharClass
  pending : Option (ClassOp × CharClass)

namespace Bracket

def add (b : Bracket) (cls : CharClass) : Bracket := { b with members := .union b.members cls }

def combined (f : Flags) (b : Bracket) : CharClass :=
  match b.pending with
  | none => b.members
  | some (.intersection, left) => .intersection (f.fold left) (f.fold b.members)
  | some (.difference, left) => .intersection (f.fold left) (.complement (f.fold b.members))
  | some (.symmetricDifference, left) =>
    CharClass.symmetricDifference (f.fold left) (f.fold b.members)

def operate (f : Flags) (op : ClassOp) (b : Bracket) : Bracket :=
  { b with members := .none, pending := some (op, b.combined f) }

/-- The class of a bracket that is closed. Case is folded before the class is negated. -/
def close (f : Flags) (b : Bracket) : CharClass :=
  let cls := f.fold (b.combined f)
  if b.negated then .complement cls else cls

end Bracket

def readHyphens (f : Flags) : Nat → Bracket → List Char → Option (Bracket × List Char)
  | 0, _, _ => none
  | fuel + 1, b, cs =>
    match f.skip cs with
    | [] => none
    | '-' :: rest => readHyphens f fuel (b.add (.single '-')) rest
    | cs => some (b, cs)

/-- The beginning of a bracket behind `[`. A `]` that comes first stands for itself. -/
def openBracket (f : Flags) (cs : List Char) : Option (Bracket × List Char) :=
  let (negated, rest) := match f.skip cs with
    | '^' :: rest => (true, rest)
    | rest => (false, rest)
  if negated && !f.unicode then none
  else
    match readHyphens f (rest.length + 1) ⟨negated, .none, none⟩ rest with
    | none => none
    | some (b, ']' :: rest) =>
      if b.members = .none then
        let after := f.skip rest
        if after.isEmpty then none else some (b.add (.single ']'), after)
      else some (b, ']' :: rest)
    | some (b, rest) => some (b, rest)

def readNamedClass (cs : List Char) : Option (CharClass × List Char) :=
  match cs with
  | ':' :: rest =>
    let (negated, rest) := match rest with
      | '^' :: rest => (true, rest)
      | rest => (false, rest)
    let name := rest.takeWhile (· != ':')
    match rest.drop name.length, CharClass.named? (String.ofList name) with
    | ':' :: ']' :: after, some cls => some (if negated then .complement cls else cls, after)
    | _, _ => none
  | _ => none

def readMember (f : Flags) (cs : List Char) : Option (Primitive × List Char) :=
  match cs with
  | [] => none
  | '\\' :: rest => readEscape f rest
  | c :: rest => some (.literal c, rest)

def Primitive.asClass? : Primitive → Option CharClass
  | .literal c => some (.single c)
  | .cls members => some members
  | .assertion _ => none

def readRange (f : Flags) (cs : List Char) : Option (CharClass × List Char) :=
  match readMember f cs with
  | none => none
  | some (first, rest) =>
    match f.skip rest with
    | [] => none
    | '-' :: more =>
      match f.skip more with
      | [] => none
      | ']' :: _ => (first.asClass?).map (·, '-' :: more)
      | '-' :: _ => (first.asClass?).map (·, '-' :: more)
      | more =>
        match first, readMember f more with
        | .literal low, some (.literal high, after) =>
          if low ≤ high then some (.ranges [(low.toNat, high.toNat)], after) else none
        | _, _ => none
    | rest => (first.asClass?).map (·, rest)

def readClass (f : Flags) : Nat → List Bracket → Bracket → List Char →
    Option (CharClass × List Char)
  | 0, _, _, _ => none
  | fuel + 1, outer, b, cs =>
    match f.skip cs with
    | [] => none
    | '[' :: rest =>
      match readNamedClass rest with
      | some (cls, after) => readClass f fuel outer (b.add cls) after
      | none =>
        match openBracket f rest with
        | some (inner, after) => readClass f fuel (b :: outer) inner after
        | none => none
    | ']' :: rest =>
      match outer with
      | [] => some (b.close f, rest)
      | o :: outer => readClass f fuel outer (o.add (b.close f)) rest
    | '&' :: '&' :: rest => readClass f fuel outer (b.operate f .intersection) rest
    | '-' :: '-' :: rest => readClass f fuel outer (b.operate f .difference) rest
    | '~' :: '~' :: rest => readClass f fuel outer (b.operate f .symmetricDifference) rest
    | cs =>
      match readRange f cs with
      | some (cls, after) => readClass f fuel outer (b.add cls) after
      | none => none

/-! Groups and repetitions. -/

def readCount (f : Flags) (cs : List Char) : Option (Nat × List Char) :=
  let cs := cs.dropWhile Text.isBlank
  let digits := cs.takeWhile Char.isDigit
  let n := Nat.ofDigitChars 10 digits 0
  if digits.isEmpty || n ≥ UInt32.size then none
  else some (n, (f.skip (cs.drop digits.length)).dropWhile Text.isBlank)

def readBounds (f : Flags) (cs : List Char) : Option (Nat × Option Nat × List Char) :=
  let close (least : Nat) (most : Option Nat) (cs : List Char) :=
    match cs with
    | '}' :: rest =>
      if most.all (least ≤ ·) then
        match f.skip rest with
        | '?' :: after => some (least, most, after)
        | after => some (least, most, after)
      else none
    | _ => none
  match readCount f (f.skip cs) with
  | none => none
  | some (least, ',' :: rest) =>
    match f.skip rest with
    | '}' :: _ => close least none (f.skip rest)
    | rest =>
      match readCount f rest with
      | some (most, rest) => close least (some most) rest
      | none => none
  | some (least, rest) => close least (some least) rest

def readGroupName (cs : List Char) : Option (List Char × List Char) :=
  let name := cs.takeWhile (· != '>')
  let first (c : Char) := c == '_' || Text.isAlphabetic c.toNat
  let later (c : Char) :=
    first c || c == '.' || c == '[' || c == ']' || Text.digitRanges.has c.toNat
  match name, cs.drop name.length with
  | c :: rest, '>' :: after => if first c && rest.all later then some (name, after) else none
  | _, _ => none

def readFlags (on : Bool) (seen : List Char) (f : Flags) :
    List Char → Option (Flags × List Char × List Char)
  | [] => none
  | c :: rest =>
    if c = ')' ∨ c = ':' then
      if seen.head? = some '-' then none else some (f, seen, c :: rest)
    else if seen.contains c then none
    else if c = '-' then readFlags false ('-' :: seen) f rest
    else
      match f.set? c on with
      | some f => readFlags on (c :: seen) f rest
      | none => none

structure OpenGroup where
  flags : Flags
  branches : List Pattern
  items : List (Option Pattern)

/-- Where the reading stands. The branches and items of the innermost group come last first; an
item without a pattern is a change of modes, which cannot be repeated. -/
structure Progress where
  outer : List OpenGroup
  names : List (List Char)
  flags : Flags
  branches : List Pattern
  items : List (Option Pattern)

namespace Progress

def add (g : Progress) (p : Pattern) : Progress := { g with items := some p :: g.items }

def branch (g : Progress) : Pattern :=
  (g.items.filterMap id).foldl (fun behind p =>
    match behind with
    | .empty => p
    | behind => .seq p behind) .empty

def whole (g : Progress) : Pattern := g.branches.foldl (fun behind p => .alt p behind) g.branch

def nextBranch (g : Progress) : Progress :=
  { g with branches := g.branch :: g.branches, items := [] }

def enter (g : Progress) (f : Flags) : Option Progress :=
  if g.outer.length ≥ 250 then none
  else some ⟨⟨g.flags, g.branches, g.items⟩ :: g.outer, g.names, f, [], []⟩

def leave (g : Progress) : Option Progress :=
  match g.outer with
  | [] => none
  | o :: outer => some ⟨outer, g.names, o.flags, o.branches, some g.whole :: o.items⟩

def repeatLast (g : Progress) (least : Nat) (most : Option Nat) : Option Progress :=
  match g.items with
  | some p :: items => some { g with items := some (.repeat p least most) :: items }
  | _ => none

def openGroup (g : Progress) (cs : List Char) : Option (Progress × List Char) :=
  let named (rest : List Char) : Option (Progress × List Char) :=
    match readGroupName rest with
    | some (name, after) =>
      if g.names.contains name then none
      else ({ g with names := name :: g.names }.enter g.flags).map (·, after)
    | none => none
  match g.flags.skip cs with
  | '?' :: '=' :: _ => none
  | '?' :: '!' :: _ => none
  | '?' :: '<' :: '=' :: _ => none
  | '?' :: '<' :: '!' :: _ => none
  | '?' :: 'P' :: '<' :: rest => named rest
  | '?' :: '<' :: rest => named rest
  | '?' :: rest =>
    match readFlags true [] g.flags rest with
    | some (f, seen, ')' :: after) =>
      if seen.isEmpty then none else some ({ g with flags := f, items := none :: g.items }, after)
    | some (f, _, _ :: after) => (g.enter f).map (·, after)
    | _ => none
  | rest => (g.enter g.flags).map (·, rest)

def repeatBySign (g : Progress) (least : Nat) (most : Option Nat) (rest : List Char) :
    Option (Progress × List Char) :=
  (g.repeatLast least most).map fun g =>
    match rest with
    | '?' :: after => (g, after)
    | after => (g, after)

def literal (f : Flags) (c : Char) : Pattern := .char (f.fold (.single c))

def dot? (f : Flags) : Option Pattern :=
  if !f.unicode then none
  else if f.dotMatchesAll then some (.char (.complement .none))
  else if f.mixedLines then some (.char (.complement (.ranges [(0x0A, 0x0A), (0x0D, 0x0D)])))
  else some (.char (.complement (.single '\n')))

def caret (f : Flags) : Assertion :=
  if !f.multiLine then .textStart else if f.mixedLines then .mixedLineStart else .lineStart

def dollar (f : Flags) : Assertion :=
  if !f.multiLine then .textEnd else if f.mixedLines then .mixedLineEnd else .lineEnd

def ofPrimitive (f : Flags) : Primitive → Pattern
  | .literal c => literal f c
  | .cls members => .char members
  | .assertion a => .assert a

def step (g : Progress) (c : Char) (rest : List Char) : Option (Progress × List Char) :=
  match c with
  | '(' => g.openGroup rest
  | ')' => g.leave.map (·, rest)
  | '|' => some (g.nextBranch, rest)
  | '[' =>
    match openBracket g.flags rest with
    | some (b, after) =>
      (readClass g.flags (after.length + 1) [] b after).map fun (cls, after) =>
        (g.add (.char cls), after)
    | none => none
  | '?' => g.repeatBySign 0 (some 1) rest
  | '*' => g.repeatBySign 0 none rest
  | '+' => g.repeatBySign 1 none rest
  | '{' =>
    match readBounds g.flags rest with
    | some (least, most, after) => (g.repeatLast least most).map (·, after)
    | none => none
  | '\\' => (readEscape g.flags rest).map fun (p, after) => (g.add (ofPrimitive g.flags p), after)
  | '.' => (dot? g.flags).map fun p => (g.add p, rest)
  | '^' => some (g.add (.assert (caret g.flags)), rest)
  | '$' => some (g.add (.assert (dollar g.flags)), rest)
  | c => some (g.add (literal g.flags c), rest)

def run : Nat → Progress → List Char → Option Pattern
  | 0, _, _ => none
  | fuel + 1, g, cs =>
    match g.flags.skip cs with
    | [] => if g.outer.isEmpty then some g.whole else none
    | c :: rest =>
      match g.step c rest with
      | some (g, after) => run fuel g after
      | none => none

end Progress

def CharClass.weight : CharClass → Nat
  | .none => 0
  | .ranges rs => 32 * rs.length
  | .digit => 4000
  | .blank => 600
  | .word | .alphabetic => 46000
  | .union a b | .intersection a b => a.weight + b.weight
  | .complement a => a.weight + 300
  | .folded a | .asciiFolded a => a.weight

/-- The size of the machine that a pattern stands for, in bytes. -/
def Pattern.weight : Pattern → Nat
  | .empty => 0
  | .char cls => cls.weight
  | .assert _ => 32
  | .seq a b => a.weight + b.weight
  | .alt a b => a.weight + b.weight + 64
  | .repeat p least most => (p.weight + 32) * max 1 (most.getD (least + 1))

def Pattern.ofText? (ignoreCase : Bool) (text : String) : Option Pattern :=
  let cs := text.toList
  match Progress.run (cs.length + 1) ⟨[], [], .initial ignoreCase, [], []⟩ cs with
  | some p => if p.weight ≤ 10485760 then some p else none
  | none => none

end TimelineFilter.Regex
