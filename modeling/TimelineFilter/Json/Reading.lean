import TimelineFilter.Json.Piece

/-!
What was read of a JSON text: a tree that also shows where reading failed. A user of the tree who
goes through it in order meets the first failure where the text has it, so a wrong value in front
of a broken place is found before that place.
-/
namespace TimelineFilter.Json

/-- What was read of a value. An array or object either ends or stops for a reason. -/
inductive Reading
  | null
  | bool (b : Bool)
  | whole (n : Int)
  | real (x : Double)
  | text (t : String)
  | void (why : Malformed)
  | broken (why : Malformed)
  | array (items : List Reading) (ending : Option Malformed)
  | object (members : List (Except Malformed String × Reading)) (ending : Option Malformed)

namespace Reading

/-- Pieces that are left, at most as many as before. -/
abbrev Behind (ps : List Piece) := { rest : List Piece // rest.length ≤ ps.length }

def Behind.all (ps : List Piece) : Behind ps := ⟨ps, Nat.le_refl _⟩

def Behind.nothing {ps : List Piece} : Behind ps := ⟨[], Nat.zero_le _⟩

/-- Values read one after another, the reason why they stop without an end, and the pieces left. -/
structure Series (α : Type) (ps : List Piece) where
  values : List α
  ending : Option Malformed
  behind : Behind ps

def Series.stop {α : Type} {ps : List Piece} (why : Malformed) : Series α ps :=
  ⟨[], some why, .nothing⟩

def Series.cons {α : Type} {ps qs : List Piece} (a : α) (s : Series α qs)
    (fewer : qs.length ≤ ps.length) : Series α ps :=
  ⟨a :: s.values, s.ending, ⟨s.behind.1, Nat.le_trans s.behind.2 fewer⟩⟩

/-- The name of a member, or why it cannot be read. A name with half a surrogate pair has the form
of a name. -/
def keyOf : Piece → Except Malformed (Except Malformed String)
  | .text t => .ok (.ok t)
  | .void why => if why.inText then .ok (.error why) else .error .keyNotText
  | .broken why => .error (if why.inText then why else .keyNotText)
  | _ => .error .keyNotText

mutual

def readValue (p : Piece) (rest : List Piece) : Reading × Behind rest :=
  match p with
  | .null => (.null, .all rest)
  | .bool b => (.bool b, .all rest)
  | .whole n => (.whole n, .all rest)
  | .real x => (.real x, .all rest)
  | .text t => (.text t, .all rest)
  | .void why => (.void why, .all rest)
  | .broken why => (.broken why, .nothing)
  | .openArray =>
    let s := readItems rest
    (.array s.values s.ending, s.behind)
  | .openObject =>
    let s := readMembers rest
    (.object s.values s.ending, s.behind)
  | .comma | .colon | .closeArray | .closeObject => (.broken .expectedValue, .nothing)
termination_by (rest.length, 1)

def readItems (ps : List Piece) : Series Reading ps :=
  match ps with
  | [] => .stop .endInArray
  | .closeArray :: rest => ⟨[], none, ⟨rest, Nat.le_succ _⟩⟩
  | p :: rest =>
    match readValue p rest with
    | (v, ⟨after, fewer⟩) => .cons v (moreItems after) (Nat.le_succ_of_le fewer)
termination_by (ps.length, 0)

def moreItems (ps : List Piece) : Series Reading ps :=
  match ps with
  | [] => .stop .endInArray
  | .closeArray :: rest => ⟨[], none, ⟨rest, Nat.le_succ _⟩⟩
  | [.comma] => .stop .endInValue
  | .comma :: .closeArray :: _ => .stop .trailingComma
  | .comma :: p :: rest =>
    match readValue p rest with
    | (v, ⟨after, fewer⟩) =>
      .cons v (moreItems after) (Nat.le_succ_of_le (Nat.le_succ_of_le fewer))
  | _ => .stop .expectedArrayCommaOrEnd
termination_by (ps.length, 0)

def readMember (ps : List Piece) : Reading × Behind ps :=
  match ps with
  | [] => (.broken .endInObject, .nothing)
  | [.colon] => (.broken .endInValue, .nothing)
  | .colon :: p :: rest =>
    match readValue p rest with
    | (v, ⟨after, fewer⟩) => (v, ⟨after, Nat.le_succ_of_le (Nat.le_succ_of_le fewer)⟩)
  | _ => (.broken .expectedColon, .nothing)
termination_by (ps.length, 0)

def readMembers (ps : List Piece) : Series (Except Malformed String × Reading) ps :=
  match ps with
  | [] => .stop .endInObject
  | .closeObject :: rest => ⟨[], none, ⟨rest, Nat.le_succ _⟩⟩
  | p :: rest =>
    match keyOf p with
    | .error why => .stop why
    | .ok key =>
      match readMember rest with
      | (v, ⟨after, fewer⟩) => .cons (key, v) (moreMembers after) (Nat.le_succ_of_le fewer)
termination_by (ps.length, 0)

def moreMembers (ps : List Piece) : Series (Except Malformed String × Reading) ps :=
  match ps with
  | [] => .stop .endInObject
  | .closeObject :: rest => ⟨[], none, ⟨rest, Nat.le_succ _⟩⟩
  | [.comma] => .stop .endInValue
  | .comma :: .closeObject :: _ => .stop .trailingComma
  | .comma :: p :: rest =>
    match keyOf p with
    | .error why => .stop why
    | .ok key =>
      match readMember rest with
      | (v, ⟨after, fewer⟩) =>
        .cons (key, v) (moreMembers after) (Nat.le_succ_of_le (Nat.le_succ_of_le fewer))
  | _ => .stop .expectedObjectCommaOrEnd
termination_by (ps.length, 0)

end

def ofText (text : String) : Reading × Bool :=
  match pieces text.toList with
  | [] => (.broken .endInValue, false)
  | p :: rest =>
    let (r, after) := readValue p rest
    (r, !after.1.isEmpty)

mutual

/-- Passes over a value of which only the form matters. Names and numbers need no value, and where
something has to follow a comma, that is what is missed. -/
def skip : Reading → Except Malformed Unit
  | .broken why => .error why
  | .array items ending =>
    match skipItems items with
    | .error why => .error why
    | .ok () =>
      match ending with
      | none => .ok ()
      | some .trailingComma => .error .expectedValue
      | some why => .error why
  | .object members ending =>
    match skipMembers members with
    | .error why => .error why
    | .ok () =>
      match ending with
      | none => .ok ()
      | some .trailingComma => .error .keyNotText
      | some .endInValue => .error .endInObject
      | some why => .error why
  | _ => .ok ()

def skipItems : List Reading → Except Malformed Unit
  | [] => .ok ()
  | item :: rest =>
    match skip item with
    | .error why => .error why
    | .ok () => skipItems rest

def skipMembers : List (Except Malformed String × Reading) → Except Malformed Unit
  | [] => .ok ()
  | (_, value) :: rest =>
    match skip value with
    | .error why => .error why
    | .ok () => skipMembers rest

end

end Reading

end TimelineFilter.Json
