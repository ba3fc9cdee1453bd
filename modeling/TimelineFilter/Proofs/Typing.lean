import TimelineFilter.Meaning

namespace TimelineFilter

namespace ValueType

/-- Sets, and the references to users that stand for sets where one is needed. -/
def IsGroup : ValueType → Prop
  | .set | .user => True
  | _ => False

def Comparable : ValueType → ValueType → Prop
  | .boolean, .boolean | .numeric, .numeric | .text, .text => True
  | .user, .numeric | .numeric, .user => True
  | a, b => a.IsGroup ∧ b.IsGroup

def Holds : ValueType → ValueType → Prop
  | .text, .text => True
  | container, item => container.IsGroup ∧ (item = .numeric ∨ item.IsGroup)

end ValueType

/-- The table of operators: the types of both operands and of the result. -/
def BinaryOp.Typed (op : BinaryOp) (a b result : ValueType) : Prop :=
  match op with
  | .and | .or => a = .boolean ∧ b = .boolean ∧ result = .boolean
  | .equals | .notEquals => a.Comparable b ∧ result = .boolean
  | .less | .lessOrEqual | .greater | .greaterOrEqual =>
    a = .numeric ∧ b = .numeric ∧ result = .boolean
  | .contains => a.Holds b ∧ result = .boolean
  | .containedIn => b.Holds a ∧ result = .boolean
  | .startsWith | .endsWith | .regex => a = .text ∧ b = .text ∧ result = .boolean
  | .add =>
    (a = .text ∧ b = .text ∧ result = .text) ∨ (a = .numeric ∧ b = .numeric ∧ result = .numeric)
  | .subtract | .multiply | .divide => a = .numeric ∧ b = .numeric ∧ result = .numeric

theorem BinaryOp.Typed.unique {op : BinaryOp} {a b t t' : ValueType} (first : op.Typed a b t)
    (second : op.Typed a b t') : t = t' := by
  cases op with
  | equals | notEquals | contains | containedIn => exact first.2.trans second.2.symm
  | add =>
    obtain ⟨rfl, rfl, rfl⟩ | ⟨rfl, rfl, rfl⟩ := first
    · obtain ⟨-, -, rfl⟩ | ⟨impossible, -⟩ := second
      · rfl
      · cases impossible
    · obtain ⟨impossible, -⟩ | ⟨-, -, rfl⟩ := second
      · cases impossible
      · rfl
  | _ => exact first.2.2.trans second.2.2.symm

def UserField.type : UserField → ValueType
  | .isProtected | .isVerified | .isTranslator | .contributorsEnabled | .geoEnabled => .boolean
  | .id | .statuses | .following | .followers | .favorites | .listed => .numeric
  | .screenName | .name | .bio | .location | .language => .text

def StatusField.type : StatusField → ValueType
  | .directMessage | .retweet | .media | .muted => .boolean
  | .inReplyTo | .id => .numeric
  | .text | .client => .text
  | .mentions | .favoriters | .retweeters => .set

def Value.type : Value → ValueType
  | .text _ => .text
  | .number _ => .numeric
  | .account _ | .person _ => .user
  | .relation _ _ | .list _ _ => .set
  | .personField _ f => f.type
  | .field f => f.type

/-- Members of set literals are numbers and references to users. -/
def Value.isMember (v : Value) : Bool := v.type = .numeric || v.type = .user

/-- What the values of a type are. A reference to users is known by the ids that it may stand
for. -/
def ValueType.Carrier : ValueType → Type
  | .boolean => Bool
  | .numeric => Int64
  | .text => String
  | .set => IdSet
  | .user => List Int64

namespace TypedMeaning

def ofType : (t : ValueType) → Meaning t.Carrier → TypedMeaning
  | .boolean => .boolean
  | .numeric => .numeric
  | .text => .text
  | .set => .set
  | .user => .user

theorem exists_ofType {d : TypedMeaning} {t : ValueType} (type : d.type = t) :
    ∃ f, d = ofType t f := by
  subst type
  cases d <;> exact ⟨_, rfl⟩

theorem ofValue_type (v : Value) : (ofValue v).type = v.type := by
  cases v with
  | personField who f => cases f <;> rfl
  | field f => cases f <;> rfl
  | _ => rfl

theorem asMember?_isSome (v : Value) : (ofValue v).asMember?.isSome = v.isMember := by
  rw [Value.isMember, ← ofValue_type]
  cases ofValue v <;> rfl

/-- Applying an operator succeeds with a result of this type. -/
def Yields (result : Option TypedMeaning) (t : ValueType) : Prop :=
  ∃ d, result = some d ∧ d.type = t

variable {a b : TypedMeaning} {t : ValueType}

theorem yields_boolean {test : Option (Meaning Bool)} (make : Meaning Bool → Meaning Bool) :
    Yields (test.map fun f => .boolean (make f)) t ↔ test.isSome = true ∧ t = .boolean := by
  cases test with
  | none => simp [Yields]
  | some f => simp [Yields, type, eq_comm]

theorem logical_yields {test : Bool → Bool → Bool} :
    Yields (logical test a b) t ↔ a.type = .boolean ∧ b.type = .boolean ∧ t = .boolean := by
  cases a <;> cases b <;> simp [Yields, logical, type, eq_comm]

theorem comparison_yields {test : Int64 → Int64 → Bool} :
    Yields (comparison test a b) t ↔ a.type = .numeric ∧ b.type = .numeric ∧ t = .boolean := by
  cases a <;> cases b <;> simp [Yields, comparison, type, eq_comm]

theorem arithmetic_yields {op : Int64 → Int64 → Int64} :
    Yields (arithmetic op a b) t ↔ a.type = .numeric ∧ b.type = .numeric ∧ t = .numeric := by
  cases a <;> cases b <;> simp [Yields, arithmetic, type, eq_comm]

theorem matching_yields {test : List Char → List Char → Bool} {caseful : Bool} :
    Yields (matching test caseful a b) t ↔ a.type = .text ∧ b.type = .text ∧ t = .boolean := by
  cases a <;> cases b <;> simp [Yields, matching, type, eq_comm]

theorem sum_yields :
    Yields (TypedMeaning.sum a b) t ↔
      (a.type = .text ∧ b.type = .text ∧ t = .text) ∨
        (a.type = .numeric ∧ b.type = .numeric ∧ t = .numeric) := by
  cases a <;> cases b <;> simp [Yields, TypedMeaning.sum, arithmetic, type, eq_comm]

theorem equality_isSome {caseful : Bool} :
    (equality caseful a b).isSome = true ↔ a.type.Comparable b.type := by
  cases a <;> cases b <;>
    simp [equality, asSet?, type, ValueType.Comparable, ValueType.IsGroup]

theorem containment_isSome {caseful : Bool} :
    (containment caseful a b).isSome = true ↔ a.type.Holds b.type := by
  cases a <;> cases b <;>
    simp [containment, asSet?, type, ValueType.Holds, ValueType.IsGroup]

section

variable [Regex.Engine]

theorem dynamicSearch_yields {caseful : Bool} :
    Yields (dynamicSearch caseful a b) t ↔ a.type = .text ∧ b.type = .text ∧ t = .boolean := by
  cases a <;> cases b <;> simp [Yields, dynamicSearch, type, eq_comm]

theorem apply_yields {op : BinaryOp} (caseful : Bool) :
    Yields (apply op caseful a b) t ↔ op.Typed a.type b.type t := by
  cases op with
  | or | and => exact logical_yields
  | less | lessOrEqual | greater | greaterOrEqual =>
    unfold apply
    exact comparison_yields
  | startsWith | endsWith => exact matching_yields
  | regex => exact dynamicSearch_yields
  | add => exact sum_yields
  | subtract | multiply | divide => exact arithmetic_yields
  | equals =>
    rw [BinaryOp.Typed, ← equality_isSome]
    exact yields_boolean fun f => f
  | notEquals =>
    rw [BinaryOp.Typed, ← equality_isSome]
    exact yields_boolean _
  | contains =>
    rw [BinaryOp.Typed, ← containment_isSome]
    exact yields_boolean fun f => f
  | containedIn =>
    rw [BinaryOp.Typed, ← containment_isSome]
    exact yields_boolean fun f => f

theorem constantSearch_yields {caseful : Bool} {pattern : String} :
    (∃ d, constantSearch caseful pattern a b = .ok d ∧ d.type = t) ↔
      a.type = .text ∧ Regex.Accepts (!caseful) pattern ∧ t = .boolean := by
  cases a with
  | text f =>
    unfold constantSearch Regex.Accepts
    cases Regex.Engine.read (!caseful) pattern with
    | error reason => simp
    | ok test => simp [type, eq_comm]
  | _ => simp [constantSearch, type]

theorem constantSearch_error {caseful : Bool} {pattern : String} {p : Problem} :
    constantSearch caseful pattern a b = .error p ↔
      (a.type ≠ .text ∧ p = .mismatch .regex a.type b.type) ∨
        (a.type = .text ∧ ∃ reason, Regex.Engine.read (!caseful) pattern = .error reason ∧
          p = .invalidPattern pattern reason) := by
  cases a with
  | text f =>
    unfold constantSearch
    cases Regex.Engine.read (!caseful) pattern with
    | error reason => simp [type, eq_comm]
    | ok test => simp [type]
  | _ => simp [constantSearch, type, eq_comm]

theorem ofBinary_yields {op : BinaryOp} {caseful : Bool} {constant : Option String}
    (texts : ∀ pattern, constant = some pattern → b.type = .text) :
    (∃ d, ofBinary op caseful constant a b = .ok d ∧ d.type = t) ↔
      op.Typed a.type b.type t ∧ (op = .regex → ∀ pattern, constant = some pattern →
        Regex.Accepts (!caseful) pattern) := by
  unfold ofBinary
  split
  · rename_i pattern
    rw [constantSearch_yields]
    constructor
    · rintro ⟨text, valid, rfl⟩
      refine ⟨⟨text, texts pattern rfl, rfl⟩, ?_⟩
      rintro - _ same
      cases same
      exact valid
    · rintro ⟨⟨text, -, rfl⟩, valid⟩
      exact ⟨text, valid rfl pattern rfl, rfl⟩
  · rename_i other
    have searched : op = .regex → ∀ pattern, constant = some pattern →
        Regex.Accepts (!caseful) pattern :=
      fun regex pattern same => (other pattern regex same).elim
    rw [← apply_yields caseful]
    unfold Yields
    cases apply op caseful a b with
    | none => simp
    | some d => simpa using fun _ => searched

theorem ofBinary_error {op : BinaryOp} {caseful : Bool} {constant : Option String} {p : Problem}
    (texts : ∀ pattern, constant = some pattern → b.type = .text)
    (failed : ofBinary op caseful constant a b = .error p) :
    (p = .mismatch op a.type b.type ∧ ∀ t, ¬ op.Typed a.type b.type t) ∨
      (op = .regex ∧ ∃ pattern reason, constant = some pattern ∧ a.type = .text ∧
        Regex.Engine.read (!caseful) pattern = .error reason ∧
        p = .invalidPattern pattern reason) := by
  unfold ofBinary at failed
  split at failed
  · rename_i pattern
    rcases constantSearch_error.1 failed with ⟨other, rfl⟩ | ⟨text, reason, invalid, rfl⟩
    · exact .inl ⟨rfl, fun t typed => other typed.1⟩
    · exact .inr ⟨rfl, pattern, reason, rfl, text, invalid, rfl⟩
  · split at failed
    · cases failed
    · rename_i refused
      cases failed
      refine .inl ⟨rfl, ?_⟩
      intro t typed
      obtain ⟨d, found, -⟩ := (apply_yields caseful).2 typed
      rw [refused] at found
      cases found

end

theorem ofMembers_ok {vs : List Value} {f : Meaning (List Int64)} (found : ofMembers vs = .ok f) :
    ∀ v ∈ vs, v.isMember = true := by
  induction vs generalizing f with
  | nil => simp
  | cons v vs ih =>
    unfold ofMembers at found
    split at found
    · cases found
    · rename_i member
      split at found
      · cases found
      · rename_i others
        intro u mem
        rcases List.mem_cons.1 mem with rfl | mem
        · rw [← asMember?_isSome, member]
          rfl
        · exact ih others u mem

theorem ofMembers_error {vs : List Value} {p : Problem} (failed : ofMembers vs = .error p) :
    ∃ v, vs.find? (!·.isMember) = some v ∧ p = .invalidMember v := by
  induction vs with
  | nil => cases failed
  | cons v vs ih =>
    unfold ofMembers at failed
    split at failed
    · rename_i bad
      cases failed
      have other : v.isMember = false := by rw [← asMember?_isSome, bad]; rfl
      exact ⟨v, by simp [other], rfl⟩
    · rename_i member
      have known : v.isMember = true := by rw [← asMember?_isSome, member]; rfl
      split at failed
      · rename_i others
        cases failed
        obtain ⟨u, first, rfl⟩ := ih others
        exact ⟨u, by simp [known, first], rfl⟩
      · cases failed

end TypedMeaning

end TimelineFilter
