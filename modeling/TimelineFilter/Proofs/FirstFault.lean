import TimelineFilter.Proofs.Typing

/-! Which trees have a meaning, and which problem is reported for the others: that of the first
node, operands before their operator, that offends. What the meanings of well-typed trees compute
is not looked at. -/
namespace TimelineFilter.Predicate

inductive HasType : Predicate → ValueType → Prop
  | binary {op : BinaryOp} {left right : Predicate} {a b t : ValueType}
      (first : HasType left a) (second : HasType right b) (typed : op.Typed a b t) :
      HasType (.binary op left right) t
  | not {operand : Predicate} (inner : HasType operand .boolean) :
      HasType (.unary .not operand) .boolean
  | negate {operand : Predicate} (inner : HasType operand .numeric) :
      HasType (.unary .negate operand) .numeric
  | caseful {operand : Predicate} {t : ValueType} (inner : HasType operand t) :
      HasType (.unary .caseful operand) t
  | always : HasType .always .boolean
  | bracket {p : Predicate} {t : ValueType} (inner : HasType p t) : HasType (.bracket p) t
  | set {vs : List Value} (members : ∀ v ∈ vs, v.isMember = true) : HasType (.set vs) .set
  | value {v : Value} : HasType (.value v) v.type

/-- Case counts at an operator under `caseful`, or with `caseful` in one of its operands. -/
def casefulAt (caseful : Bool) (left right : Predicate) : Bool :=
  caseful || left.mentionsCaseful || right.mentionsCaseful

/-- The nodes of a tree, operands before their operator, each with whether case counts there. -/
def postOrder (caseful : Bool) : Predicate → List (Bool × Predicate)
  | .binary op left right =>
    left.postOrder caseful ++ right.postOrder caseful ++ [(caseful, .binary op left right)]
  | .unary op operand =>
    operand.postOrder (caseful || op == .caseful) ++ [(caseful, .unary op operand)]
  | .bracket inner => inner.postOrder caseful ++ [(caseful, .bracket inner)]
  | p => [(caseful, p)]

theorem HasType.unique {p : Predicate} {a b : ValueType} (first : HasType p a)
    (second : HasType p b) : a = b := by
  induction first generalizing b with
  | binary left right typed ih ih' =>
    cases second with
    | binary left' right' typed' =>
      obtain rfl := ih left'
      obtain rfl := ih' right'
      exact typed.unique typed'
  | not => cases second; rfl
  | negate => cases second; rfl
  | caseful _ ih =>
    cases second with
    | caseful inner => exact ih inner
  | always => cases second; rfl
  | bracket _ ih =>
    cases second with
    | bracket inner => exact ih inner
  | set => cases second; rfl
  | value => cases second; rfl

theorem HasType.constant {p : Predicate} {a : ValueType} {text : String} (typed : HasType p a)
    (constant : p.constantText? = some text) : a = .text := by
  induction typed with
  | caseful _ ih => exact ih constant
  | bracket _ ih => exact ih constant
  | @value v =>
    cases v with
    | text => rfl
    | _ => cases constant
  | _ => cases constant

theorem find?_of_members {vs : List Value} (members : ∀ v ∈ vs, v.isMember = true) :
    vs.find? (!·.isMember) = none :=
  List.find?_eq_none.2 fun v mem => by simp [members v mem]

theorem ofUnary_ok {op : UnaryOp} {operand : Predicate} {a d : TypedMeaning}
    (typed : HasType operand a.type) (found : TypedMeaning.ofUnary op a = .ok d) :
    HasType (.unary op operand) d.type := by
  cases op with
  | caseful =>
    cases found
    exact .caseful typed
  | not =>
    cases a with
    | boolean =>
      cases found
      exact .not typed
    | _ => cases found
  | negate =>
    cases a with
    | numeric =>
      cases found
      exact .negate typed
    | _ => cases found

variable [Regex.Engine]

/-- A constant pattern is one that the engine accepts. -/
def PatternReads (caseful : Bool) (op : BinaryOp) (left right : Predicate) : Prop :=
  op = .regex → ∀ pattern, right.constantText? = some pattern →
    Regex.Accepts (!casefulAt caseful left right) pattern

def PatternsRead (caseful : Bool) : Predicate → Prop
  | .binary op left right =>
    left.PatternsRead caseful ∧ right.PatternsRead caseful ∧ PatternReads caseful op left right
  | .unary op operand => operand.PatternsRead (caseful || op == .caseful)
  | .bracket inner => inner.PatternsRead caseful
  | _ => True

/-- The problem with a node whose operands are well-typed. -/
inductive Fault (caseful : Bool) : Predicate → Problem → Prop
  | mismatch {op : BinaryOp} {left right : Predicate} {a b : ValueType} (first : HasType left a)
      (second : HasType right b) (untyped : ∀ t, ¬ op.Typed a b t) :
      Fault caseful (.binary op left right) (.mismatch op a b)
  | pattern {left right : Predicate} {pattern reason : String} (first : HasType left .text)
      (second : HasType right .text) (constant : right.constantText? = some pattern)
      (invalid : Regex.Engine.read (!casefulAt caseful left right) pattern = .error reason) :
      Fault caseful (.binary .regex left right) (.invalidPattern pattern reason)
  | not {operand : Predicate} {a : ValueType} (inner : HasType operand a) (other : a ≠ .boolean) :
      Fault caseful (.unary .not operand) (.wrongType .boolean a)
  | negate {operand : Predicate} {a : ValueType} (inner : HasType operand a)
      (other : a ≠ .numeric) : Fault caseful (.unary .negate operand) (.wrongType .numeric a)
  | member {vs : List Value} {v : Value} (first : vs.find? (!·.isMember) = some v) :
      Fault caseful (.set vs) (.invalidMember v)

def Offends (node : Bool × Predicate) : Prop := ∃ problem, Fault node.1 node.2 problem

inductive FirstFault : List (Bool × Predicate) → Problem → Prop
  | here {node : Bool × Predicate} {rest : List (Bool × Predicate)} {problem : Problem}
      (fault : Fault node.1 node.2 problem) : FirstFault (node :: rest) problem
  | later {node : Bool × Predicate} {rest : List (Bool × Predicate)} {problem : Problem}
      (sound : ¬ Offends node) (first : FirstFault rest problem) :
      FirstFault (node :: rest) problem

/-- The problem of a tree: that of its first node that offends, or else that of a root that is no
condition. -/
inductive Complaint (p : Predicate) : Problem → Prop
  | node {problem : Problem} (first : FirstFault (p.postOrder false) problem) :
      Complaint p problem
  | root {a : ValueType} (none : ∀ m ∈ p.postOrder false, ¬ Offends m) (typed : HasType p a)
      (other : a ≠ .boolean) : Complaint p (.wrongType .boolean a)

theorem not_offends_binary {caseful : Bool} {op : BinaryOp} {left right : Predicate}
    {a b t : ValueType} (first : HasType left a) (second : HasType right b)
    (typed : op.Typed a b t) (reads : PatternReads caseful op left right) :
    ¬ Offends (caseful, .binary op left right) := by
  rintro ⟨problem, fault⟩
  cases fault with
  | mismatch first' second' untyped =>
    obtain rfl := first.unique first'
    obtain rfl := second.unique second'
    exact untyped t typed
  | pattern _ _ constant invalid => exact (reads rfl _ constant).not_error invalid

theorem not_offends_unary {caseful : Bool} {op : UnaryOp} {operand : Predicate} {t : ValueType}
    (typed : HasType (.unary op operand) t) : ¬ Offends (caseful, .unary op operand) := by
  rintro ⟨problem, fault⟩
  cases typed with
  | not inner =>
    cases fault with
    | not inner' other => exact other (inner'.unique inner)
  | negate inner =>
    cases fault with
    | negate inner' other => exact other (inner'.unique inner)
  | caseful => cases fault

theorem not_offends_set {caseful : Bool} {vs : List Value} (members : ∀ v ∈ vs, v.isMember = true) :
    ¬ Offends (caseful, .set vs) := by
  rintro ⟨problem, fault⟩
  cases fault with
  | member first =>
    rw [find?_of_members members] at first
    cases first

theorem ofUnary_error {caseful : Bool} {op : UnaryOp} {operand : Predicate} {a : TypedMeaning}
    {p : Problem} (typed : HasType operand a.type)
    (failed : TypedMeaning.ofUnary op a = .error p) : Fault caseful (.unary op operand) p := by
  cases op with
  | caseful => cases failed
  | not =>
    cases a with
    | boolean => cases failed
    | _ =>
      cases failed
      exact .not typed (by simp [TypedMeaning.type])
  | negate =>
    cases a with
    | numeric => cases failed
    | _ =>
      cases failed
      exact .negate typed (by simp [TypedMeaning.type])

theorem not_offends_leaf {caseful : Bool} {p : Predicate}
    (leaf : ∀ problem, ¬ Fault caseful p problem) : ∀ m ∈ [(caseful, p)], ¬ Offends m :=
  List.forall_mem_singleton.2 fun ⟨problem, fault⟩ => leaf problem fault

theorem sound_unary {caseful : Bool} {op : UnaryOp} {operand : Predicate} {t : ValueType}
    (typed : HasType (.unary op operand) t)
    (inside : ∀ m ∈ operand.postOrder (caseful || op == .caseful), ¬ Offends m) :
    ∀ m ∈ (Predicate.unary op operand).postOrder caseful, ¬ Offends m := by
  have root : ¬ Offends (caseful, .unary op operand) := not_offends_unary typed
  exact List.forall_mem_append.2 ⟨inside, List.forall_mem_singleton.2 root⟩

theorem HasType.sound {p : Predicate} {t : ValueType} {caseful : Bool} (typed : HasType p t)
    (reads : p.PatternsRead caseful) : ∀ m ∈ p.postOrder caseful, ¬ Offends m := by
  induction typed generalizing caseful with
  | binary first second known ih ih' =>
    obtain ⟨reads, reads', valid⟩ := reads
    have root := not_offends_binary first second known valid
    have operands := List.forall_mem_append.2 ⟨ih reads, ih' reads'⟩
    exact List.forall_mem_append.2 ⟨operands, List.forall_mem_singleton.2 root⟩
  | not inner ih => exact sound_unary (.not inner) (ih reads)
  | negate inner ih => exact sound_unary (.negate inner) (ih reads)
  | caseful inner ih => exact sound_unary (.caseful inner) (ih reads)
  | always => exact not_offends_leaf fun _ fault => by cases fault
  | bracket inner ih =>
    exact List.forall_mem_append.2 ⟨ih reads, not_offends_leaf fun _ fault => by cases fault⟩
  | set members => exact List.forall_mem_singleton.2 (not_offends_set members)
  | value => exact not_offends_leaf fun _ fault => by cases fault

theorem denote_ok {p : Predicate} {caseful : Bool} {d : TypedMeaning}
    (found : p.denote caseful = .ok d) : p.HasType d.type ∧ p.PatternsRead caseful := by
  induction p generalizing caseful d with
  | binary op left right ih ih' =>
    unfold denote at found
    split at found
    · cases found
    · rename_i a first
      split at found
      · cases found
      · rename_i b second
        obtain ⟨typed, reads⟩ := ih first
        obtain ⟨typed', reads'⟩ := ih' second
        obtain ⟨known, valid⟩ :=
          (TypedMeaning.ofBinary_yields fun _ constant => typed'.constant constant).1
            ⟨d, found, rfl⟩
        exact ⟨.binary typed typed' known, reads, reads', valid⟩
  | unary op operand ih =>
    unfold denote at found
    split at found
    · cases found
    · rename_i a inner
      obtain ⟨typed, reads⟩ := ih inner
      exact ⟨ofUnary_ok typed found, reads⟩
  | always =>
    cases found
    exact ⟨.always, trivial⟩
  | bracket inner ih =>
    obtain ⟨typed, reads⟩ := ih found
    exact ⟨.bracket typed, reads⟩
  | set vs =>
    unfold denote at found
    cases members : TypedMeaning.ofMembers vs with
    | error e => simp [members, Except.map] at found
    | ok f =>
      simp only [members, Except.map, Except.ok.injEq] at found
      subst found
      exact ⟨.set (TypedMeaning.ofMembers_ok members), trivial⟩
  | value v =>
    cases found
    rw [TypedMeaning.ofValue_type]
    exact ⟨.value, trivial⟩

section

variable {nodes others : List (Bool × Predicate)} {problem problem' : Problem}

theorem FirstFault.append (first : FirstFault nodes problem) (others : List (Bool × Predicate)) :
    FirstFault (nodes ++ others) problem := by
  induction first with
  | here fault => exact .here fault
  | later sound _ ih => exact .later sound ih

theorem FirstFault.behind (sound : ∀ m ∈ nodes, ¬ Offends m) (first : FirstFault others problem) :
    FirstFault (nodes ++ others) problem := by
  induction nodes with
  | nil => exact first
  | cons node nodes ih =>
    have rest := ih fun m mem => sound m (List.mem_cons_of_mem _ mem)
    exact .later (sound node List.mem_cons_self) rest

theorem FirstFault.offends (first : FirstFault nodes problem) : ∃ m ∈ nodes, Offends m := by
  induction first with
  | here fault => exact ⟨_, List.mem_cons_self, _, fault⟩
  | later _ _ ih =>
    obtain ⟨m, mem, offends⟩ := ih
    exact ⟨m, List.mem_cons_of_mem _ mem, offends⟩

theorem Fault.unique {caseful : Bool} {p : Predicate} (first : Fault caseful p problem)
    (second : Fault caseful p problem') : problem = problem' := by
  cases first with
  | mismatch left right untyped =>
    cases second with
    | mismatch left' right' =>
      obtain rfl := left.unique left'
      obtain rfl := right.unique right'
      rfl
    | pattern left' right' =>
      obtain rfl := left.unique left'
      obtain rfl := right.unique right'
      exact absurd ⟨rfl, rfl, rfl⟩ (untyped .boolean)
  | pattern left right constant invalid =>
    cases second with
    | mismatch left' right' untyped =>
      obtain rfl := left.unique left'
      obtain rfl := right.unique right'
      exact absurd ⟨rfl, rfl, rfl⟩ (untyped .boolean)
    | pattern _ _ constant' invalid' =>
      rw [constant] at constant'
      cases constant'
      rw [invalid] at invalid'
      cases invalid'
      rfl
  | not inner =>
    cases second with
    | not inner' => rw [inner.unique inner']
  | negate inner =>
    cases second with
    | negate inner' => rw [inner.unique inner']
  | member first =>
    cases second with
    | member first' =>
      rw [first] at first'
      cases first'
      rfl

theorem FirstFault.unique (first : FirstFault nodes problem)
    (second : FirstFault nodes problem') : problem = problem' := by
  induction first with
  | here fault =>
    cases second with
    | here fault' => exact fault.unique fault'
    | later sound => exact absurd ⟨_, fault⟩ sound
  | later sound _ ih =>
    cases second with
    | here fault' => exact absurd ⟨_, fault'⟩ sound
    | later _ second => exact ih second

end

theorem denote_error {p : Predicate} {caseful : Bool} {problem : Problem}
    (failed : p.denote caseful = .error problem) : FirstFault (p.postOrder caseful) problem := by
  induction p generalizing caseful problem with
  | binary op left right ih ih' =>
    unfold denote at failed
    split at failed
    · rename_i first
      cases failed
      exact ((ih first).append _).append _
    · rename_i a first
      -- The left operand has a meaning, so the first fault is behind all of its nodes.
      obtain ⟨typed, reads⟩ := denote_ok first
      split at failed
      · rename_i second
        cases failed
        exact ((ih' second).behind (typed.sound reads)).append _
      · rename_i b second
        obtain ⟨typed', reads'⟩ := denote_ok second
        have fault : Fault caseful (.binary op left right) problem := by
          obtain ⟨rfl, untyped⟩ | ⟨rfl, pattern, reason, constant, text, invalid, rfl⟩ :=
            TypedMeaning.ofBinary_error (fun _ constant => typed'.constant constant) failed
          · exact .mismatch typed typed' untyped
          · have texts := typed'.constant constant
            exact .pattern (text ▸ typed) (texts ▸ typed') constant invalid
        have operands := List.forall_mem_append.2 ⟨typed.sound reads, typed'.sound reads'⟩
        exact .behind operands (.here fault)
  | unary op operand ih =>
    unfold denote at failed
    split at failed
    · rename_i inner
      cases failed
      exact (ih inner).append _
    · rename_i a inner
      obtain ⟨typed, reads⟩ := denote_ok inner
      exact .behind (typed.sound reads) (.here (ofUnary_error typed failed))
  | always => cases failed
  | bracket inner ih => exact (ih failed).append _
  | set vs =>
    unfold denote at failed
    cases members : TypedMeaning.ofMembers vs with
    | ok f => simp [members, Except.map] at failed
    | error e =>
      obtain rfl : e = problem := by simpa [members, Except.map] using failed
      obtain ⟨v, first, rfl⟩ := TypedMeaning.ofMembers_error members
      exact .here (.member first)
  | value v => cases failed

theorem denote_binary {op : BinaryOp} {left right : Predicate} {caseful : Bool}
    {a b : TypedMeaning} (first : left.denote caseful = .ok a)
    (second : right.denote caseful = .ok b) :
    (binary op left right).denote caseful =
      TypedMeaning.ofBinary op (casefulAt caseful left right) right.constantText? a b := by
  rw [denote, first, second]
  rfl

theorem denote_complete {p : Predicate} {t : ValueType} {caseful : Bool} (typed : HasType p t)
    (reads : p.PatternsRead caseful) : ∃ d, p.denote caseful = .ok d ∧ d.type = t := by
  induction typed generalizing caseful with
  | @binary op left right a b t first second known ih ih' =>
    obtain ⟨left_, right_, valid⟩ := reads
    obtain ⟨a, found, rfl⟩ := ih left_
    obtain ⟨b, found', rfl⟩ := ih' right_
    obtain ⟨d, whole, type⟩ :=
      (TypedMeaning.ofBinary_yields fun _ constant => second.constant constant).2 ⟨known, valid⟩
    exact ⟨d, (denote_binary found found').trans whole, type⟩
  | not inner ih =>
    obtain ⟨d, found, type⟩ := ih reads
    cases d with
    | boolean f =>
      exact ⟨.boolean fun s c => !f s c, by simp [denote, found, TypedMeaning.ofUnary], rfl⟩
    | _ => cases type
  | negate inner ih =>
    obtain ⟨d, found, type⟩ := ih reads
    cases d with
    | numeric f =>
      exact ⟨.numeric fun s c => -f s c, by simp [denote, found, TypedMeaning.ofUnary], rfl⟩
    | _ => cases type
  | caseful inner ih =>
    obtain ⟨d, found, type⟩ := ih reads
    exact ⟨d, by simp only [denote, found, TypedMeaning.ofUnary], type⟩
  | always => exact ⟨_, rfl, rfl⟩
  | bracket inner ih => exact ih reads
  | @set vs members =>
    cases found : TypedMeaning.ofMembers vs with
    | ok f => exact ⟨.set fun s c => .ofList (f s c), by simp [denote, found, Except.map], rfl⟩
    | error e =>
      obtain ⟨v, first, -⟩ := TypedMeaning.ofMembers_error found
      rw [find?_of_members members] at first
      cases first
  | @value v => exact ⟨_, rfl, TypedMeaning.ofValue_type v⟩

/-- Patterns are read only by conditions, and only conditions have conditions inside them. -/
theorem HasType.patternsRead {p : Predicate} {t : ValueType} (typed : HasType p t)
    (other : t ≠ .boolean) (caseful : Bool) : p.PatternsRead caseful := by
  induction typed generalizing caseful with
  | @binary op left right a b t first second known ih ih' =>
    have operands : a ≠ .boolean ∧ b ≠ .boolean ∧ op ≠ .regex := by
      cases op with
      | add => obtain ⟨rfl, rfl, -⟩ | ⟨rfl, rfl, -⟩ := known <;> simp
      | subtract | multiply | divide =>
        obtain ⟨rfl, rfl, -⟩ := known
        simp
      | equals | notEquals | contains | containedIn => exact absurd known.2 other
      | _ => exact absurd known.2.2 other
    exact ⟨ih operands.1 caseful, ih' operands.2.1 caseful, fun regex => absurd regex operands.2.2⟩
  | not => exact absurd rfl other
  | negate _ ih => exact ih (by simp) _
  | caseful _ ih => exact ih other _
  | bracket _ ih => exact ih other caseful
  | always | set | value => trivial

theorem HasType.has_meaning {p : Predicate} {t : ValueType} (typed : HasType p t)
    (other : t ≠ .boolean) (caseful : Bool) : ∃ d, p.denote caseful = .ok d ∧ d.type = t :=
  denote_complete typed (typed.patternsRead other caseful)

theorem HasType.denotes {p : Predicate} {t : ValueType} (typed : HasType p t)
    (other : t ≠ .boolean) (caseful : Bool) : ∃ f, p.denote caseful = .ok (.ofType t f) := by
  obtain ⟨d, denoted, type⟩ := typed.has_meaning other caseful
  obtain ⟨f, rfl⟩ := TypedMeaning.exists_ofType type
  exact ⟨f, denoted⟩

theorem meaning_ok_iff {p : Predicate} :
    (∃ f, p.meaning = .ok f) ↔ p.HasType .boolean ∧ p.PatternsRead false := by
  unfold meaning
  constructor
  · rintro ⟨f, found⟩
    split at found
    · cases found
    · rename_i g denoted
      exact denote_ok denoted
    · cases found
  · rintro ⟨typed, reads⟩
    obtain ⟨d, denoted, type⟩ := denote_complete typed reads
    cases d with
    | boolean f => exact ⟨f, by simp [denoted]⟩
    | _ => cases type

theorem Complaint.unique {p : Predicate} {problem problem' : Problem}
    (first : Complaint p problem) (second : Complaint p problem') : problem = problem' := by
  cases first with
  | node first =>
    cases second with
    | node second => exact first.unique second
    | root none =>
      obtain ⟨m, mem, offends⟩ := first.offends
      exact absurd offends (none m mem)
  | root none typed =>
    cases second with
    | node second =>
      obtain ⟨m, mem, offends⟩ := second.offends
      exact absurd offends (none m mem)
    | root _ typed' => rw [typed.unique typed']

theorem meaning_error {p : Predicate} {e : Failure} (failed : p.meaning = .error e) :
    ∃ problem, e = .inTree problem ∧ Complaint p problem := by
  unfold meaning at failed
  split at failed
  · rename_i denoted
    cases failed
    exact ⟨_, rfl, .node (denote_error denoted)⟩
  · cases failed
  · rename_i d other denoted
    cases failed
    obtain ⟨typed, reads⟩ := denote_ok denoted
    refine ⟨_, rfl, .root (typed.sound reads) typed ?_⟩
    cases d with
    | boolean f => exact absurd rfl (other f)
    | _ => simp [TypedMeaning.type]

/-- A tree has a meaning exactly if it is a condition by the table of operators and the engine
accepts its constant patterns. Every other tree is rejected with its first problem. -/
theorem meaning_iff (p : Predicate) :
    ((∃ f, p.meaning = .ok f) ↔ p.HasType .boolean ∧ p.PatternsRead false) ∧
      ∀ e, p.meaning = .error e ↔ ∃ problem, e = .inTree problem ∧ Complaint p problem := by
  refine ⟨meaning_ok_iff, ?_⟩
  intro e
  constructor
  · exact meaning_error
  · rintro ⟨problem, rfl, complaint⟩
    cases result : p.meaning with
    | error e =>
      obtain ⟨problem', rfl, complaint'⟩ := meaning_error result
      rw [complaint.unique complaint']
    | ok f =>
      obtain ⟨typed, reads⟩ := meaning_ok_iff.1 ⟨f, result⟩
      cases complaint with
      | node first =>
        obtain ⟨m, mem, offends⟩ := first.offends
        exact absurd offends (typed.sound reads m mem)
      | root _ typed' other => exact absurd (typed'.unique typed) other

end TimelineFilter.Predicate
