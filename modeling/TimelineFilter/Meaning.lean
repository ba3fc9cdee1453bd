import TimelineFilter.Context
import TimelineFilter.Problem
import TimelineFilter.Regex.Engine
import TimelineFilter.Timeline.Snapshot

/-!
What a predicate means. A well-typed tree denotes a function of a status and a context; an
ill-typed one has a first problem, in the order in which the operands come before their operator.
The types of all parts are settled before any status is seen.
-/
namespace TimelineFilter

variable [Regex.Engine]

abbrev Meaning (α : Type) := Status → Context → α

/-- A typed meaning. A reference to users denotes the ids that it may stand for: several for a
selector of accounts, none for an absent retweeter. -/
inductive TypedMeaning
  | boolean (f : Meaning Bool)
  | numeric (f : Meaning Int64)
  | text (f : Meaning String)
  | set (f : Meaning IdSet)
  | user (f : Meaning (List Int64))

namespace TypedMeaning

def type : TypedMeaning → ValueType
  | .boolean _ => .boolean
  | .numeric _ => .numeric
  | .text _ => .text
  | .set _ => .set
  | .user _ => .user

def asSet? : TypedMeaning → Option (Meaning IdSet)
  | .set f => some f
  | .user f => some fun s c => IdSet.ofList (f s c)
  | _ => none

def asMember? : TypedMeaning → Option (Meaning (List Int64))
  | .numeric f => some fun s c => [f s c]
  | .user f => some f
  | _ => none

/-- A field of a person, with the value that stands for an absent person. -/
def personField (pick : Status → Option User) : UserField → TypedMeaning
  | .isProtected => flag (·.isProtected)
  | .isVerified => flag (·.isVerified)
  | .isTranslator => flag (·.isTranslator)
  | .contributorsEnabled => flag (·.contributorsEnabled)
  | .geoEnabled => flag (·.geoEnabled)
  | .id => number (·.id)
  | .statuses => number (·.statusesCount)
  | .following => number (·.friendsCount)
  | .followers => number (·.followersCount)
  | .favorites => number (·.favoritesCount)
  | .listed => number (·.listedCount)
  | .screenName => words (·.screenName)
  | .name => words (·.name)
  | .bio => words (·.description)
  | .location => words (·.location)
  | .language => words (·.language)
where
  flag (get : User → Bool) : TypedMeaning := .boolean fun s _ => (pick s).any get
  number (get : User → Int64) : TypedMeaning := .numeric fun s _ => ((pick s).map get).getD (-1)
  words (get : User → String) : TypedMeaning := .text fun s _ => ((pick s).map get).getD ""

def pick : Person → Status → Option User
  | .author => fun s => some s.author
  | .retweeter => Status.retweeter?

/-- All fields but the id and the mark of a retweet are those of the origin. -/
def statusField : StatusField → TypedMeaning
  | .directMessage => .boolean fun s _ => s.origin.isDirectMessage
  | .retweet => .boolean fun s _ => s.isRetweet
  | .inReplyTo => .numeric fun s _ => s.origin.inReplyToUser.getD (-1)
  | .mentions => .set fun s _ => IdSet.ofList s.addressees
  | .id => .numeric fun s _ => s.post.id
  | .favoriters => .set fun s _ => IdSet.ofList s.origin.favoriters
  | .retweeters => .set fun s _ => IdSet.ofList s.origin.retweeters
  | .text => .text fun s _ => s.origin.text
  | .client => .text fun s _ => s.origin.client
  | .media => .boolean fun s _ => s.hasMedia
  | .muted => .boolean fun s c => c.accounts.any fun a => a.muting.contains s.author.id

def ofValue : Value → TypedMeaning
  | .text t => .text fun _ _ => t
  | .number n => .numeric fun _ _ => n
  | .account selector => .user fun _ c => (c.select selector).map Account.userId
  | .relation selector r => .set fun _ c => c.related selector r
  | .person who => .user fun s _ => ((pick who s).map User.id).toList
  | .personField who f => personField (pick who) f
  | .field f => statusField f
  | .list owner slug => .set fun _ c => (c.members? owner slug).getD .empty

def ofMembers : List Value → Except Problem (Meaning (List Int64))
  | [] => .ok fun _ _ => []
  | v :: rest =>
    match (ofValue v).asMember? with
    | none => .error (.invalidMember v)
    | some f =>
      match ofMembers rest with
      | .error e => .error e
      | .ok g => .ok fun s c => f s c ++ g s c

def hasInside (part : List Char) : List Char → Bool
  | [] => part.isEmpty
  | c :: rest => part.isPrefixOf (c :: rest) || hasInside part rest

def textTest (test : List Char → List Char → Bool) (caseful : Bool) (f g : Meaning String) :
    Meaning Bool := fun s c =>
  if caseful then test (f s c).toList (g s c).toList
  else test (Text.lowerChars (f s c).toList) (Text.lowerChars (g s c).toList)

/-- Sets are equal by their members; a user equals whatever shares an id with it. -/
def equality (caseful : Bool) : TypedMeaning → TypedMeaning → Option (Meaning Bool)
  | .boolean f, .boolean g => some fun s c => f s c == g s c
  | .numeric f, .numeric g => some fun s c => f s c == g s c
  | .text f, .text g => some (textTest (· == ·) caseful f g)
  | .user f, .user g => some fun s c => (f s c).any (g s c).contains
  | .user f, .numeric g => some fun s c => (f s c).contains (g s c)
  | .numeric f, .user g => some fun s c => (g s c).contains (f s c)
  | a, b =>
    match a.asSet?, b.asSet? with
    | some f, some g => some fun s c => f s c == g s c
    | _, _ => none

/-- A text contains its parts, a set its members and its subsets. -/
def containment (caseful : Bool) : TypedMeaning → TypedMeaning → Option (Meaning Bool)
  | .text f, .text g => some (textTest (fun whole part => hasInside part whole) caseful f g)
  | container, item =>
    match container.asSet?, item with
    | some f, .numeric g => some fun s c => (f s c).contains (g s c)
    | some f, .user g => some fun s c => (g s c).any (f s c).contains
    | some f, .set g => some fun s c => (f s c).includes (g s c)
    | _, _ => none

/-- Whether a text has a match of a pattern. Nothing matches what is no pattern. -/
def searches (caseful : Bool) (pattern text : String) : Bool :=
  match Regex.Engine.read (!caseful) pattern with
  | .ok test => test text
  | .error _ => false

/-- The quotient toward zero; division by zero gives zero. -/
def quotient (a b : Int64) : Int64 := if b = 0 then 0 else a / b

def comparison (test : Int64 → Int64 → Bool) : TypedMeaning → TypedMeaning → Option TypedMeaning
  | .numeric f, .numeric g => some (.boolean fun s c => test (f s c) (g s c))
  | _, _ => none

def arithmetic (op : Int64 → Int64 → Int64) : TypedMeaning → TypedMeaning → Option TypedMeaning
  | .numeric f, .numeric g => some (.numeric fun s c => op (f s c) (g s c))
  | _, _ => none

def sum : TypedMeaning → TypedMeaning → Option TypedMeaning
  | .text f, .text g => some (.text fun s c => f s c ++ g s c)
  | a, b => arithmetic (· + ·) a b

def logical (op : Bool → Bool → Bool) : TypedMeaning → TypedMeaning → Option TypedMeaning
  | .boolean f, .boolean g => some (.boolean fun s c => op (f s c) (g s c))
  | _, _ => none

def matching (test : List Char → List Char → Bool) (caseful : Bool) :
    TypedMeaning → TypedMeaning → Option TypedMeaning
  | .text f, .text g => some (.boolean (textTest test caseful f g))
  | _, _ => none

def dynamicSearch (caseful : Bool) : TypedMeaning → TypedMeaning → Option TypedMeaning
  | .text f, .text g => some (.boolean fun s c => searches caseful (g s c) (f s c))
  | _, _ => none

def apply (op : BinaryOp) (caseful : Bool) (a b : TypedMeaning) : Option TypedMeaning :=
  match op with
  | .or => logical (· || ·) a b
  | .and => logical (· && ·) a b
  | .equals => (equality caseful a b).map .boolean
  | .notEquals => (equality caseful a b).map fun f => .boolean fun s c => !f s c
  | .less => comparison (· < ·) a b
  | .lessOrEqual => comparison (· ≤ ·) a b
  | .greater => comparison (· > ·) a b
  | .greaterOrEqual => comparison (· ≥ ·) a b
  | .contains => (containment caseful a b).map .boolean
  | .containedIn => (containment caseful b a).map .boolean
  | .startsWith => matching (fun whole part => part.isPrefixOf whole) caseful a b
  | .endsWith => matching (fun whole part => part.isSuffixOf whole) caseful a b
  | .regex => dynamicSearch caseful a b
  | .add => sum a b
  | .subtract => arithmetic (· - ·) a b
  | .multiply => arithmetic (· * ·) a b
  | .divide => arithmetic quotient a b

def constantSearch (caseful : Bool) (pattern : String) (a b : TypedMeaning) :
    Except Problem TypedMeaning :=
  match a with
  | .text f =>
    match Regex.Engine.read (!caseful) pattern with
    | .ok test => .ok (.boolean fun s c => test (f s c))
    | .error reason => .error (.invalidPattern pattern reason)
  | a => .error (.mismatch .regex a.type b.type)

def ofBinary (op : BinaryOp) (caseful : Bool) (constant : Option String) (a b : TypedMeaning) :
    Except Problem TypedMeaning :=
  match op, constant with
  | .regex, some pattern => constantSearch caseful pattern a b
  | op, _ =>
    match apply op caseful a b with
    | some d => .ok d
    | none => .error (.mismatch op a.type b.type)

def ofUnary (op : UnaryOp) (a : TypedMeaning) : Except Problem TypedMeaning :=
  match op, a with
  | .not, .boolean f => .ok (.boolean fun s c => !f s c)
  | .not, a => .error (.wrongType .boolean a.type)
  | .negate, .numeric f => .ok (.numeric fun s c => -f s c)
  | .negate, a => .error (.wrongType .numeric a.type)
  | .caseful, a => .ok a

end TypedMeaning

namespace Predicate

/-- What a tree denotes. Case counts in a comparison if `caseful` stands above it or anywhere
inside its operands. -/
def denote (caseful : Bool) : Predicate → Except Problem TypedMeaning
  | .binary op left right =>
    match left.denote caseful with
    | .error e => .error e
    | .ok a =>
      match right.denote caseful with
      | .error e => .error e
      | .ok b =>
        TypedMeaning.ofBinary op (caseful || left.mentionsCaseful || right.mentionsCaseful)
          right.constantText? a b
  | .unary op operand =>
    match operand.denote (caseful || op == .caseful) with
    | .error e => .error e
    | .ok a => TypedMeaning.ofUnary op a
  | .always => .ok (.boolean fun _ _ => true)
  | .bracket inner => inner.denote caseful
  | .set members => (TypedMeaning.ofMembers members).map fun f => .set fun s c => .ofList (f s c)
  | .value v => .ok (.ofValue v)

def meaning (p : Predicate) : Except Failure (Meaning Bool) :=
  match p.denote false with
  | .error e => .error (.inTree e)
  | .ok (.boolean f) => .ok f
  | .ok d => .error (.inTree (.wrongType .boolean d.type))

end Predicate

def Snapshot.context (s : Snapshot) : Context := ⟨s.accounts, s.lists⟩

def Snapshot.select (s : Snapshot) (test : Meaning Bool) : List Status :=
  s.statuses.filter fun t => test t s.context

end TimelineFilter
