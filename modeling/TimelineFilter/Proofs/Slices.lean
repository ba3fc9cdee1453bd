import TimelineFilter.Proofs.Spelling
import Mathlib.Data.String.Basic

/-! The tokens of a text cut it into slices, from each token to the next. A slice spells its own
token and nothing else, and it is as long as it can be. -/
namespace TimelineFilter

/-- What is read at one place: a lexeme, or the text behind a quote that is never closed. -/
inductive Finding
  | lexeme (x : Lexeme)
  | unclosed (remaining : String)
deriving DecidableEq

structure Item where
  position : Nat
  finding : Finding
deriving DecidableEq

def Scan.items (s : Scan) : List Item :=
  s.tokens.map (fun t => ⟨t.position, .lexeme t.lexeme⟩)
    ++ s.unclosed.toList.map fun u => ⟨u.position, .unclosed u.remaining⟩

@[simp] theorem items_cons (t : Token) (s : Scan) :
    (s.cons t).items = ⟨t.position, .lexeme t.lexeme⟩ :: s.items := rfl

theorem unquote_cut {cs text after : List Char} (closed : unquote cs = some (text, after)) :
    ∃ d tail, cs = d :: tail ++ after ∧
      ∀ after', unquote (d :: tail ++ after') = some (text, after') := by
  fun_induction unquote cs generalizing text after with
  | case1 => cases closed
  | case2 rest =>
    cases closed
    exact ⟨'"', [], rfl, fun _ => rfl⟩
  | case3 rest ih | case4 rest ih =>
    obtain ⟨⟨t, a⟩, found, same⟩ := Option.map_eq_some_iff.1 closed
    obtain ⟨rfl, rfl⟩ := Prod.mk.inj same
    obtain ⟨d, tail, rfl, again⟩ := ih found
    refine ⟨'\\', _ :: d :: tail, rfl, ?_⟩
    intro after'
    have behind := again after'
    simp only [List.cons_append] at behind ⊢
    simp [unquote, behind]
  | case5 c rest plain noQuote noBackslash ih =>
    obtain ⟨⟨t, a⟩, found, same⟩ := Option.map_eq_some_iff.1 closed
    obtain ⟨rfl, rfl⟩ := Prod.mk.inj same
    obtain ⟨d, tail, rfl, again⟩ := ih found
    refine ⟨c, d :: tail, rfl, ?_⟩
    intro after'
    have behind := again after'
    -- The escapes look one character ahead, and that character has not changed.
    have noQuote' : ∀ rest, c = '\\' → d :: tail ++ after' = '"' :: rest → False := by
      intro rest escape next
      exact noQuote _ escape (by rw [List.cons_append, (List.cons.inj next).1])
    have noBackslash' : ∀ rest, c = '\\' → d :: tail ++ after' = '\\' :: rest → False := by
      intro rest escape next
      exact noBackslash _ escape (by rw [List.cons_append, (List.cons.inj next).1])
    rw [List.cons_append, unquote.eq_5 _ _ plain noQuote' noBackslash', behind]
    rfl

theorem Symbol.read?_cut {c : Char} {rest after : List Char} {s : Symbol}
    (read : Symbol.read? c rest = some (s, after)) :
    ∃ taken, rest = taken ++ after ∧
      ∀ after', after' <+: after → Symbol.read? c (taken ++ after') = some (s, after') := by
  unfold Symbol.read? at read
  split at read
  all_goals cases read
  all_goals first
    | exact ⟨[], rfl, fun _ _ => rfl⟩
    | exact ⟨[_], rfl, fun _ _ => rfl⟩
    | refine ⟨[], rfl, ?_⟩
      rintro (_ | ⟨d, after'⟩) within
      · rfl
      · obtain ⟨more, rfl⟩ := within
        simp_all [Symbol.read?]

/-- What a step takes off the front: a lexeme and the characters behind it. -/
inductive Takes (lenient : Bool) : Char → List Char → Lexeme → List Char → Prop
  | quoted {rest text after : List Char} (closed : unquote rest = some (text, after)) :
      Takes lenient '"' rest (.quoted (String.ofList text)) after
  | unclosed {rest : List Char} (open_ : unquote rest = none) (leniently : lenient = true) :
      Takes lenient '"' rest (.quoted (String.ofList (unescape rest))) []
  | symbol {c : Char} {rest after : List Char} {s : Symbol} (apart : c ≠ '"')
      (read : Symbol.read? c rest = some (s, after)) : Takes lenient c rest (.symbol s) after
  | word {c : Char} {rest : List Char} (apart : c ≠ '"') (unread : Symbol.read? c rest = none) :
      Takes lenient c rest (.word (String.ofList (c :: rest.takeWhile (!isDelimiter ·))))
        (rest.dropWhile (!isDelimiter ·))

variable {lenient : Bool} {c : Char} {rest after : List Char} {x : Lexeme}

theorem takes_of_step {shorter : after.length ≤ rest.length}
    (found : step lenient c rest = .token x after shorter) : Takes lenient c rest x after := by
  unfold step at found
  split at found
  · rename_i quote
    subst quote
    split at found
    · rename_i closed
      cases found
      exact .quoted closed
    · rename_i unclosed
      split at found
      · rename_i leniently
        cases found
        exact .unclosed unclosed leniently
      · cases found
  · rename_i apart
    split at found
    · rename_i read
      cases found
      exact .symbol apart read
    · rename_i unread
      cases found
      exact .word apart unread

theorem step_of_takes (takes : Takes lenient c rest x after) :
    ∃ shorter, step lenient c rest = .token x after shorter := by
  unfold step
  cases takes with
  | quoted closed =>
    rw [if_pos rfl]
    split
    · rename_i found
      rw [closed] at found
      cases found
      exact ⟨Nat.le_of_lt (unquote_shorter closed), rfl⟩
    · rename_i found
      rw [closed] at found
      cases found
  | unclosed open_ leniently =>
    rw [if_pos rfl]
    split
    · rename_i found
      rw [open_] at found
      cases found
    · rw [if_pos leniently]
      exact ⟨Nat.zero_le _, rfl⟩
  | symbol apart read =>
    rw [if_neg apart]
    split
    · rename_i found
      rw [read] at found
      cases found
      exact ⟨Symbol.read?_shorter read, rfl⟩
    · rename_i found
      rw [read] at found
      cases found
  | word apart unread =>
    rw [if_neg apart]
    split
    · rename_i found
      rw [unread] at found
      cases found
    · exact ⟨(List.dropWhile_suffix _).length_le, rfl⟩

theorem Symbol.unread_behind {c : Char} {rest : List Char} (unread : Symbol.read? c rest = none)
    (rest' : List Char) : Symbol.read? c rest' = none := by
  unfold Symbol.read? at unread ⊢
  split at unread <;> simp_all

theorem head?_of_prefix {ds ds' : List Char} (within : ds' <+: ds) :
    ∀ d ∈ ds'.head?, d ∈ ds.head? := by
  intro d mem
  obtain ⟨more, rfl⟩ := within
  cases ds' with
  | nil => cases mem
  | cons e ds' => exact mem

theorem Takes.cut (takes : Takes lenient c rest x after) :
    ∃ taken, rest = taken ++ after ∧
      ∀ after', after' <+: after → Takes lenient c (taken ++ after') x after' := by
  cases takes with
  | quoted closed =>
    obtain ⟨d, tail, rfl, again⟩ := unquote_cut closed
    exact ⟨d :: tail, rfl, fun after' _ => .quoted (again after')⟩
  | unclosed open_ leniently =>
    refine ⟨rest, by simp, ?_⟩
    intro after' within
    obtain rfl := List.prefix_nil.1 within
    rw [List.append_nil]
    exact .unclosed open_ leniently
  | symbol apart read =>
    obtain ⟨taken, rfl, again⟩ := Symbol.read?_cut read
    exact ⟨taken, rfl, fun after' within => .symbol apart (again after' within)⟩
  | word apart unread =>
    refine ⟨_, List.takeWhile_append_dropWhile.symm, ?_⟩
    intro after' within
    have free : ∀ d ∈ after'.head?, isDelimiter d = true := by
      intro d mem
      have first : (rest.dropWhile (!isDelimiter ·)).head? = some d := head?_of_prefix within d mem
      have stopped := List.head?_dropWhile_not (!isDelimiter ·) rest
      simpa [first] using stopped
    obtain ⟨taken, left⟩ := span_plain after' plain_of_takeWhile free
    have word : Takes lenient c (rest.takeWhile (!isDelimiter ·) ++ after') _ _ :=
      .word apart (Symbol.unread_behind unread _)
    rwa [taken, left] at word

variable {position : Nat}

theorem scanFrom_takes {taken : List Char} (solid : isTokenBlank c = false)
    (takes : Takes lenient c (taken ++ after) x after) :
    scanFrom lenient position (c :: (taken ++ after)) =
      (scanFrom lenient (position + byteLength (c :: taken)) after).cons ⟨x, position⟩ := by
  obtain ⟨shorter, found⟩ := step_of_takes takes
  rw [scanFrom, if_neg (by simp [solid]), found]
  simp only [byteLength_used]

theorem items_blank {lead : List Char} (blank : ∀ d ∈ lead, isTokenBlank d = true) :
    (scanFrom lenient position lead).items = [] := by
  induction lead generalizing position with
  | nil => simp [scanFrom, Scan.items]
  | cons d lead ih =>
    rw [scanFrom_blank lenient position (blank d List.mem_cons_self)]
    exact ih fun e mem => blank e (List.mem_cons_of_mem _ mem)

theorem items_solid {lead : List Char} {d : Char} (blank : ∀ e ∈ lead, isTokenBlank e = true)
    (solid : isTokenBlank d = false) : (scanFrom lenient position (lead ++ [d])).items ≠ [] := by
  induction lead generalizing position with
  | nil =>
    rw [List.nil_append, scanFrom, if_neg (by simp [solid])]
    split <;> simp [Scan.items, Scan.cons]
  | cons e lead ih =>
    rw [List.cons_append, scanFrom_blank lenient position (blank e List.mem_cons_self)]
    exact ih fun e' mem => blank e' (List.mem_cons_of_mem _ mem)

/-- The text of one item: it starts with the item and holds nothing else. -/
structure Alone (lenient : Bool) (f : Finding) (piece : List Char) : Prop where
  solid : ∃ c tail, piece = c :: tail ∧ isTokenBlank c = false
  only : ∀ position, (scanFrom lenient position piece).items = [⟨position, f⟩]
  unclosed : ∀ remaining, f = .unclosed remaining →
    remaining = String.ofList piece ∧ piece.head? = some '"'

/-- The characters from byte `position` on are cut into the texts of these items, each of them as
long as possible. -/
inductive Sliced (lenient : Bool) : Nat → List Char → List Item → Prop
  | nil (position : Nat) : Sliced lenient position [] []
  | cons {position : Nat} {f : Finding} {piece rest : List Char} {behind : List Item}
      (alone : Alone lenient f piece)
      (longest : ∀ d ∈ rest.head?, (scanFrom lenient 0 (piece ++ [d])).items.length ≠ 1)
      (last : ∀ remaining, f = .unclosed remaining → rest = [])
      (others : Sliced lenient (position + byteLength piece) rest behind) :
      Sliced lenient position (piece ++ rest) (⟨position, f⟩ :: behind)

variable {cs : List Char} {items behind : List Item}

theorem Sliced.solid (sliced : Sliced lenient position cs items) :
    ∀ d ∈ cs.head?, isTokenBlank d = false := by
  intro d mem
  cases sliced with
  | nil => cases mem
  | cons alone _ _ _ =>
    obtain ⟨c, tail, rfl, solid⟩ := alone.solid
    cases mem
    exact solid

theorem step_unclosed (found : step lenient c rest = .unclosed) : c = '"' := by
  unfold step at found
  split at found
  · assumption
  · split at found <;> cases found

theorem alone_unclosed (solid : isTokenBlank c = false) (found : step lenient c rest = .unclosed) :
    Alone lenient (.unclosed (String.ofList (c :: rest))) (c :: rest) where
  solid := ⟨c, rest, rfl, solid⟩
  only position := by
    rw [scanFrom, if_neg (by simp [solid]), found]
    rfl
  unclosed remaining same := by
    cases same
    exact ⟨rfl, congrArg some (step_unclosed found)⟩

theorem alone_lexeme {taken lead : List Char} (solid : isTokenBlank c = false)
    (blank : ∀ d ∈ lead, isTokenBlank d = true) (takes : Takes lenient c (taken ++ lead) x lead) :
    Alone lenient (.lexeme x) (c :: taken ++ lead) where
  solid := ⟨c, taken ++ lead, rfl, solid⟩
  only position := by
    rw [List.cons_append, scanFrom_takes solid takes, items_cons, items_blank blank]
  unclosed remaining same := by cases same

theorem scanFrom_sliced (lenient : Bool) (position : Nat) (cs : List Char) :
    ∃ lead rest, cs = lead ++ rest ∧ (∀ d ∈ lead, isTokenBlank d = true) ∧
      Sliced lenient (position + byteLength lead) rest (scanFrom lenient position cs).items := by
  fun_induction scanFrom lenient position cs with
  | case1 position => exact ⟨[], [], rfl, by simp, .nil _⟩
  | case2 position c rest blank ih =>
    obtain ⟨lead, rest, rfl, blanks, sliced⟩ := ih
    refine ⟨c :: lead, rest, rfl, ?_, ?_⟩
    · intro d mem
      rcases List.mem_cons.1 mem with rfl | mem
      · exact blank
      · exact blanks d mem
    · rwa [Nat.add_assoc] at sliced
  | case3 position c rest solid found =>
    have alone := alone_unclosed (by simpa using solid) found
    have sliced : Sliced lenient position (c :: rest ++ []) _ :=
      .cons alone (by simp) (fun _ _ => rfl) (.nil _)
    rw [List.append_nil] at sliced
    exact ⟨[], c :: rest, rfl, by simp, sliced⟩
  | case4 position c rest solid x after shorter found used ih =>
    have solid : isTokenBlank c = false := by simpa using solid
    obtain ⟨taken, rfl, cut⟩ := (takes_of_step found).cut
    -- The blanks in front of the items behind belong to the piece of this one.
    obtain ⟨lead, rest, rfl, blank, sliced⟩ := ih
    have alone := alone_lexeme solid blank (cut lead (List.prefix_append _ _))
    have longest : ∀ d ∈ rest.head?,
        (scanFrom lenient 0 (c :: taken ++ lead ++ [d])).items.length ≠ 1 := by
      intro d mem
      obtain ⟨more, rfl⟩ := List.head?_eq_some_iff.1 mem
      -- The lexeme is still taken as before, and `d` starts an item of its own.
      have takes := cut (lead ++ [d]) ⟨more, by simp⟩
      have more : (scanFrom lenient (0 + byteLength (c :: taken)) (lead ++ [d])).items ≠ [] :=
        items_solid blank (sliced.solid d mem)
      rw [List.append_assoc, List.cons_append, scanFrom_takes solid takes, items_cons]
      simpa using more
    have length : used = byteLength (c :: taken) := byteLength_used c taken _
    have others : Sliced lenient (position + byteLength (c :: taken ++ lead)) rest
        (scanFrom lenient (position + used) (lead ++ rest)).items := by
      rw [byteLength_append, ← Nat.add_assoc, ← length]
      exact sliced
    refine ⟨[], c :: (taken ++ (lead ++ rest)), rfl, by simp, ?_⟩
    have whole := Sliced.cons alone longest (by simp) others
    simpa [byteLength] using whole

theorem Alone.byteLength_pos {f : Finding} {piece : List Char} (alone : Alone lenient f piece) :
    0 < byteLength piece := by
  obtain ⟨c, tail, rfl, -⟩ := alone.solid
  have := c.utf8Size_pos
  simp only [byteLength]
  omega

theorem Sliced.ascending (sliced : Sliced lenient position cs items) :
    (∀ y ∈ items, position ≤ y.position) ∧ items.Pairwise (·.position < ·.position) := by
  induction sliced with
  | nil => simp
  | @cons position f piece rest behind alone _ _ _ ih =>
    obtain ⟨later, ordered⟩ := ih
    have taken := alone.byteLength_pos
    refine ⟨?_, List.pairwise_cons.2 ⟨?_, ordered⟩⟩
    · intro y mem
      rcases List.mem_cons.1 mem with rfl | mem
      · exact Nat.le_refl _
      · have := later y mem
        omega
    · intro y mem
      have := later y mem
      dsimp only
      omega

theorem Sliced.split (sliced : Sliced lenient position cs items) {before : List Item} {y : Item}
    (split : items = before ++ y :: behind) :
    ∃ cut left, cs = cut ++ left ∧ y.position = position + byteLength cut ∧
      Sliced lenient y.position left (y :: behind) := by
  induction sliced generalizing before with
  | nil => simp at split
  | @cons position f piece rest behind' alone longest last others ih =>
    cases before with
    | nil =>
      obtain ⟨rfl, rfl⟩ := List.cons.inj split
      exact ⟨[], _, rfl, by simp [byteLength], .cons alone longest last others⟩
    | cons z before =>
      obtain ⟨cut, left, rfl, place, sliced⟩ := ih (List.cons.inj split).2
      refine ⟨piece ++ cut, left, by simp, ?_, sliced⟩
      rw [place, byteLength_append, Nat.add_assoc]

def placeOf (text : String) (items : List Item) : Nat :=
  (items.head?.map Item.position).getD text.utf8ByteSize

def sliceOf (text : String) (x : Item) (behind : List Item) : String :=
  String.Pos.Raw.extract text ⟨x.position⟩ ⟨placeOf text behind⟩

theorem byteLength_eq (cs : List Char) : byteLength cs = String.utf8Len cs := by
  induction cs with
  | nil => rfl
  | cons c cs ih => rw [byteLength, String.utf8Len_cons, ih, Nat.add_comm]

theorem placeOf_sliced {text : String} {front : List Char} (whole : text.toList = front ++ cs)
    (sliced : Sliced lenient (byteLength front) cs items) :
    placeOf text items = byteLength front := by
  cases sliced with
  | nil => rw [placeOf, byteLength_eq, ← List.append_nil front, ← whole, String.utf8Len_toList]; rfl
  | cons => rfl

theorem extract_front {text : String} {front piece rest : List Char}
    (whole : text.toList = front ++ piece ++ rest) :
    String.Pos.Raw.extract text ⟨byteLength front⟩ ⟨byteLength (front ++ piece)⟩ =
      String.ofList piece := by
  rw [byteLength_append, byteLength_eq, byteLength_eq, ← String.ofList_toList (s := text), whole]
  exact String.extract_of_valid front piece rest

theorem sliceOf_piece {text : String} {front piece left : List Char} {y : Item}
    (whole : text.toList = front ++ piece ++ left) (place : y.position = byteLength front)
    (others : Sliced lenient (byteLength (front ++ piece)) left behind) :
    sliceOf text y behind = String.ofList piece := by
  rw [sliceOf, placeOf_sliced whole others, place]
  exact extract_front whole

theorem Sliced.slice {text : String} {lead rest : List Char} {before : List Item} {y : Item}
    (whole : text.toList = lead ++ rest) (sliced : Sliced lenient (byteLength lead) rest items)
    (split : items = before ++ y :: behind) :
    ∃ front piece left, text.toList = front ++ piece ++ left ∧ y.position = byteLength front ∧
      sliceOf text y behind = String.ofList piece ∧ Alone lenient y.finding piece ∧
      (∀ d ∈ left.head?, (scanFrom lenient 0 (piece ++ [d])).items.length ≠ 1) ∧
      (∀ remaining, y.finding = .unclosed remaining → left = []) ∧
      Sliced lenient (byteLength (front ++ piece)) left behind := by
  obtain ⟨cut, left, rfl, place, sliced⟩ := sliced.split split
  rw [← byteLength_append] at place
  obtain ⟨position, f⟩ := y
  cases sliced with
  | @cons _ _ piece left _ alone longest last others =>
    have whole' : text.toList = lead ++ cut ++ piece ++ left := by simp [whole]
    have others' : Sliced lenient (byteLength (lead ++ cut ++ piece)) left behind := by
      rwa [byteLength_append, ← place]
    exact ⟨lead ++ cut, piece, left, whole', place, sliceOf_piece whole' place others', alone,
      longest, last, others'⟩

theorem Sliced.head?_slice {text : String} {front : List Char} {y : Item}
    (whole : text.toList = front ++ cs)
    (sliced : Sliced lenient (byteLength front) cs (y :: behind)) :
    ∃ d, cs.head? = some d ∧ (sliceOf text y behind).toList.head? = some d := by
  cases sliced with
  | @cons _ _ piece left _ alone _ _ others =>
    obtain ⟨d, tail, rfl, -⟩ := alone.solid
    rw [← List.append_assoc] at whole
    rw [← byteLength_append] at others
    rw [sliceOf_piece (y := ⟨_, _⟩) whole rfl others, String.toList_ofList]
    exact ⟨d, rfl, rfl⟩

theorem Sliced.eq_nil (sliced : Sliced lenient position [] items) : items = [] := by
  generalize nothing : ([] : List Char) = cs at sliced
  cases sliced with
  | nil => rfl
  | cons alone =>
    obtain ⟨d, tail, rfl, -⟩ := alone.solid
    cases nothing

/-- How items lie in a text: what each of them is made of, and where it ends. -/
structure Partition (lenient : Bool) (text : String) (items : List Item) : Prop where
  leading : ∀ c ∈ (String.Pos.Raw.extract text ⟨0⟩ ⟨placeOf text items⟩).toList,
    c = ' ' ∨ c = '\t' ∨ c = '\r' ∨ c = '\n'
  ascending : items.Pairwise (·.position < ·.position)
  inside : ∀ y ∈ items, y.position < text.utf8ByteSize ∧ String.Pos.Raw.IsValid text ⟨y.position⟩
  alone : ∀ before y behind, items = before ++ y :: behind →
    (scan lenient (sliceOf text y behind)).items = [⟨0, y.finding⟩]
  /-- No slice can be longer. -/
  longest : ∀ before y z behind, items = before ++ y :: z :: behind →
    ∃ d, (sliceOf text z behind).toList.head? = some d ∧
      (scan lenient ((sliceOf text y (z :: behind)).push d)).items.length ≠ 1
  /-- Nothing follows a quote that is never closed, and its slice is what is reported. -/
  last : ∀ before y behind remaining, items = before ++ y :: behind →
    y.finding = .unclosed remaining →
    behind = [] ∧ remaining = sliceOf text y behind ∧ remaining.toList.head? = some '"'

/-- Scanning partitions every text: nothing is lost, read twice or split where it need not be. -/
theorem scan_partition (lenient : Bool) (text : String) :
    Partition lenient text (scan lenient text).items := by
  obtain ⟨lead, rest, whole, blank, sliced⟩ := scanFrom_sliced lenient 0 text.toList
  rw [Nat.zero_add] at sliced
  change Sliced lenient (byteLength lead) rest (scan lenient text).items at sliced
  constructor
  case leading =>
    have whole' : text.toList = [] ++ lead ++ rest := whole
    have front : String.Pos.Raw.extract text ⟨0⟩ ⟨byteLength lead⟩ = String.ofList lead :=
      extract_front whole'
    intro c mem
    rw [placeOf_sliced whole sliced, front, String.toList_ofList] at mem
    simpa [isTokenBlank, or_assoc] using blank c mem
  case ascending => exact sliced.ascending.2
  case inside =>
    intro y mem
    obtain ⟨before, behind, split⟩ := List.append_of_mem mem
    obtain ⟨front, piece, left, whole', place, -, alone, -⟩ := sliced.slice whole split
    have taken := alone.byteLength_pos
    have size : text.utf8ByteSize = byteLength (front ++ piece ++ left) := by
      rw [← whole', byteLength_eq, String.utf8Len_toList]
    rw [byteLength_append, byteLength_append] at size
    refine ⟨by omega, String.Pos.Raw.isValid_iff_exists_append.2 ?_⟩
    refine ⟨String.ofList front, String.ofList (piece ++ left), ?_, ?_⟩
    · rw [← String.ofList_append, ← List.append_assoc, ← whole', String.ofList_toList]
    · rw [String.rawEndPos_ofList, place, byteLength_eq]
  case alone =>
    intro before y behind split
    obtain ⟨front, piece, left, -, -, slice, alone, -⟩ := sliced.slice whole split
    rw [slice, scan, String.toList_ofList]
    exact alone.only 0
  case longest =>
    intro before y z behind split
    obtain ⟨front, piece, left, whole', -, slice, -, longest, -, others⟩ := sliced.slice whole split
    obtain ⟨d, first, first'⟩ := others.head?_slice whole'
    have tooLong := longest d first
    refine ⟨d, first', ?_⟩
    rwa [slice, scan, String.toList_push, String.toList_ofList]
  case last =>
    intro before y behind remaining split unclosed
    obtain ⟨front, piece, left, -, -, slice, alone, -, last, others⟩ := sliced.slice whole split
    obtain rfl := last remaining unclosed
    obtain ⟨rfl, quote⟩ := alone.unclosed remaining unclosed
    exact ⟨others.eq_nil, slice.symm, by rwa [String.toList_ofList]⟩

end TimelineFilter
