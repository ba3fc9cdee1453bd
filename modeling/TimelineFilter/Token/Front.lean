import TimelineFilter.Problem

namespace TimelineFilter

abbrev Tail (ts : List Token) := { rest : List Token // rest.length ≤ ts.length }

abbrev Shorter (ts : List Token) := { rest : List Token // rest.length < ts.length }

theorem tail_shorter (t : Token) (rest : List Token) : rest.length < (t :: rest).length :=
  Nat.lt_succ_self _

theorem shorter_trans {after rest ts : List Token} (second : after.length < rest.length)
    (first : rest.length < ts.length) : after.length < ts.length :=
  Nat.lt_trans second first

def accept? (s : Symbol) : (ts : List Token) → Option (Shorter ts)
  | [] => none
  | t :: rest => if t.lexeme = .symbol s then some ⟨rest, tail_shorter t rest⟩ else none

def expect (s : Symbol) (ts : List Token) : Except Failure (Shorter ts) :=
  match accept? s ts with
  | some rest => .ok rest
  | none => .error (.wanted (.token (.symbol s)) ts)

def expectWord : (ts : List Token) → Except Failure (String × Shorter ts)
  | [] => .error (.wanted (.token .word) [])
  | t :: rest =>
    match t.lexeme with
    | .word text => .ok (text, ⟨rest, tail_shorter t rest⟩)
    | _ => .error (.wanted (.token .word) (t :: rest))

def expectName : (ts : List Token) → Except Failure (String × Shorter ts)
  | [] => .error (.wanted .name [])
  | t :: rest =>
    match t.lexeme with
    | .word text | .quoted text => .ok (text, ⟨rest, tail_shorter t rest⟩)
    | _ => .error (.wanted .name (t :: rest))

end TimelineFilter
