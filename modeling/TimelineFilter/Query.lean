import TimelineFilter.Predicate.Reader
import TimelineFilter.Source.Reader

namespace TimelineFilter

structure Query where
  sources : List Source
  root : Predicate
deriving DecidableEq, Repr

namespace Query

def render (q : Query) : String :=
  "from " ++ Source.renderAll q.sources
    ++ (if q.root = .always then "" else " where " ++ q.root.render)

/-- The query that tokens spell. Without `from` it draws from everything stored locally. -/
def ofTokens (ts : List Token) : Except Failure Query :=
  match ts with
  | [] => .ok ⟨[.implied], .always⟩
  | t :: rest =>
    if t.isKeyword "from" then
      match Source.readMany rest with
      | .error e => .error e
      | .ok (sources, ⟨[], _⟩) => .ok ⟨sources, .always⟩
      | .ok (sources, ⟨t' :: after, _⟩) =>
        if t'.isKeyword "where" then (Predicate.readWhole after).map (⟨sources, ·⟩)
        else .error (.wanted .whereClause (t' :: after))
    else (Predicate.ofTokens (t :: rest)).map (⟨[.implied], ·⟩)

def compile (text : String) : Except Failure Query :=
  match scan false text with
  | ⟨_, some u⟩ => .error (.ofUnclosed u)
  | ⟨ts, none⟩ => ofTokens ts

end Query

end TimelineFilter
