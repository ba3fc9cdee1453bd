import TimelineFilter.Json
import TimelineFilter.Problem
import TimelineFilter.Query
import TimelineFilter.Report.Style

namespace TimelineFilter.Report

structure Check where
  query : Query
  problem : Option Failure

def sourceJson (s : Source) : Json :=
  .object [("kind", .text (Catalogue.name s.kind)), ("arguments", Json.texts s.arguments)]

def checkJson (c : Check) : Json :=
  .object ([("query", .text c.query.render),
    ("sources", .array (c.query.sources.map sourceJson)),
    ("predicate", .text c.query.root.render),
    ("valid", .bool c.problem.isNone)]
    ++ (match c.problem with
        | some f => [("type_error", Json.text f.message)]
        | none => []))

def checkTable (colors : Bool) (c : Check) : String :=
  let verdict :=
    match c.problem with
    | none => paint colors .boldGreen "OK"
    | some _ => paint colors .boldRed "TYPE ERROR"
  verdict ++ "\n\n"
    ++ "Query:     " ++ c.query.render ++ "\n"
    ++ "Sources:   " ++ Source.renderAll c.query.sources ++ "\n"
    ++ "Predicate: " ++ c.query.root.render ++ "\n"
    ++ (match c.problem with
        | some f => "\n" ++ f.message ++ "\n"
        | none => "")

end TimelineFilter.Report
