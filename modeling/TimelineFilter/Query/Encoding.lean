import TimelineFilter.Json.Decoder
import TimelineFilter.NameMap
import TimelineFilter.Query

/-!
Queries as JSON strings, and tabs: objects that give queries names. Reading compiles a query and
writing gives its canonical text.
-/
namespace TimelineFilter

open Json (Decoder)

namespace Query

def toJson (q : Query) : Json := .text q.render

def decoder : Decoder Query :=
  .spelled .text fun text => (Query.compile text).mapError Failure.message

def ofJsonText (text : String) : Except Json.Defect Query := decoder.ofText text

end Query

abbrev Tabs := NameMap Query

namespace Tabs

def toJson (tabs : Tabs) : Json := .object (tabs.entries.map fun (name, q) => (name, q.toJson))

/-- Of several tabs with one name the last counts. -/
def decoder : Decoder Tabs := fun depth r =>
  (Decoder.mapping Query.decoder depth r).map NameMap.ofList

def ofJsonText (text : String) : Except Json.Defect Tabs := decoder.ofText text

end Tabs

end TimelineFilter
