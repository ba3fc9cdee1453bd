import TimelineFilter.Json
import TimelineFilter.Meaning
import TimelineFilter.Report.Style
import TimelineFilter.Source

namespace TimelineFilter.Report

def operatorLevels : List (String × List String) :=
  [("or", ["|"]),
   ("and", ["&"]),
   ("equality", ["==", "!="]),
   ("comparison", ["<", "<=", ">", ">="]),
   ("set / string",
    ["->", "contains", "<-", "in", "startswith", "endswith", "match", "regex"]),
   ("additive", ["+", "-"]),
   ("multiplicative", ["*", "/"]),
   ("prefix", ["!", "-", "caseful"])]

structure NamedField where
  name : String
  aliases : List String
  type : ValueType

def userFields : List NamedField :=
  UserField.all.map fun f =>
    ⟨Catalogue.name f, Catalogue.aliases f, (TypedMeaning.ofValue (.personField .author f)).type⟩

def statusFields : List NamedField :=
  StatusField.all.map fun f =>
    ⟨Catalogue.name f, Catalogue.aliases f, (TypedMeaning.ofValue (.field f)).type⟩

def sourceKindJson (k : SourceKind) : Json :=
  .object [("keyword", .text (Catalogue.name k)), ("aliases", Json.texts (Catalogue.aliases k)),
    ("requires_argument", .bool k.needsArgument)]

def sourcesJson : Json := .array (SourceKind.all.map sourceKindJson)

def sourceRow (keyword argument aliases : String) : String :=
  Text.padRight 14 keyword ++ " " ++ Text.padRight 10 argument ++ " " ++ aliases

def sourcesTable (colors : Bool) : String :=
  lines (paint colors .dimmed (sourceRow "Source" "Argument" "Aliases") ::
    SourceKind.all.map fun k =>
      sourceRow (Catalogue.name k) (if k.needsArgument then "required" else "")
        (", ".intercalate (Catalogue.aliases k)))

def fieldJson (f : NamedField) : Json :=
  .object [("name", .text f.name), ("aliases", Json.texts f.aliases),
    ("type", .text f.type.describe)]

def fieldsJson : Json :=
  .object [("user_fields", .array (userFields.map fieldJson)),
    ("status_fields", .array (statusFields.map fieldJson)),
    ("relations", .array (Relation.all.map fun r => Json.texts (Catalogue.spellings r))),
    ("operators", .array (operatorLevels.map fun (level, spellings) =>
      .object [("level", .text level), ("spellings", Json.texts spellings)]))]

def fieldRow (f : NamedField) : String :=
  "  " ++ Text.padRight 22 f.name ++ " " ++ Text.padRight 8 f.type.describe ++ " "
    ++ ", ".intercalate f.aliases

def block (colors : Bool) (title : String) (rows : List String) : String :=
  lines (paint colors .boldGreen title :: rows)

def fieldsTable (colors : Bool) : String :=
  "\n".intercalate [
    block colors "User fields (user.<field>, retweeter.<field>)" (userFields.map fieldRow),
    block colors "Status fields" (statusFields.map fieldRow),
    block colors "Relations (our.<relation>, @name.<relation>)"
      (Relation.all.map fun r => "  " ++ ", ".intercalate (Catalogue.spellings r)),
    block colors "Operators (loosest first)" (operatorLevels.map fun (level, spellings) =>
      "  " ++ Text.padRight 16 level ++ " " ++ " ".intercalate spellings)]

end TimelineFilter.Report
