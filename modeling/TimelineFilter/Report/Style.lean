namespace TimelineFilter.Report

inductive Style
  | dimmed | cyan | magenta | boldGreen | boldRed
deriving DecidableEq, Repr

def Style.codes : Style → String × String
  | .dimmed => ("\x1b[2m", "\x1b[0m")
  | .cyan => ("\x1b[36m", "\x1b[39m")
  | .magenta => ("\x1b[35m", "\x1b[39m")
  | .boldGreen => ("\x1b[1m\x1b[32m", "\x1b[39m\x1b[0m")
  | .boldRed => ("\x1b[1m\x1b[31m", "\x1b[39m\x1b[0m")

def paint (colors : Bool) (style : Style) (text : String) : String :=
  if colors then style.codes.1 ++ text ++ style.codes.2 else text

/-- A text of more than `width` characters is cut and ends in three points. -/
def truncate (width : Nat) (text : String) : String :=
  let cs := text.toList
  if width < cs.length then String.ofList (cs.take (width - 3)) ++ "..." else text

def handle (colors : Bool) (screenName : String) : String :=
  paint colors .cyan ("@" ++ screenName)

def lines (ls : List String) : String := String.join (ls.map (· ++ "\n"))

end TimelineFilter.Report
