namespace TimelineFilter.Json

inductive Malformed
  | endInArray | endInObject | endInText | endInValue
  | expectedColon | expectedArrayCommaOrEnd | expectedObjectCommaOrEnd
  | expectedWord | expectedValue
  | invalidEscape | invalidNumber | numberOutOfRange
  | controlCharacter | keyNotText
  | loneSurrogate | unfinishedSurrogate
  | trailingComma | trailingCharacters
  | tooDeep
deriving DecidableEq, Repr

namespace Malformed

def message : Malformed → String
  | .endInArray => "EOF while parsing a list"
  | .endInObject => "EOF while parsing an object"
  | .endInText => "EOF while parsing a string"
  | .endInValue => "EOF while parsing a value"
  | .expectedColon => "expected `:`"
  | .expectedArrayCommaOrEnd => "expected `,` or `]`"
  | .expectedObjectCommaOrEnd => "expected `,` or `\x7d`"
  | .expectedWord => "expected ident"
  | .expectedValue => "expected value"
  | .invalidEscape => "invalid escape"
  | .invalidNumber => "invalid number"
  | .numberOutOfRange => "number out of range"
  | .controlCharacter => "control character (\\u0000-\\u001F) found while parsing a string"
  | .keyNotText => "key must be a string"
  | .loneSurrogate => "lone leading surrogate in hex escape"
  | .unfinishedSurrogate => "unexpected end of hex escape"
  | .trailingComma => "trailing comma"
  | .trailingCharacters => "trailing characters"
  | .tooDeep => "recursion limit exceeded"

def inText : Malformed → Bool
  | .endInText | .invalidEscape | .controlCharacter | .loneSurrogate | .unfinishedSurrogate => true
  | _ => false

end Malformed

end TimelineFilter.Json
