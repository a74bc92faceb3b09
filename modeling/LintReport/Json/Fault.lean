namespace LintReport.Json

inductive Fault
  | endOfValue
  | endOfList
  | endOfObject
  | endOfString
  | noColon
  | noListEnd
  | noObjectEnd
  | noIdent
  | noValue
  | noKey
  | trailingComma
  | trailingText
  | badNumber
  | numberRange
  | badEscape
  | controlChar
  | loneSurrogate
  | cutSurrogate
  | tooDeep
deriving DecidableEq, Repr

namespace Fault

def message : Fault → String
  | endOfValue    => "EOF while parsing a value"
  | endOfList     => "EOF while parsing a list"
  | endOfObject   => "EOF while parsing an object"
  | endOfString   => "EOF while parsing a string"
  | noColon       => "expected `:`"
  | noListEnd     => "expected `,` or `]`"
  | noObjectEnd   => "expected `,` or `\x7d`"
  | noIdent       => "expected ident"
  | noValue       => "expected value"
  | noKey         => "key must be a string"
  | trailingComma => "trailing comma"
  | trailingText  => "trailing characters"
  | badNumber     => "invalid number"
  | numberRange   => "number out of range"
  | badEscape     => "invalid escape"
  | controlChar   => "control character (\\u0000-\\u001F) found while parsing a string"
  | loneSurrogate => "lone leading surrogate in hex escape"
  | cutSurrogate  => "unexpected end of hex escape"
  | tooDeep       => "recursion limit exceeded"

def isEnd : Fault → Bool
  | endOfValue | endOfList | endOfObject | endOfString => true
  | _                                                  => false

end Fault

end LintReport.Json
