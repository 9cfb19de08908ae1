import CallGuard.Text.Numeral
import CallGuard.Text.Quoted

/-! Why a text is not JSON, and where. -/

namespace CallGuard.Json

/-- What is wrong with a text. -/
inductive Cause
  | unfinishedArray
  | unfinishedObject
  | unfinishedText
  | unfinishedValue
  | noColon
  | noArrayEnd
  | noObjectEnd
  | noWord
  | noValue
  | badEscape
  | badNumber
  | tooLarge
  | badText
  | controlCharacter
  | keyNotText
  | loneSurrogate
  | halfSurrogatePair
  | trailingComma
  | trailingCharacters
  | tooDeep
deriving DecidableEq

def Cause.message : Cause → String
  | unfinishedArray => "EOF while parsing a list"
  | unfinishedObject => "EOF while parsing an object"
  | unfinishedText => "EOF while parsing a string"
  | unfinishedValue => "EOF while parsing a value"
  | noColon => "expected \x60:\x60"
  | noArrayEnd => "expected \x60,\x60 or \x60]\x60"
  | noObjectEnd => "expected \x60,\x60 or \x60\x7d\x60"
  | noWord => "expected ident"
  | noValue => "expected value"
  | badEscape => "invalid escape"
  | badNumber => "invalid number"
  | tooLarge => "number out of range"
  | badText => "invalid unicode code point"
  | controlCharacter => "control character (\\u0000-\\u001F) found while parsing a string"
  | keyNotText => "key must be a string"
  | loneSurrogate => "lone leading surrogate in hex escape"
  | halfSurrogatePair => "unexpected end of hex escape"
  | trailingComma => "trailing comma"
  | trailingCharacters => "trailing characters"
  | tooDeep => "recursion limit exceeded"

/-- A cause with its place: the line, and the number of bytes read of it. -/
structure ReadError where
  cause : Cause
  line : Nat
  column : Nat
deriving DecidableEq

namespace ReadError

def message (e : ReadError) : String :=
  e.cause.message ++ " at line " ++ Text.Numeral.decimal e.line ++ " column "
    ++ Text.Numeral.decimal e.column

/-- Diagnostic text. -/
def text (e : ReadError) : String :=
  "Error(" ++ Text.quoted e.cause.message ++ ", line: " ++ Text.Numeral.decimal e.line
    ++ ", column: " ++ Text.Numeral.decimal e.column ++ ")"

end ReadError

end CallGuard.Json
