/-!
Why a text is not JSON, and where. A place is a line, counted from one, and a column that counts the
bytes of that line up to the place.
-/

namespace NodePolicy.Json

inductive Fault where
  | eofList | eofObject | eofString | eofValue
  | expectedColon | expectedListCommaOrEnd | expectedObjectCommaOrEnd
  | expectedIdent | expectedValue
  | invalidEscape | invalidNumber | numberOutOfRange | invalidUnicode | controlCharacter
  | keyMustBeString | loneSurrogate | trailingComma | trailingCharacters | unexpectedEndOfHexEscape
  | recursionLimit
  deriving DecidableEq, Repr

def Fault.message : Fault → String
  | eofList => "EOF while parsing a list"
  | eofObject => "EOF while parsing an object"
  | eofString => "EOF while parsing a string"
  | eofValue => "EOF while parsing a value"
  | expectedColon => "expected `:`"
  | expectedListCommaOrEnd => "expected `,` or `]`"
  | expectedObjectCommaOrEnd => "expected `,` or `\x7d`"
  | expectedIdent => "expected ident"
  | expectedValue => "expected value"
  | invalidEscape => "invalid escape"
  | invalidNumber => "invalid number"
  | numberOutOfRange => "number out of range"
  | invalidUnicode => "invalid unicode code point"
  | controlCharacter => "control character (\\u0000-\\u001F) found while parsing a string"
  | keyMustBeString => "key must be a string"
  | loneSurrogate => "lone leading surrogate in hex escape"
  | trailingComma => "trailing comma"
  | trailingCharacters => "trailing characters"
  | unexpectedEndOfHexEscape => "unexpected end of hex escape"
  | recursionLimit => "recursion limit exceeded"

structure ReadError where
  fault : Fault
  line : Nat
  column : Nat
  deriving DecidableEq, Repr

def ReadError.message (error : ReadError) : String :=
  s!"{error.fault.message} at line {error.line} column {error.column}"

def ReadError.behind (text : List UInt8) (consumed : Nat) (fault : Fault) : ReadError :=
  let before := text.take consumed
  let newline := '\n'.toUInt8
  { fault
    line := 1 + before.count newline
    column := (before.reverse.takeWhile (· != newline)).length }

end NodePolicy.Json
