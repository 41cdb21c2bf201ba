import NodePolicy.Json.Cursor

/-!
JSON strings, behind their opening quote. Their content is gathered as bytes, escapes turned into
the UTF-8 form of the characters they name, and has to be valid UTF-8 as a whole. Characters outside
the basic plane are escaped as a pair of surrogates; a surrogate on its own is refused.
-/

namespace NodePolicy.Json.Reading

def hexValue? (byte : UInt8) : Option Nat :=
  if isDigit byte then some (byte.toNat - 48)
  else if byteOf 'a' ≤ byte && byte ≤ byteOf 'f' then some (byte.toNat - 87)
  else if byteOf 'A' ≤ byte && byte ≤ byteOf 'F' then some (byte.toNat - 55)
  else none

def hexNumber? (digits : List UInt8) : Option Nat :=
  digits.foldlM (fun value byte => (hexValue? byte).map (16 * value + ·)) 0

def codeUnit : Reader Nat := fun text =>
  let digits := text.take 4
  let rest := text.drop 4
  if digits.length < 4 then .error ⟨.eofString, 0⟩
  else match hexNumber? digits with
    | some value => .ok (value, rest)
    | none => .error ⟨.invalidEscape, rest.length⟩

def isLowSurrogate (unit : Nat) : Bool := 0xDC00 ≤ unit && unit < 0xE000
def isHighSurrogate (unit : Nat) : Bool := 0xD800 ≤ unit && unit < 0xDC00

def expectSecondEscape : Reader Unit := do
  if (← next .eofString) = byteOf '\\' then
    if (← next .eofString) = byteOf 'u' then pure () else stopHere .unexpectedEndOfHexEscape
  else stopHere .unexpectedEndOfHexEscape

def unicodeEscape : Reader Char := do
  let first ← codeUnit
  if isLowSurrogate first then stopHere .loneSurrogate
  else if isHighSurrogate first then
    expectSecondEscape
    let second ← codeUnit
    if isLowSurrogate second then
      pure (Char.ofNat (0x10000 + (first - 0xD800) * 0x400 + (second - 0xDC00)))
    else stopHere .loneSurrogate
  else pure (Char.ofNat first)

def shortEscape? (letter : UInt8) : Option Char :=
  if letter = byteOf '"' then some '"'
  else if letter = byteOf '\\' then some '\\'
  else if letter = byteOf '/' then some '/'
  else if letter = byteOf 'b' then some '\x08'
  else if letter = byteOf 'f' then some '\x0c'
  else if letter = byteOf 'n' then some '\n'
  else if letter = byteOf 'r' then some '\r'
  else if letter = byteOf 't' then some '\t'
  else none

def escape : Reader Char := do
  let letter ← next .eofString
  if letter = byteOf 'u' then unicodeEscape
  else match shortEscape? letter with
    | some c => pure c
    | none => stopHere .invalidEscape

def stringPiece : Reader (Option (List UInt8)) := do
  let byte ← next .eofString
  if byte = byteOf '"' then pure none
  else if byte = byteOf '\\' then return some (String.utf8EncodeChar (← escape))
  else if byte < 0x20 then stopHere .controlCharacter
  else pure (some [byte])

/-- Reads pieces up to the closing quote, behind those gathered so far, which stand in reverse. A
string has fewer pieces than the text has bytes, which is what `limit` counts. -/
def stringPieces : Nat → List UInt8 → Reader (List UInt8)
  | 0, _ => stopHere .eofString
  | limit + 1, gathered => do
    match ← stringPiece with
    | none => pure gathered.reverse
    | some piece => stringPieces limit (piece.reverseAux gathered)

/-- The length of the longest part of some bytes, from an index on, that is whole UTF-8 characters,
counted from the start. -/
def validBytes (content : ByteArray) : Nat → Nat → Nat
  | 0, index => index
  | limit + 1, index =>
    match content.utf8DecodeChar? index with
    | some c => validBytes content limit (index + c.utf8Size)
    | none => index

/-- Reads a string behind its opening quote. If its content is not UTF-8, the fault lies as many
bytes before the end of the string as the content has bytes that follow its valid part. -/
def stringBody (limit : Nat) : Reader String := do
  let bytes ← stringPieces limit []
  let content : ByteArray := ⟨bytes.toArray⟩
  match String.fromUTF8? content with
  | some text => pure text
  | none => stopBefore (bytes.length - validBytes content bytes.length 0) .invalidUnicode

end NodePolicy.Json.Reading
