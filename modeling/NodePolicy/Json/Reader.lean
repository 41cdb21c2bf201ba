import NodePolicy.Json.Numeral
import NodePolicy.Json.StringReader

/-!
Reading a JSON text into a value. Lists and objects nest at most 127 deep. A name that an object
repeats keeps its first place and takes its last value.
-/

namespace NodePolicy.Json.Reading

def maxDepth : Nat := 127

def arrayRest (element : Reader Json) : Nat → List Json → Reader (List Json)
  | 0, _ => stopHere .eofList
  | limit + 1, found => do
    match ← peekToken with
    | none => stopNext .eofList
    | some byte =>
      if byte = byteOf ']' then
        skip
        pure found.reverse
      else if found.isEmpty then
        arrayRest element limit [← element]
      else if byte = byteOf ',' then
        skip
        match ← peekToken with
        | none => stopNext .eofValue
        | some byte =>
          if byte = byteOf ']' then stopNext .trailingComma
          else arrayRest element limit ((← element) :: found)
      else stopNext .expectedListCommaOrEnd

def expectColon : Reader Unit := do
  match ← peekToken with
  | none => stopNext .eofObject
  | some byte => if byte = byteOf ':' then skip else stopNext .expectedColon

def member (value : Reader Json) (limit : Nat) : Reader (String × Json) := do
  match ← peekToken with
  | none => stopNext .eofValue
  | some byte =>
    if byte = byteOf '"' then
      skip
      let name ← stringBody limit
      expectColon
      return (name, ← value)
    else stopNext .keyMustBeString

def objectRest (value : Reader Json) (size : Nat) :
    Nat → Bool → List (String × Json) → Reader (List (String × Json))
  | 0, _, _ => stopHere .eofObject
  | limit + 1, first, found => do
    match ← peekToken with
    | none => stopNext .eofObject
    | some byte =>
      if byte = byteOf '\x7d' then
        skip
        pure found
      else if first then
        let (name, content) ← member value size
        objectRest value size limit false (insertMember found name content)
      else if byte = byteOf ',' then
        skip
        if (← peekToken) = some (byteOf '\x7d') then stopNext .trailingComma
        else
          let (name, content) ← member value size
          objectRest value size limit false (insertMember found name content)
      else stopNext .expectedObjectCommaOrEnd

/-- Reads a value whose inner values are read by `inner`; without that it must not nest. -/
def valueWith (size : Nat) (inner : Option (Reader Json)) : Reader Json := do
  match ← peekToken with
  | none => stopNext .eofValue
  | some byte =>
    if byte = byteOf 'n' then
      skip
      expectWord ['u', 'l', 'l']
      pure .null
    else if byte = byteOf 't' then
      skip
      expectWord ['r', 'u', 'e']
      pure (.boolean true)
    else if byte = byteOf 'f' then
      skip
      expectWord ['a', 'l', 's', 'e']
      pure (.boolean false)
    else if byte = byteOf '-' || isDigit byte then return .number (← number)
    else if byte = byteOf '"' then
      skip
      return .string (← stringBody size)
    else if byte = byteOf '[' then
      match inner with
      | none => stopNext .recursionLimit
      | some inner =>
        skip
        return .array (← arrayRest inner size [])
    else if byte = byteOf '\x7b' then
      match inner with
      | none => stopNext .recursionLimit
      | some inner =>
        skip
        return .object (← objectRest inner size size true [])
    else stopNext .expectedValue

def value (size : Nat) : Nat → Reader Json
  | 0 => valueWith size none
  | depth + 1 => valueWith size (some (value size depth))

def document (size : Nat) : Reader Json := do
  let root ← value size maxDepth
  match ← peekToken with
  | none => pure root
  | some _ => stopNext .trailingCharacters

end NodePolicy.Json.Reading

namespace NodePolicy.Json

def readBytes (text : List UInt8) : Except ReadError Json :=
  match (Reading.document (text.length + 1)).run text with
  | .ok (root, _) => .ok root
  | .error stop => .error (.behind text (text.length - stop.left) stop.fault)

def read (text : String) : Except ReadError Json := readBytes text.toByteArray.data.toList

end NodePolicy.Json
