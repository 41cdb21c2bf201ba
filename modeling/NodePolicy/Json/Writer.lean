import NodePolicy.Binary64.Shortest
import NodePolicy.Json.Basic

/-!
JSON text. The compact form has no blanks; the indented form puts every element and every member on
a line of its own. Texts escape quotes, backslashes and control characters only. A binary64 is
written with the fewest digits that read back, in positional notation from the fifth decimal place
to the sixteenth digit before the point and with an exponent outside.
-/

namespace NodePolicy.Json

/-- Digits with the point after the first `whole` of them. At least one digit stands on each side. -/
def positional (digits : List Char) (whole : Nat) : List Char :=
  if digits.length ≤ whole then digits ++ List.replicate (whole - digits.length) '0' ++ ['.', '0']
  else digits.take whole ++ ['.'] ++ digits.drop whole

def scientific (digits : List Char) (exponent : Int) : List Char :=
  digits.take 1
    ++ (if digits.length ≤ 1 then [] else '.' :: digits.drop 1)
    ++ ['e', if exponent < 0 then '-' else '+']
    ++ Text.naturalDigits exponent.natAbs

def layOut (digits : List Char) (exponent : Int) : List Char :=
  if 0 ≤ exponent ∧ exponent ≤ 15 then positional digits (exponent.toNat + 1)
  else if -5 ≤ exponent ∧ exponent < 0 then
    ['0', '.'] ++ List.replicate (exponent.natAbs - 1) '0' ++ digits
  else scientific digits exponent

def writeFloat (value : Binary64) : List Char :=
  let sign := if value.isNegative then ['-'] else []
  if value.isZero then sign ++ ['0', '.', '0']
  else
    let decimal := Binary64.shortest value.magnitudeBits
    let digits := Text.naturalDigits decimal.digits
    let exponent : Int := decimal.exponent + digits.length - 1 - Binary64.decimalPlaces
    sign ++ layOut (Text.trimZeros digits) exponent

def writeNumber : Number → List Char
  | .natural value => Text.naturalDigits value.toNat
  | .negative value _ => '-' :: Text.naturalDigits value.toInt.natAbs
  | .float value _ => writeFloat value

def escapedChar (c : Char) : List Char :=
  match c with
  | '"' => ['\\', '"']
  | '\\' => ['\\', '\\']
  | '\x08' => ['\\', 'b']
  | '\t' => ['\\', 't']
  | '\n' => ['\\', 'n']
  | '\x0c' => ['\\', 'f']
  | '\r' => ['\\', 'r']
  | c =>
    if c.toNat < 0x20 then
      ['\\', 'u', '0', '0', Nat.digitChar (c.toNat / 16), Nat.digitChar (c.toNat % 16)]
    else [c]

def writeString (text : String) : List Char :=
  '"' :: text.toList.flatMap escapedChar ++ ['"']

def compactChars : Json → List Char
  | null => ['n', 'u', 'l', 'l']
  | boolean true => ['t', 'r', 'u', 'e']
  | boolean false => ['f', 'a', 'l', 's', 'e']
  | number value => writeNumber value
  | string text => writeString text
  | array elements => '[' :: compactElements elements ++ [']']
  | object members => '\x7b' :: compactMembers members ++ ['\x7d']
where
  compactElements : List Json → List Char
    | [] => []
    | [last] => compactChars last
    | element :: rest => compactChars element ++ ',' :: compactElements rest
  compactMembers : List (String × Json) → List Char
    | [] => []
    | [(name, value)] => writeString name ++ ':' :: compactChars value
    | (name, value) :: rest =>
      writeString name ++ ':' :: compactChars value ++ ',' :: compactMembers rest

def newLine (depth : Nat) : List Char := '\n' :: List.replicate (2 * depth) ' '

def indentedChars (depth : Nat) : Json → List Char
  | array [] => ['[', ']']
  | array elements => '[' :: indentedElements (depth + 1) elements ++ newLine depth ++ [']']
  | object [] => ['\x7b', '\x7d']
  | object members => '\x7b' :: indentedMembers (depth + 1) members ++ newLine depth ++ ['\x7d']
  | value => compactChars value
where
  indentedElements (depth : Nat) : List Json → List Char
    | [] => []
    | [last] => newLine depth ++ indentedChars depth last
    | element :: rest =>
      newLine depth ++ indentedChars depth element ++ ',' :: indentedElements depth rest
  indentedMembers (depth : Nat) : List (String × Json) → List Char
    | [] => []
    | [(name, value)] =>
      newLine depth ++ writeString name ++ ':' :: ' ' :: indentedChars depth value
    | (name, value) :: rest =>
      newLine depth ++ writeString name ++ ':' :: ' ' :: indentedChars depth value
        ++ ',' :: indentedMembers depth rest

def compact (value : Json) : String := String.ofList (compactChars value)

def indented (value : Json) : String := String.ofList (indentedChars 0 value)

end NodePolicy.Json
