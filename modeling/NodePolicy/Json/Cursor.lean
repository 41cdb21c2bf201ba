import NodePolicy.Json.Fault

/-!
Reading JSON text byte by byte. The state is the part of the text that is left. A reader that stops
says how many bytes are left behind the place of its fault: the place reached so far, the place
behind the byte that comes next, or a place passed before.
-/

namespace NodePolicy.Json.Reading

/-- A fault, and how many bytes are left behind it. -/
structure Stop where
  fault : Fault
  left : Nat
  deriving DecidableEq, Repr

/-- A reader takes bytes off the front of the text. -/
abbrev Reader := StateT (List UInt8) (Except Stop)

def stopHere {α : Type} (fault : Fault) : Reader α := fun text => .error ⟨fault, text.length⟩

def stopNext {α : Type} (fault : Fault) : Reader α := fun text => .error ⟨fault, text.length - 1⟩

def stopBefore {α : Type} (bytes : Nat) (fault : Fault) : Reader α := fun text =>
  .error ⟨fault, text.length + bytes⟩

def peek : Reader (Option UInt8) := fun text => .ok (text.head?, text)

def skip : Reader Unit := fun text => .ok ((), text.tail)

def next (atEnd : Fault) : Reader UInt8 := fun text =>
  match text with
  | byte :: rest => .ok (byte, rest)
  | [] => .error ⟨atEnd, 0⟩

def byteOf (c : Char) : UInt8 := c.toUInt8

def isSpace (byte : UInt8) : Bool :=
  byte == byteOf ' ' || byte == byteOf '\n' || byte == byteOf '\t' || byte == byteOf '\r'

def skipSpace : Reader Unit := fun text => .ok ((), text.dropWhile isSpace)

def peekToken : Reader (Option UInt8) := do skipSpace; peek

def isDigit (byte : UInt8) : Bool := byteOf '0' ≤ byte && byte ≤ byteOf '9'

def takeDigits : Reader (List Nat) := fun text =>
  .ok ((text.takeWhile isDigit).map fun byte => byte.toNat - 48, text.dropWhile isDigit)

def expectWord : List Char → Reader Unit
  | [] => pure ()
  | expected :: rest => do
    let byte ← next .eofValue
    if byte = byteOf expected then expectWord rest else stopHere .expectedIdent

end NodePolicy.Json.Reading
