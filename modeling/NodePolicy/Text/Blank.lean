import NodePolicy.Text.CodeRange

/-!
White space in the sense of the Unicode property `White_Space`: what may stand in front of a
number in a timestamp.
-/

namespace NodePolicy.Text

def blankRanges : List CodeRange :=
  [ (0x9, 0xD), (0x20, 0x20), (0x85, 0x85), (0xA0, 0xA0), (0x1680, 0x1680), (0x2000, 0x200A),
    (0x2028, 0x2029), (0x202F, 0x202F), (0x205F, 0x205F), (0x3000, 0x3000) ]

def isBlank (c : Char) : Bool := inClass blankRanges c

end NodePolicy.Text
