/-!
Numbers of the 64-bit binary interchange format, kept as their bits. Every finite number is a whole
multiple of 2^-1074, the distance between the smallest ones, so a magnitude is a natural number of
such units and every operation is exact arithmetic on units followed by one rounding.
-/

namespace NodePolicy

structure Binary64 where
  bits : UInt64
  deriving DecidableEq

namespace Binary64

def signBit : Nat := 9223372036854775808

/-- The bit above the fraction. It is one in every normal number, and therefore not kept. -/
def hiddenBit : Nat := 4503599627370496

def infinityBits : Nat := 2047 * hiddenBit

def isNegative (x : Binary64) : Bool := signBit ≤ x.bits.toNat

def magnitudeBits (x : Binary64) : Nat := x.bits.toNat % signBit

def isFinite (x : Binary64) : Bool := x.magnitudeBits < infinityBits

def isNaN (x : Binary64) : Bool := infinityBits < x.magnitudeBits

def isZero (x : Binary64) : Bool := x.magnitudeBits == 0

def one : Nat := Nat.pow 2 1074

def unitsOfBits (magnitude : Nat) : Nat :=
  let exponent := magnitude / hiddenBit
  let fraction := magnitude % hiddenBit
  if exponent = 0 then fraction else (hiddenBit + fraction) * Nat.pow 2 (exponent - 1)

def magnitude (x : Binary64) : Nat := unitsOfBits x.magnitudeBits

def units (x : Binary64) : Int := if x.isNegative then -(x.magnitude : Int) else x.magnitude

/-- The whole number nearest to a quotient; a half goes to the even neighbour. -/
def nearestQuotient (numerator denominator : Nat) : Nat :=
  let quotient := numerator / denominator
  let twice := 2 * (numerator % denominator)
  if twice < denominator then quotient
  else if denominator < twice then quotient + 1
  else quotient + quotient % 2

/-- The magnitude bits of the number nearest to a quotient of units: the quotient is cut to 53
significant bits, and what lies past the largest finite number becomes infinite. -/
def roundedBits (numerator denominator : Nat) : Nat :=
  let shift := (numerator / denominator).log2 - 52
  min (shift * hiddenBit + nearestQuotient numerator (denominator * Nat.pow 2 shift)) infinityBits

def ofMagnitudeBits (negative : Bool) (magnitude : Nat) : Binary64 :=
  ⟨UInt64.ofNat ((if negative then signBit else 0) + magnitude)⟩

def ofRatio (negative : Bool) (numerator denominator : Nat) : Binary64 :=
  ofMagnitudeBits negative (roundedBits (numerator * one) denominator)

def ofNat (value : Nat) : Binary64 := ofRatio false value 1

def ofInt (value : Int) : Binary64 := ofRatio (value < 0) value.natAbs 1

def neg (x : Binary64) : Binary64 := ofMagnitudeBits (!x.isNegative) x.magnitudeBits

/-- The sum of two finite numbers. An exact zero is positive unless both summands are negative. -/
def add (x y : Binary64) : Binary64 :=
  let sum := x.units + y.units
  if sum = 0 then ofMagnitudeBits (x.isNegative && y.isNegative) 0
  else ofMagnitudeBits (sum < 0) (roundedBits sum.natAbs 1)

def mul (x y : Binary64) : Binary64 :=
  ofMagnitudeBits (x.isNegative != y.isNegative) (roundedBits (x.magnitude * y.magnitude) one)

def div (x y : Binary64) : Binary64 :=
  ofMagnitudeBits (x.isNegative != y.isNegative) (roundedBits (x.magnitude * one) y.magnitude)

def truncate (x : Binary64) : Int := x.units.tdiv one

/-- Equality as numbers: the two zeros are equal, and a NaN equals nothing. -/
def same (x y : Binary64) : Bool :=
  !x.isNaN && !y.isNaN && (x == y || (x.isZero && y.isZero))

end Binary64

end NodePolicy
