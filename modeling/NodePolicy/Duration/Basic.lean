/-!
Signed elapsed time with nanosecond resolution. A duration is an integer number of nanoseconds that
fits a signed 64-bit word, and the bounds are part of the type: the checked operations answer
nothing when the exact result does not fit, and the unchecked ones name the operation that failed.
-/

namespace NodePolicy

structure Duration where
  nanos : Int
  lower : -9223372036854775808 ≤ nanos
  upper : nanos < 9223372036854775808
  deriving DecidableEq

/-- The units durations are counted in. A month has 30 days and a year has 365. -/
inductive TimeUnit where
  | nanosecond | microsecond | millisecond | second | minute | hour | day | week | month | year
  deriving DecidableEq, Repr

namespace TimeUnit

def nanos : TimeUnit → Nat
  | nanosecond => 1
  | microsecond => 1000
  | millisecond => 1000000
  | second => 1000000000
  | minute => 60 * 1000000000
  | hour => 60 * 60 * 1000000000
  | day => 24 * 60 * 60 * 1000000000
  | week => 7 * 24 * 60 * 60 * 1000000000
  | month => 30 * 24 * 60 * 60 * 1000000000
  | year => 365 * 24 * 60 * 60 * 1000000000

theorem nanos_pos (unit : TimeUnit) : 0 < unit.nanos := by cases unit <;> decide

theorem nanos_lt (unit : TimeUnit) : unit.nanos < 9223372036854775808 := by cases unit <;> decide

end TimeUnit

inductive Overflow where
  | addition | subtraction | multiplication | negation
  deriving DecidableEq, Repr

def Overflow.message : Overflow → String
  | addition => "attempt to add with overflow"
  | subtraction => "attempt to subtract with overflow"
  | multiplication => "attempt to multiply with overflow"
  | negation => "attempt to negate with overflow"

namespace Duration

@[ext] theorem ext {first second : Duration} (same : first.nanos = second.nanos) :
    first = second := by
  cases first; cases second; cases same; rfl

def ofNanos? (nanos : Int) : Option Duration :=
  if fits : -9223372036854775808 ≤ nanos ∧ nanos < 9223372036854775808 then
    some ⟨nanos, fits.1, fits.2⟩
  else none

theorem ofNanos?_eq_some (nanos : Int) (duration : Duration) :
    ofNanos? nanos = some duration ↔ duration.nanos = nanos := by
  constructor
  · intro found
    simp only [ofNanos?] at found
    split at found
    · cases found; rfl
    · cases found
  · rintro rfl
    rw [ofNanos?, dif_pos ⟨duration.lower, duration.upper⟩]

def zero : Duration := ⟨0, by decide, by decide⟩

instance : Inhabited Duration := ⟨zero⟩

def ofUnit (unit : TimeUnit) : Duration :=
  ⟨unit.nanos, by have := unit.nanos_pos; omega, by have := unit.nanos_lt; omega⟩

def isZero (duration : Duration) : Bool := duration.nanos == 0

def isPositive (duration : Duration) : Bool := 0 < duration.nanos

instance : Ord Duration := ⟨fun first second => compare first.nanos second.nanos⟩

def checkedAdd (first second : Duration) : Option Duration :=
  ofNanos? (first.nanos + second.nanos)

def checkedMul (duration : Duration) (factor : Int) : Option Duration :=
  ofNanos? (duration.nanos * factor)

def checkedNeg (duration : Duration) : Option Duration := ofNanos? (-duration.nanos)

def expectFit (operation : Overflow) (nanos : Int) : Except Overflow Duration :=
  match ofNanos? nanos with
  | some duration => .ok duration
  | none => .error operation

def add (first second : Duration) : Except Overflow Duration :=
  expectFit .addition (first.nanos + second.nanos)

def sub (first second : Duration) : Except Overflow Duration :=
  expectFit .subtraction (first.nanos - second.nanos)

def neg (duration : Duration) : Except Overflow Duration := expectFit .negation (-duration.nanos)

def mul (duration : Duration) (factor : Int) : Except Overflow Duration :=
  expectFit .multiplication (duration.nanos * factor)

/-- The sum of a list, added up from the left. -/
def sum (durations : List Duration) : Except Overflow Duration := durations.foldlM add zero

def wholeSeconds (duration : Duration) : Int := duration.nanos.tdiv TimeUnit.second.nanos

/-- What the whole seconds leave, in nanoseconds and with the sign of the duration. -/
def subsecondNanos (duration : Duration) : Int := duration.nanos.tmod TimeUnit.second.nanos

end Duration

end NodePolicy
