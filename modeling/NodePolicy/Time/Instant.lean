import NodePolicy.Time.Calendar

/-!
Instants of Coordinated Universal Time with nanoseconds. A leap second is the second half of the
last second of a minute: its seconds stay where they are and its nanoseconds go on past one second.
An instant may have such nanoseconds in another second too; a clock then shows the second after it.
-/

namespace NodePolicy.Time

/-- The first second of the year -262143, where time begins. -/
def firstSecond : Int := -8334601228800

/-- The last second of the year 262142, where time ends. -/
def lastSecond : Int := 8210266876799

def nanosPerSecond : Nat := 1000000000

structure Instant where
  /-- Seconds since 1970-01-01T00:00:00Z, leap seconds not counted. -/
  seconds : Int
  nanos : Nat
  in_range : firstSecond ≤ seconds ∧ seconds ≤ lastSecond
  nanos_lt : nanos < 2 * nanosPerSecond
  deriving DecidableEq

namespace Instant

/-- The instant with these numbers, if there is one. Nanoseconds past one second are taken for a leap
second, so they are accepted at the end of a minute only. -/
def of? (seconds : Int) (nanos : Nat) : Option Instant :=
  if valid : (firstSecond ≤ seconds ∧ seconds ≤ lastSecond) ∧ nanos < 2 * nanosPerSecond ∧
      (nanosPerSecond ≤ nanos → seconds % 60 = 59) then
    some ⟨seconds, nanos, valid.1, valid.2.1⟩
  else none

def clockSecond (instant : Instant) : Nat :=
  (instant.seconds % 60).toNat + instant.nanos / nanosPerSecond

def minute (instant : Instant) : Nat := (instant.seconds / 60 % 60).toNat

def hour (instant : Instant) : Nat := (instant.seconds / 3600 % 24).toNat

def dayNumber (instant : Instant) : Int := instant.seconds / 86400

/-- The instant at a time of day. Second 60 is the leap second after second 59. -/
def ofClock? (date : Date) (hour minute second : Nat) : Option Instant :=
  let counted := min second 59
  of? (date.dayNumber * 86400 + hour * 3600 + minute * 60 + counted)
    ((second - counted) * nanosPerSecond)

end Instant

/-- An instant as it is seen at an offset from Coordinated Universal Time, counted in seconds to the
east and shorter than a day. The offset moves what a clock shows, never the instant. -/
structure ZonedInstant where
  instant : Instant
  offset : Int
  offset_lt : offset.natAbs < 86400
  deriving DecidableEq

namespace Instant

def atOffset? (instant : Instant) (offset : Int) : Option ZonedInstant :=
  if offset_lt : offset.natAbs < 86400 then some ⟨instant, offset, offset_lt⟩ else none

end Instant

end NodePolicy.Time
