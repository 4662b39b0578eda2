-- SUMMARY: Instants and spans of time with nanoseconds, their arithmetic and the text of a span.
import Formula.Calendar.Date

/-! # Instants and spans

An instant counts seconds from the beginning of 1970 in Coordinated Universal Time, and nanoseconds
within the second. A leap second has no number of its own: it is the second before it with a
thousand million nanoseconds or more.

A span is a whole number of nanoseconds. Adding a span to an instant is exact addition, but for a
leap second: within it the span is added to its nanoseconds, and outside it counts as the second
after it for spans into the past and as the second before it for spans into the future. -/

namespace Formula

/-- The nanoseconds of a second. -/
abbrev nanosPerSecond : Nat := 1000000000

/-- The seconds of a day. -/
abbrev secondsPerDay : Nat := 86400

/-! ## Spans -/

/-- A span of time. Its milliseconds have a 64-bit number with either sign. -/
structure Span where
  nanos : Int
  nanos_le : nanos.natAbs ≤ 9223372036854775807000000
deriving DecidableEq

namespace Span

def make? (nanos : Int) : Option Span :=
  if h : nanos.natAbs ≤ 9223372036854775807000000 then some ⟨nanos, h⟩ else none

def zero : Span := ⟨0, by decide⟩

instance : Inhabited Span := ⟨zero⟩

def neg (span : Span) : Span := ⟨-span.nanos, by have := span.nanos_le; omega⟩

def add? (a b : Span) : Option Span := make? (a.nanos + b.nanos)

def sub? (a b : Span) : Option Span := make? (a.nanos - b.nanos)

/-- A whole number of units of the given length. -/
def ofUnits? (count : Int) (nanosPerUnit : Nat) : Option Span := make? (count * nanosPerUnit)

def ofMillis? (millis : Int) : Option Span := ofUnits? millis 1000000

/-- The whole milliseconds, toward zero. -/
def toMillis (span : Span) : Int := span.nanos.tdiv 1000000

def compare (a b : Span) : Ordering := Ord.compare a.nanos b.nanos

/-! ### Text -/

/-- The digits of a number of nanoseconds behind the point, without trailing zeros. -/
def fractionDigits (nanos : Nat) : List Char :=
  let digits := Nat.toDigits 10 nanos
  let padded := List.replicate (9 - digits.length) '0' ++ digits
  (padded.reverse.dropWhile (· == '0')).reverse

/-- The text of a span in seconds, such as `PT1.5S`. -/
def text (span : Span) : String :=
  if span.nanos = 0 then "P0D"
  else
    let magnitude := span.nanos.natAbs
    let sign := if span.nanos < 0 then "-" else ""
    let nanos := magnitude % nanosPerSecond
    let fraction := if nanos = 0 then "" else "." ++ String.ofList (fractionDigits nanos)
    sign ++ "PT" ++ toString (magnitude / nanosPerSecond) ++ fraction ++ "S"

end Span

/-! ## Instants -/

/-- An instant between the years -262143 and 262142. -/
structure Instant where
  seconds : Int
  nanos : Nat
  nanos_lt : nanos < 2000000000
  seconds_ge : -8334601228800 ≤ seconds
  seconds_le : seconds ≤ 8210266876799
deriving DecidableEq

namespace Instant

def make? (seconds : Int) (nanos : Nat) : Option Instant :=
  if hn : nanos < 2000000000 then
    if hs : -8334601228800 ≤ seconds ∧ seconds ≤ 8210266876799 then
      some ⟨seconds, nanos, hn, hs.1, hs.2⟩
    else none
  else none

/-- The beginning of 1970. -/
def epoch : Instant := ⟨0, 0, by decide, by decide, by decide⟩

instance : Inhabited Instant := ⟨epoch⟩

def isLeap (instant : Instant) : Bool := decide (nanosPerSecond ≤ instant.nanos)

/-- The order in time; a leap second comes before the second after it. -/
def compare (a b : Instant) : Ordering :=
  (Ord.compare a.seconds b.seconds).then (Ord.compare a.nanos b.nanos)

/-! ### Milliseconds -/

def toMillis (instant : Instant) : Int := instant.seconds * 1000 + (instant.nanos / 1000000 : Nat)

def ofMillis? (millis : Int) : Option Instant :=
  make? (millis / 1000) ((millis % 1000).toNat * 1000000)

/-! ### Arithmetic -/

/-- The instant a whole number of nanoseconds after 1970. -/
def ofNanos? (nanos : Int) : Option Instant :=
  make? (nanos / nanosPerSecond) (nanos % nanosPerSecond).toNat

/-- The nanoseconds since 1970. -/
def toNanos (instant : Instant) : Int := instant.seconds * nanosPerSecond + instant.nanos

/-- The instant a span later. -/
def add? (instant : Instant) (span : Span) : Option Instant :=
  if instant.isLeap then
    let seconds := span.nanos.tdiv nanosPerSecond
    let nanos := span.nanos.tmod nanosPerSecond
    let within : Int := instant.nanos + nanos
    if 0 < seconds ∨ (0 < nanos ∧ 2 * nanosPerSecond ≤ within) then
      ofNanos? (instant.toNanos - nanosPerSecond + span.nanos)
    else if seconds < 0 then ofNanos? (instant.toNanos + span.nanos)
    else make? instant.seconds within.toNat
  else ofNanos? (instant.toNanos + span.nanos)

/-- The instant a span earlier. -/
def sub? (instant : Instant) (span : Span) : Option Instant := instant.add? span.neg

/-- The second of the day. -/
def secondOfDay (instant : Instant) : Nat := (instant.seconds % secondsPerDay).toNat

/-- The leap second that lies between two instants by the time of day, if one of them is in it. -/
def leapBetween (a b : Instant) : Int :=
  if b.secondOfDay < a.secondOfDay ∧ b.isLeap then 1
  else if a.secondOfDay < b.secondOfDay ∧ a.isLeap then -1
  else 0

theorem leapBetween_bounds (a b : Instant) : -1 ≤ leapBetween a b ∧ leapBetween a b ≤ 1 := by
  unfold leapBetween
  split
  · omega
  · split <;> omega

/-- The span from `b` to `a`. -/
def since (a b : Instant) : Span :=
  ⟨(a.seconds - b.seconds + leapBetween a b) * 1000000000 + ((a.nanos : Int) - b.nanos), by
    have := a.seconds_ge
    have := a.seconds_le
    have := b.seconds_ge
    have := b.seconds_le
    have := a.nanos_lt
    have := b.nanos_lt
    have := leapBetween_bounds a b
    omega⟩

end Instant

/-! ## Local time -/

/-- A time as clocks show it: seconds since the beginning of 1970 and nanoseconds, without a zone
    and without bounds. -/
structure LocalTime where
  seconds : Int
  nanos : Nat
deriving DecidableEq

namespace LocalTime

/-- The number of the day. -/
def day (time : LocalTime) : Int := time.seconds / secondsPerDay

/-- The second of the day. -/
def secondOfDay (time : LocalTime) : Nat := (time.seconds % secondsPerDay).toNat

def date (time : LocalTime) : CivilDate := CivilDate.ofDayNumber time.day

def hour (time : LocalTime) : Nat := time.secondOfDay / 3600

def minute (time : LocalTime) : Nat := time.secondOfDay / 60 % 60

/-- The second of the minute, which is 60 in a leap second. -/
def second (time : LocalTime) : Nat :=
  time.secondOfDay % 60 + if nanosPerSecond ≤ time.nanos then 1 else 0

/-- The nanoseconds of the second. -/
def fraction (time : LocalTime) : Nat :=
  if nanosPerSecond ≤ time.nanos then time.nanos - nanosPerSecond else time.nanos

/-- The time of a date and a time of day. -/
def ofDate (date : CivilDate) (secondOfDay nanos : Nat) : LocalTime :=
  ⟨date.dayNumber * secondsPerDay + secondOfDay, nanos⟩

/-- The time of a date at a time of day. Only the last second of a minute can be a leap second. -/
def ofClock? (date : CivilDate) (hour minute second nanos : Nat) : Option LocalTime :=
  if hour < 24 ∧ minute < 60 ∧ second < 60 ∧
      (nanos < nanosPerSecond ∨ (second = 59 ∧ nanos < 2 * nanosPerSecond)) then
    some (ofDate date (hour * 3600 + minute * 60 + second) nanos)
  else none

/-- The beginning of the day. -/
def midnight (time : LocalTime) : LocalTime := ⟨time.day * secondsPerDay, 0⟩

/-- The instant at which clocks show this time in a zone of the given offset. -/
def toInstant? (time : LocalTime) (offset : Int) : Option Instant :=
  Instant.make? (time.seconds - offset) time.nanos

end LocalTime

namespace Instant

/-- What clocks show at an instant in a zone of the given offset. -/
def toLocal (instant : Instant) (offset : Int) : LocalTime :=
  ⟨instant.seconds + offset, instant.nanos⟩

end Instant
end Formula
