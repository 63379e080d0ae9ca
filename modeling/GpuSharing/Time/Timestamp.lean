/-!
# Points in time and spans

Wall clock times with nanoseconds, spans between them, and the checked addition
that fails outside the range of representable times.
-/

set_option autoImplicit false

namespace GpuSharing

def nanosPerSecond : Nat := 1000000000

/-- A span of time, possibly negative, in nanoseconds. -/
structure Duration where
  nanos : Int
  deriving DecidableEq, Repr

namespace Duration

def zero : Duration := ⟨0⟩

def ofSeconds (seconds : Int) (nanos : Int) : Duration :=
  ⟨seconds * nanosPerSecond + nanos⟩

def ofMilliseconds (milliseconds : Int) : Duration :=
  ⟨milliseconds * 1000000⟩

/-- The whole seconds of the span; a rest is dropped toward zero. -/
def wholeSeconds (duration : Duration) : Int :=
  duration.nanos.tdiv nanosPerSecond

/-- The whole milliseconds of the span; a rest is dropped toward zero. -/
def wholeMilliseconds (duration : Duration) : Int :=
  duration.nanos.tdiv 1000000

/-- The nanoseconds that the whole seconds leave over, with the sign of the span. -/
def subsecondNanos (duration : Duration) : Int :=
  duration.nanos.tmod nanosPerSecond

private def trimmedFraction (digits : Nat) (value : Nat) : String :=
  let text := toString value
  let padded := List.replicate (digits - text.length) '0' ++ text.toList
  let kept := (padded.reverse.dropWhile (· = '0')).reverse
  if kept.isEmpty then "" else "." ++ String.ofList kept

/-- The span in its greatest unit, with as many decimals as it has. -/
def text (duration : Duration) : String :=
  let nanos := duration.nanos.toNat
  let inUnit (digits : Nat) (name : String) : String :=
    let whole := Nat.pow 10 digits
    toString (nanos / whole) ++ trimmedFraction digits (nanos % whole) ++ name
  if 1000000000 ≤ nanos then inUnit 9 "s"
  else if 1000000 ≤ nanos then inUnit 6 "ms"
  else if 1000 ≤ nanos then inUnit 3 "µs"
  else inUnit 0 "ns"

instance : LE Duration := ⟨fun a b => a.nanos ≤ b.nanos⟩
instance : LT Duration := ⟨fun a b => a.nanos < b.nanos⟩
instance (a b : Duration) : Decidable (a ≤ b) := inferInstanceAs (Decidable (a.nanos ≤ b.nanos))
instance (a b : Duration) : Decidable (a < b) := inferInstanceAs (Decidable (a.nanos < b.nanos))

end Duration

/-- A wall clock time: seconds since the epoch and the nanoseconds after them.
Nanoseconds of a full second or more lie in the leap second that follows. -/
structure Timestamp where
  seconds : Int
  nanos : Nat
  deriving DecidableEq, Repr

namespace Timestamp

def epoch : Timestamp := ⟨0, 0⟩

/-- The last second of the year 262142, with its last nanosecond. -/
def latest : Timestamp := ⟨8210266876799, 999999999⟩

/-- The first second of the year -262143. -/
def earliest : Timestamp := ⟨-8334601228800, 0⟩

/-- Earlier seconds come first; in one second, fewer nanoseconds. -/
protected def le (a b : Timestamp) : Prop :=
  a.seconds < b.seconds ∨ (a.seconds = b.seconds ∧ a.nanos ≤ b.nanos)

protected def lt (a b : Timestamp) : Prop :=
  a.seconds < b.seconds ∨ (a.seconds = b.seconds ∧ a.nanos < b.nanos)

instance : LE Timestamp := ⟨Timestamp.le⟩
instance : LT Timestamp := ⟨Timestamp.lt⟩
instance (a b : Timestamp) : Decidable (a ≤ b) :=
  inferInstanceAs (Decidable (_ ∨ (_ ∧ _)))
instance (a b : Timestamp) : Decidable (a < b) :=
  inferInstanceAs (Decidable (_ ∨ (_ ∧ _)))
instance : Max Timestamp := maxOfLe

theorem le_iff {a b : Timestamp} :
    a ≤ b ↔ a.seconds < b.seconds ∨ (a.seconds = b.seconds ∧ a.nanos ≤ b.nanos) := Iff.rfl

theorem lt_iff {a b : Timestamp} :
    a < b ↔ a.seconds < b.seconds ∨ (a.seconds = b.seconds ∧ a.nanos < b.nanos) := Iff.rfl

theorem le_refl (time : Timestamp) : time ≤ time := by
  rw [le_iff]
  omega

theorem le_trans {a b c : Timestamp} (first : a ≤ b) (second : b ≤ c) : a ≤ c := by
  rw [le_iff] at *
  omega

theorem le_total (a b : Timestamp) : a ≤ b ∨ b ≤ a := by
  rw [le_iff, le_iff]
  omega

theorem not_le {a b : Timestamp} : ¬ a ≤ b ↔ b < a := by
  rw [le_iff, lt_iff]; omega

theorem not_lt {a b : Timestamp} : ¬ a < b ↔ b ≤ a := by
  rw [le_iff, lt_iff]; omega

theorem lt_trichotomy (a b : Timestamp) : a < b ∨ a = b ∨ b < a := by
  cases a
  cases b
  simp only [lt_iff, mk.injEq]
  omega

theorem le_max_iff {time first second : Timestamp} :
    time ≤ max first second ↔ time ≤ first ∨ time ≤ second := by
  change time ≤ (if first ≤ second then second else first) ↔ _
  split
  · rename_i before
    exact ⟨.inr, fun earlier => earlier.elim (le_trans · before) id⟩
  · rename_i after
    have before := (le_total first second).resolve_left after
    exact ⟨.inl, fun earlier => earlier.elim id (le_trans · before)⟩

def secondsPerDay : Nat := 86400

def isLeap (time : Timestamp) : Bool := nanosPerSecond ≤ time.nanos

/-- The whole seconds since midnight. -/
def secondOfDay (time : Timestamp) : Int := time.seconds % secondsPerDay

/-- The time a number of nanoseconds after a second began, or before it. It is in no leap second. -/
def carried (seconds nanos : Int) : Timestamp :=
  ⟨seconds + nanos / nanosPerSecond, (nanos % nanosPerSecond).toNat⟩

/-- The time a span later, without a check of its range. The only leap second that counts is the
one that the span begins in. -/
def advance (time : Timestamp) (duration : Duration) : Timestamp :=
  let total : Int := time.nanos + duration.nanos
  if time.isLeap && nanosPerSecond ≤ total then
    if total < 2 * nanosPerSecond then ⟨time.seconds, total.toNat⟩
    else carried time.seconds (total - nanosPerSecond)
  else carried time.seconds total

/-- The time a span later, if it is representable. -/
def add? (time : Timestamp) (duration : Duration) : Option Timestamp :=
  let later := time.advance duration
  if earliest.seconds ≤ later.seconds ∧ later.seconds ≤ latest.seconds then some later else none

/-- Whether the span to a later time counts the leap second that it begins in. Times of day
count it and dates do not, so it is lost where the later time of day is not the later one. -/
def leapBetween (time later : Timestamp) : Bool :=
  time.isLeap && time.secondOfDay < later.secondOfDay

def since (time earlier : Timestamp) : Duration :=
  let leap : Int :=
    if earlier.leapBetween time then 1
    else if time.leapBetween earlier then -1
    else 0
  .ofSeconds (time.seconds - earlier.seconds + leap) ((time.nanos : Int) - earlier.nanos)

end Timestamp

/-- A reading of a clock that never goes back, in nanoseconds from an arbitrary start. -/
structure Instant where
  nanos : Int
  deriving DecidableEq, Repr

namespace Instant

instance : LE Instant := ⟨fun a b => a.nanos ≤ b.nanos⟩
instance (a b : Instant) : Decidable (a ≤ b) := inferInstanceAs (Decidable (a.nanos ≤ b.nanos))

theorem le_iff {a b : Instant} : a ≤ b ↔ a.nanos ≤ b.nanos := Iff.rfl

def advance (instant : Instant) (duration : Duration) : Instant :=
  ⟨instant.nanos + duration.nanos⟩

/-- The span since an earlier reading; none at all if that reading is not earlier. -/
def since (instant earlier : Instant) : Duration :=
  ⟨max 0 (instant.nanos - earlier.nanos)⟩

end Instant

/-- The two clocks that a node reads. -/
structure Clock where
  wall : Timestamp
  monotonic : Instant
  deriving DecidableEq, Repr

def Clock.advance (clock : Clock) (duration : Duration) : Clock :=
  ⟨clock.wall.advance duration, clock.monotonic.advance duration⟩

end GpuSharing
