/-!
# Spans of time

A span is a number of seconds and nanoseconds.  Its text uses the largest unit of which it holds
at least one, with as many places as it needs.
-/

set_option autoImplicit false

namespace DecisionPoint

/-- A span of time; `nanos` is below a second. -/
structure Span where
  secs : Nat
  nanos : Nat
deriving DecidableEq, Repr, Inhabited

namespace Span

def nanosPerSecond : Nat := 1000000000

/-- A span of any number of nanoseconds, carried into seconds. -/
def ofParts (secs nanos : Nat) : Span :=
  ⟨secs + nanos / nanosPerSecond, nanos % nanosPerSecond⟩

def ofSecs (secs : Nat) : Span :=
  ⟨secs, 0⟩

def ofMillis (millis : Nat) : Span :=
  ⟨millis / 1000, millis % 1000 * 1000000⟩

/-- A span of minutes; one beyond a word of seconds becomes the longest. -/
def ofMinutes (minutes : Nat) : Span :=
  ⟨min (minutes * 60) (UInt64.size - 1), 0⟩

def isZero (span : Span) : Bool :=
  span.secs = 0 && span.nanos = 0

/-- The whole milliseconds of a span, begun ones included. -/
def millis (span : Span) : Nat :=
  span.secs * 1000 + (span.nanos + 999999) / 1000000

def fractionDigits (places fraction : Nat) : List Char :=
  let digits := Nat.toDigits 10 fraction
  let padded := List.replicate (places - digits.length) '0' ++ digits
  (padded.reverse.dropWhile (· = '0')).reverse

def withUnit (whole fraction places : Nat) (unit : String) : String :=
  let digits := fractionDigits places fraction
  let tail := if digits.isEmpty then "" else "." ++ String.ofList digits
  toString whole ++ tail ++ unit

def text (span : Span) : String :=
  if 0 < span.secs then withUnit span.secs span.nanos 9 "s"
  else if 1000000 ≤ span.nanos then
    withUnit (span.nanos / 1000000) (span.nanos % 1000000) 6 "ms"
  else if 1000 ≤ span.nanos then withUnit (span.nanos / 1000) (span.nanos % 1000) 3 "µs"
  else withUnit span.nanos 0 0 "ns"

example : (ofMillis 1500).text = "1.5s" := by decide +kernel
example : (ofParts 0 1500).text = "1.5µs" := by decide +kernel
example : (ofParts 0 0).text = "0ns" := by decide +kernel

end Span

end DecisionPoint
