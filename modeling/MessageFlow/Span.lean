import MessageFlow.Text.Inspect

/-!
# Spans of time

A span is counted in nanoseconds. Timers are coarser: they go off at whole milliseconds, and never
early, so that who waits for a part of a millisecond waits for all of it.
-/

namespace MessageFlow

/-- A span of time. -/
structure Span where
  nanos : Nat
  deriving DecidableEq, Repr

namespace Span

/-- A number of milliseconds. -/
def ofMillis (ms : Nat) : Span := ⟨ms * 1000000⟩

/-- The whole milliseconds in a span. -/
def millis (s : Span) : Nat := s.nanos / 1000000

/-- How many milliseconds a timer waits that was set for a span. -/
def timer (s : Span) : Nat := (s.nanos + 999999) / 1000000

/-- Whole milliseconds are counted as they were given. -/
@[simp] theorem millis_ofMillis (ms : Nat) : (ofMillis ms).millis = ms := by
  show ms * 1000000 / 1000000 = ms
  exact Nat.mul_div_cancel ms (by decide)

/-- A timer is exact for whole milliseconds. -/
@[simp] theorem timer_ofMillis (ms : Nat) : (ofMillis ms).timer = ms := by
  show (ms * 1000000 + 999999) / 1000000 = ms
  omega

/-- The span in the greatest unit that there is one of. -/
def inspect (s : Span) : String :=
  if 1000000000 ≤ s.nanos then Text.Inspect.fractional 9 s.nanos ++ "s"
  else if 1000000 ≤ s.nanos then Text.Inspect.fractional 6 s.nanos ++ "ms"
  else if 1000 ≤ s.nanos then Text.Inspect.fractional 3 s.nanos ++ "µs"
  else toString s.nanos ++ "ns"

example : (ofMillis 1500).inspect = "1.5s" := by decide +kernel

end Span

end MessageFlow
