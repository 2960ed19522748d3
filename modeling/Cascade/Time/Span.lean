/-!
# Spans of time

A span is a number of nanoseconds, so spans of any length add and compare exactly.
-/

namespace Cascade.Time

structure Span where
  nanos : Nat
deriving DecidableEq, Repr, Inhabited

namespace Span

def ofMillis (n : Nat) : Span := ⟨n * 1000000⟩

def ofSeconds (seconds nanos : Nat) : Span := ⟨seconds * 1000000000 + nanos⟩

def millis (d : Span) : Nat := d.nanos / 1000000

def seconds (d : Span) : Nat := d.nanos / 1000000000

def subsecond (d : Span) : Nat := d.nanos % 1000000000

end Span

end Cascade.Time
