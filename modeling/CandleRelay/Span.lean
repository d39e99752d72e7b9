/-!
# Spans of time

A span of time is kept as whole seconds, counted in 64 bits, and the nanoseconds beyond them. What
is too long for that is the longest span there is.
-/

namespace CandleRelay

/-- A span of time. -/
structure Span where
  seconds : Nat
  nanos : Nat
  seconds_lt : seconds < UInt64.size
  nanos_lt : nanos < 1000000000
  deriving DecidableEq, Repr

namespace Span

/-- The longest span there is. -/
def longest : Span := ⟨UInt64.size - 1, 999999999, by decide, by decide⟩

/-- Some milliseconds. -/
def ofMillis (ms : UInt64) : Span where
  seconds := ms.toNat / 1000
  nanos := ms.toNat % 1000 * 1000000
  seconds_lt := Nat.lt_of_le_of_lt (Nat.div_le_self _ _) ms.toNat_lt_size
  nanos_lt := by omega

/-- The milliseconds of a span. What is less than one is dropped. -/
def millis (s : Span) : Nat := s.seconds * 1000 + s.nanos / 1000000

/-- The length in nanoseconds. -/
def inNanos (s : Span) : Nat := s.seconds * 1000000000 + s.nanos

/-- A span `n` times over, if it can be kept. Of the nanoseconds every full second is carried. -/
def times? (s : Span) (n : UInt32) : Option Span :=
  let nanos := s.nanos * n.toNat
  let seconds := s.seconds * n.toNat + nanos / 1000000000
  if h : seconds < UInt64.size then
    some ⟨seconds, nanos % 1000000000, h, Nat.mod_lt _ (by decide)⟩
  else none

/-- A span `n` times over, or the longest there is. -/
def times (s : Span) (n : UInt32) : Span := (s.times? n).getD longest

/-- Spans are compared by their seconds first. -/
instance : LE Span :=
  ⟨fun a b => a.seconds < b.seconds ∨ a.seconds = b.seconds ∧ a.nanos ≤ b.nanos⟩

instance : DecidableLE Span := fun a b =>
  inferInstanceAs (Decidable (a.seconds < b.seconds ∨ a.seconds = b.seconds ∧ a.nanos ≤ b.nanos))

instance : Min Span := minOfLe

/-! ## Lengths -/

variable {a b : Span}

theorem inNanos_ofMillis (ms : UInt64) : (ofMillis ms).inNanos = ms.toNat * 1000000 := by
  show ms.toNat / 1000 * 1000000000 + ms.toNat % 1000 * 1000000 = _
  omega

theorem millis_eq (s : Span) : s.millis = s.inNanos / 1000000 := by
  unfold millis inNanos
  omega

theorem le_iff_inNanos : a ≤ b ↔ a.inNanos ≤ b.inNanos := by
  have ha := a.nanos_lt
  have hb := b.nanos_lt
  show a.seconds < b.seconds ∨ a.seconds = b.seconds ∧ a.nanos ≤ b.nanos ↔
    a.seconds * 1000000000 + a.nanos ≤ b.seconds * 1000000000 + b.nanos
  omega

theorem inNanos_min (a b : Span) : (min a b).inNanos = min a.inNanos b.inNanos := by
  show (if a ≤ b then a else b).inNanos = _
  rw [Nat.min_def, apply_ite inNanos]
  simp only [le_iff_inNanos]

/-- A span taken several times over is as long as it should be, up to the longest there is. -/
theorem inNanos_times (s : Span) (n : UInt32) :
    (s.times n).inNanos = min (s.inNanos * n.toNat) longest.inNanos := by
  have hlongest : longest.inNanos + 1 = UInt64.size * 1000000000 := rfl
  have hproduct :
      s.inNanos * n.toNat = s.seconds * n.toNat * 1000000000 + s.nanos * n.toNat := by
    rw [inNanos, Nat.add_mul, Nat.mul_right_comm]
  unfold times times?
  dsimp only
  split
  · next h =>
    show (s.seconds * n.toNat + s.nanos * n.toNat / 1000000000) * 1000000000 +
      s.nanos * n.toNat % 1000000000 = _
    omega
  · next h =>
    show longest.inNanos = _
    omega

end Span

end CandleRelay
