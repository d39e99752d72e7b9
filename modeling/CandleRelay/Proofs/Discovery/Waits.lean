import CandleRelay.Discovery.Search
import Mathlib.Algebra.GroupWithZero.Nat

/-!
# How long discovery waits

The wait after an attempt is the first wait, doubled once for every attempt before, up to ten
seconds. It is not computed that way: doubling stops after sixteen times, the factor is kept in 32
bits, and a span that is too long to be kept is cut to the longest there is. None of this can be
told from the wait. A first wait is whole milliseconds; a single one, doubled sixteen times, is
beyond the ten seconds already, and so is the longest span there is.

What is proved:
  1. `toNat_factor`: the factor is the power of two that it is meant to be, and fits its 32 bits.
  2. `inNanos_delay`: the wait to the nanosecond, for any first wait. The longest span is gone.
  3. `min_doubled`: below the ten seconds nobody sees where doubling stops.
  4. `doubles_to_ten_seconds`: the closed form for whole milliseconds, and what follows from it.
-/

namespace CandleRelay.Discovery.RetryPolicy

theorem toNat_factor (k : Nat) : (factor k).toNat = 2 ^ min (k - 1) 16 := by
  have hle : min (k - 1) 16 ≤ 16 := Nat.min_le_right _ _
  have hshift : (UInt32.ofNat (min (k - 1) 16)).toNat % 32 = min (k - 1) 16 := by
    rw [UInt32.toNat_ofNat']
    omega
  have hfits : 2 ^ min (k - 1) 16 ≤ 2 ^ 16 := Nat.pow_le_pow_right (by decide) hle
  rw [factor, UInt32.toNat_shiftLeft, hshift, UInt32.toNat_one, Nat.one_shiftLeft,
    Nat.mod_eq_of_lt (by omega)]

theorem inNanos_delay (p : RetryPolicy) (k : Nat) :
    (p.delay k).inNanos =
      min (p.initial.inNanos * 2 ^ min (k - 1) 16) longestWait.inNanos := by
  have hlongest : longestWait.inNanos ≤ Span.longest.inNanos := by decide
  rw [delay, Span.inNanos_min, Span.inNanos_times, toNat_factor, Nat.min_assoc,
    Nat.min_eq_right hlongest]

/-- Ten seconds are reached within sixteen doublings, or never. -/
theorem min_doubled (ms doublings : Nat) :
    min (ms * 2 ^ min doublings 16) 10000 = min (ms * 2 ^ doublings) 10000 := by
  rcases Nat.le_total doublings 16 with hfew | hmany
  · rw [Nat.min_eq_left hfew]
  rcases Nat.eq_zero_or_pos ms with rfl | hms
  · rw [Nat.zero_mul, Nat.zero_mul]
  have hreached : 2 ^ 16 ≤ ms * 2 ^ 16 := Nat.le_mul_of_pos_left _ hms
  have hbeyond : ms * 2 ^ 16 ≤ ms * 2 ^ doublings :=
    Nat.mul_le_mul_left ms (Nat.pow_le_pow_right (by decide) hmany)
  rw [Nat.min_eq_right hmany, Nat.min_eq_right (by omega), Nat.min_eq_right (by omega)]

theorem initial_ofLimits (attempts : Nat) (initial : UInt64) :
    (ofLimits attempts initial.toNat).initial = .ofMillis initial :=
  congrArg Span.ofMillis
    (UInt64.toNat_inj.1 (UInt64.toNat_ofNatClamp_of_lt initial.toNat_lt_size))

variable {p : RetryPolicy} {initial : UInt64}

theorem inNanos_delay_of_millis (h : p.initial = .ofMillis initial) (k : Nat) :
    (p.delay k).inNanos = min (initial.toNat * 2 ^ (k - 1)) 10000 * 1000000 := by
  have hlongest : longestWait.inNanos = 10000 * 1000000 := rfl
  rw [inNanos_delay, h, Span.inNanos_ofMillis, hlongest, Nat.mul_right_comm,
    Nat.mul_min_mul_right, min_doubled]

theorem backoff_of_millis (h : p.initial = .ofMillis initial) (k : Nat) :
    p.backoff k = min (initial.toNat * 2 ^ (k - 1)) 10000 := by
  rw [backoff, Span.millis_eq, inNanos_delay_of_millis h, Nat.mul_div_cancel _ (by decide)]

/-- **How long a search waits.** The wait after attempt `k` is `initial * 2 ^ (k - 1)` milliseconds,
computed without bound, or ten seconds if that is less, and there are no nanoseconds beyond these.
So the waits do not get shorter from attempt to attempt, none is longer than ten seconds, and there
is none only if the first one is none. -/
theorem doubles_to_ten_seconds (p : RetryPolicy) (initial : UInt64)
    (h : p.initial = .ofMillis initial) :
    (∀ k : UInt32, p.backoff k.toNat = min (initial.toNat * 2 ^ (k.toNat - 1)) 10000 ∧
      (p.delay k.toNat).inNanos = p.backoff k.toNat * 1000000) ∧
    (∀ k l : UInt32, k ≤ l → p.backoff k.toNat ≤ p.backoff l.toNat) ∧
    (∀ k : UInt32, p.backoff k.toNat ≤ 10000) ∧
    ∀ k : UInt32, p.backoff k.toNat = 0 ↔ initial = 0 := by
  have hclosed (k : UInt32) :
      p.backoff k.toNat = min (initial.toNat * 2 ^ (k.toNat - 1)) 10000 :=
    backoff_of_millis h k.toNat
  refine ⟨fun k => ⟨hclosed k, ?_⟩, ?_, ?_, ?_⟩
  · rw [hclosed]
    exact inNanos_delay_of_millis h k.toNat
  · intro k l hkl
    have hdoublings : k.toNat - 1 ≤ l.toNat - 1 := Nat.sub_le_sub_right hkl 1
    have hlonger : initial.toNat * 2 ^ (k.toNat - 1) ≤ initial.toNat * 2 ^ (l.toNat - 1) :=
      Nat.mul_le_mul_left _ (Nat.pow_le_pow_right (by decide) hdoublings)
    rw [hclosed, hclosed]
    omega
  · intro k
    rw [hclosed]
    exact Nat.min_le_right _ _
  · intro k
    have hpower : 0 < 2 ^ (k.toNat - 1) := Nat.two_pow_pos _
    rw [hclosed]
    constructor
    · intro hnone
      have hzero : initial.toNat * 2 ^ (k.toNat - 1) = 0 := by omega
      exact UInt64.toNat_inj.1 ((Nat.mul_eq_zero.1 hzero).resolve_right (by omega))
    · rintro rfl
      simp

/-- Starting from half a second, the sixth wait would be the first of more than ten seconds. -/
theorem doubles_from_half_a_second :
    ((ofLimits 5 500).initial = .ofMillis 500 ∧ (5 : UInt32) ≤ 6 ∧
      (ofLimits 5 500).backoff 5 ≤ (ofLimits 5 500).backoff 6) ∧
    (ofLimits 5 500).backoff 5 = 8000 ∧ (ofLimits 5 500).backoff 6 = 10000 := by
  have hinitial : (ofLimits 5 500).initial = .ofMillis 500 := initial_ofLimits 5 500
  obtain ⟨hclosed, hlonger, -, -⟩ := doubles_to_ten_seconds (ofLimits 5 500) 500 hinitial
  exact ⟨⟨hinitial, by decide, hlonger 5 6 (by decide)⟩, (hclosed 5).1, (hclosed 6).1⟩

/-- Here the factor is cut, and the product with it is beyond the longest span. -/
example : (ofLimits 3 18446744073709551615).backoff 4294967295 = 10000 := by decide

end CandleRelay.Discovery.RetryPolicy
