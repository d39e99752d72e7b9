import CandleRelay.Json.Meaning
import Mathlib.Tactic.Ring

/-!
# How far a number is sure to fit

Whether a number fits a double is worked out with rounded parts, so at the very end of the range the
answer need not be the exact one. It is the right one for every number of a moderate size: what goes
into the accumulator never says more than the digits do (`scaled_le`), and each of the two roundings
adds at most one part in 2^53 (`toDouble_le`).

What is proved:
  1. `toDouble_le`, `scaled_le`: the two bounds.
  2. `fitsDouble_of_moderate`: a number up to 2^1024 - 2^973 fits a double, if its exponent is below
     2^31. The largest double is 2^1024 - 2^971.
  3. `fitsDouble_of_natural?`: an integer of 64 bits is far below that.
-/

namespace CandleRelay.Json.Numeral

/-! ## Rounding -/

theorem toDouble_le (n : Nat) : 2 ^ 53 * toDouble n ≤ (2 ^ 53 + 1) * n := by
  simp only [toDouble, Nat.pow_eq]
  generalize hexcess : n.log2 + 1 - 53 = excess
  have hdivide : n / 2 ^ excess * 2 ^ excess + n % 2 ^ excess = n := Nat.div_add_mod' n _
  generalize n / 2 ^ excess = down at hdivide ⊢
  generalize n % 2 ^ excess = rest at hdivide ⊢
  -- What is rounded up has more than 53 bits, and the unit is its 53rd bit.
  have hunit : 0 < excess → 2 ^ 52 * 2 ^ excess ≤ n := by
    intro hpos
    have hn : n ≠ 0 := by
      rintro rfl
      simp at hexcess
      omega
    calc 2 ^ 52 * 2 ^ excess = 2 ^ (52 + excess) := (Nat.pow_add 2 52 excess).symm
      _ ≤ 2 ^ n.log2 := Nat.pow_le_pow_right (by omega) (by omega)
      _ ≤ n := Nat.log2_self_le hn
  split
  · omega
  · next hround =>
    have hhalf : 2 ^ excess ≤ 2 * rest := by
      simp only [Bool.or_eq_true, decide_eq_true_eq, not_or] at hround
      omega
    rw [Nat.add_mul, Nat.one_mul]
    rcases Nat.eq_zero_or_pos excess with rfl | hpos
    · omega
    · have hlarge := hunit hpos
      omega

theorem mul_toDouble_lt {a b bound limit : Nat} (h : a * b ≤ bound)
    (hroom : (2 ^ 53 + 1) * (2 ^ 53 + 1) * bound < 2 ^ 53 * 2 ^ 53 * limit) :
    toDouble a * toDouble b < limit := by
  refine Nat.lt_of_mul_lt_mul_left (a := 2 ^ 53 * 2 ^ 53) ?_
  calc 2 ^ 53 * 2 ^ 53 * (toDouble a * toDouble b)
      = (2 ^ 53 * toDouble a) * (2 ^ 53 * toDouble b) := by ring
    _ ≤ ((2 ^ 53 + 1) * a) * ((2 ^ 53 + 1) * b) := Nat.mul_le_mul (toDouble_le a) (toDouble_le b)
    _ = (2 ^ 53 + 1) * (2 ^ 53 + 1) * (a * b) := by ring
    _ ≤ (2 ^ 53 + 1) * (2 ^ 53 + 1) * bound := Nat.mul_le_mul_left _ h
    _ < 2 ^ 53 * 2 ^ 53 * limit := hroom

theorem exponent_lt {k m bound : Nat} (h : 10 ^ k ≤ bound) (hbound : bound < Nat.pow 10 m) :
    k < m :=
  (Nat.pow_lt_pow_iff_right (by decide)).1 (lt_of_le_of_lt h hbound)

theorem fitsScaled_iff (sum : Nat) (power : Int) : fitsScaled sum power = true ↔
    (sum = 0 ∨ power < 0) ∨
      (power ≤ 308 ∧ toDouble sum * toDouble (Nat.pow 10 power.toNat) <
        Nat.pow 2 1024 - Nat.pow 2 970) := by
  simp only [fitsScaled, Bool.or_eq_true, Bool.and_eq_true, beq_iff_eq, decide_eq_true_eq]

theorem fitsScaled_of_le {sum : Nat} {power : Int}
    (h : sum * 10 ^ power.toNat ≤ moderateBound) : fitsScaled sum power = true := by
  rw [fitsScaled_iff]
  by_cases hsum : sum = 0
  · exact Or.inl (Or.inl hsum)
  have hten : 10 ^ power.toNat ≤ moderateBound :=
    le_trans (Nat.le_mul_of_pos_left _ (Nat.pos_of_ne_zero hsum)) h
  have hsmall : power.toNat < 309 := exponent_lt hten (by decide +kernel)
  exact Or.inr ⟨by omega, mul_toDouble_lt h (by decide +kernel)⟩

/-! ## Digits -/

/-- The value of digits behind a number. -/
def valueFrom (acc : Nat) (ds : List Digit) : Nat := ds.foldl (fun n d => n * 10 + d.val) acc

theorem valueFrom_append (acc : Nat) (xs ys : List Digit) :
    valueFrom acc (xs ++ ys) = valueFrom (valueFrom acc xs) ys :=
  List.foldl_append

theorem mul_pow_le_valueFrom (acc : Nat) (ds : List Digit) :
    acc * 10 ^ ds.length ≤ valueFrom acc ds := by
  induction ds generalizing acc with
  | nil => simp [valueFrom]
  | cons d ds ih =>
    calc acc * 10 ^ (d :: ds).length = (acc * 10) * 10 ^ ds.length := by
          rw [List.length_cons, Nat.pow_succ']
          ring
      _ ≤ (acc * 10 + d.val) * 10 ^ ds.length := Nat.mul_le_mul_right _ (Nat.le_add_right _ _)
      _ ≤ valueFrom acc (d :: ds) := ih _

/-- The accumulator takes all digits, or it is full: then one digit more would have been too much,
and it would not have said too much. -/
theorem accumulate_cases (acc : Nat) (ds : List Digit) :
    ((accumulate acc ds).1 = valueFrom acc ds ∧ (accumulate acc ds).2 = 0) ∨
      ∃ (d : Digit) (j : Nat), 2 ^ 64 ≤ (accumulate acc ds).1 * 10 + d.val ∧
        (accumulate acc ds).2 = j + 1 ∧
        ((accumulate acc ds).1 * 10 + d.val) * 10 ^ j ≤ valueFrom acc ds := by
  induction ds generalizing acc with
  | nil => exact Or.inl ⟨rfl, rfl⟩
  | cons d ds ih =>
    simp only [accumulate, Nat.pow_eq]
    split
    · exact ih _
    · next hfull =>
      exact Or.inr ⟨d, ds.length, Nat.le_of_not_lt hfull, rfl, mul_pow_le_valueFrom _ _⟩

theorem accumulateFraction_le (acc : Nat) (ds : List Digit) : ∃ left,
    ds.length = (accumulateFraction acc ds).2 + left ∧
      (accumulateFraction acc ds).1 * 10 ^ left ≤ valueFrom acc ds := by
  induction ds generalizing acc with
  | nil => exact ⟨0, rfl, by simp [accumulateFraction, valueFrom]⟩
  | cons d ds ih =>
    simp only [accumulateFraction, Nat.pow_eq]
    split
    · obtain ⟨left, hlength, hle⟩ := ih (acc * 10 + d.val)
      refine ⟨left, ?_, hle⟩
      rw [List.length_cons, hlength]
      omega
    · exact ⟨ds.length + 1, by simp, mul_pow_le_valueFrom acc (d :: ds)⟩

theorem accumulateFraction_full {acc : Nat} (hfull : 2 ^ 64 ≤ acc * 10 + 9) (ds : List Digit) :
    accumulateFraction acc ds = (acc, 0) ∨
      ((accumulateFraction acc ds).1 < 2 ^ 64 ∧ (accumulateFraction acc ds).2 = 1) := by
  cases ds with
  | nil => exact Or.inl rfl
  | cons d ds =>
    simp only [accumulateFraction, Nat.pow_eq]
    split
    · next hd =>
      have hnone : accumulateFraction (acc * 10 + d.val) ds = (acc * 10 + d.val, 0) := by
        cases ds with
        | nil => rfl
        | cons d' ds =>
          simp only [accumulateFraction, Nat.pow_eq]
          rw [if_neg (by omega)]
      rw [hnone]
      exact Or.inr ⟨hd, rfl⟩
    · exact Or.inl rfl

/-- What is accumulated never says more than the digits do. -/
theorem scaled_le (n : Numeral) :
    n.scaled.1 * 10 ^ (n.scaled.2.toNat + (n.fraction.getD []).length) ≤
      value n.significand * 10 ^ (-n.scaled.2).toNat := by
  have hvalue : value n.significand = valueFrom (value n.whole) (n.fraction.getD []) :=
    valueFrom_append 0 _ _
  rw [hvalue]
  simp only [scaled]
  generalize n.fraction.getD [] = fraction
  rcases accumulate_cases 0 n.whole with ⟨hsum, hdropped⟩ | ⟨d, j, hfull, hdropped, hle⟩
  · rw [hsum, hdropped]
    obtain ⟨left, hlength, hle⟩ := accumulateFraction_le (valueFrom 0 n.whole) fraction
    show _ ≤ valueFrom (valueFrom 0 n.whole) fraction * _
    generalize accumulateFraction (valueFrom 0 n.whole) fraction = taken at hlength hle ⊢
    have hpower : ((0 : Nat) - (taken.2 : Int)).toNat = 0 := by omega
    have hpower' : (-((0 : Nat) - (taken.2 : Int))).toNat = taken.2 := by omega
    rw [hpower, hpower', hlength, Nat.zero_add, Nat.add_comm taken.2, Nat.pow_add, ← Nat.mul_assoc]
    exact Nat.mul_le_mul_right _ hle
  · rw [hdropped]
    generalize (accumulate 0 n.whole).1 = sum at hfull hle ⊢
    -- Whatever the fraction adds, the digit that did not fit would have been more.
    have hbound : ∀ total : Nat, total * 10 ^ j ≤ (sum * 10 + d.val) * 10 ^ j →
        total * 10 ^ (j + fraction.length) ≤ valueFrom (value n.whole) fraction := by
      intro total htotal
      calc total * 10 ^ (j + fraction.length) = total * 10 ^ j * 10 ^ fraction.length := by
            rw [Nat.pow_add, Nat.mul_assoc]
        _ ≤ value n.whole * 10 ^ fraction.length :=
          Nat.mul_le_mul_right _ (le_trans htotal hle)
        _ ≤ valueFrom (value n.whole) fraction := mul_pow_le_valueFrom _ _
    have hdigit : d.val < 10 := d.isLt
    have hnine : 2 ^ 64 ≤ sum * 10 + 9 := by omega
    rcases accumulateFraction_full hnine fraction with hnone | ⟨hlt, hone⟩
    · have hpower : (((j + 1 : Nat) : Int) - ((0 : Nat) : Int)).toNat = j + 1 := by omega
      have hpower' : (-(((j + 1 : Nat) : Int) - ((0 : Nat) : Int))).toNat = 0 := by omega
      rw [hnone]
      dsimp only
      rw [hpower, hpower', Nat.pow_zero, Nat.mul_one]
      calc sum * 10 ^ (j + 1 + fraction.length) = (sum * 10) * 10 ^ (j + fraction.length) := by ring
        _ ≤ valueFrom (value n.whole) fraction :=
          hbound _ (Nat.mul_le_mul_right _ (Nat.le_add_right _ _))
    · have hpower : (((j + 1 : Nat) : Int) - ((1 : Nat) : Int)).toNat = j := by omega
      have hpower' : (-(((j + 1 : Nat) : Int) - ((1 : Nat) : Int))).toNat = 0 := by omega
      rw [hone, hpower, hpower', Nat.pow_zero, Nat.mul_one]
      exact hbound _ (Nat.mul_le_mul_right _ (by omega))

/-! ## The range -/

/-- A number of a moderate size fits a double. -/
theorem fitsDouble_of_moderate {n : Numeral} (h : n.Moderate) : n.fitsDouble = true := by
  have hscaled := n.scaled_le
  have hmagnitude := h.magnitude
  simp only [AtMost, Nat.pow_eq] at hmagnitude
  generalize (n.fraction.getD []).length = digits at hscaled hmagnitude
  -- The accumulated digits times the whole power of ten are within the bound.
  have hfits : fitsScaled n.scaled.1 (n.scaled.2 + n.power) = true := by
    by_cases hneg : n.scaled.2 + n.power < 0
    · exact (fitsScaled_iff _ _).2 (Or.inl (Or.inr hneg))
    apply fitsScaled_of_le
    have hsplit : (n.scaled.2 + n.power).toNat + ((-n.scaled.2).toNat + (-n.power).toNat) =
        n.scaled.2.toNat + n.power.toNat := by
      omega
    refine Nat.le_of_mul_le_mul_right (c := 10 ^ ((-n.scaled.2).toNat + (-n.power).toNat + digits))
      ?_ (Nat.pow_pos (by omega))
    calc n.scaled.1 * 10 ^ (n.scaled.2 + n.power).toNat *
          10 ^ ((-n.scaled.2).toNat + (-n.power).toNat + digits)
        = n.scaled.1 * 10 ^ (n.scaled.2.toNat + digits) * 10 ^ n.power.toNat := by
          rw [Nat.mul_assoc, ← Nat.pow_add, ← Nat.add_assoc, hsplit, Nat.mul_assoc, ← Nat.pow_add]
          congr 2
          omega
      _ ≤ value n.significand * 10 ^ (-n.scaled.2).toNat * 10 ^ n.power.toNat :=
        Nat.mul_le_mul_right _ hscaled
      _ = value n.significand * 10 ^ n.power.toNat * 10 ^ (-n.scaled.2).toNat := by ring
      _ ≤ moderateBound * 10 ^ ((-n.power).toNat + digits) * 10 ^ (-n.scaled.2).toNat :=
        Nat.mul_le_mul_right _ hmagnitude
      _ = moderateBound * 10 ^ ((-n.scaled.2).toNat + (-n.power).toNat + digits) := by
          rw [Nat.mul_assoc, ← Nat.pow_add]
          congr 2
          omega
  unfold fitsDouble
  simp only [power] at hfits
  cases hexponent : n.exponent with
  | none =>
    rw [hexponent] at hfits
    simpa using hfits
  | some e =>
    have hsmall := h.exponent e hexponent
    rw [hexponent] at hfits
    simp only [Nat.pow_eq, if_neg (Nat.not_le_of_lt hsmall)]
    by_cases hsign : e.sign = some true
    · simpa [hsign, Int.sub_eq_add_neg] using hfits
    · simpa [hsign] using hfits

theorem fitsDouble_of_natural? {n : Numeral} {k : Nat} (h : n.natural? = some k) :
    n.fitsDouble = true := by
  unfold natural? at h
  split at h
  · next hguard =>
    simp only [Bool.and_eq_true, Option.isNone_iff_eq_none, decide_eq_true_eq] at hguard
    obtain ⟨⟨⟨-, hfraction⟩, hexponent⟩, hsmall⟩ := hguard
    apply fitsDouble_of_moderate
    refine ⟨?_, fun e he => ?_⟩
    · have hbound : Nat.pow 2 64 ≤ moderateBound := by decide +kernel
      have hwhole : value n.whole ≤ moderateBound := Nat.le_trans (Nat.le_of_lt hsmall) hbound
      simpa [AtMost, significand, power, hfraction, hexponent] using hwhole
    · rw [hexponent] at he
      cases he
  · cases h

end CandleRelay.Json.Numeral
