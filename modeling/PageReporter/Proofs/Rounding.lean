import PageReporter.Double.Basic

/-!
# Where doubles end

Rounding to nearest goes on working up to the greatest finite number and half a step beyond it;
from there on every quotient is infinite. The half step itself goes to the even side, which is the
infinite one.

* `nearest_odd` — when rounding goes beyond an odd number;
* `round_isInfinite` — which numbers of units are too many;
* `ofRatio_isInfinite` — which fractions are too large.
-/

namespace PageReporter

theorem twoTo_add (j k : Nat) : twoTo (j + k) = twoTo j * twoTo k :=
  Nat.pow_add 2 j k

theorem twoTo_le {j k : Nat} (hLe : j ≤ k) : twoTo j ≤ twoTo k :=
  Nat.pow_le_pow_right (by decide) hLe

/-- A number reaches a power of two when it has enough binary digits. -/
theorem twoTo_le_iff {k m : Nat} (hPos : 0 < k) : twoTo k ≤ m ↔ k ≤ m.log2 := by
  by_cases hZero : m = 0
  · rw [hZero, Nat.log2_zero]
    exact iff_of_false (Nat.not_le.mpr (twoTo_pos k)) (Nat.not_le.mpr hPos)
  · exact (Nat.le_log2 hZero).symm

/-- The whole part of a quotient survives its rounding. -/
theorem div_le_nearest (n d : Nat) : n / d ≤ nearest n d := by
  unfold nearest
  grind

/-- Rounding goes beyond an odd number from the middle on: a tie goes to the even number. -/
theorem nearest_odd {n d k : Nat} (hPos : 0 < d) (hOdd : k % 2 = 1) :
    k + 1 ≤ nearest n d ↔ (2 * k + 1) * d ≤ 2 * n := by
  have hSplit : d * (n / d) + n % d = n := Nat.div_add_mod n d
  have hLess : n % d < d := Nat.mod_lt n hPos
  -- Only where the whole part is the odd number itself does the remainder decide.
  rcases Nat.lt_trichotomy (n / d) k with hBelow | hAt | hAbove
  · have hNearest := nearest_le n d
    have hProduct : d * (n / d + 1) ≤ d * k := Nat.mul_le_mul_left d hBelow
    rw [Nat.mul_add, Nat.mul_one] at hProduct
    constructor
    · intro hBeyond
      omega
    · intro hMiddle
      have hTwice : (2 * k + 1) * d = 2 * (d * k) + d := by
        rw [Nat.add_mul, Nat.one_mul, Nat.mul_assoc, Nat.mul_comm k d]
      omega
  · have hTwice : (2 * k + 1) * d = 2 * (d * k) + d := by
      rw [Nat.add_mul, Nat.one_mul, Nat.mul_assoc, Nat.mul_comm k d]
    have hNearest : nearest n d = if 2 * (n % d) < d then k else k + 1 := by
      unfold nearest
      simp [hAt, hOdd]
    rw [hAt] at hSplit
    rw [hTwice, hNearest]
    split
    · omega
    · omega
  · have hNearest := div_le_nearest n d
    have hProduct : d * (k + 1) ≤ d * (n / d) := Nat.mul_le_mul_left d hAbove
    have hTwice : (2 * k + 1) * d + d = 2 * (d * (k + 1)) := by
      rw [← Nat.succ_mul, Nat.mul_comm _ d, ← Nat.mul_assoc, Nat.mul_comm 2 d, Nat.mul_assoc]
      rfl
    constructor
    · intro _
      omega
    · intro _
      omega

/-- Where the whole part has `k + 53` digits, the spacing is two to the `k`. -/
theorem spacing_of_log2 {q k : Nat} (hLog : q.log2 = k + 52) : spacing q = twoTo k := by
  have hZero : q ≠ 0 := by
    rintro rfl
    rw [Nat.log2_zero] at hLog
    omega
  unfold spacing
  rw [hLog]
  split
  · next hSmall =>
    have hShort : q.log2 < 53 := (Nat.log2_lt hZero).mpr hSmall
    have hNone : k = 0 := by omega
    rw [hNone]
    rfl
  · rw [Nat.add_sub_cancel]

/-- **Overflow.** A quotient of units rounds to infinity from half a step beyond the greatest
finite number on. -/
theorem round_isInfinite {n d : Nat} (hPos : 0 < d) (negative : Bool) :
    (Double.round negative n d).isInfinite = true ↔
      (2 * twoTo 53 - 1) * (d * twoTo 2045) ≤ 2 * n := by
  -- Infinite is what needs more digits than the largest exponent allows.
  have hInfinite : (Double.round negative n d).isInfinite = true ↔
      twoTo 2098 ≤ roundUnits n d := by
    rw [twoTo_le_iff (by decide), ← Nat.not_lt]
    unfold Double.round
    split
    · next hFits => simp [Double.isInfinite, hFits]
    · next hLarge => simp [Double.isInfinite, hLarge]
  have hSplit : d * (n / d) + n % d = n := Nat.div_add_mod n d
  have hLess : n % d < d := Nat.mod_lt n hPos
  have hSteps : d * (twoTo 53 * twoTo 2045) = twoTo 53 * (d * twoTo 2045) := Nat.mul_left_comm ..
  have hDigits : twoTo 53 = twoTo 52 * 2 := twoTo_succ 52
  rw [hInfinite, show twoTo 2098 = twoTo 53 * twoTo 2045 from twoTo_add 53 2045]
  unfold roundUnits
  rcases Nat.lt_trichotomy (n / d).log2 2097 with hBelow | hAt | hAbove
  · -- Far below: neither the rounded number nor the quotient comes near.
    have hSpacing : spacing (n / d) ≤ twoTo 2044 := by
      unfold spacing
      split
      · exact twoTo_pos 2044
      · exact twoTo_le (by omega)
    have hRounded := Nat.mul_le_mul (nearest_spacing_le n d) hSpacing
    have hQuotient : n / d < twoTo 52 * twoTo 2045 := by
      rw [← twoTo_add]
      exact Nat.lt_of_lt_of_le Nat.lt_log2_self (twoTo_le (by omega))
    refine iff_of_false ?_ ?_
    · intro hReached
      have hTop := Nat.le_trans hReached hRounded
      rw [show twoTo 2045 = twoTo 2044 * 2 from twoTo_succ 2044, ← Nat.mul_assoc] at hTop
      have hUnits : 0 < twoTo 53 * twoTo 2044 := Nat.mul_pos (twoTo_pos 53) (twoTo_pos 2044)
      omega
    · intro hReached
      have hProduct := Nat.mul_le_mul_left d hQuotient
      have hLower : twoTo 53 * (d * twoTo 2045) ≤ (2 * twoTo 53 - 1) * (d * twoTo 2045) :=
        Nat.mul_le_mul_right _ (by have := twoTo_pos 53; omega)
      have hHalf : twoTo 53 * (d * twoTo 2045) = 2 * (d * (twoTo 52 * twoTo 2045)) := by
        rw [hDigits, Nat.mul_right_comm, Nat.mul_comm _ 2, Nat.mul_left_comm d]
      rw [Nat.succ_eq_add_one, Nat.mul_add, Nat.mul_one] at hProduct
      omega
  · -- At the last digits that fit: the greatest finite number has an odd last digit.
    have hOdd : (twoTo 53 - 1) % 2 = 1 := by decide
    have hMiddle := nearest_odd (n := n) (Nat.mul_pos hPos (twoTo_pos 2045)) hOdd
    have hNext : twoTo 53 - 1 + 1 = twoTo 53 := Nat.sub_add_cancel (twoTo_pos 53)
    have hTwice : 2 * (twoTo 53 - 1) + 1 = 2 * twoTo 53 - 1 := by omega
    rw [spacing_of_log2 (k := 2045) hAt, Nat.mul_le_mul_right_iff (twoTo_pos 2045), ← hTwice,
      ← hMiddle, hNext]
  · -- Above: the whole part is too large already.
    obtain ⟨k, hLog⟩ : ∃ k, (n / d).log2 = k + 52 := ⟨(n / d).log2 - 52, by omega⟩
    have hWhole : twoTo 52 * twoTo k ≤ n / d := by
      rw [← twoTo_add, twoTo_le_iff (by omega)]
      omega
    have hEnough : twoTo 53 * twoTo 2045 ≤ twoTo 52 * twoTo k := by
      rw [← twoTo_add, ← twoTo_add]
      exact twoTo_le (by omega)
    refine iff_of_true ?_ ?_
    · have hRounded : twoTo 52 ≤ nearest n (d * twoTo k) := by
        refine Nat.le_trans ?_ (div_le_nearest n (d * twoTo k))
        rw [← Nat.div_div_eq_div_mul, Nat.le_div_iff_mul_le (twoTo_pos k)]
        exact hWhole
      rw [spacing_of_log2 hLog]
      exact Nat.le_trans hEnough (Nat.mul_le_mul_right _ hRounded)
    · have hProduct := Nat.mul_le_mul_left d (Nat.le_trans hEnough hWhole)
      have hUpper : (2 * twoTo 53 - 1) * (d * twoTo 2045) ≤ 2 * twoTo 53 * (d * twoTo 2045) :=
        Nat.mul_le_mul_right _ (Nat.sub_le _ _)
      rw [Nat.mul_assoc, ← hSteps] at hUpper
      omega

/-- A fraction is infinite as a double when it reaches the middle between the greatest finite
number and two to the 1024. -/
theorem ofRatio_isInfinite {n d : Nat} (hPos : 0 < d) (negative : Bool) :
    (Double.ofRatio negative n d).isInfinite = true ↔
      d * (twoTo 1024 - twoTo 970) ≤ n := by
  have hScale : (2 * twoTo 53 - 1) * twoTo 2045 = (twoTo 1024 - twoTo 970) * (2 * twoTo 1074) := by
    decide +kernel
  have hUnits : 0 < 2 * twoTo 1074 := Nat.mul_pos (by decide) (twoTo_pos 1074)
  unfold Double.ofRatio Double.unitsPerOne
  rw [round_isInfinite hPos, Nat.mul_left_comm, hScale, ← Nat.mul_assoc, Nat.mul_left_comm 2 n,
    Nat.mul_le_mul_right_iff hUnits]

end PageReporter
