import Mathlib
import PageReporter.Proofs.Times

/-!
# Rounding rational numbers

A double is rounded from a fraction of units, and what comes out depends on the number alone that
the fraction is. So rounding is a function of rational numbers: it keeps their order, it leaves what
need not be rounded as it is, and what is close enough to such a number becomes that number.

* `roundRat` — the units that a rational number of units rounds to;
* `roundRat_mono`, `roundRat_of_fits` — order, and what stays as it is;
* `roundRat_between` — what lies between two numbers that round to the same one does so too;
* `roundRat_near` — how close is close enough.
-/

namespace PageReporter

/-- The units that a number of units rounds to. -/
def roundRat (q : ℚ) : Nat :=
  roundUnits q.num.toNat q.den

theorem num_mul_den {q : ℚ} (hNonneg : 0 ≤ q) : ((q.num.toNat : ℕ) : ℚ) = q * q.den := by
  have hNum : 0 ≤ q.num := Rat.num_nonneg.mpr hNonneg
  have hCast : ((q.num.toNat : ℕ) : ℚ) = (q.num : ℚ) := by
    exact_mod_cast congrArg (fun i : ℤ => (i : ℚ)) (Int.toNat_of_nonneg hNum)
  rw [hCast, Rat.mul_den_eq_num]

theorem roundRat_mono {p q : ℚ} (hNonneg : 0 ≤ p) (hLe : p ≤ q) : roundRat p ≤ roundRat q := by
  apply roundUnits_mono p.den_pos q.den_pos
  have hFirst := num_mul_den hNonneg
  have hSecond := num_mul_den (hNonneg.trans hLe)
  have hScaled : p * p.den * q.den ≤ q * q.den * p.den := by
    have hDens : (0 : ℚ) ≤ p.den * q.den := by positivity
    have := mul_le_mul_of_nonneg_right hLe hDens
    linarith
  rw [← hFirst, ← hSecond] at hScaled
  exact_mod_cast hScaled

/-- What a fraction rounds to depends on the number alone that it is. -/
theorem roundRat_div (n : ℕ) {d : ℕ} (hPos : 0 < d) : roundRat (n / d) = roundUnits n d := by
  have hNonneg : (0 : ℚ) ≤ n / d := by positivity
  have hNum := num_mul_den hNonneg
  have hNonzero : (d : ℚ) ≠ 0 := by exact_mod_cast hPos.ne'
  -- The number in lowest terms is the same fraction, so each rounds at most to the other.
  have hCross : ((n / d : ℚ).num.toNat) * d = n * (n / d : ℚ).den := by
    have hScaled : (((n / d : ℚ).num.toNat : ℕ) : ℚ) * d = n * (n / d : ℚ).den := by
      rw [hNum]
      field_simp
    exact_mod_cast hScaled
  exact Nat.le_antisymm (roundUnits_mono (Rat.den_pos _) hPos hCross.le)
    (roundUnits_mono hPos (Rat.den_pos _) hCross.ge)

/-- What need not be rounded stays as it is. -/
theorem roundRat_of_fits {u : ℕ} (hFits : Representable u) : roundRat u = u := by
  have hWhole := roundRat_div u Nat.one_pos
  rw [Nat.cast_one, div_one] at hWhole
  rw [hWhole]
  exact Nat.le_antisymm (roundUnits_le Nat.one_pos hFits (by omega))
    (le_roundUnits Nat.one_pos hFits (by omega))

/-- What lies between a number that rounds to another one and that one does so too. -/
theorem roundRat_between {p q : ℚ} {u : ℕ} (hFits : Representable u) (hNonneg : 0 ≤ p)
    (hRounds : roundRat p = u) (hNonneg' : 0 ≤ q) (hBetween : p ≤ q ∧ q ≤ u ∨ u ≤ q ∧ q ≤ p) :
    roundRat q = u := by
  have hSelf := roundRat_of_fits hFits
  rcases hBetween with ⟨hLow, hHigh⟩ | ⟨hLow, hHigh⟩
  · have hAbove := roundRat_mono hNonneg hLow
    have hBelow := roundRat_mono hNonneg' hHigh
    omega
  · have hAbove := roundRat_mono (Nat.cast_nonneg u) hLow
    have hBelow := roundRat_mono hNonneg' hHigh
    omega

/-! ## Close enough -/

theorem nearest_eq {n d m : ℕ} (hPos : 0 < d) (hLow : 2 * (m * d) < 2 * n + d)
    (hHigh : 2 * n < 2 * (m * d) + d) : nearest n d = m := by
  have hSplit := Nat.div_add_mod n d
  have hLess := Nat.mod_lt n hPos
  rcases Nat.lt_trichotomy (n / d) m with hBelow | hAt | hAbove
  · -- One less: the remainder is more than half.
    have hProduct : d * (n / d + 1) ≤ d * m := Nat.mul_le_mul_left d hBelow
    have hNext : n / d + 1 = m := by
      by_contra hFar
      have hFurther : d * (n / d + 2) ≤ d * m := Nat.mul_le_mul_left d (by omega)
      rw [Nat.mul_comm d m] at hFurther
      rw [Nat.mul_add] at hFurther
      omega
    rw [Nat.mul_add, Nat.mul_one, Nat.mul_comm d m] at hProduct
    have hExact : d * (n / d) + d = m * d := by rw [← hNext]; ring
    unfold nearest
    rw [if_neg (by omega), if_pos (by omega), hNext]
  · have hExact : d * (n / d) = m * d := by rw [hAt, Nat.mul_comm]
    unfold nearest
    rw [if_pos (by omega), hAt]
  · have hProduct : d * (m + 1) ≤ d * (n / d) := Nat.mul_le_mul_left d hAbove
    rw [Nat.mul_add, Nat.mul_one, Nat.mul_comm d m] at hProduct
    omega

theorem spacing_eq {q k : ℕ} (hReached : k = 0 ∨ twoTo (52 + k) ≤ q)
    (hBelow : q < twoTo (53 + k)) : spacing q = twoTo k := by
  rcases hReached with rfl | hReached
  · rw [spacing, if_pos hBelow]
    rfl
  · rcases Nat.eq_zero_or_pos k with rfl | hPos
    · rw [spacing, if_pos hBelow]
      rfl
    · have hLow : 52 + k ≤ q.log2 := (twoTo_le_iff (by omega)).mp hReached
      have hHigh : ¬ 53 + k ≤ q.log2 := by
        rw [← twoTo_le_iff (by omega)]
        omega
      exact spacing_of_log2 (by omega)

/-- A fraction within half a step of a number of that many steps is rounded to it. -/
theorem roundUnits_eq {n d m k : ℕ} (hPos : 0 < d) (hSpacing : spacing (n / d) = twoTo k)
    (hLow : 2 * (m * (d * twoTo k)) < 2 * n + d * twoTo k)
    (hHigh : 2 * n < 2 * (m * (d * twoTo k)) + d * twoTo k) : roundUnits n d = m * twoTo k := by
  rw [roundUnits, hSpacing, nearest_eq (Nat.mul_pos hPos (twoTo_pos k)) hLow hHigh]

/-- A number that need not be rounded is a number of steps, as many as there is room for. -/
theorem representable_steps {u : ℕ} (hFits : Representable u) :
    ∃ m k, u = m * twoTo k ∧ m < twoTo 53 ∧ (k = 0 ∨ twoTo 52 ≤ m) := by
  -- The spacing at the number itself divides it, as no number is finer there.
  obtain ⟨k, -, hReached, hBelow⟩ := spacing_bounds u
  rcases representable_cases hFits hReached with ⟨m, rfl⟩ | ⟨hSmall, hLarge⟩
  · refine ⟨m, k, rfl, ?_, ?_⟩
    · rw [twoTo_add] at hBelow
      exact Nat.lt_of_mul_lt_mul_right hBelow
    · refine hReached.imp_right fun hEnough => ?_
      rw [twoTo_add] at hEnough
      exact Nat.le_of_mul_le_mul_right hEnough (twoTo_pos k)
  · omega

theorem spacing_div_eq {n d k : ℕ} (hPos : 0 < d)
    (hReached : k = 0 ∨ twoTo 52 * (d * twoTo k) ≤ n) (hBelow : n < twoTo 53 * (d * twoTo k)) :
    spacing (n / d) = twoTo k := by
  have hPower (j : ℕ) : twoTo (j + k) * d = twoTo j * (d * twoTo k) := by
    rw [twoTo_add]
    ring
  apply spacing_eq
  · refine hReached.imp_right fun hEnough => ?_
    rwa [Nat.le_div_iff_mul_le hPos, hPower]
  · rwa [Nat.div_lt_iff_lt_mul hPos, hPower]

/-- Below a power of two the steps are half as wide as above it. -/
theorem roundUnits_below_power {n d k : ℕ} (hPos : 0 < d)
    (hBelow : n < twoTo 52 * (d * twoTo (k + 1)))
    (hLow : twoTo 53 * (d * twoTo k) * twoTo 54 < n * twoTo 54 + twoTo 53 * (d * twoTo k)) :
    roundUnits n d = twoTo 52 * twoTo (k + 1) := by
  have hHalf : d * twoTo (k + 1) = 2 * (d * twoTo k) := by rw [twoTo_succ]; ring
  have hTwice : twoTo 52 * twoTo (k + 1) = twoTo 53 * twoTo k := by
    rw [twoTo_succ k, twoTo_succ 52]
    ring
  have h52 : twoTo 52 = 4503599627370496 := rfl
  have h53 : twoTo 53 = 9007199254740992 := rfl
  have h54 : twoTo 54 = 18014398509481984 := rfl
  rw [hHalf, h52] at hBelow
  rw [h53, h54] at hLow
  rw [hTwice]
  refine roundUnits_eq hPos (spacing_div_eq hPos (.inr ?_) ?_) ?_ ?_
  · rw [h52]
    omega
  · rw [h53]
    omega
  · rw [h53]
    omega
  · rw [h53]
    omega

/-- **How close is close enough.** What differs from a number that need not be rounded by less than
one part in two to the 54 is rounded to it. -/
theorem roundUnits_near {n d u : ℕ} (hPos : 0 < d) (hFits : Representable u)
    (hLow : u * d * twoTo 54 < n * twoTo 54 + u * d)
    (hHigh : n * twoTo 54 < u * d * twoTo 54 + u * d) : roundUnits n d = u := by
  obtain ⟨m, k, rfl, hDigits, hEnough⟩ := representable_steps hFits
  have hStep : 0 < d * twoTo k := Nat.mul_pos hPos (twoTo_pos k)
  have hUnits : m * twoTo k * d = m * (d * twoTo k) := by ring
  have hTop : (m + 1) * (d * twoTo k) ≤ twoTo 53 * (d * twoTo k) :=
    Nat.mul_le_mul_right _ hDigits
  have h52 : twoTo 52 = 4503599627370496 := rfl
  have h53 : twoTo 53 = 9007199254740992 := rfl
  have h54 : twoTo 54 = 18014398509481984 := rfl
  rw [hUnits, h54] at hLow hHigh
  rw [Nat.succ_mul, h53] at hTop
  by_cases hRoom : k = 0 ∨ twoTo 52 * (d * twoTo k) ≤ n
  · refine roundUnits_eq hPos (spacing_div_eq hPos hRoom ?_) ?_ ?_
    · rw [h53]
      omega
    · omega
    · omega
  · -- The number is the least one with its spacing, and the fraction is below it.
    obtain ⟨hSome, hBelow⟩ := not_or.mp hRoom
    obtain ⟨j, rfl⟩ : ∃ j, k = j + 1 := ⟨k - 1, by omega⟩
    -- A greater one would be more than a step above the power, and the fraction as well.
    have hLeast : m = twoTo 52 := by
      rw [h52] at hBelow hEnough ⊢
      by_contra hMore
      have hAbove := Nat.mul_le_mul_right (d * twoTo (j + 1)) (show 4503599627370497 ≤ m by omega)
      omega
    subst hLeast
    have hTwice : twoTo 52 * (d * twoTo (j + 1)) = twoTo 53 * (d * twoTo j) := by
      rw [twoTo_succ j, twoTo_succ 52]
      ring
    apply roundUnits_below_power hPos (Nat.not_le.mp hBelow)
    rw [← hTwice, h54]
    exact hLow

theorem roundRat_near {q : ℚ} {u : ℕ} (hNonneg : 0 ≤ q) (hFits : Representable u)
    (hClose : |q - u| * 2 ^ 54 < u) : roundRat q = u := by
  have hNum := num_mul_den hNonneg
  have hDen : (0 : ℚ) < q.den := by exact_mod_cast q.den_pos
  have hPower : ((twoTo 54 : ℕ) : ℚ) = 2 ^ 54 := by norm_num [twoTo]
  have hBelow : (u - q) * 2 ^ 54 < u := by
    have := neg_abs_le (q - u)
    linarith
  have hAbove : (q - u) * 2 ^ 54 < u := by
    have := le_abs_self (q - u)
    linarith
  apply roundUnits_near q.den_pos hFits
  · have hScaled := mul_lt_mul_of_pos_right hBelow hDen
    have hCast : (u * q.den * 2 ^ 54 : ℚ) < q.num.toNat * 2 ^ 54 + u * q.den := by
      rw [hNum]
      linarith
    rw [← hPower] at hCast
    exact_mod_cast hCast
  · have hScaled := mul_lt_mul_of_pos_right hAbove hDen
    have hCast : (q.num.toNat * 2 ^ 54 : ℚ) < u * q.den * 2 ^ 54 + u * q.den := by
      rw [hNum]
      linarith
    rw [← hPower] at hCast
    exact_mod_cast hCast

end PageReporter
