import Mathlib
import PageReporter.Proofs.ShortestDigits

/-!
# The digits of whole numbers

Whole numbers are doubles up to two to the 53, all of them, and above that no odd one is. So among
the multiples of ten none is read as another small whole number, and the search for the shortest
digits of such a number goes on until the grid holds the number itself.

* `Double.ofInt_eq` — a small whole number as a double;
* `Double.tens_exact`, `Double.onGrid?_coarse` — which multiples of ten are read back;
* `Double.shortest_whole` — the digits of a small whole number are its own.
-/

namespace PageReporter

namespace Double

theorem representable_mul {m k : ℕ} (hDigits : m < twoTo 53) (hLe : k ≤ 2000) :
    Representable (m * twoTo k) := by
  refine ⟨?_, m, k, hDigits, rfl⟩
  by_contra hLarge
  have hReached := (twoTo_le_iff (by decide)).mpr (Nat.not_lt.mp hLarge)
  have hProduct : m * twoTo k < twoTo (53 + k) := by
    rw [twoTo_add]
    exact Nat.mul_lt_mul_of_pos_right hDigits (twoTo_pos k)
  have hPower : twoTo (53 + k) ≤ twoTo 2098 := twoTo_le (by omega)
  omega

theorem representable_whole {i : ℕ} (hLe : i ≤ twoTo 53) : Representable (i * unitsPerOne) := by
  rcases Nat.lt_or_eq_of_le hLe with hLess | rfl
  · exact representable_mul hLess (by decide)
  · have hPower : twoTo 53 * unitsPerOne = 1 * twoTo (53 + 1074) := by
      rw [twoTo_add, Nat.one_mul, unitsPerOne]
    rw [hPower]
    exact representable_mul (by decide) (by decide)

/-- The first whole numbers of fifty-four binary digits are even. -/
theorem representable_above : Representable ((twoTo 53 + 2) * unitsPerOne) := by
  have hHalf : (twoTo 53 + 2) * unitsPerOne = (twoTo 52 + 1) * twoTo (1 + 1074) := by
    have hTwice : twoTo 53 + 2 = (twoTo 52 + 1) * twoTo 1 := by decide
    rw [twoTo_add, hTwice, unitsPerOne, Nat.mul_assoc]
  rw [hHalf]
  exact representable_mul (by decide) (by decide)

theorem ofInt_eq {i : ℤ} (hLe : i.natAbs ≤ twoTo 53) :
    ofInt i = .finite (i < 0) (i.natAbs * unitsPerOne) (representable_whole hLe) := by
  have hFits := representable_whole hLe
  rw [ofInt, ofRatio, round_eq_finite_iff]
  generalize i.natAbs * unitsPerOne = u at hFits
  exact Nat.le_antisymm (roundUnits_le Nat.one_pos hFits (Nat.mul_one u).ge)
    (le_roundUnits Nat.one_pos hFits (Nat.mul_one u).le)

variable {i : ℕ}

theorem decimalUnits_natCast (m t : ℕ) :
    decimalUnits m t = ((m * 10 ^ t * unitsPerOne : ℕ) : ℚ) := by
  rw [decimalUnits, zpow_natCast, Nat.cast_mul, Nat.cast_mul, Nat.cast_pow, Nat.cast_ofNat]

/-- **Tens are exact.** A multiple of ten is read back as a small whole number only if it is that
number. The one whole number that is read as a smaller one of them is odd. -/
theorem tens_exact {m t : ℕ} (hLe : i ≤ twoTo 53)
    (hRead : readsBack (i * unitsPerOne) m ((t + 1 : ℕ) : ℤ) = true) : m * 10 ^ (t + 1) = i := by
  have hOne : 0 < unitsPerOne := Nat.cast_pos.mp unitsPerOne_pos
  have hFits := representable_whole hLe
  have hSmall (hBelow : m * 10 ^ (t + 1) ≤ twoTo 53) :=
    roundRat_of_fits (representable_whole hBelow)
  have hTop := roundRat_of_fits representable_above
  rw [readsBack_iff hFits, decimalUnits_natCast] at hRead
  -- The first whole number that is no double ends in a three.
  have hOdd : m * 10 ^ (t + 1) ≠ twoTo 53 + 1 := by
    have hDigit : (twoTo 53 + 1) % 10 = 3 := by decide
    rw [pow_succ, ← Nat.mul_assoc]
    omega
  -- The number of units in one is huge and must not be looked into.
  generalize unitsPerOne = one at *
  generalize m * 10 ^ (t + 1) = value at *
  rcases Nat.lt_or_ge (twoTo 53) value with hAbove | hBelow
  · have hFar : (twoTo 53 + 2) * one ≤ value * one := Nat.mul_le_mul_right _ (by omega)
    have hCast : (((twoTo 53 + 2) * one : ℕ) : ℚ) ≤ ((value * one : ℕ) : ℚ) :=
      Nat.cast_le.mpr hFar
    have hRounded := roundRat_mono (Nat.cast_nonneg _) hCast
    rw [hTop, hRead] at hRounded
    have := Nat.le_of_mul_le_mul_right hRounded hOne
    omega
  · rw [hSmall hBelow] at hRead
    exact Nat.eq_of_mul_eq_mul_right hOne hRead

/-- Nothing is read back as a small whole number on a grid that is too coarse for its digits. -/
theorem onGrid?_coarse {t : ℕ} (hLe : i ≤ twoTo 53) (hFiner : ¬ 10 ^ (t + 1) ∣ i) :
    onGrid? (i * unitsPerOne) ((t + 1 : ℕ) : ℤ) = none := by
  cases hFound : onGrid? (i * unitsPerOne) ((t + 1 : ℕ) : ℤ) with
  | none => rfl
  | some digits =>
    obtain ⟨m, -, -, hRead, -⟩ := onGrid?_sound hFound
    exact absurd (Dvd.intro_left m (tens_exact hLe hRead)) hFiner

theorem gridRatio_exact (s t : ℕ) :
    gridRatio (s * 10 ^ t * unitsPerOne) t =
      (s * (unitsPerOne * tenTo t), unitsPerOne * tenTo t) := by
  have hProduct : s * 10 ^ t * unitsPerOne = s * (unitsPerOne * tenTo t) := by
    unfold tenTo
    rw [Nat.pow_eq, Nat.mul_assoc, Nat.mul_comm (10 ^ t)]
  rw [gridRatio, if_pos (Int.natCast_nonneg t), Int.toNat_natCast, hProduct]

theorem onGrid?_exact {s t : ℕ} (hFits : Representable (s * 10 ^ t * unitsPerOne))
    (hSome : 0 < s) : onGrid? (s * 10 ^ t * unitsPerOne) t = some (Digits.ofNat s t) := by
  refine onGrid?_of_exact (gridRatio_exact s t) ?_ hSome ?_
  · exact Nat.mul_pos (Nat.cast_pos.mp unitsPerOne_pos) (tenTo_pos t)
  · rw [readsBack_iff hFits, decimalUnits_natCast, roundRat_of_fits hFits]

/-- Only one place of the point is right. -/
theorem point_le_of_bounds {x : ℚ} {p q : ℤ} (hLow : 10 ^ (p - 1) * (unitsPerOne : ℚ) ≤ x)
    (hHigh : x < 10 ^ q * (unitsPerOne : ℚ)) : p ≤ q := by
  have hPower : (10 : ℚ) ^ (p - 1) < 10 ^ q :=
    lt_of_mul_lt_mul_of_nonneg_right (hLow.trans_lt hHigh) unitsPerOne_pos.le
  have := (zpow_lt_zpow_iff_right₀ (by norm_num)).mp hPower
  omega

theorem decimalPoint_whole (hPos : 0 < i) :
    decimalPoint (i * unitsPerOne) = (Text.asciiDigits i).length := by
  have hPoint := decimalPoint_bounds (Nat.mul_pos hPos (Nat.cast_pos.mp unitsPerOne_pos))
  have hUnits := decimalUnits_bounds hPos 0
  have hSame : decimalUnits i 0 = ((i * unitsPerOne : ℕ) : ℚ) := by
    rw [decimalUnits, zpow_zero, mul_one, Nat.cast_mul]
  rw [hSame, add_zero] at hUnits
  exact le_antisymm (point_le_of_bounds hPoint.1 hUnits.2) (point_le_of_bounds hUnits.1 hPoint.2)

/-- **Small whole numbers have their own digits.** The first grid on which anything is found is the
one that their last digit stands on. -/
theorem shortest_whole (hPos : 0 < i) (hLe : i ≤ twoTo 53) :
    shortest (i * unitsPerOne) = Digits.ofNat i 0 := by
  have hFits := representable_whole hLe
  obtain ⟨s, t, rfl, hLast, -⟩ := Digits.ofNat_trimmed hPos 0
  have hSome : 0 < s := Nat.pos_of_mul_pos_right hPos
  have hExact := onGrid?_exact hFits hSome
  have hCoarse {r : ℕ} := onGrid?_coarse (t := t + r) hLe
  have hPoint := decimalPoint_whole hPos
  have hLength := congrArg List.length (Text.asciiDigits_mul_pow hSome t)
  rw [List.length_append, List.length_replicate] at hLength
  obtain ⟨k, hCount, -⟩ := Text.asciiDigits_bounds hSome
  have hFew : k < 17 := by
    have hTop : twoTo 53 < 10 ^ 17 := by decide
    have hDigits := (Nat.length_toDigits_le_iff (by decide) (by decide)).mpr (hLe.trans_lt hTop)
    rw [← Text.asciiDigits] at hDigits
    omega
  rw [Digits.ofNat_shift hSome, add_zero]
  generalize s * 10 ^ t * unitsPerOne = u at *
  have hGrid : decimalPoint u - (k + 1) = t := by omega
  obtain ⟨j, hLe, hFound⟩ := shortest_of_grid hFew (by rw [hGrid, hExact]; rfl)
  rcases Nat.lt_or_eq_of_le hLe with hEarly | rfl
  · -- An earlier grid is coarser than the last digit, so nothing was found there.
    obtain ⟨r, rfl⟩ : ∃ r, k = j + (r + 1) := ⟨k - j - 1, by omega⟩
    have hStep : decimalPoint u - (j + 1) = ((t + r + 1 : ℕ) : ℤ) := by omega
    have hFiner : ¬ 10 ^ (t + r + 1) ∣ s * 10 ^ t := by
      intro hDvd
      rw [Nat.add_assoc, Nat.add_comm, pow_add] at hDvd
      have hTens : 10 ^ (r + 1) ∣ s := Nat.dvd_of_mul_dvd_mul_right (by positivity) hDvd
      exact hLast ((dvd_pow_self 10 (Nat.succ_ne_zero r)).trans hTens)
    rw [hStep, hCoarse hFiner] at hFound
    cases hFound
  · rw [hGrid, hExact] at hFound
    exact (Option.some.inj hFound).symm

end Double

end PageReporter
