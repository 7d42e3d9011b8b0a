import Mathlib
import PageReporter.Double.Shortest
import PageReporter.Proofs.RationalRounding

/-!
# The shortest digits

The search for the digits of a number goes through ever finer decimal grids, and looks in each at
the two neighbours of the number. That is enough: what is read back as the number lies around it
without a gap, so that if anything on a grid is read back then one of the neighbours is; and any
digits that are read back lie on a grid that is no finer than they are many.

* `Digits.ofNat_trimmed` — digits without zeros at the end;
* `Double.decimalUnits` — how many units a decimal number is;
* `Double.readsBack_iff` — what is read back as a number: what rounds to it;
* `Double.decimalPoint_bounds` — between which powers of ten a number lies;
* `Double.neighbour_readsBack` — if anything on a grid is read back then a neighbour is;
* `Double.onGrid?_isSome`, `Double.finest_grid` — on which grids something is found;
* `Double.shortest_reads_back` — the digits found are read back, and no fewer are.
-/

namespace PageReporter

/-! ## Decimal digits -/

namespace Text

/-- Between which powers of ten a number lies, by the count of its digits. -/
theorem asciiDigits_bounds {m : ℕ} (hPos : 0 < m) :
    ∃ k, (asciiDigits m).length = k + 1 ∧ 10 ^ k ≤ m ∧ m < 10 ^ (k + 1) := by
  have hLength (k : ℕ) (hk : 0 < k) : (asciiDigits m).length ≤ k ↔ m < 10 ^ k :=
    Nat.length_toDigits_le_iff (by decide) hk
  have hSome : 0 < (asciiDigits m).length := List.length_pos_iff.mpr Nat.toDigits_ne_nil
  refine ⟨(asciiDigits m).length - 1, by omega, ?_, ?_⟩
  · rcases Nat.eq_zero_or_pos ((asciiDigits m).length - 1) with hOne | hMore
    · rw [hOne]
      exact hPos
    · by_contra hLess
      have := (hLength _ hMore).mpr (Nat.not_le.mp hLess)
      omega
  · rw [Nat.sub_add_cancel hSome]
    exact (hLength _ hSome).mp (Nat.le_refl _)

/-- The last digit stands behind the digits of the others. -/
theorem asciiDigits_of_le {m : ℕ} (hLe : 10 ≤ m) :
    asciiDigits m = asciiDigits (m / 10) ++ [Nat.digitChar (m % 10)] :=
  Nat.toDigits_of_base_le (by decide) hLe

theorem asciiDigits_of_lt {m : ℕ} (hLess : m < 10) : asciiDigits m = [Nat.digitChar m] :=
  Nat.toDigits_of_lt_base hLess

theorem asciiDigits_mul_ten {m : ℕ} (hPos : 0 < m) :
    asciiDigits (m * 10) = asciiDigits m ++ ['0'] := by
  rw [asciiDigits_of_le (by omega), Nat.mul_div_cancel m (by decide), Nat.mul_mod_left]
  rfl

theorem asciiDigits_mul_pow {m : ℕ} (hPos : 0 < m) (t : ℕ) :
    asciiDigits (m * 10 ^ t) = asciiDigits m ++ List.replicate t '0' := by
  induction t with
  | zero => rw [pow_zero, mul_one, List.replicate_zero, List.append_nil]
  | succ t ih =>
    rw [pow_succ, ← mul_assoc, asciiDigits_mul_ten (by positivity), ih, List.append_assoc,
      ← List.replicate_succ']

end Text

namespace Digits

/-- A zero at the end only moves the point. -/
theorem ofNat_mul_ten {m : ℕ} (hPos : 0 < m) (e : ℤ) : ofNat (m * 10) e = ofNat m (e + 1) := by
  simp only [ofNat, Text.asciiDigits_mul_ten hPos, List.reverse_append, List.reverse_singleton,
    List.singleton_append, List.dropWhile_cons, beq_self_eq_true, if_true, List.length_append,
    List.length_singleton, Digits.mk.injEq, true_and]
  push_cast
  ring

theorem ofNat_shift {m : ℕ} (hPos : 0 < m) (t : ℕ) (e : ℤ) :
    ofNat (m * 10 ^ t) e = ofNat m (t + e) := by
  induction t generalizing e with
  | zero => rw [pow_zero, mul_one, Nat.cast_zero, zero_add]
  | succ t ih =>
    rw [pow_succ, ← mul_assoc, ofNat_mul_ten (by positivity), ih]
    push_cast
    ring_nf

/-- Digits that do not end in a zero stay as they are. -/
theorem ofNat_of_not_dvd {s : ℕ} (hLast : ¬ 10 ∣ s) (e : ℤ) :
    ofNat s e = ⟨Text.asciiDigits s, (Text.asciiDigits s).length + e⟩ := by
  have hNonzero {d : ℕ} (hDigit : d < 10) (hd : d ≠ 0) : (Nat.digitChar d == '0') = false := by
    revert d
    decide
  obtain ⟨before, hDigits⟩ :
      ∃ before, Text.asciiDigits s = before ++ [Nat.digitChar (s % 10)] := by
    rcases Nat.lt_or_ge s 10 with hLess | hLe
    · exact ⟨[], by rw [Text.asciiDigits_of_lt hLess, Nat.mod_eq_of_lt hLess, List.nil_append]⟩
    · exact ⟨_, Text.asciiDigits_of_le hLe⟩
  have hStop := hNonzero (Nat.mod_lt s (by decide)) (by omega)
  simp [ofNat, hDigits, hStop]

/-- **Digits without zeros at the end.** They are those of a number that ten does not divide. -/
theorem ofNat_trimmed {m : ℕ} (hPos : 0 < m) (e : ℤ) :
    ∃ s t : ℕ, m = s * 10 ^ t ∧ ¬ 10 ∣ s ∧
      ofNat m e = ⟨Text.asciiDigits s, (Text.asciiDigits s).length + (t + e)⟩ := by
  obtain ⟨t, s, hLast, rfl⟩ := Nat.exists_eq_pow_mul_and_not_dvd hPos.ne' 10 (by decide)
  have hSome : 0 < s := Nat.pos_of_ne_zero fun hZero => hLast (hZero ▸ Nat.dvd_zero 10)
  refine ⟨s, t, Nat.mul_comm _ _, hLast, ?_⟩
  rw [Nat.mul_comm, ofNat_shift hSome, ofNat_of_not_dvd hLast]

theorem length_ofNat_le {m k : ℕ} (hPos : 0 < m) (hLe : m ≤ 10 ^ (k + 1)) (e : ℤ) :
    (ofNat m e).digits.length ≤ k + 1 := by
  obtain ⟨s, t, rfl, hLast, hDigits⟩ := ofNat_trimmed hPos e
  -- The power of ten itself has one digit more, but all of them are zeros at the end.
  have hWhole : s ≤ 10 ^ (k + 1) := (Nat.le_mul_of_pos_right s (by positivity)).trans hLe
  have hOther : s ≠ 10 ^ (k + 1) := by
    rintro rfl
    exact hLast (Dvd.intro_left (10 ^ k) rfl)
  rw [hDigits]
  exact (Nat.length_toDigits_le_iff (by decide) (Nat.succ_pos k)).mpr (by omega)

end Digits

namespace Double

/-! ## Decimal numbers as units -/

/-- How many units `m` times ten to the `e` are. -/
def decimalUnits (m : ℕ) (e : ℤ) : ℚ :=
  m * 10 ^ e * unitsPerOne

theorem unitsPerOne_pos : (0 : ℚ) < unitsPerOne := by
  have hPos : 0 < unitsPerOne := by
    rw [unitsPerOne]
    apply twoTo_pos
  generalize unitsPerOne = one at hPos
  exact Nat.cast_pos.mpr hPos

theorem decimalUnits_nonneg (m : ℕ) (e : ℤ) : 0 ≤ decimalUnits m e := by
  have hPower : (0 : ℚ) ≤ m * 10 ^ e := by positivity
  exact mul_nonneg hPower unitsPerOne_pos.le

theorem tenTo_cast (k : ℕ) : ((tenTo k : ℕ) : ℚ) = 10 ^ k := by
  unfold tenTo
  push_cast [Nat.pow_eq]
  rfl

theorem tenTo_pos (k : ℕ) : 0 < tenTo k :=
  Nat.pow_pos (by decide)

theorem zpow_toNat {e : ℤ} (hNonneg : 0 ≤ e) : (10 : ℚ) ^ e = 10 ^ e.toNat := by
  rw [← zpow_natCast, Int.toNat_of_nonneg hNonneg]

/-- A number moves by a power of ten when its point does. -/
theorem decimalUnits_shift (m t : ℕ) (e : ℤ) :
    decimalUnits (m * 10 ^ t) e = decimalUnits m (t + e) := by
  unfold decimalUnits
  rw [zpow_add₀ (by norm_num), zpow_natCast]
  push_cast
  ring

theorem decimalUnits_bounds {m : ℕ} (hPos : 0 < m) (e : ℤ) :
    (10 : ℚ) ^ ((Text.asciiDigits m).length + e - 1) * unitsPerOne ≤ decimalUnits m e ∧
      decimalUnits m e < 10 ^ ((Text.asciiDigits m).length + e) * unitsPerOne := by
  obtain ⟨k, hLength, hLow, hHigh⟩ := Text.asciiDigits_bounds hPos
  have hPower : (0 : ℚ) < 10 ^ e := by positivity
  have hOne := unitsPerOne_pos
  have hLow' : (10 : ℚ) ^ (k : ℤ) ≤ m := by rw [zpow_natCast]; exact_mod_cast hLow
  have hHigh' : (m : ℚ) < 10 ^ ((k : ℤ) + 1) := by
    have hCast : ((k : ℤ) + 1) = ((k + 1 : ℕ) : ℤ) := by push_cast; rfl
    rw [hCast, zpow_natCast]
    exact_mod_cast hHigh
  unfold decimalUnits
  -- The number of units in one is huge and must not be looked into.
  generalize (unitsPerOne : ℚ) = one at hOne ⊢
  rw [hLength]
  have hFirst : ((k + 1 : ℕ) : ℤ) + e - 1 = k + e := by push_cast; ring
  have hSecond : ((k + 1 : ℕ) : ℤ) + e = (k + 1) + e := by push_cast; ring
  rw [hFirst, hSecond, zpow_add₀ (by norm_num), zpow_add₀ (by norm_num)]
  constructor
  · gcongr
  · gcongr

/-! ## Reading back -/

theorem round_eq_finite_iff {n d u : ℕ} (hFits : Representable u) (negative : Bool) :
    round negative n d = .finite negative u hFits ↔ roundUnits n d = u := by
  unfold round
  split
  next => simp
  next hLarge =>
    have hOther : roundUnits n d ≠ u := by
      rintro rfl
      exact hLarge hFits.1
    simp [hOther]

/-- Two to the 1024 stays too much. -/
theorem twoTo_le_roundRat {q : ℚ} (hLarge : (twoTo 2098 : ℚ) ≤ q) : twoTo 2098 ≤ roundRat q := by
  -- The power is a number of its own units, so rounding keeps what is above it there.
  have hTop : roundUnits (twoTo 2098) 1 = twoTo 2098 := by decide +kernel
  have hRat := roundRat_div (twoTo 2098) Nat.one_pos
  rw [Nat.cast_one, div_one, hTop] at hRat
  rw [← hRat]
  exact roundRat_mono (Nat.cast_nonneg _) hLarge

/-- A quarter of a unit is nothing. -/
theorem roundRat_eq_zero {q : ℚ} (hNonneg : 0 ≤ q) (hSmall : 4 * q ≤ 1) : roundRat q = 0 := by
  have hQuarter : roundRat ((1 : ℕ) / (4 : ℕ)) = 0 := roundRat_div 1 (by decide)
  have hLe : q ≤ (1 : ℕ) / (4 : ℕ) := by
    push_cast
    linarith
  have := roundRat_mono hNonneg hLe
  omega

theorem twoTo_le_tenTo : (twoTo 2098 : ℚ) ≤ 10 ^ (400 : ℤ) * unitsPerOne := by
  have hNat : twoTo 2098 ≤ tenTo 400 * unitsPerOne := by decide +kernel
  have hCast : ((twoTo 2098 : ℕ) : ℚ) ≤ ((tenTo 400 * unitsPerOne : ℕ) : ℚ) := Nat.cast_le.mpr hNat
  rw [Nat.cast_mul, tenTo_cast] at hCast
  rwa [show (10 : ℚ) ^ (400 : ℤ) = 10 ^ 400 from zpow_toNat (by decide)]

theorem unit_le_tenTo : 4 * ((10 : ℚ) ^ (-401 : ℤ) * unitsPerOne) ≤ 1 := by
  have hNat : 4 * unitsPerOne ≤ tenTo 401 := by decide +kernel
  have hCast : ((4 * unitsPerOne : ℕ) : ℚ) ≤ ((tenTo 401 : ℕ) : ℚ) := Nat.cast_le.mpr hNat
  rw [Nat.cast_mul, tenTo_cast] at hCast
  have hPower : (10 : ℚ) ^ (-401 : ℤ) = (10 ^ 401)⁻¹ := by
    rw [zpow_neg, show (10 : ℚ) ^ (401 : ℤ) = 10 ^ 401 from zpow_toNat (by decide)]
  generalize (unitsPerOne : ℚ) = one at hCast ⊢
  rw [hPower, inv_mul_eq_div, ← mul_div_assoc]
  exact div_le_one_of_le₀ (by exact_mod_cast hCast) (by positivity)

/-- What `m` times ten to the `e` is read as, where its power is computed. -/
theorem decimalUnits_eq (m : ℕ) (e : ℤ) :
    (0 ≤ e → decimalUnits m e = ((m * tenTo e.toNat * unitsPerOne : ℕ) : ℚ) / (1 : ℕ)) ∧
      (e < 0 → decimalUnits m e = ((m * unitsPerOne : ℕ) : ℚ) / (tenTo (-e).toNat : ℕ)) := by
  unfold decimalUnits
  constructor
  · intro hNonneg
    rw [zpow_toNat hNonneg, Nat.cast_one, div_one, Nat.cast_mul, Nat.cast_mul, tenTo_cast]
  · intro hNegative
    have hPower : (10 : ℚ) ^ e = (10 ^ (-e).toNat)⁻¹ := by
      rw [← zpow_toNat (by omega), zpow_neg, inv_inv]
    rw [Nat.cast_mul, tenTo_cast, hPower]
    generalize (unitsPerOne : ℚ) = one
    field_simp

/-- A number of more than four hundred places is too much. -/
theorem roundRat_huge {m : ℕ} {e : ℤ} (hSome : 0 < m)
    (hHuge : 400 < (Text.asciiDigits m).length + e) :
    2098 ≤ (roundRat (decimalUnits m e)).log2 := by
  have hPower : (10 : ℚ) ^ (400 : ℤ) ≤ 10 ^ ((Text.asciiDigits m).length + e - 1) :=
    zpow_le_zpow_right₀ (by norm_num) (by omega)
  have hLarge : (twoTo 2098 : ℚ) ≤ decimalUnits m e :=
    twoTo_le_tenTo.trans ((mul_le_mul_of_nonneg_right hPower unitsPerOne_pos.le).trans
      (decimalUnits_bounds hSome e).1)
  exact (twoTo_le_iff (by decide)).mp (twoTo_le_roundRat hLarge)

/-- A number with more than four hundred zeros behind the point is nothing. -/
theorem roundRat_tiny {m : ℕ} {e : ℤ} (hSome : 0 < m)
    (hTiny : (Text.asciiDigits m).length + e < -400) : roundRat (decimalUnits m e) = 0 := by
  have hPower : (10 : ℚ) ^ ((Text.asciiDigits m).length + e) ≤ 10 ^ (-401 : ℤ) :=
    zpow_le_zpow_right₀ (by norm_num) (by omega)
  have hLess := mul_le_mul_of_nonneg_right hPower unitsPerOne_pos.le
  have hUnit := unit_le_tenTo
  apply roundRat_eq_zero (decimalUnits_nonneg m e)
  linarith [(decimalUnits_bounds hSome e).2]

/-- **A decimal number is read as what it rounds to.** The powers of ten that are not computed are
those that make it too much or too little anyway. -/
theorem ofDecimal_eq_iff {u : ℕ} (hFits : Representable u) (negative : Bool) (m : ℕ) (e : ℤ) :
    ofDecimal negative m e = .finite negative u hFits ↔ roundRat (decimalUnits m e) = u := by
  rcases Nat.eq_zero_or_pos m with rfl | hSome
  · have hNone : roundRat (decimalUnits 0 e) = 0 := by
      unfold decimalUnits
      rw [Nat.cast_zero, zero_mul, zero_mul]
      rfl
    rw [hNone]
    simp [ofDecimal]
  rw [ofDecimal, if_neg hSome.ne']
  dsimp only
  split
  next hHuge =>
    have hRounded := roundRat_huge hSome hHuge
    have hShort := hFits.1
    constructor
    · intro hRead
      cases hRead
    · intro hRounds
      rw [hRounds] at hRounded
      omega
  next =>
    split
    next hTiny =>
      rw [roundRat_tiny hSome hTiny]
      simp
    next =>
      split
      next hNonneg =>
        rw [(decimalUnits_eq m e).1 hNonneg, roundRat_div _ Nat.one_pos, ofRatio,
          round_eq_finite_iff]
      next hNegative =>
        rw [(decimalUnits_eq m e).2 (by omega), roundRat_div _ (tenTo_pos _), ofRatio,
          round_eq_finite_iff]

theorem ofDecimal_sign {m : ℕ} {e : ℤ} {negative other : Bool} {u : ℕ} {fits : Representable u}
    (hRead : ofDecimal negative m e = .finite other u fits) : other = negative := by
  have hRound (n d : ℕ) (hRead : round negative n d = .finite other u fits) :
      other = negative := by
    unfold round at hRead
    split at hRead
    · exact (Double.finite.inj hRead).1.symm
    · cases hRead
  unfold ofDecimal at hRead
  dsimp only at hRead
  generalize ((Text.asciiDigits m).length : ℤ) + e = point at hRead
  split at hRead
  · exact (Double.finite.inj hRead).1.symm
  split at hRead
  · cases hRead
  split at hRead
  · exact (Double.finite.inj hRead).1.symm
  split at hRead
  · exact hRound _ _ hRead
  · exact hRound _ _ hRead

/-- What is read back as a number is what rounds to it. -/
theorem readsBack_iff {u : ℕ} (hFits : Representable u) (m : ℕ) (e : ℤ) :
    readsBack u m e = true ↔ roundRat (decimalUnits m e) = u := by
  rw [← ofDecimal_eq_iff hFits false, readsBack]
  cases hRead : ofDecimal false m e with
  | finite negative v fits =>
    obtain rfl := ofDecimal_sign hRead
    simp
  | nan => simp
  | infinite negative => simp

/-! ## Grids -/

theorem zpow_sub_natCast (k j : ℕ) : (10 : ℚ) ^ ((k : ℤ) - j) = 10 ^ k / 10 ^ j := by
  rw [zpow_sub₀ (by norm_num), zpow_natCast, zpow_natCast]

/-- **Between which powers of ten a number lies.** -/
theorem decimalPoint_bounds {u : ℕ} (hPos : 0 < u) :
    (10 : ℚ) ^ (decimalPoint u - 1) * unitsPerOne ≤ u ∧
      u < (10 : ℚ) ^ decimalPoint u * unitsPerOne := by
  have hOne : 0 < unitsPerOne := Nat.cast_pos.mp unitsPerOne_pos
  have hScale : unitsPerOne ≤ tenTo 400 := by decide +kernel
  have hCast := tenTo_cast 400
  unfold decimalPoint
  -- Neither of the two powers may be looked into.
  generalize unitsPerOne = one at hOne hScale ⊢
  generalize tenTo 400 = scale at hScale hCast ⊢
  have hWhole : 0 < u * scale / one :=
    Nat.div_pos (hScale.trans (Nat.le_mul_of_pos_left scale hPos)) hOne
  obtain ⟨k, hLength, hLow, hHigh⟩ := Text.asciiDigits_bounds hWhole
  rw [Nat.le_div_iff_mul_le hOne] at hLow
  rw [Nat.div_lt_iff_lt_mul hOne] at hHigh
  have hLow' : (10 : ℚ) ^ k * one ≤ u * scale := by exact_mod_cast hLow
  have hHigh' : (u * scale : ℚ) < 10 ^ (k + 1) * one := by exact_mod_cast hHigh
  rw [hCast] at hLow' hHigh'
  have hBelow : ((k + 1 : ℕ) : ℤ) - 400 - 1 = k - (400 : ℕ) := by push_cast; ring
  have hAbove : ((k + 1 : ℕ) : ℤ) - 400 = (k + 1 : ℕ) - (400 : ℕ) := by push_cast; ring
  rw [hLength, hBelow, hAbove, zpow_sub_natCast, zpow_sub_natCast, div_mul_eq_mul_div,
    div_mul_eq_mul_div]
  generalize hTen : (10 : ℚ) ^ 400 = ten at hLow' hHigh' ⊢
  have hTenPos : 0 < ten := by rw [← hTen]; positivity
  exact ⟨(div_le_iff₀ hTenPos).mpr hLow', (lt_div_iff₀ hTenPos).mpr hHigh'⟩

theorem decimalUnits_le_iff (u m : ℕ) (e : ℤ) :
    decimalUnits m e ≤ u ↔ m ≤ (gridRatio u e).1 / (gridRatio u e).2 := by
  have hOne : 0 < unitsPerOne := Nat.cast_pos.mp unitsPerOne_pos
  unfold gridRatio
  split
  next hNonneg =>
    rw [(decimalUnits_eq m e).1 hNonneg, Nat.cast_one, div_one, Nat.cast_le,
      Nat.le_div_iff_mul_le (Nat.mul_pos hOne (tenTo_pos _)), mul_assoc,
      Nat.mul_comm (tenTo _)]
  next hNegative =>
    have hTen : (0 : ℚ) < tenTo (-e).toNat := Nat.cast_pos.mpr (tenTo_pos _)
    rw [(decimalUnits_eq m e).2 (by omega), div_le_iff₀ hTen, ← Nat.cast_mul, Nat.cast_le,
      Nat.le_div_iff_mul_le hOne]

/-- The two neighbours of a number on a grid. -/
theorem grid_neighbours (u : ℕ) (e : ℤ) :
    decimalUnits ((gridRatio u e).1 / (gridRatio u e).2) e ≤ u ∧
      u < decimalUnits ((gridRatio u e).1 / (gridRatio u e).2 + 1) e := by
  rw [← not_le, decimalUnits_le_iff, decimalUnits_le_iff]
  omega

/-- Nothing but zero is read back as zero. -/
theorem readsBack_pos {u m : ℕ} {e : ℤ} (hFits : Representable u) (hPos : 0 < u)
    (hRead : readsBack u m e = true) : 0 < m := by
  rcases Nat.eq_zero_or_pos m with rfl | hSome
  · have hNone : decimalUnits 0 e = (0 : ℕ) := by
      unfold decimalUnits
      rw [Nat.cast_zero, zero_mul, zero_mul]
    rw [readsBack_iff hFits, hNone, roundRat_of_fits representable_zero] at hRead
    omega
  · exact hSome

theorem onGrid?_sound {u : ℕ} {e : ℤ} {d : Digits} (hGrid : onGrid? u e = some d) :
    ∃ m, 0 < m ∧ m ≤ (gridRatio u e).1 / (gridRatio u e).2 + 1 ∧ readsBack u m e = true ∧
      d = Digits.ofNat m e := by
  unfold onGrid? at hGrid
  grind

theorem decimalUnits_mono {m n : ℕ} (hLe : m ≤ n) (e : ℤ) :
    decimalUnits m e ≤ decimalUnits n e := by
  have hPower : (0 : ℚ) ≤ 10 ^ e := by positivity
  have hCast : (m : ℚ) ≤ n := Nat.cast_le.mpr hLe
  exact mul_le_mul_of_nonneg_right (mul_le_mul_of_nonneg_right hCast hPower) unitsPerOne_pos.le

/-- What is read back as a number lies around it without a gap, so a neighbour on the grid is read
back if anything on it is. -/
theorem neighbour_readsBack {u m : ℕ} {e : ℤ} (hFits : Representable u)
    (hRead : readsBack u m e = true) :
    readsBack u ((gridRatio u e).1 / (gridRatio u e).2) e = true ∨
      readsBack u ((gridRatio u e).1 / (gridRatio u e).2 + 1) e = true := by
  have hRounds := (readsBack_iff hFits m e).mp hRead
  obtain ⟨hBelow, hAbove⟩ := grid_neighbours u e
  rw [readsBack_iff hFits, readsBack_iff hFits]
  generalize (gridRatio u e).1 / (gridRatio u e).2 = n at hBelow hAbove ⊢
  rcases Nat.lt_or_ge n m with hMore | hLess
  · right
    exact roundRat_between hFits (decimalUnits_nonneg m e) hRounds (decimalUnits_nonneg _ e)
      (.inr ⟨hAbove.le, decimalUnits_mono hMore e⟩)
  · left
    exact roundRat_between hFits (decimalUnits_nonneg m e) hRounds (decimalUnits_nonneg n e)
      (.inl ⟨decimalUnits_mono hLess e, hBelow⟩)

/-- **One of the neighbours is enough.** If anything on a grid is read back as a number, then the
search finds something there. -/
theorem onGrid?_isSome {u m : ℕ} {e : ℤ} (hFits : Representable u) (hPos : 0 < u)
    (hRead : readsBack u m e = true) : (onGrid? u e).isSome = true := by
  -- The search takes the nearer neighbour first, and then the other one.
  have hNeighbour := neighbour_readsBack hFits hRead
  have hSome {n : ℕ} (hBack : readsBack u n e = true) := readsBack_pos hFits hPos hBack
  unfold onGrid?
  grind

/-- A number on the grid itself is found as it is. -/
theorem onGrid?_of_exact {u s d : ℕ} {e : ℤ} (hRatio : gridRatio u e = (s * d, d)) (hStep : 0 < d)
    (hSome : 0 < s) (hRead : readsBack u s e = true) :
    onGrid? u e = some (Digits.ofNat s e) := by
  unfold onGrid?
  rw [hRatio]
  simp [Nat.mul_div_cancel s hStep, hStep.ne, hSome, hRead]

/-- The finest grid has more steps below a number than a double has room for. -/
theorem finest_step {u : ℕ} (hPos : 0 < u) :
    10 ^ 16 * decimalUnits 1 (decimalPoint u - 17) ≤ u := by
  have hPower : (10 : ℚ) ^ (decimalPoint u - 1) = 10 ^ 16 * 10 ^ (decimalPoint u - 17) := by
    have hSum : decimalPoint u - 1 = (16 : ℕ) + (decimalPoint u - 17) := by push_cast; ring
    rw [hSum, zpow_add₀ (by norm_num), zpow_natCast]
  rw [decimalUnits, Nat.cast_one, one_mul, ← mul_assoc, ← hPower]
  exact (decimalPoint_bounds hPos).1

theorem decimalUnits_steps (m : ℕ) (e : ℤ) : decimalUnits m e = m * decimalUnits 1 e := by
  rw [decimalUnits, decimalUnits, Nat.cast_one, one_mul, mul_assoc]

/-- **Seventeen digits are always enough.** The nearer neighbour on the finest grid is read
back. -/
theorem finest_grid {u : ℕ} (hFits : Representable u) (hPos : 0 < u) :
    (onGrid? u (decimalPoint u - 17)).isSome = true := by
  have hFine := finest_step hPos
  have hStep := decimalUnits_nonneg 1 (decimalPoint u - 17)
  obtain ⟨hBelow, hAbove⟩ := grid_neighbours u (decimalPoint u - 17)
  have hNear (m : ℕ) (hClose : |decimalUnits m (decimalPoint u - 17) - u| * 2 ≤
      decimalUnits 1 (decimalPoint u - 17)) : (onGrid? u (decimalPoint u - 17)).isSome = true := by
    refine onGrid?_isSome hFits hPos ((readsBack_iff hFits m _).mpr ?_)
    apply roundRat_near (decimalUnits_nonneg _ _) hFits
    have hUnits : (0 : ℚ) < u := Nat.cast_pos.mpr hPos
    linarith
  generalize (gridRatio u (decimalPoint u - 17)).1 / (gridRatio u (decimalPoint u - 17)).2 = m
    at hBelow hAbove
  have hLower := hNear m
  have hUpper := hNear (m + 1)
  rw [decimalUnits_steps] at hBelow hAbove hLower hUpper
  rw [Nat.cast_add, Nat.cast_one] at hAbove hUpper
  generalize decimalUnits 1 (decimalPoint u - 17) = step at *
  rw [abs_sub_comm, abs_of_nonneg (by linarith)] at hLower
  rw [abs_of_nonneg (by linarith)] at hUpper
  -- One of the two is at most half a step away, which is close enough.
  rcases le_total ((u - m * step) * 2) step with hNearer | hFarther
  · exact hLower hNearer
  · exact hUpper (by linarith)

/-! ## The search -/

/-- Digits that are read back lie on a grid that is no finer than they are many. -/
theorem grid_of_readsBack {u m : ℕ} {e : ℤ} (hFits : Representable u) (hPos : 0 < u)
    (hRead : readsBack u m e = true) :
    ∃ i < (Text.asciiDigits m).length, (onGrid? u (decimalPoint u - (i + 1))).isSome = true := by
  have hSome := readsBack_pos hFits hPos hRead
  obtain ⟨k, hLength, -⟩ := Text.asciiDigits_bounds hSome
  have hPoint := decimalPoint_bounds hPos
  have hUnits := decimalUnits_bounds hSome e
  rw [hLength] at hUnits ⊢
  rcases le_or_gt (decimalPoint u) ((k + 1 : ℕ) + e) with hCoarse | hBelow
  · -- The grid of as many digits is finer than the last one of them.
    refine ⟨k, Nat.lt_succ_self k, onGrid?_isSome hFits hPos
      (m := m * 10 ^ (e - (decimalPoint u - (k + 1))).toNat) ?_⟩
    rw [readsBack_iff hFits, decimalUnits_shift, Int.toNat_of_nonneg (by omega),
      sub_add_cancel]
    exact (readsBack_iff hFits m e).mp hRead
  · -- A power of ten lies between the digits and the number.
    refine ⟨0, Nat.succ_pos k, onGrid?_isSome hFits hPos (m := 1) ?_⟩
    have hOne : decimalUnits 1 (decimalPoint u - ((0 : ℕ) + 1)) =
        10 ^ (decimalPoint u - 1) * unitsPerOne := by
      rw [decimalUnits, Nat.cast_one, one_mul, Nat.cast_zero, zero_add]
    have hPower : (10 : ℚ) ^ (((k + 1 : ℕ) : ℤ) + e) ≤ 10 ^ (decimalPoint u - 1) :=
      zpow_le_zpow_right₀ (by norm_num) (by omega)
    have hLow : decimalUnits m e ≤ decimalUnits 1 (decimalPoint u - ((0 : ℕ) + 1)) := by
      rw [hOne]
      exact hUnits.2.le.trans (mul_le_mul_of_nonneg_right hPower unitsPerOne_pos.le)
    rw [readsBack_iff hFits]
    exact roundRat_between hFits (decimalUnits_nonneg m e)
      ((readsBack_iff hFits m e).mp hRead) (decimalUnits_nonneg _ _)
      (.inl ⟨hLow, hOne ▸ hPoint.1⟩)

/-- The first place at which something is found is not behind any such place. -/
theorem findSome?_range {α : Type} {f : ℕ → Option α} {n i : ℕ} (hLess : i < n)
    (hSome : (f i).isSome = true) :
    ∃ j ≤ i, ∃ a, f j = some a ∧ (List.range n).findSome? f = some a := by
  induction n generalizing f i with
  | zero => omega
  | succ n ih =>
    rw [List.range_succ_eq_map, List.findSome?_cons]
    cases hFirst : f 0 with
    | some a => exact ⟨0, Nat.zero_le i, a, hFirst, rfl⟩
    | none =>
      cases i with
      | zero => simp [hFirst] at hSome
      | succ i =>
        obtain ⟨j, hLe, a, hFound, hSearch⟩ :=
          ih (f := f ∘ Nat.succ) (Nat.lt_of_succ_lt_succ hLess) hSome
        refine ⟨j + 1, Nat.succ_le_succ hLe, a, hFound, ?_⟩
        rw [List.findSome?_map]
        exact hSearch

/-- What the search finds, once a grid is known on which something is found. -/
theorem shortest_of_grid {u i : ℕ} (hLess : i < 17)
    (hSome : (onGrid? u (decimalPoint u - (i + 1))).isSome = true) :
    ∃ j ≤ i, onGrid? u (decimalPoint u - (j + 1)) = some (shortest u) := by
  obtain ⟨j, hLe, d, hFound, hSearch⟩ :=
    findSome?_range (f := fun (i : Nat) => onGrid? u (decimalPoint u - (i + 1))) hLess hSome
  refine ⟨j, hLe, ?_⟩
  unfold shortest
  dsimp only
  rw [hSearch, Option.getD_some]
  exact hFound

/-- There are not more digits than the grid has places. -/
theorem onGrid?_length {u j : ℕ} {d : Digits} (hPos : 0 < u)
    (hGrid : onGrid? u (decimalPoint u - (j + 1)) = some d) : d.digits.length ≤ j + 1 := by
  obtain ⟨m, hSome, hLe, -, rfl⟩ := onGrid?_sound hGrid
  -- The upper neighbour may be the power of ten that has one digit more.
  refine Digits.length_ofNat_le hSome (hLe.trans ?_) _
  rw [Nat.succ_le_iff, ← Nat.not_le, ← decimalUnits_le_iff, not_le]
  have hTop : decimalUnits (10 ^ (j + 1)) (decimalPoint u - (j + 1)) =
      10 ^ decimalPoint u * unitsPerOne := by
    rw [← Nat.one_mul (10 ^ (j + 1)), decimalUnits_shift, decimalUnits, Nat.cast_one, one_mul,
      Nat.cast_succ, add_sub_cancel]
  rw [hTop]
  exact (decimalPoint_bounds hPos).2

/-- **The shortest digits.** They are the digits of a decimal number that is read back, and none
of fewer digits is. -/
theorem shortest_reads_back {u : ℕ} (hFits : Representable u) (hPos : 0 < u) :
    ∃ m e, 0 < m ∧ readsBack u m e = true ∧ shortest u = Digits.ofNat m e ∧
      ∀ n k, readsBack u n k = true →
        (shortest u).digits.length ≤ (Text.asciiDigits n).length := by
  obtain ⟨i, hFew, hFound⟩ := shortest_of_grid (i := 16) (by decide) (finest_grid hFits hPos)
  obtain ⟨m, hSome, -, hRead, hDigits⟩ := onGrid?_sound hFound
  refine ⟨m, _, hSome, hRead, hDigits, fun n k hOther => ?_⟩
  obtain ⟨j, hLess, hGrid⟩ := grid_of_readsBack hFits hPos hOther
  -- Digits on a grid that is not searched are more than any that are found.
  rcases Nat.lt_or_ge j 17 with hSearched | hFiner
  · obtain ⟨first, hLe, hFirst⟩ := shortest_of_grid hSearched hGrid
    have := onGrid?_length hPos hFirst
    omega
  · have := onGrid?_length hPos hFound
    omega

end Double

end PageReporter
