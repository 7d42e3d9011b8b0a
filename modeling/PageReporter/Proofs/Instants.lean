import PageReporter.Proofs.Rounding

/-!
# Instants

The times of a rehearsal are doubles, with the order of the numbers that they stand for. A wait
that begins at an instant is over at the rounded sum of that instant and its length, and rounding
never takes it back behind the instant at which it began.

* `Double.lt_trans`, `Double.le_trans` and their companions — the order;
* `le_roundUnits`, `roundUnits_le` — rounding goes past no number that need not be rounded;
* `Double.add_not_lt` — a wait is not over before it begins.
-/

namespace PageReporter

/-! ## The order -/

namespace Double

theorem lt_irrefl (x : Double) : x.lt x = false := by
  cases x with
  | nan => rfl
  | infinite n => cases n <;> rfl
  | finite n u _ => simp [lt]

theorem lt_trans {x y z : Double} (hFirst : x.lt y = true) (hSecond : y.lt z = true) :
    x.lt z = true := by
  cases x <;> cases y <;> cases z <;> grind [lt]

theorem le_trans {x y z : Double} (hFirst : x.le y = true) (hSecond : y.le z = true) :
    x.le z = true := by
  cases x <;> cases y <;> cases z <;> grind [le, lt, same]

theorem lt_of_lt_of_le {x y z : Double} (hFirst : x.lt y = true) (hSecond : y.le z = true) :
    x.lt z = true := by
  cases x <;> cases y <;> cases z <;> grind [le, lt, same]

theorem not_lt_of_le {x y : Double} (hLe : x.le y = true) : y.lt x = false := by
  cases x <;> cases y <;> grind [le, lt, same]

theorem le_of_lt {x y : Double} (hLt : x.lt y = true) : x.le y = true := by
  rw [le, hLt, Bool.true_or]

theorem not_lt_of_lt {x y : Double} (hLt : x.lt y = true) : y.lt x = false :=
  not_lt_of_le (le_of_lt hLt)

/-- Of two numbers above a third, one is at most the other unless it is above it. -/
theorem le_of_not_lt {low x y : Double} (hFirst : low.lt x = true) (hSecond : low.lt y = true)
    (hNot : x.lt y = false) : y.le x = true := by
  cases low <;> cases x <;> cases y <;> grind [le, lt, same]

end Double

/-! ## Rounding and order -/

theorem nearest_le_of_le_mul {n d k : Nat} (hPos : 0 < d) (hLe : n ≤ k * d) : nearest n d ≤ k := by
  have hQuotient : n / d ≤ k := Nat.div_le_of_le_mul (by rwa [Nat.mul_comm])
  rcases Nat.lt_or_eq_of_le hQuotient with hBelow | hAt
  · exact Nat.le_trans (nearest_le n d) hBelow
  · -- The quotient is exact, so nothing is rounded.
    have hSplit : d * (n / d) + n % d = n := Nat.div_add_mod n d
    rw [hAt, Nat.mul_comm] at hSplit
    have hRest : n % d = 0 := by omega
    unfold nearest
    simp only [hRest, Nat.mul_zero, hPos, if_true]
    omega

/-- The spacing is a power of two, and where it is not one the number has digits to spare. -/
theorem spacing_cases (n : Nat) : ∃ k, spacing n = twoTo k ∧ (k = 0 ∨ twoTo (52 + k) ≤ n) := by
  unfold spacing
  split
  · exact ⟨0, rfl, .inl rfl⟩
  · next hLarge =>
    have hPos : n ≠ 0 := by
      rintro rfl
      exact hLarge (twoTo_pos 53)
    have hLog : 53 ≤ n.log2 := (twoTo_le_iff (by decide)).mp (Nat.not_lt.mp hLarge)
    refine ⟨n.log2 - 52, rfl, .inr ?_⟩
    rw [twoTo_le_iff (by omega)]
    omega

/-- A number that need not be rounded is a multiple of the spacing at another, or below all
numbers with that spacing. -/
theorem representable_cases {u n k : Nat} (hFits : Representable u)
    (hDigits : k = 0 ∨ twoTo (52 + k) ≤ n) : (∃ m, u = m * twoTo k) ∨
      u < twoTo (52 + k) ∧ twoTo (52 + k) ≤ n := by
  obtain ⟨-, m, e, hShort, rfl⟩ := hFits
  rcases Nat.lt_or_ge e k with hFine | hCoarse
  · rcases hDigits with rfl | hLarge
    · exact absurd hFine (Nat.not_lt_zero e)
    · have hProduct : m * twoTo e < twoTo 53 * twoTo e :=
        Nat.mul_lt_mul_of_pos_right hShort (twoTo_pos e)
      have hPower : twoTo 53 * twoTo e ≤ twoTo (52 + k) := by
        rw [← twoTo_add]
        exact twoTo_le (by omega)
      exact .inr ⟨Nat.lt_of_lt_of_le hProduct hPower, hLarge⟩
  · refine .inl ⟨m * twoTo (e - k), ?_⟩
    rw [Nat.mul_assoc, ← twoTo_add, Nat.sub_add_cancel hCoarse]

/-- Rounding does not go below a number that need not be rounded. -/
theorem le_roundUnits {u n d : Nat} (hPos : 0 < d) (hFits : Representable u) (hLe : u * d ≤ n) :
    u ≤ roundUnits n d := by
  obtain ⟨k, hSpacing, hDigits⟩ := spacing_cases (n / d)
  have hWhole := div_le_nearest n (d * twoTo k)
  have hQuotient : u ≤ n / d := (Nat.le_div_iff_mul_le hPos).mpr hLe
  rw [← Nat.div_div_eq_div_mul] at hWhole
  unfold roundUnits
  rw [hSpacing]
  rcases representable_cases hFits hDigits with ⟨m, rfl⟩ | ⟨hBelow, hLarge⟩
  · have hMultiple : m ≤ n / d / twoTo k := (Nat.le_div_iff_mul_le (twoTo_pos k)).mpr hQuotient
    exact Nat.mul_le_mul_right _ (Nat.le_trans hMultiple hWhole)
  · rw [twoTo_add] at hBelow hLarge
    have hMultiple : twoTo 52 ≤ n / d / twoTo k :=
      (Nat.le_div_iff_mul_le (twoTo_pos k)).mpr hLarge
    have hRounded := Nat.mul_le_mul_right (twoTo k) (Nat.le_trans hMultiple hWhole)
    omega

/-- Nor does it go above one. -/
theorem roundUnits_le {u n d : Nat} (hPos : 0 < d) (hFits : Representable u) (hLe : n ≤ u * d) :
    roundUnits n d ≤ u := by
  obtain ⟨k, hSpacing, hDigits⟩ := spacing_cases (n / d)
  have hQuotient : n / d ≤ u := Nat.div_le_of_le_mul (by rwa [Nat.mul_comm])
  unfold roundUnits
  rw [hSpacing]
  rcases representable_cases hFits hDigits with ⟨m, rfl⟩ | ⟨hBelow, hLarge⟩
  · refine Nat.mul_le_mul_right _ (nearest_le_of_le_mul (Nat.mul_pos hPos (twoTo_pos k)) ?_)
    rwa [Nat.mul_comm d, ← Nat.mul_assoc]
  · omega

namespace Double

/-- Rounding up, as far as the order with a positive number goes. -/
theorem round_not_lt {u n : Nat} (hFits : Representable u) (hLe : u ≤ n) :
    (round false n 1).lt (.finite false u hFits) = false := by
  have hRounded : u ≤ roundUnits n 1 := le_roundUnits Nat.one_pos hFits (by rwa [Nat.mul_one])
  unfold round
  split
  · simp [lt, hRounded]
  · rfl

theorem round_not_lt_negative {u : Nat} (fits : Representable u) (n : Nat) :
    (round false n 1).lt (.finite true u fits) = false := by
  unfold round
  split
  · simp [lt]
  · rfl

/-- Rounding a negative number, which goes no further down than to one that fits. -/
theorem round_negative_not_lt {u n : Nat} (hFits : Representable u) (hLe : n ≤ u) :
    (round true n 1).lt (.finite true u hFits) = false := by
  have hRounded : roundUnits n 1 ≤ u := roundUnits_le Nat.one_pos hFits (by rwa [Nat.mul_one])
  unfold round
  split
  · simp [lt, hRounded]
  · next hLarge =>
    -- What is beyond all finite numbers is beyond this one.
    have hReached : twoTo 2098 ≤ roundUnits n 1 :=
      (twoTo_le_iff (by decide)).mpr (Nat.not_lt.mp hLarge)
    have hDigits := (twoTo_le_iff (by decide)).mp (Nat.le_trans hReached hRounded)
    have hShort := hFits.1
    omega

/-- **A wait is not over before it begins.** -/
theorem add_not_lt (x : Double) {wait : Double} (hWait : zero.lt wait = true) :
    (x + wait).lt x = false := by
  show (add x wait).lt x = false
  cases wait with
  | nan => cases hWait
  | infinite m =>
    obtain rfl : m = false := by simpa [lt, zero] using hWait
    cases x with
    | nan => rfl
    | infinite n => cases n <;> rfl
    | finite n u fits => rfl
  | finite m v fits =>
    obtain ⟨rfl, hPositive⟩ : m = false ∧ 0 < v := by
      cases m <;> simp [lt, zero] at hWait ⊢ <;> omega
    cases x with
    | nan => rfl
    | infinite n => cases n <;> rfl
    | finite n u fits =>
      cases n with
      | false =>
        have hSum : (u : Int) + v ≠ 0 := by omega
        have hSign : decide ((u : Int) + v < 0) = false := by
          rw [decide_eq_false_iff_not]
          omega
        have hSize : u ≤ ((u : Int) + v).natAbs := by omega
        simp only [add, Bool.false_eq_true, if_false, hSum, hSign]
        exact round_not_lt fits hSize
      | true =>
        -- The sum may still be negative, and then it is nearer to zero.
        by_cases hZero : -(u : Int) + v = 0
        · simp only [add, if_true, Bool.false_eq_true, if_false, hZero]
          exact round_not_lt_negative fits 0
        · cases hSign : decide (-(u : Int) + v < 0) with
          | true =>
            have hSize : (-(u : Int) + v).natAbs ≤ u := by
              rw [decide_eq_true_iff] at hSign
              omega
            simp only [add, if_true, Bool.false_eq_true, if_false, hZero, hSign]
            exact round_negative_not_lt fits hSize
          | false =>
            simp only [add, if_true, Bool.false_eq_true, if_false, hZero, hSign]
            exact round_not_lt_negative fits _

/-- A wait is not over before anything that is past when it begins. -/
theorem add_not_lt_past {x past wait : Double} (hPast : x.lt past = false)
    (hWait : zero.lt wait = true) : (x + wait).lt past = false := by
  have hEnd := add_not_lt x hWait
  cases x with
  | nan => rfl
  | infinite n =>
    generalize (infinite n + wait) = after at hEnd ⊢
    cases after <;> cases past <;> grind [lt]
  | finite n u fits =>
    generalize (finite n u fits + wait) = after at hEnd ⊢
    cases after <;> cases past <;> grind [lt]

end Double

end PageReporter
