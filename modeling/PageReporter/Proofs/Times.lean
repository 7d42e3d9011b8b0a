import PageReporter.Proofs.Instants

/-!
# Times of a clock that starts at zero

A clock that starts at zero and never goes back shows numbers that are not negative, and in the end
perhaps infinity. Among these the order is a linear one, equal numbers are the same, and what is
added to two of them leaves them in order, whatever is rounded on the way.

* `roundUnits_mono` — rounding keeps the order;
* `Double.IsTime` — what such a clock may show;
* `Double.IsTime.le_add`, `Double.IsTime.add_le_add` — times and what is added to them;
* `Double.sooner`, `Double.later`, `Double.latest` — the first and the last of several times.
-/

namespace PageReporter

/-! ## Rounding keeps the order -/

theorem div_le_div_of_mul_le {n m d c : Nat} (hFirst : 0 < d) (hSecond : 0 < c)
    (hLe : n * c ≤ m * d) : n / d ≤ m / c := by
  rw [Nat.le_div_iff_mul_le hSecond]
  refine Nat.le_of_mul_le_mul_right ?_ hFirst
  calc n / d * c * d = n / d * d * c := Nat.mul_right_comm ..
    _ ≤ n * c := Nat.mul_le_mul_right c (Nat.div_mul_le_self n d)
    _ ≤ m * d := hLe

theorem nearest_mono {n m d c : Nat} (hFirst : 0 < d) (hSecond : 0 < c) (hLe : n * c ≤ m * d) :
    nearest n d ≤ nearest m c := by
  have hWhole := div_le_div_of_mul_le hFirst hSecond hLe
  rcases Nat.lt_or_eq_of_le hWhole with hBelow | hSame
  · exact Nat.le_trans (nearest_le n d) (Nat.le_trans hBelow (div_le_nearest m c))
  · -- The whole parts are the same, so the remainders decide.
    have hRest : n % d * c ≤ m % c * d := by
      have hOne := congrArg (· * c) (Nat.div_add_mod n d)
      have hOther := congrArg (· * d) (Nat.div_add_mod m c)
      simp only [Nat.add_mul, hSame] at hOne hOther
      have hParts : d * (m / c) * c = c * (m / c) * d := by
        rw [Nat.mul_right_comm, Nat.mul_right_comm c, Nat.mul_comm c d]
      omega
    have hBeyond (hMore : d < 2 * (n % d)) : c < 2 * (m % c) := by
      refine Nat.lt_of_mul_lt_mul_right (a := d) ?_
      calc c * d = d * c := Nat.mul_comm ..
        _ < 2 * (n % d) * c := Nat.mul_lt_mul_of_pos_right hMore hSecond
        _ = 2 * (n % d * c) := Nat.mul_assoc ..
        _ ≤ 2 * (m % c * d) := Nat.mul_le_mul_left 2 hRest
        _ = 2 * (m % c) * d := (Nat.mul_assoc ..).symm
    have hMiddle (hHalf : d ≤ 2 * (n % d)) : c ≤ 2 * (m % c) := by
      refine Nat.le_of_mul_le_mul_right ?_ hFirst
      calc c * d = d * c := Nat.mul_comm ..
        _ ≤ 2 * (n % d) * c := Nat.mul_le_mul_right c hHalf
        _ = 2 * (n % d * c) := Nat.mul_assoc ..
        _ ≤ 2 * (m % c * d) := Nat.mul_le_mul_left 2 hRest
        _ = 2 * (m % c) * d := (Nat.mul_assoc ..).symm
    unfold nearest
    rw [hSame]
    grind

/-- Between which powers of two a number lies, by the spacing there. -/
theorem spacing_bounds (n : Nat) :
    ∃ k, spacing n = twoTo k ∧ (k = 0 ∨ twoTo (52 + k) ≤ n) ∧ n < twoTo (53 + k) := by
  unfold spacing
  split
  · next hSmall => exact ⟨0, rfl, .inl rfl, hSmall⟩
  · next hLarge =>
    have hPos : n ≠ 0 := by
      rintro rfl
      exact hLarge (twoTo_pos 53)
    have hLog : 53 ≤ n.log2 := (twoTo_le_iff (by decide)).mp (Nat.not_lt.mp hLarge)
    refine ⟨n.log2 - 52, rfl, .inr ?_, ?_⟩
    · rw [twoTo_le_iff (by omega)]
      omega
    · refine Nat.lt_of_lt_of_le Nat.lt_log2_self (twoTo_le ?_)
      omega

/-- Rounding keeps the order of fractions. -/
theorem roundUnits_mono {n m d c : Nat} (hFirst : 0 < d) (hSecond : 0 < c)
    (hLe : n * c ≤ m * d) : roundUnits n d ≤ roundUnits m c := by
  obtain ⟨j, hLow, hReached, hBelow⟩ := spacing_bounds (n / d)
  obtain ⟨k, hHigh, hLarge, hAbove⟩ := spacing_bounds (m / c)
  have hWhole := div_le_div_of_mul_le hFirst hSecond hLe
  unfold roundUnits
  rw [hLow, hHigh]
  rcases Nat.lt_trichotomy j k with hFiner | rfl | hCoarser
  · -- A power of two stands between the two numbers, and neither is rounded past it.
    replace hLarge := hLarge.resolve_left (by omega)
    have hPower : twoTo (52 + k) = twoTo (52 + k - j) * twoTo j := by
      rw [← twoTo_add, Nat.sub_add_cancel (by omega)]
    have hUnder : n ≤ twoTo (52 + k - j) * (d * twoTo j) := by
      have hQuotient : n / d < twoTo (52 + k) :=
        Nat.lt_of_lt_of_le hBelow (twoTo_le (by omega))
      have hProduct := Nat.lt_mul_of_div_lt hQuotient hFirst
      rw [hPower, Nat.mul_assoc, Nat.mul_comm (twoTo j)] at hProduct
      exact Nat.le_of_lt hProduct
    have hOver : twoTo 52 ≤ nearest m (c * twoTo k) := by
      refine Nat.le_trans ?_ (div_le_nearest m _)
      rw [← Nat.div_div_eq_div_mul, Nat.le_div_iff_mul_le (twoTo_pos k), ← twoTo_add]
      exact hLarge
    calc nearest n (d * twoTo j) * twoTo j
        ≤ twoTo (52 + k - j) * twoTo j :=
          Nat.mul_le_mul_right _
            (nearest_le_of_le_mul (Nat.mul_pos hFirst (twoTo_pos j)) hUnder)
      _ = twoTo 52 * twoTo k := by rw [← hPower, twoTo_add]
      _ ≤ nearest m (c * twoTo k) * twoTo k := Nat.mul_le_mul_right _ hOver
  · refine Nat.mul_le_mul_right _ (nearest_mono (Nat.mul_pos hFirst (twoTo_pos j))
      (Nat.mul_pos hSecond (twoTo_pos j)) ?_)
    rw [← Nat.mul_assoc, ← Nat.mul_assoc]
    exact Nat.mul_le_mul_right _ hLe
  · -- The coarser spacing belongs to the larger number.
    have hPowers : twoTo (53 + k) ≤ twoTo (52 + j) := twoTo_le (by omega)
    replace hReached := hReached.resolve_left (by omega)
    omega

/-! ## Times -/

namespace Double

/-- What a clock may show that starts at zero and never goes back. -/
inductive IsTime : Double → Prop
  | finite (units : Nat) (fits : Representable units) : IsTime (.finite false units fits)
  | infinite : IsTime (.infinite false)

namespace IsTime

variable {x y z : Double}

theorem zero : IsTime Double.zero :=
  .finite 0 representable_zero

theorem le_refl (hTime : IsTime x) : x.le x = true := by
  cases hTime <;> simp [le, lt, same]

theorem le_of_not_lt (hFirst : IsTime x) (hSecond : IsTime y) (hNot : x.lt y = false) :
    y.le x = true := by
  cases hFirst <;> cases hSecond <;> simp [le, lt, same] at hNot ⊢
  omega

theorem le_antisymm (hFirst : IsTime x) (hSecond : IsTime y) (hLe : x.le y = true)
    (hBack : y.le x = true) : x = y := by
  cases hFirst <;> cases hSecond <;> simp [le, lt, same] at hLe hBack ⊢
  omega

theorem zero_le (hTime : IsTime x) : Double.zero.le x = true := by
  cases hTime with
  | finite units fits =>
    simp [le, lt, same, Double.zero]
    omega
  | infinite => rfl

/-- What is above a time is one. -/
theorem of_lt (hTime : IsTime x) (hLt : x.lt y = true) : IsTime y := by
  cases hTime <;> cases y <;> simp [lt] at hLt
  · subst hLt
    exact .infinite
  · next negative _ _ =>
    cases negative with
    | false => exact .finite ..
    | true =>
      rw [if_pos rfl] at hLt
      omega

/-! ### Sums -/

theorem round (units : Nat) : IsTime (Double.round false units 1) := by
  unfold Double.round
  split
  · exact .finite ..
  · exact .infinite

/-- A whole number of seconds. -/
theorem ofNat (seconds : Nat) : IsTime (ofInt seconds) := by
  have hSign : decide ((seconds : Int) < 0) = false := by
    rw [decide_eq_false_iff_not]
    omega
  unfold ofInt ofRatio
  rw [hSign]
  exact round _

/-- The sum of two finite times is rounded once. -/
theorem finite_add (u v : Nat) (hFirst : Representable u) (hSecond : Representable v) :
    (Double.finite false u hFirst + .finite false v hSecond : Double) =
      Double.round false (u + v) 1 := by
  show add _ _ = _
  by_cases hZero : (u : Int) + v = 0
  · have hNone : u + v = 0 := by omega
    simp [add, hZero, hNone]
  · have hSign : decide ((u : Int) + v < 0) = false := by
      rw [decide_eq_false_iff_not]
      omega
    have hSize : ((u : Int) + v).natAbs = u + v := by omega
    simp [add, hZero, hSign, hSize]

theorem add (hFirst : IsTime x) (hSecond : IsTime y) : IsTime (x + y) := by
  cases hFirst with
  | infinite => cases hSecond <;> exact .infinite
  | finite u hFits =>
    cases hSecond with
    | infinite => exact .infinite
    | finite v hOther =>
      rw [finite_add]
      exact round _

/-- What need not be rounded stays as it is. -/
theorem round_of_fits {u : Nat} (hFits : Representable u) :
    Double.round false u 1 = .finite false u hFits := by
  have hSame : roundUnits u 1 = u :=
    Nat.le_antisymm (roundUnits_le Nat.one_pos hFits (Nat.le_of_eq (Nat.mul_one u).symm))
      (le_roundUnits Nat.one_pos hFits (Nat.le_of_eq (Nat.mul_one u)))
  have hSmall : (roundUnits u 1).log2 < 2098 := by
    rw [hSame]
    exact hFits.1
  rw [Double.round, dif_pos hSmall]
  simp only [hSame]

theorem add_zero (hTime : IsTime x) : x + Double.zero = x := by
  cases hTime with
  | infinite => rfl
  | finite u hFits => rw [Double.zero, finite_add, Nat.add_zero, round_of_fits hFits]

theorem round_le_round {n m : Nat} (hLe : n ≤ m) :
    (Double.round false n 1).le (Double.round false m 1) = true := by
  have hRounded := roundUnits_mono Nat.one_pos Nat.one_pos (Nat.mul_le_mul_right 1 hLe)
  unfold Double.round
  split
  · split
    · simp [le, lt, same]
      omega
    · rfl
  · next hLarge =>
    -- What is beyond all finite numbers is so for the larger one as well.
    have hReached := (twoTo_le_iff (by decide)).mpr (Nat.not_lt.mp hLarge)
    have hLarger := (twoTo_le_iff (by decide)).mp (Nat.le_trans hReached hRounded)
    rw [dif_neg (Nat.not_lt.mpr hLarger)]
    rfl

/-- **Sums of times are in order.** -/
theorem add_le_add (hFirst : IsTime x) (hSecond : IsTime y) (hAdded : IsTime z)
    (hLe : x.le y = true) : (x + z).le (y + z) = true := by
  cases hFirst with
  | infinite =>
    cases hSecond with
    | infinite => cases hAdded <;> rfl
    | finite v hOther => cases hLe
  | finite u hFits =>
    cases hSecond with
    | infinite =>
      cases hAdded with
      | infinite => rfl
      | finite w hMore =>
        have hSum := (IsTime.finite u hFits).add (.finite w hMore)
        generalize Double.finite false u hFits + .finite false w hMore = sum at hSum ⊢
        cases hSum <;> rfl
    | finite v hOther =>
      cases hAdded with
      | infinite => rfl
      | finite w hMore =>
        rw [finite_add, finite_add]
        refine round_le_round (Nat.add_le_add_right ?_ w)
        simp [le, lt, same] at hLe
        omega

/-- A time is not later than itself with something added. -/
theorem le_add (hFirst : IsTime x) (hSecond : IsTime y) : x.le (x + y) = true := by
  cases hFirst with
  | infinite => cases hSecond <;> rfl
  | finite u hFits =>
    cases hSecond with
    | infinite => rfl
    | finite v hOther =>
      rw [finite_add, ← round_of_fits hFits]
      exact round_le_round (Nat.le_add_right u v)

end IsTime

/-! ## The first and the last -/

/-- The sooner of two times. -/
def sooner (x y : Double) : Double :=
  if y.lt x then y else x

/-- The later of two times. -/
def later (x y : Double) : Double :=
  if x.lt y then y else x

/-- The last of several times; zero if there is none. -/
def latest : List Double → Double
  | [] => zero
  | time :: times => later time (latest times)

variable {x y z : Double}

theorem le_sooner (hFirst : z.le x = true) (hSecond : z.le y = true) :
    z.le (sooner x y) = true := by
  unfold sooner
  split <;> assumption

theorem later_le (hFirst : x.le z = true) (hSecond : y.le z = true) :
    (later x y).le z = true := by
  unfold later
  split <;> assumption

/-- The last of several times is not later than what none of them is later than. -/
theorem latest_le {times : List Double} (hBound : IsTime z)
    (hTimes : ∀ time ∈ times, time.le z = true) : (latest times).le z = true := by
  induction times with
  | nil => exact hBound.zero_le
  | cons time rest ih =>
    obtain ⟨hFirst, hRest⟩ := List.forall_mem_cons.mp hTimes
    exact later_le hFirst (ih hRest)

namespace IsTime

theorem sooner (hFirst : IsTime x) (hSecond : IsTime y) : IsTime (sooner x y) := by
  unfold Double.sooner
  split <;> assumption

theorem sooner_le_left (hFirst : IsTime x) (y : Double) : (Double.sooner x y).le x = true := by
  unfold Double.sooner
  split
  · next hBelow => exact le_of_lt hBelow
  · exact hFirst.le_refl

theorem sooner_le_right (hFirst : IsTime x) (hSecond : IsTime y) :
    (Double.sooner x y).le y = true := by
  unfold Double.sooner
  split
  · exact hSecond.le_refl
  · next hAbove => exact hSecond.le_of_not_lt hFirst (eq_false_of_ne_true hAbove)

theorem later (hFirst : IsTime x) (hSecond : IsTime y) : IsTime (later x y) := by
  unfold Double.later
  split <;> assumption

theorem le_later_left (hFirst : IsTime x) (y : Double) : x.le (Double.later x y) = true := by
  unfold Double.later
  split
  · next hBelow => exact le_of_lt hBelow
  · exact hFirst.le_refl

theorem le_later_right (hFirst : IsTime x) (hSecond : IsTime y) :
    y.le (Double.later x y) = true := by
  unfold Double.later
  split
  · exact hSecond.le_refl
  · next hAbove => exact hFirst.le_of_not_lt hSecond (eq_false_of_ne_true hAbove)

theorem latest {times : List Double} (hTimes : ∀ time ∈ times, IsTime time) :
    IsTime (latest times) := by
  induction times with
  | nil => exact .zero
  | cons time rest ih =>
    obtain ⟨hFirst, hRest⟩ := List.forall_mem_cons.mp hTimes
    exact hFirst.later (ih hRest)

/-- None of several times is later than the last of them. -/
theorem le_latest {times : List Double} (hTimes : ∀ time ∈ times, IsTime time) (hMem : x ∈ times) :
    x.le (Double.latest times) = true := by
  induction times with
  | nil => cases hMem
  | cons time rest ih =>
    obtain ⟨hFirst, hRest⟩ := List.forall_mem_cons.mp hTimes
    rcases List.mem_cons.mp hMem with rfl | hMem
    · exact hFirst.le_later_left _
    · exact le_trans (ih hRest hMem) (hFirst.le_later_right (.latest hRest))

end IsTime

end Double

end PageReporter
