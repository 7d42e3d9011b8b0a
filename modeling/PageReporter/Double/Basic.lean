/-!
# Double-precision numbers

The numbers of the binary64 format as exact values: a finite number is a whole multiple of the
least positive one. Every operation is computed exactly and then rounded once, to nearest with
ties to even, so its result is a function of the exact result alone.

* `Double` — the type; `Representable` says which multiples a finite number can be;
* `Double.round` — the nearest number to a quotient, which all arithmetic goes through;
* `Double.lt`, `Double.le` — the order, which holds of nothing that involves `nan`.
-/

namespace PageReporter

/-! ## Powers -/

/-- Two to the `k`. -/
def twoTo (k : Nat) : Nat :=
  Nat.pow 2 k

/-- Ten to the `k`. -/
def tenTo (k : Nat) : Nat :=
  Nat.pow 10 k

theorem twoTo_succ (k : Nat) : twoTo (k + 1) = twoTo k * 2 :=
  rfl

theorem twoTo_pos (k : Nat) : 0 < twoTo k :=
  Nat.two_pow_pos k

/-! ## Rounding quotients -/

/-- The whole number nearest to `n / d`; of two equally near ones, the even one. -/
def nearest (n d : Nat) : Nat :=
  let q := n / d
  let r := n % d
  if 2 * r < d then q
  else if d < 2 * r then q + 1
  else if q % 2 = 0 then q else q + 1

theorem nearest_le (n d : Nat) : nearest n d ≤ n / d + 1 := by
  unfold nearest
  grind

/-- The distance of neighbouring numbers of 53 binary digits where the whole part of a number
is `q`: a power of two, and never less than one unit. -/
def spacing (q : Nat) : Nat :=
  if q < twoTo 53 then 1 else twoTo (q.log2 - 52)

/-- A quotient rounded to 53 binary digits, or to whole units if it is small. -/
def roundUnits (n d : Nat) : Nat :=
  nearest n (d * spacing (n / d)) * spacing (n / d)

/-- The multiples of the least positive number that a double can be: 53 binary digits, followed
by zeros, below two to the 1024. -/
def Representable (units : Nat) : Prop :=
  units.log2 < 2098 ∧ ∃ m e, m < twoTo 53 ∧ units = m * twoTo e

theorem representable_zero : Representable 0 :=
  ⟨by decide, 0, 0, by decide, rfl⟩

/-- The rounded digits count at most to two to the 53, because the spacing was chosen for it. -/
theorem nearest_spacing_le (n d : Nat) : nearest n (d * spacing (n / d)) ≤ twoTo 53 := by
  have h := nearest_le n (d * spacing (n / d))
  rw [← Nat.div_div_eq_div_mul] at h
  suffices n / d / spacing (n / d) < twoTo 53 by omega
  unfold spacing
  split
  · simpa using ‹_›
  · rename_i hq
    have hq' : n / d ≠ 0 := by
      intro h0
      rw [h0] at hq
      exact hq (by decide)
    simp only [twoTo, Nat.pow_eq] at hq ⊢
    have hlog : 52 ≤ (n / d).log2 := (Nat.le_log2 hq').2 (by omega)
    rw [Nat.div_lt_iff_lt_mul (Nat.two_pow_pos _), ← Nat.pow_add]
    have : 53 + ((n / d).log2 - 52) = (n / d).log2 + 1 := by omega
    rw [this]
    exact Nat.lt_log2_self

theorem representable_roundUnits {n d : Nat} (h : (roundUnits n d).log2 < 2098) :
    Representable (roundUnits n d) := by
  refine ⟨h, ?_⟩
  have hm := nearest_spacing_le n d
  have hs : ∃ k, spacing (n / d) = twoTo k := by
    unfold spacing
    split
    · exact ⟨0, rfl⟩
    · exact ⟨_, rfl⟩
  obtain ⟨k, hk⟩ := hs
  unfold roundUnits
  rw [hk] at hm ⊢
  rcases Nat.lt_or_eq_of_le hm with hlt | heq
  · exact ⟨_, _, hlt, rfl⟩
  · exact ⟨twoTo 52, k + 1, by decide, by rw [heq, twoTo_succ 52, twoTo_succ k, Nat.mul_assoc, Nat.mul_comm 2]⟩

/-! ## The type -/

/-- A double-precision number. A finite one has a sign, which zero has too, and a size counted in
units of two to the minus 1074. -/
inductive Double
  | nan
  | infinite (negative : Bool)
  | finite (negative : Bool) (units : Nat) (fits : Representable units)
deriving DecidableEq

namespace Double

/-- The number of units that make one. -/
def unitsPerOne : Nat :=
  twoTo 1074

/-- The number nearest to `n / d` units, with the given sign. What rounds to two to the 1024 or
more is infinite. -/
def round (negative : Bool) (n d : Nat) : Double :=
  if h : (roundUnits n d).log2 < 2098 then
    .finite negative (roundUnits n d) (representable_roundUnits h)
  else .infinite negative

/-- The number nearest to the fraction `n / d`. -/
def ofRatio (negative : Bool) (n d : Nat) : Double :=
  round negative (n * unitsPerOne) d

/-- The number nearest to a whole number. -/
def ofInt (i : Int) : Double :=
  ofRatio (i < 0) i.natAbs 1

/-- Positive zero. -/
def zero : Double :=
  .finite false 0 representable_zero

instance : Inhabited Double :=
  ⟨zero⟩

instance (i : Nat) : OfNat Double i :=
  ⟨ofInt i⟩

/-! ## Parts and classes -/

/-- The size with its sign as a whole number of units; none if the number is not finite. -/
def units? : Double → Option Int
  | .finite negative units _ => some (if negative then -units else units)
  | _ => none

def isNaN : Double → Bool
  | .nan => true
  | _ => false

def isZero : Double → Bool
  | .finite _ units _ => units == 0
  | _ => false

def isInfinite : Double → Bool
  | .infinite _ => true
  | _ => false

/-! ## Order -/

/-- Strictly less; false wherever `nan` is involved. The two zeros are equal. -/
def lt : Double → Double → Bool
  | .nan, _ => false
  | _, .nan => false
  | .infinite n, .infinite m => n && !m
  | .infinite n, .finite .. => n
  | .finite .., .infinite m => !m
  | .finite n u _, .finite m v _ =>
    decide ((if n then -(u : Int) else u) < (if m then -(v : Int) else v))

/-- Numerically equal; false wherever `nan` is involved. The two zeros are equal. -/
def same : Double → Double → Bool
  | .nan, _ => false
  | _, .nan => false
  | .infinite n, .infinite m => n == m
  | .infinite _, .finite .. => false
  | .finite .., .infinite _ => false
  | .finite n u _, .finite m v _ =>
    decide ((if n then -(u : Int) else u) = (if m then -(v : Int) else v))

def le (x y : Double) : Bool :=
  x.lt y || x.same y

/-! ## Arithmetic -/

/-- The sum. Infinities of different sign have none. An exact sum of zero is positive unless
both terms are negative. -/
def add : Double → Double → Double
  | .nan, _ => .nan
  | _, .nan => .nan
  | .infinite n, .infinite m => if n == m then .infinite n else .nan
  | .infinite n, .finite .. => .infinite n
  | .finite .., .infinite m => .infinite m
  | .finite n u _, .finite m v _ =>
    let sum := (if n then -(u : Int) else u) + (if m then -(v : Int) else v)
    if sum = 0 then round (n && m) 0 1 else round (sum < 0) sum.natAbs 1

/-- The product with the whole number `k`. -/
def scale (k : Nat) : Double → Double
  | .nan => .nan
  | .infinite n => if k = 0 then .nan else .infinite n
  | .finite n u _ => round n (u * k) 1

/-- The quotient by the positive whole number `k`. -/
def divide (k : Nat) : Double → Double
  | .nan => .nan
  | .infinite n => .infinite n
  | .finite n u _ => round n u k

instance : Add Double :=
  ⟨add⟩

/-! ## Whole numbers -/

/-- The whole part of a finite number, cut toward zero. -/
def truncate? (x : Double) : Option Int :=
  x.units?.map fun u => Int.tdiv u unitsPerOne

/-- The whole number nearest to a finite number; of two equally near ones, the even one. -/
def nearestInt? : Double → Option Int
  | .finite n u _ =>
    let size : Int := nearest u unitsPerOne
    some (if n then -size else size)
  | _ => none

end Double

end PageReporter
