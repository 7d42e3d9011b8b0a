import PageReporter.Double.Decimal

/-!
# Shortest digits

The fewest decimal digits that are read back as the same number, and of those the nearest.

* `Digits` — decimal digits with the place of the point;
* `Double.shortest` — the shortest digits of a finite number other than zero;
* `Double.significant` — a fixed number of significant digits, rounded once.
-/

namespace PageReporter

/-- A positive decimal number: zero, then the point, then `digits`, times ten to the `point`. -/
structure Digits where
  /-- The digits, the first of which is not zero. -/
  digits : List Char
  /-- How many digits stand before the point; negative if zeros follow the point first. -/
  point : Int
deriving DecidableEq

namespace Digits

/-- The digits of `m` times ten to the `e`, without the zeros at the end. -/
def ofNat (m : Nat) (e : Int) : Digits :=
  let all := Text.asciiDigits m
  ⟨(all.reverse.dropWhile (· == '0')).reverse, all.length + e⟩

end Digits

namespace Double

/-- The place of the decimal point of `units` units: the least power of ten above the number. -/
def decimalPoint (units : Nat) : Int :=
  (Text.asciiDigits (units * tenTo 400 / unitsPerOne)).length - 400

/-- The number of units as a fraction of the decimal grid of step ten to the `e`. -/
def gridRatio (units : Nat) (e : Int) : Nat × Nat :=
  if 0 ≤ e then (units, unitsPerOne * tenTo e.toNat)
  else (units * tenTo (-e).toNat, unitsPerOne)

/-- Whether the grid point `m` times ten to the `e` is read back as `units` units. -/
def readsBack (units : Nat) (m : Nat) (e : Int) : Bool :=
  match ofDecimal false m e with
  | .finite _ u _ => u == units
  | _ => false

/-- The grid point of step ten to the `e` next to the number that is read back as it: the nearer
of the two neighbours if both are, the even one if they are equally near. -/
def onGrid? (units : Nat) (e : Int) : Option Digits :=
  let (n, d) := gridRatio units e
  let below := n / d
  let r := n % d
  let upper := d < 2 * r || (2 * r == d && below % 2 == 1)
  let (first, second) := if upper then (below + 1, below) else (below, below + 1)
  if 0 < first && readsBack units first e then some (Digits.ofNat first e)
  else if 0 < second && readsBack units second e then some (Digits.ofNat second e)
  else none

/-- The number rounded to the decimal grid of step ten to the `e`. -/
def rounded (units : Nat) (e : Int) : Digits :=
  let (n, d) := gridRatio units e
  Digits.ofNat (nearest n d) e

/-- The number rounded to `count` significant digits. -/
def significant (count : Nat) (units : Nat) : Digits :=
  rounded units (decimalPoint units - count)

/-- The fewest digits that are read back as `units` units. Seventeen are always enough. -/
def shortest (units : Nat) : Digits :=
  let point := decimalPoint units
  ((List.range 17).findSome? fun (i : Nat) => onGrid? units (point - (i + 1))).getD
    (significant 17 units)

end Double

end PageReporter
