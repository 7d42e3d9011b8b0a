import PageReporter.Double.Shortest

/-!
# Layouts of numbers

How chosen digits are laid out: positionally or with an exponent. A layout is a record, so that
each place that prints numbers states its own decisions in one value.

* `Layout` — the decisions; `Layout.write` applies them;
* `Layout.display` — the display form of a number inside messages;
* `Layout.console` — the form in which a console prints a number;
* `Layout.general` — six significant digits, for limits inside messages.
-/

namespace PageReporter

/-- The decisions of one way to print numbers. -/
structure Layout where
  /-- The digits of a number of `units` units. -/
  digits : Nat → Digits
  /-- A number whose point stands here or further left is written with an exponent. -/
  lowest : Int
  /-- A number whose point stands further right than here is written with an exponent. -/
  highest : Int
  /-- What follows a whole number written positionally. -/
  wholeEnd : List Char
  /-- The least number of digits of an exponent. -/
  exponentWidth : Nat
  /-- The name of the value that is no number. -/
  nan : List Char
  /-- The name of infinity. -/
  infinity : List Char

namespace Layout

/-- A number written positionally: zeros fill the places between the digits and the point. -/
def positional (layout : Layout) (d : Digits) : List Char :=
  if (d.digits.length : Int) ≤ d.point then
    d.digits ++ List.replicate (d.point.toNat - d.digits.length) '0' ++ layout.wholeEnd
  else if 0 < d.point then
    d.digits.take d.point.toNat ++ '.' :: d.digits.drop d.point.toNat
  else
    '0' :: '.' :: List.replicate (-d.point).toNat '0' ++ d.digits

/-- A number written as one digit, the others after a point, and a signed exponent. -/
def scientific (layout : Layout) (d : Digits) : List Char :=
  let mantissa := match d.digits with
    | [] => []
    | [c] => [c]
    | c :: cs => c :: '.' :: cs
  let e := d.point - 1
  let size := Text.asciiDigits e.natAbs
  mantissa ++ 'e' :: (if 0 ≤ e then '+' else '-')
    :: List.replicate (layout.exponentWidth - size.length) '0' ++ size

/-- Chosen digits laid out. -/
def writeDigits (layout : Layout) (d : Digits) : List Char :=
  if layout.lowest < d.point && d.point ≤ layout.highest then layout.positional d
  else layout.scientific d

/-- A number laid out, with a minus in front of every negative one, zero included. -/
def write (layout : Layout) : Double → List Char
  | .nan => layout.nan
  | .infinite negative => if negative then '-' :: layout.infinity else layout.infinity
  | .finite negative units _ =>
    let size :=
      if units = 0 then '0' :: layout.wholeEnd else layout.writeDigits (layout.digits units)
    if negative then '-' :: size else size

/-- The display form: shortest digits, positional from a ten-thousandth to below ten to the
sixteen, always with a fraction, exponents of at least two digits. -/
def display : Layout where
  digits := Double.shortest
  lowest := -4
  highest := 16
  wholeEnd := ['.', '0']
  exponentWidth := 2
  nan := "nan".toList
  infinity := "inf".toList

/-- The console's form: shortest digits, positional from a millionth to below ten to the
twenty-one, whole numbers without a fraction. -/
def console : Layout where
  digits := Double.shortest
  lowest := -6
  highest := 21
  wholeEnd := []
  exponentWidth := 1
  nan := "NaN".toList
  infinity := "Infinity".toList

/-- Six significant digits without zeros at their end, positional from a ten-thousandth to below
a million. -/
def general : Layout where
  digits := Double.significant 6
  lowest := -4
  highest := 6
  wholeEnd := []
  exponentWidth := 2
  nan := "nan".toList
  infinity := "inf".toList

end Layout

end PageReporter
