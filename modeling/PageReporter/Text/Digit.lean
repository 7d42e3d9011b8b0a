/-!
# Digits

The decimal digits of every script, and the wider class of characters that stand for one digit.

* `digitValue?` — the value of a decimal digit, in any script;
* `isDigit` — decimal digits together with superscript, subscript and enclosed digits;
* `isAsciiDigit` — the ten digits of ASCII alone;
* `ofAsciiDigits` — the number that a run of ASCII digits writes.
-/

namespace PageReporter.Text

/-! ## Tables -/

/-- The code points of the zeros of Unicode's decimal digits (general category Nd). The digits
one to nine of a script follow its zero directly. -/
def zeroPoints : List Nat := [
    48, 1632, 1776, 1984, 2406, 2534, 2662, 2790, 2918, 3046, 3174, 3302, 3430, 3558, 3664, 3792,
    3872, 4160, 4240, 6112, 6160, 6470, 6608, 6784, 6800, 6992, 7088, 7232, 7248, 42528, 43216,
    43264, 43472, 43504, 43600, 44016, 65296, 66720, 68912, 69734, 69872, 69942, 70096, 70384,
    70736, 70864, 71248, 71360, 71472, 71904, 72016, 72784, 73040, 73120, 92768, 92864, 93008,
    120782, 120792, 120802, 120812, 120822, 123200, 123632, 125264, 130032]

/-- The ranges of the characters that stand for one digit without being decimal digits:
superscripts, subscripts, and digits in circles, brackets or with a full stop. -/
def otherDigitRanges : List (Nat × Nat) := [
    (178, 179), (185, 185), (4969, 4977), (6618, 6618), (8304, 8304), (8308, 8313), (8320, 8329),
    (9312, 9320), (9332, 9340), (9352, 9360), (9450, 9450), (9461, 9469), (9471, 9471),
    (10102, 10110), (10112, 10120), (10122, 10130), (68160, 68163), (69216, 69224),
    (69714, 69722), (127232, 127242)]

/-! ## Classes -/

/-- The value of a decimal digit of any script; none for every other character. -/
def digitValue? (c : Char) : Option Nat :=
  (zeroPoints.find? fun start => start ≤ c.toNat && c.toNat < start + 10).map (c.toNat - ·)

/-- A character that stands for a single digit, decimal or not. -/
def isDigit (c : Char) : Bool :=
  (digitValue? c).isSome || otherDigitRanges.any fun (lo, hi) => lo ≤ c.toNat && c.toNat ≤ hi

/-- One of the ten ASCII digits. -/
def isAsciiDigit (c : Char) : Bool :=
  48 ≤ c.toNat && c.toNat ≤ 57

/-! ## Reading -/

/-- The number that a run of ASCII digits writes, most significant digit first. -/
def ofAsciiDigits (cs : List Char) : Nat :=
  cs.foldl (fun n c => 10 * n + (c.toNat - 48)) 0

/-- The digits of a number in base ten, without leading zeros. -/
def asciiDigits (n : Nat) : List Char :=
  Nat.toDigits 10 n

end PageReporter.Text
