import PageReporter.Double.Basic
import PageReporter.Text.Blank
import PageReporter.Text.Digit

/-!
# Decimal numbers as text

Reading a decimal number into the nearest double and into a whole number.

* `Double.ofDecimal` — the nearest number to digits with a power of ten;
* `Double.read?` — a number as people type it into a setting;
* `readInt?` — a whole number as people type it.
-/

namespace PageReporter

namespace Double

/-- The number nearest to `m` times ten to the `e`. Powers so large or small that no digits of
the mantissa can bring the result back into range are not computed. -/
def ofDecimal (negative : Bool) (m : Nat) (e : Int) : Double :=
  if m = 0 then .finite negative 0 representable_zero
  else
    let magnitude := (Text.asciiDigits m).length + e
    if 400 < magnitude then .infinite negative
    else if magnitude < -400 then .finite negative 0 representable_zero
    else if 0 ≤ e then ofRatio negative (m * tenTo e.toNat) 1
    else ofRatio negative m (tenTo (-e).toNat)

end Double

/-! ## Typed numbers -/

namespace Text

/-- The values of a run of decimal digits of any script with single underscores between digits,
and the rest of the text. None if an underscore stands anywhere else. -/
def digitRun : List Char → Option (List Nat × List Char)
  | [] => some ([], [])
  | c :: cs =>
    match digitValue? c with
    | some d => (digitRun cs).map fun (ds, rest) => (d :: ds, rest)
    | none =>
      if c == '_' then none else some ([], c :: cs)

/-- Takes the underscores that stand between two digits out of a text. None if another
underscore is left. -/
def dropUnderscores : Bool → List Char → Option (List Char)
  | _, [] => some []
  | afterDigit, '_' :: c :: cs =>
    if afterDigit && (digitValue? c).isSome then
      (dropUnderscores true cs).map (c :: ·)
    else none
  | _, ['_'] => none
  | _, c :: cs => (dropUnderscores (digitValue? c).isSome cs).map (c :: ·)

/-- The number written by digit values, most significant first. -/
def ofDigitValues (ds : List Nat) : Nat :=
  ds.foldl (fun n d => 10 * n + d) 0

/-- A sign, if there is one, and the rest. The flag says whether it is a minus. -/
def readSign : List Char → Bool × List Char
  | '-' :: cs => (true, cs)
  | '+' :: cs => (false, cs)
  | cs => (false, cs)

end Text

/-- The greatest number of decimal digits that a whole number may be read from or written to. -/
def digitLimit : Nat :=
  4300

/-- A whole number as people type it: blanks around it, a sign, digits of any script, single
underscores between them, and not more digits than the limit. -/
def readInt? (text : List Char) : Option Int :=
  let (negative, body) := Text.readSign (Text.trimWhere Text.isPadding text)
  match (Text.dropUnderscores false body).bind Text.digitRun with
  | some (ds, []) =>
    if ds.isEmpty || digitLimit < ds.length then none
    else
      let n : Int := Text.ofDigitValues ds
      some (if negative then -n else n)
  | _ => none

namespace Double

/-- An exponent part: the letter, a sign, and at least one digit, up to the end. An absent part
is the exponent zero. -/
def readExponent? : List Char → Option Int
  | [] => some 0
  | c :: cs =>
    if c == 'e' || c == 'E' then
      let (negative, body) := Text.readSign cs
      match Text.digitRun body with
      | some (ds, []) =>
        if ds.isEmpty then none
        else
          let n : Int := Text.ofDigitValues ds
          some (if negative then -n else n)
      | _ => none
    else none

/-- Digits with at most one point and an optional exponent, at least one digit outside the
exponent. -/
def readUnsigned? (negative : Bool) (text : List Char) : Option Double := do
  let (whole, rest) ← Text.digitRun text
  let (fraction, rest) ← match rest with
    | '.' :: rest => Text.digitRun rest
    | rest => some ([], rest)
  if whole.isEmpty && fraction.isEmpty then none
  else
    let e ← readExponent? rest
    some (ofDecimal negative (Text.ofDigitValues (whole ++ fraction)) (e - fraction.length))

/-- A number as people type it: blanks around it, a sign, digits of any script with single
underscores between them, and the names of the values that are not finite, in any case. -/
def read? (text : List Char) : Option Double :=
  let (negative, body) := Text.readSign (Text.trimWhere Text.isPadding text)
  let name := body.map Char.toLower
  if name == "inf".toList || name == "infinity".toList then some (.infinite negative)
  else if name == "nan".toList then some .nan
  else (Text.dropUnderscores false body).bind (readUnsigned? negative)

end Double

end PageReporter
