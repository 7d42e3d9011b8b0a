import PageReporter.Value.Access

/-!
# Delays

The time argument of a wait: digits with a unit.

* `Delay.parse?` — the milliseconds that an argument names;
* `Delay.label` — the delay as it is announced;
* `Delay.seconds` — the delay as the clock counts it.
-/

namespace PageReporter.Delay

/-- The units of a delay. -/
inductive Unit
  | milliseconds
  | seconds
deriving DecidableEq

/-- The milliseconds in one unit. -/
def Unit.size : Unit → Nat
  | .milliseconds => 1
  | .seconds => 1000

/-- The unit that a text names. A single line feed may follow it. -/
def unit? : List Char → Option Unit
  | ['m', 's'] => some .milliseconds
  | ['m', 's', '\n'] => some .milliseconds
  | ['s'] => some .seconds
  | ['s', '\n'] => some .seconds
  | _ => none

/-- The digits and the unit of a delay: one or more ASCII digits, then the unit, and no more. -/
def split? (cs : List Char) : Option (List Char × Unit) :=
  let digits := cs.takeWhile Text.isAsciiDigit
  if digits.isEmpty then none
  else (unit? (cs.dropWhile Text.isAsciiDigit)).map fun unit => (digits, unit)

/-- The milliseconds that an argument names; none if it is no delay. A delay with too many digits
cannot be read. -/
def parse? (arg : String) : Except Fault (Option Nat) :=
  match split? arg.toList with
  | none => .ok none
  | some (digits, unit) =>
    if digitLimit < digits.length then .error (.badValue (Json.Problem.digits digits.length).text)
    else .ok (some (Text.ofAsciiDigits digits * unit.size))

/-- The milliseconds of a delay as text, if they have few enough digits. -/
def label (milliseconds : Nat) : Except Fault String :=
  (Value.int milliseconds).text

/-- A delay in seconds. Beyond every double there is none. -/
def seconds (milliseconds : Nat) : Except Fault Double :=
  (Value.int milliseconds).thousandth

end PageReporter.Delay
