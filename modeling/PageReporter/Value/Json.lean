import PageReporter.Value.Basic

/-!
# Reading JSON

Texts of the JSON format, read into values. A whole number stays a whole number of any size up
to the digit limit, every other number becomes a double, and the three names of values that are
not finite are numbers too. What is wrong with a text is told together with how much of it was
left where the problem arose, from which its place follows.

* `Json.read` — the value that a text holds, or what is wrong with it;
* `Json.Failure.message` — the wording, with line and column.
-/

namespace PageReporter.Json

/-! ## Problems -/

/-- What can be wrong with a text. -/
inductive Problem
  | value
  | name
  | colon
  | comma
  | extra
  | mark
  | unterminated
  | control
  | escape
  | unicodeEscape
  /-- A whole number with this many digits, which are too many. -/
  | digits (count : Nat)
deriving DecidableEq

/-- A problem with the number of characters that were left where it arose. -/
structure Failure where
  problem : Problem
  left : Nat
deriving DecidableEq

/-! ## Strings -/

/-- The value of a hexadecimal digit. -/
def hexValue? (c : Char) : Option Nat :=
  let n := c.toNat
  if 48 ≤ n && n ≤ 57 then some (n - 48)
  else if 97 ≤ n && n ≤ 102 then some (n - 87)
  else if 65 ≤ n && n ≤ 70 then some (n - 55)
  else none

/-- The number written by four hexadecimal digits. -/
def hexQuad? (a b c d : Char) : Option Nat := do
  let a ← hexValue? a
  let b ← hexValue? b
  let c ← hexValue? c
  let d ← hexValue? d
  some (((a * 16 + b) * 16 + c) * 16 + d)

/-- The character that a backslash makes of the one after it. -/
def escaped? : Char → Option Nat
  | '"' => some 34
  | '\\' => some 92
  | '/' => some 47
  | 'b' => some 8
  | 'f' => some 12
  | 'n' => some 10
  | 'r' => some 13
  | 't' => some 9
  | _ => none

/-- The code points and surrogates of a string up to its closing quote, and what follows that.
`opening` is how much was left at the opening quote. -/
def readUnits (opening : Nat) : List Char → Except Failure (List Nat × List Char)
  | [] => .error ⟨.unterminated, opening⟩
  | '"' :: cs => .ok ([], cs)
  | ['\\'] => .error ⟨.unterminated, opening⟩
  | '\\' :: 'u' :: a :: b :: c :: d :: e :: cs =>
    match hexQuad? a b c d with
    | none => .error ⟨.unicodeEscape, cs.length + 6⟩
    | some n => (readUnits opening (e :: cs)).map fun (ns, rest) => (n :: ns, rest)
  | '\\' :: 'u' :: cs => .error ⟨.unicodeEscape, cs.length + 1⟩
  | '\\' :: c :: cs =>
    match escaped? c with
    | none => .error ⟨.escape, cs.length + 2⟩
    | some n => (readUnits opening cs).map fun (ns, rest) => (n :: ns, rest)
  | c :: cs =>
    if c.toNat < 32 then .error ⟨.control, cs.length + 1⟩
    else (readUnits opening cs).map fun (ns, rest) => (c.toNat :: ns, rest)

/-- The characters of code points, two surrogates that belong together joined into one. A
surrogate that stands alone becomes the replacement character. -/
def joinUnits : List Nat → List Char
  | [] => []
  | [n] => [if 55296 ≤ n && n < 57344 then '\ufffd' else Char.ofNat n]
  | n :: m :: ns =>
    if 55296 ≤ n && n < 56320 && 56320 ≤ m && m < 57344 then
      Char.ofNat (65536 + (n - 55296) * 1024 + (m - 56320)) :: joinUnits ns
    else
      (if 55296 ≤ n && n < 57344 then '\ufffd' else Char.ofNat n) :: joinUnits (m :: ns)

/-- A string after its opening quote, and what follows its closing one. -/
def readString (cs : List Char) : Except Failure (String × List Char) :=
  (readUnits (cs.length + 1) cs).map fun (ns, rest) => (String.ofList (joinUnits ns), rest)

/-! ## Numbers -/

/-- The fraction of a number: a point with at least one digit after it. -/
def readFraction : List Char → List Char × List Char
  | '.' :: cs =>
    let digits := cs.takeWhile Text.isAsciiDigit
    if digits.isEmpty then ([], '.' :: cs) else (digits, cs.drop digits.length)
  | cs => ([], cs)

/-- The exponent of a number: its letter, a sign, and at least one digit. -/
def readExponent : List Char → Option Int × List Char
  | [] => (none, [])
  | c :: cs =>
    if c == 'e' || c == 'E' then
      let (negative, body) := Text.readSign cs
      let digits := body.takeWhile Text.isAsciiDigit
      if digits.isEmpty then (none, c :: cs)
      else
        let n : Int := Text.ofAsciiDigits digits
        (some (if negative then -n else n), body.drop digits.length)
    else (none, c :: cs)

/-- The whole part of a number: a zero, or digits that begin with another one. -/
def readWhole : List Char → List Char × List Char
  | '0' :: cs => (['0'], cs)
  | cs =>
    let digits := cs.takeWhile Text.isAsciiDigit
    (digits, cs.drop digits.length)

/-- A number, of which `start` was left at its first character. -/
def readNumber (start : Nat) (cs : List Char) : Except Failure (Value × List Char) :=
  let (negative, body) := match cs with
    | '-' :: rest => (true, rest)
    | _ => (false, cs)
  let (whole, rest) := readWhole body
  if whole.isEmpty then .error ⟨.value, start⟩
  else
    let (fraction, rest) := readFraction rest
    let (exponent, rest) := readExponent rest
    if fraction.isEmpty && exponent.isNone then
      if digitLimit < whole.length then .error ⟨.digits whole.length, start⟩
      else
        let n : Int := Text.ofAsciiDigits whole
        .ok (.int (if negative then -n else n), rest)
    else
      let m := Text.ofAsciiDigits (whole ++ fraction)
      let e := exponent.getD 0 - fraction.length
      .ok (.double (Double.ofDecimal negative m e), rest)

/-! ## Values -/

/-- The white space of the format. -/
def isSpace (c : Char) : Bool :=
  c == ' ' || c == '\n' || c == '\r' || c == '\t'

/-- The text without the white space in front. -/
def skip (cs : List Char) : List Char :=
  cs.dropWhile isSpace

mutual

/-- A value at the front of a text, and what follows it. Two units of fuel for each character
are enough, since every second step takes a character. -/
def readValue : Nat → List Char → Except Failure (Value × List Char)
  | 0, cs => .error ⟨.value, cs.length⟩
  | fuel + 1, cs =>
    match cs with
    | '"' :: rest => (readString rest).map fun (s, rest) => (.str s, rest)
    | '{' :: rest =>
      match skip rest with
      | '}' :: rest => .ok (.object [], rest)
      | rest => (readMembers fuel [] rest).map fun (ms, rest) => (.object ms, rest)
    | '[' :: rest =>
      match skip rest with
      | ']' :: rest => .ok (.list [], rest)
      | rest => (readItems fuel rest).map fun (xs, rest) => (.list xs, rest)
    | 'n' :: 'u' :: 'l' :: 'l' :: rest => .ok (.null, rest)
    | 't' :: 'r' :: 'u' :: 'e' :: rest => .ok (.bool true, rest)
    | 'f' :: 'a' :: 'l' :: 's' :: 'e' :: rest => .ok (.bool false, rest)
    | 'N' :: 'a' :: 'N' :: rest => .ok (.double .nan, rest)
    | 'I' :: 'n' :: 'f' :: 'i' :: 'n' :: 'i' :: 't' :: 'y' :: rest =>
      .ok (.double (.infinite false), rest)
    | '-' :: 'I' :: 'n' :: 'f' :: 'i' :: 'n' :: 'i' :: 't' :: 'y' :: rest =>
      .ok (.double (.infinite true), rest)
    | _ => readNumber cs.length cs

/-- The items of a list up to its closing bracket. -/
def readItems : Nat → List Char → Except Failure (List Value × List Char)
  | 0, cs => .error ⟨.value, cs.length⟩
  | fuel + 1, cs => do
    let (x, rest) ← readValue fuel cs
    match skip rest with
    | ']' :: rest => .ok ([x], rest)
    | ',' :: rest =>
      let (xs, rest) ← readItems fuel (skip rest)
      .ok (x :: xs, rest)
    | rest => .error ⟨.comma, rest.length⟩

/-- The members of an object up to its closing brace, after those already read. -/
def readMembers : Nat → List (String × Value) → List Char →
    Except Failure (List (String × Value) × List Char)
  | 0, _, cs => .error ⟨.value, cs.length⟩
  | fuel + 1, ms, cs =>
    match cs with
    | '"' :: rest => do
      let (n, rest) ← readString rest
      match skip rest with
      | ':' :: rest =>
        let (x, rest) ← readValue fuel (skip rest)
        match skip rest with
        | '}' :: rest => .ok (Value.put n x ms, rest)
        | ',' :: rest => readMembers fuel (Value.put n x ms) (skip rest)
        | rest => .error ⟨.comma, rest.length⟩
      | rest => .error ⟨.colon, rest.length⟩
    | _ => .error ⟨.name, cs.length⟩

end

/-- The value that a whole text holds, with white space around it. -/
def read (cs : List Char) : Except Failure Value :=
  match cs with
  | '\ufeff' :: _ => .error ⟨.mark, cs.length⟩
  | _ => do
    let (v, rest) ← readValue (2 * cs.length + 2) (skip cs)
    match skip rest with
    | [] => .ok v
    | rest => .error ⟨.extra, rest.length⟩

/-! ## Wording -/

namespace Problem

/-- What a problem says before its place. -/
def text : Problem → String
  | .value => "Expecting value"
  | .name => "Expecting property name enclosed in double quotes"
  | .colon => "Expecting ':' delimiter"
  | .comma => "Expecting ',' delimiter"
  | .extra => "Extra data"
  | .mark => "Unexpected UTF-8 BOM (decode using utf-8-sig)"
  | .unterminated => "Unterminated string starting at"
  | .control => "Invalid control character at"
  | .escape => "Invalid \\escape"
  | .unicodeEscape => "Invalid \\uXXXX escape"
  | .digits count =>
    s!"Exceeds the limit ({digitLimit} digits) for integer string conversion: value has {count} "
      ++ "digits; use sys.set_int_max_str_digits() to increase the limit"

end Problem

/-- The wording of a failure on a text: the problem, and its line, column and place. A number
with too many digits is told without its place. -/
def Failure.message (failure : Failure) (text : List Char) : String :=
  match failure.problem with
  | .digits _ => failure.problem.text
  | problem =>
    let before := text.take (text.length - failure.left)
    let line := before.count '\n' + 1
    let column := (before.reverse.takeWhile (· != '\n')).length + 1
    s!"{problem.text}: line {line} column {column} (char {before.length})"

end PageReporter.Json
