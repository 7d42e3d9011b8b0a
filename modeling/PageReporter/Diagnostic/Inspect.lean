import PageReporter.Value.Access

/-!
# Inspecting values

How a value of the page is printed on one line, in the manner of a console with its colors off
and no limit on depth: `{ a: 1, list: [ 1, 'two' ] }`. A text is printed as it is at the
top and quoted inside anything.

* `Inspect.quote` — a text as a literal, with the quote that needs the fewest escapes;
* `Inspect.nested` — a value inside another one; `Inspect.chars` — a value at the top;
* `Inspect.render` — a value at the top or nested, if its numbers can be written.
-/

namespace PageReporter.Inspect

/-! ## Texts -/

/-- Whether a dollar sign stands right before an opening brace. -/
def hasPlaceholder : List Char → Bool
  | '$' :: '{' :: _ => true
  | _ :: cs => hasPlaceholder cs
  | [] => false

/-- The quote of a literal: a single one, or else a double one, or else a grave accent, whichever
the text does not hold first. A text with all three is put between single ones. A grave accent
also needs a text without placeholders. -/
def quoteFor (cs : List Char) : Char :=
  if !cs.contains '\'' then '\''
  else if !cs.contains '"' then '"'
  else if !cs.contains '\x60' && !hasPlaceholder cs then '\x60'
  else '\''

/-- One character of a literal between quotes `q`. Only a single quote is ever escaped, for the
others are chosen where the text holds none. -/
def quoteChar (q c : Char) : List Char :=
  if c == '\\' then ['\\', '\\']
  else if c == '\'' && q == '\'' then ['\\', '\'']
  else if c == '\n' then ['\\', 'n']
  else if c == '\r' then ['\\', 'r']
  else if c == '\t' then ['\\', 't']
  else [c]

/-- A text as a literal. -/
def quote (cs : List Char) : List Char :=
  let q := quoteFor cs
  q :: cs.flatMap (quoteChar q) ++ [q]

/-! ## Names of members -/

/-- A character that a bare name may begin with. -/
def startsName (c : Char) : Bool :=
  let n := c.toNat
  (65 ≤ n && n ≤ 90) || (97 ≤ n && n ≤ 122) || c == '_' || c == '$'

/-- A character that a bare name may go on with. -/
def continuesName (c : Char) : Bool :=
  startsName c || Text.isAsciiDigit c

/-- Whether what is left of a name is one that needs no quotes. A single line feed may end it. -/
def endsName : List Char → Bool
  | [] => true
  | ['\n'] => true
  | c :: cs => continuesName c && endsName cs

/-- Whether a name needs no quotes. -/
def isBareName : List Char → Bool
  | [] => false
  | c :: cs => startsName c && endsName cs

/-- The name of a member: bare where it can be, quoted elsewhere. -/
def label (cs : List Char) : List Char :=
  if isBareName cs then cs else quote cs

/-! ## Values -/

mutual

/-- A value inside another one. -/
def nested : Value → List Char
  | .null => "null".toList
  | .undefined => "undefined".toList
  | .unresolvable => "[unserializable]".toList
  | .bool true => "true".toList
  | .bool false => "false".toList
  | .int i => Value.intText i
  | .bigint i => Value.intText i ++ ['n']
  | .double x => Layout.console.write x
  | .str s => quote s.toList
  | .list [] => ['[', ']']
  | .list (x :: xs) => ['[', ' '] ++ nested x ++ nestedItems xs ++ [' ', ']']
  | .object [] => ['\x7b', '\x7d']
  | .object ((n, x) :: ms) =>
    ['\x7b', ' '] ++ label n.toList ++ [':', ' '] ++ nested x ++ nestedMembers ms ++ [' ', '\x7d']

/-- The items after the first one, each behind a comma. -/
def nestedItems : List Value → List Char
  | [] => []
  | x :: xs => [',', ' '] ++ nested x ++ nestedItems xs

/-- The members after the first one, each behind a comma. -/
def nestedMembers : List (String × Value) → List Char
  | [] => []
  | (n, x) :: ms => [',', ' '] ++ label n.toList ++ [':', ' '] ++ nested x ++ nestedMembers ms

end

/-- A value at the top: a text as it is, everything else as inside another value. -/
def chars : Value → List Char
  | .str s => s.toList
  | v => nested v

/-- A value on one line. Whole numbers with too many digits cannot be written. -/
def render (top : Bool) (v : Value) : Except Fault String :=
  if v.fits then .ok (String.ofList (if top then chars v else nested v))
  else v.text

end PageReporter.Inspect
