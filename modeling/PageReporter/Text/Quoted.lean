import PageReporter.Text.Printable

/-!
# Quoted text

A text between quotes with every character that does not print written by its number. This is
how texts appear inside messages and inside the display of lists and objects.

* `quoted` — the quoted form;
* `hex` — a number in base sixteen with a least width.
-/

namespace PageReporter.Text

/-- A number in lower-case hexadecimal, filled up with zeros to `width` digits. -/
def hex (width n : Nat) : List Char :=
  let digits := Nat.toDigits 16 n
  List.replicate (width - digits.length) '0' ++ digits

/-- One character inside quotes `q`: backslash, the quote itself, and the three common controls
get a backslash; what does not print gets its number with as few digits as its size allows. -/
def quotedChar (q c : Char) : List Char :=
  if c == '\\' || c == q then ['\\', c]
  else if c == '\n' then ['\\', 'n']
  else if c == '\r' then ['\\', 'r']
  else if c == '\t' then ['\\', 't']
  else if isPrintable c then [c]
  else if c.toNat < 256 then '\\' :: 'x' :: hex 2 c.toNat
  else if c.toNat < 65536 then '\\' :: 'u' :: hex 4 c.toNat
  else '\\' :: 'U' :: hex 8 c.toNat

/-- The quote that a text is put between: the single one, unless the text holds it and holds no
double one. -/
def quoteFor (cs : List Char) : Char :=
  if cs.contains '\'' && !cs.contains '"' then '"' else '\''

/-- The text between quotes, with escapes for what would not print. -/
def quoted (cs : List Char) : List Char :=
  let q := quoteFor cs
  q :: cs.flatMap (quotedChar q) ++ [q]

end PageReporter.Text
