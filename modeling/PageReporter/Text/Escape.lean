import PageReporter.Text.Quoted

/-!
# Escaped string literals

A text as a string literal of ASCII characters only, in the form that both JSON and JavaScript
read. Characters beyond the basic plane are written as two surrogates.

* `literal` — the literal with its double quotes.
-/

namespace PageReporter.Text

/-- One UTF-16 unit written by its number. -/
def unitEscape (n : Nat) : List Char :=
  '\\' :: 'u' :: hex 4 n

/-- One character of a literal: the short escapes where there are any, the character itself if
it is printing ASCII, and otherwise the numbers of its UTF-16 units. -/
def literalChar (c : Char) : List Char :=
  if c == '"' then ['\\', '"']
  else if c == '\\' then ['\\', '\\']
  else if c == '\n' then ['\\', 'n']
  else if c == '\r' then ['\\', 'r']
  else if c == '\t' then ['\\', 't']
  else if c.toNat == 8 then ['\\', 'b']
  else if c.toNat == 12 then ['\\', 'f']
  else if 32 ≤ c.toNat && c.toNat < 127 then [c]
  else if c.toNat < 65536 then unitEscape c.toNat
  else
    let rest := c.toNat - 65536
    unitEscape (55296 + rest / 1024) ++ unitEscape (56320 + rest % 1024)

/-- The text as a string literal between double quotes. -/
def literal (cs : List Char) : List Char :=
  '"' :: cs.flatMap literalChar ++ ['"']

end PageReporter.Text
