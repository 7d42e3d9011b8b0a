/-!
# Lines

Where a text breaks into lines, and what line ends become when a file is read as text.

* `lines` — the lines of a text, without their ends;
* `unifyLineEnds` — every line end of a file turned into a line feed.
-/

namespace PageReporter.Text

/-- A character that ends a line by itself: line feed, vertical tab, form feed, carriage return,
the three ASCII separators, next line, and Unicode's line and paragraph separators. -/
def isLineEnd (c : Char) : Bool :=
  let n := c.toNat
  (10 ≤ n && n ≤ 13) || (28 ≤ n && n ≤ 30) || n == 133 || n == 8232 || n == 8233

/-- Puts a character in front of the first line, which it opens if there is none. -/
def consLine (c : Char) : List (List Char) → List (List Char)
  | [] => [[c]]
  | w :: ws => (c :: w) :: ws

/-- The lines of a text without their ends. A carriage return with its line feed is one end, and
an end at the very end of the text opens no further line. -/
def lines : List Char → List (List Char)
  | [] => []
  | '\r' :: '\n' :: cs => [] :: lines cs
  | c :: cs => if isLineEnd c then [] :: lines cs else consLine c (lines cs)

/-- A file's text: a carriage return, with or without a line feed after it, is read as one
line feed. -/
def unifyLineEnds : List Char → List Char
  | [] => []
  | '\r' :: '\n' :: cs => '\n' :: unifyLineEnds cs
  | '\r' :: cs => '\n' :: unifyLineEnds cs
  | c :: cs => c :: unifyLineEnds cs

end PageReporter.Text
