import PageReporter.Proofs.ClickLiterals
import PageReporter.Proofs.UniqueReading

/-!
# Texts as literals

A text inside a printed value is a string literal of JavaScript that stands for this text. Which
quotes the literal has depends on the text: they are chosen so that none has to be escaped, unless
the text holds quotes of every kind or what is as good as one of them.

The literal is taken apart in one pass from left to right, where a backslash takes the character
behind it along. It is also read as JavaScript reads literals, for all three quotes: as one between
double quotes, apart from the quotes themselves, and from the expressions that grave accents allow.

* `Literal.Piece`, `Literal.pieces` — a literal taken apart, and `Literal.undo` — what it stands for;
* `JsLiteral.readIn` — a literal between any quotes as JavaScript reads it;
* `Inspect.Spelled` — how a character is written, and `Inspect.pieces_body` — the pieces of a text;
* `Inspect.hasPlaceholder_body` — an expression begins in it only if the text has one;
* `JsLiteral.readIn_body` — the literal in JavaScript;
* `Inspect.quote_denotes` — a literal stands for its text.
-/

namespace PageReporter

/-! ## Literals taken apart -/

namespace Literal

/-- A character in a literal: by itself, or behind a backslash. -/
inductive Piece
  | itself (c : Char)
  | escape (c : Char)
deriving DecidableEq

/-- The characters of a piece. -/
def Piece.chars : Piece → List Char
  | .itself c => [c]
  | .escape c => ['\\', c]

/-- The escapes: what stands behind the backslash, and the character that is meant. -/
def escapes : List (Char × Char) :=
  [('\\', '\\'), ('\'', '\''), ('n', '\n'), ('r', '\r'), ('t', '\t')]

/-- What a piece stands for. A lone backslash stands for nothing, and so does an unknown escape. -/
def Piece.meaning? : Piece → Option Char
  | .itself c => if c = '\\' then none else some c
  | .escape c => escapes.lookup c

/-- The pieces of a text from left to right. -/
def pieces : List Char → List Piece
  | '\\' :: c :: cs => .escape c :: pieces cs
  | c :: cs => .itself c :: pieces cs
  | [] => []

/-- What the inside of a literal stands for, if it stands for anything. -/
def undo (body : List Char) : Option (List Char) :=
  (pieces body).mapM Piece.meaning?

theorem pieces_append {p : Piece} (hMeaning : p.meaning? ≠ none) (cs : List Char) :
    pieces (p.chars ++ cs) = p :: pieces cs := by
  cases p with
  | escape c => rfl
  | itself c =>
    have hPlain : c ≠ '\\' := fun hSlash => hMeaning (if_pos hSlash)
    exact pieces.eq_2 c cs fun _ _ hSlash _ => hPlain hSlash

end Literal

/-! ## Literals in JavaScript -/

namespace JsLiteral

/-- Where a character may stand by itself, and a quote ends the literal. -/
def Stand.isBetween : Stand → Bool
  | .within | .returned | .zero => true
  | _ => false

/-- What a character does in a literal between the quotes `q`. -/
def stepIn (q : Char) (stand : Stand) (c : Char) : Option Move :=
  if stand.isBetween && c == q then some .close
  else if stand.isBetween && c == '"' then some (.go (Text.unitsOf c.toNat) .within)
  else step stand c

/-- The units of a literal up to its closing quote, and what follows that. Between grave accents an
expression is refused. Lines must not end in a literal between any quotes, although they might
between grave accents. -/
def readIn (q : Char) : Stand → List Char → Option (List ℕ × List Char)
  | _, [] => none
  | stand, c :: cs =>
    if q == '\x60' && stand.isBetween && c == '$' && cs.head? == some '\x7b' then none
    else match stepIn q stand c with
      | none => none
      | some .close => some ([], cs)
      | some (.go added next) => (readIn q next cs).map fun (ns, rest) => (added ++ ns, rest)

end JsLiteral

namespace Inspect

open Literal

/-! ## The pieces of a text -/

/-- How a character is written between the quotes `q`. -/
def quotePiece (q c : Char) : Piece :=
  if c = '\\' then .escape '\\'
  else if c = '\'' ∧ q = '\'' then .escape '\''
  else if c = '\n' then .escape 'n'
  else if c = '\r' then .escape 'r'
  else if c = '\t' then .escape 't'
  else .itself c

theorem quoteChar_eq (q c : Char) : quoteChar q c = (quotePiece q c).chars := by
  simp only [quoteChar, quotePiece, beq_iff_eq, Bool.and_eq_true]
  split_ifs <;> rfl

/-- The ways in which a character is written between the quotes `q`. -/
inductive Spelled (q c : Char) : Piece → Prop
  | escape {d : Char} (hMark : (d, c) ∈ escapes) : Spelled q c (.escape d)
  | itself (hSlash : c ≠ '\\') (hQuote : ¬ (c = '\'' ∧ q = '\''))
      (hVisible : c ≠ '\n' ∧ c ≠ '\r' ∧ c ≠ '\t') : Spelled q c (.itself c)

theorem quotePiece_spelled (q c : Char) : Spelled q c (quotePiece q c) := by
  unfold quotePiece
  split_ifs with hSlash hQuote hFeed hReturn hTab
  · exact .escape (by rw [hSlash]; decide)
  · exact .escape (by rw [hQuote.1]; decide)
  · exact .escape (by rw [hFeed]; decide)
  · exact .escape (by rw [hReturn]; decide)
  · exact .escape (by rw [hTab]; decide)
  · exact .itself hSlash hQuote ⟨hFeed, hReturn, hTab⟩

theorem quoteChar_spelled (q c : Char) : ∃ p, quoteChar q c = p.chars ∧ Spelled q c p :=
  ⟨_, quoteChar_eq q c, quotePiece_spelled q c⟩

/-- The escapes one by one. -/
theorem escapes_cases {d c : Char} (hMark : (d, c) ∈ escapes) :
    d = '\\' ∧ c = '\\' ∨ d = '\'' ∧ c = '\'' ∨ d = 'n' ∧ c = '\n' ∨ d = 'r' ∧ c = '\r' ∨
      d = 't' ∧ c = '\t' := by
  simpa [escapes] using hMark

theorem Spelled.meaning {q c : Char} {p : Piece} (hSpelled : Spelled q c p) :
    p.meaning? = some c := by
  cases hSpelled with
  | escape hMark =>
    rcases escapes_cases hMark with ⟨rfl, rfl⟩ | ⟨rfl, rfl⟩ | ⟨rfl, rfl⟩ | ⟨rfl, rfl⟩ | ⟨rfl, rfl⟩ <;>
      rfl
  | itself hSlash => exact if_neg hSlash

theorem quotePiece_meaning (q c : Char) : (quotePiece q c).meaning? = some c :=
  (quotePiece_spelled q c).meaning

theorem pieces_body (q : Char) (cs : List Char) :
    pieces (cs.flatMap (quoteChar q)) = cs.map (quotePiece q) := by
  induction cs with
  | nil => rfl
  | cons c cs ih =>
    have hMeaning : (quotePiece q c).meaning? ≠ none :=
      quotePiece_meaning q c ▸ Option.some_ne_none c
    rw [List.flatMap_cons, quoteChar_eq, pieces_append hMeaning, ih, List.map_cons]

/-- **Escapes undone.** The pieces of the literal stand for the text. -/
theorem undo_body (q : Char) (cs : List Char) : undo (cs.flatMap (quoteChar q)) = some cs := by
  rw [undo, pieces_body]
  induction cs with
  | nil => rfl
  | cons c cs ih =>
    rw [List.map_cons, List.mapM_cons, quotePiece_meaning, ih]
    rfl

/-- A piece of the literal stands for a character of the text. -/
theorem mem_pieces_body {q : Char} {cs : List Char} {p : Piece}
    (hMem : p ∈ pieces (cs.flatMap (quoteChar q))) :
    ∃ c ∈ cs, quotePiece q c = p ∧ p.meaning? = some c := by
  rw [pieces_body, List.mem_map] at hMem
  obtain ⟨c, hChar, rfl⟩ := hMem
  exact ⟨c, hChar, rfl, quotePiece_meaning q c⟩

/-- The quote does not stand by itself in its literal. -/
theorem Encloses.not_itself {q : Char} {cs : List Char} (hQuote : Encloses q cs) :
    Piece.itself q ∉ pieces (cs.flatMap (quoteChar q)) := by
  intro hMem
  obtain ⟨c, hChar, hPiece, hMeaning⟩ := mem_pieces_body hMem
  rw [Piece.meaning?, if_neg hQuote.ne_backslash] at hMeaning
  obtain rfl := Option.some.inj hMeaning
  rcases hQuote with rfl | ⟨-, hNone⟩
  · cases hPiece
  · exact hNone hChar

/-- A quote that stands behind a backslash is a single one. The other two have no escapes. -/
theorem Encloses.escape {q : Char} {cs : List Char} (hQuote : Encloses q cs)
    (hMem : Piece.escape q ∈ pieces (cs.flatMap (quoteChar q))) : q = '\'' ∧ '\'' ∈ cs := by
  obtain ⟨c, hChar, -, hMeaning⟩ := mem_pieces_body hMem
  rcases hQuote with rfl | ⟨rfl | rfl, -⟩
  · obtain rfl := Option.some.inj hMeaning
    exact ⟨rfl, hChar⟩
  · cases hMeaning
  · cases hMeaning

/-- What is written for a character is no line end and no tab. -/
theorem Spelled.visible {q c d : Char} {p : Piece} (hSpelled : Spelled q c p) (hMem : d ∈ p.chars) :
    d ≠ '\n' ∧ d ≠ '\r' ∧ d ≠ '\t' := by
  cases hSpelled with
  | escape hMark =>
    simp only [Piece.chars, List.mem_cons, List.not_mem_nil, or_false] at hMem
    rcases hMem with rfl | rfl
    · decide
    · rcases escapes_cases hMark with ⟨rfl, -⟩ | ⟨rfl, -⟩ | ⟨rfl, -⟩ | ⟨rfl, -⟩ | ⟨rfl, -⟩ <;> decide
  | itself _ _ hVisible => exact List.mem_singleton.mp hMem ▸ hVisible

theorem quoteFor_kinds (cs : List Char) :
    quoteFor cs = '\'' ∨ quoteFor cs = '"' ∨ quoteFor cs = '\x60' :=
  (quoteFor_encloses cs).imp_right And.left

/-- A literal holds no line ends and no tabs, whatever text it is of. -/
theorem quote_visible (cs : List Char) : ∀ c ∈ quote cs, c ≠ '\n' ∧ c ≠ '\r' ∧ c ≠ '\t' := by
  have hQuote : quoteFor cs ≠ '\n' ∧ quoteFor cs ≠ '\r' ∧ quoteFor cs ≠ '\t' := by
    rcases quoteFor_kinds cs with h | h | h <;> rw [h] <;> decide
  have hBody : ∀ c ∈ cs.flatMap (quoteChar (quoteFor cs)), c ≠ '\n' ∧ c ≠ '\r' ∧ c ≠ '\t' := by
    intro c hMem
    obtain ⟨d, -, hPiece⟩ := List.mem_flatMap.mp hMem
    obtain ⟨p, hChars, hSpelled⟩ := quoteChar_spelled (quoteFor cs) d
    exact hSpelled.visible (hChars ▸ hPiece)
  simp only [quote, List.cons_append, List.forall_mem_cons, List.forall_mem_append]
  exact ⟨hQuote, hBody, hQuote, fun c hMem => absurd hMem List.not_mem_nil⟩

/-! ## Expressions in a text -/

theorem hasPlaceholder_cons (c : Char) (cs : List Char) :
    hasPlaceholder (c :: cs) = (c == '$' && cs.head? == some '\x7b' || hasPlaceholder cs) := by
  cases cs with
  | nil => simp [hasPlaceholder]
  | cons d ds =>
    by_cases hBoth : c = '$' ∧ d = '\x7b'
    · obtain ⟨rfl, rfl⟩ := hBoth
      rfl
    · rw [hasPlaceholder.eq_2 c (d :: ds) fun _ hDollar hBrace =>
        hBoth ⟨hDollar, (List.cons.inj hBrace).1⟩]
      have hFirst : (c == '$' && (d :: ds).head? == some '\x7b') = false := by simpa using hBoth
      rw [hFirst, Bool.false_or]

/-- A text has a placeholder if the two characters stand somewhere in it. -/
theorem hasPlaceholder_iff {cs : List Char} :
    hasPlaceholder cs = true ↔ ['$', '\x7b'] <:+: cs := by
  induction cs with
  | nil => simp [hasPlaceholder]
  | cons c cs ih =>
    have hFirst : ['$', '\x7b'] <+: c :: cs ↔ c = '$' ∧ cs.head? = some '\x7b' := by
      cases cs with
      | nil => simp [List.cons_prefix_cons]
      | cons d ds => simp [List.cons_prefix_cons, eq_comm]
    rw [hasPlaceholder_cons, Bool.or_eq_true, ih, Bool.and_eq_true, beq_iff_eq, beq_iff_eq,
      List.infix_cons_iff, hFirst]

/-- An escape neither is nor stands for a part of a placeholder. -/
theorem escapes_apart {d c : Char} (hMark : (d, c) ∈ escapes) :
    d ≠ '$' ∧ c ≠ '$' ∧ c ≠ '\x7b' := by
  rcases escapes_cases hMark with ⟨rfl, rfl⟩ | ⟨rfl, rfl⟩ | ⟨rfl, rfl⟩ | ⟨rfl, rfl⟩ | ⟨rfl, rfl⟩ <;>
    decide

/-- A brace is written first for a brace alone. -/
theorem head?_body (q : Char) (cs : List Char) {tail : List Char}
    (hTail : tail.head? ≠ some '\x7b') :
    (cs.flatMap (quoteChar q) ++ tail).head? = some '\x7b' ↔ cs.head? = some '\x7b' := by
  cases cs with
  | nil => simpa using hTail
  | cons c cs =>
    obtain ⟨p, hChars, hSpelled⟩ := quoteChar_spelled q c
    rw [List.flatMap_cons, hChars]
    cases hSpelled with
    | escape hMark => simp [Piece.chars, (escapes_apart hMark).2.2]
    | itself => simp [Piece.chars]

theorem hasPlaceholder_quoteChar (q c : Char) (r : List Char) :
    hasPlaceholder (quoteChar q c ++ r) =
      (c == '$' && r.head? == some '\x7b' || hasPlaceholder r) := by
  obtain ⟨p, hChars, hSpelled⟩ := quoteChar_spelled q c
  rw [hChars]
  cases hSpelled with
  | escape hMark =>
    obtain ⟨hDollar, hOther, -⟩ := escapes_apart hMark
    simp [Piece.chars, hasPlaceholder_cons, beq_eq_false_iff_ne.mpr hDollar,
      beq_eq_false_iff_ne.mpr hOther]
  | itself => exact hasPlaceholder_cons c r

/-- The literal of a text has a placeholder exactly if the text has one. -/
theorem hasPlaceholder_body (q : Char) (cs : List Char) :
    hasPlaceholder (cs.flatMap (quoteChar q)) = hasPlaceholder cs := by
  induction cs with
  | nil => rfl
  | cons c cs ih =>
    have hHead := @head?_body q cs [] nofun
    rw [List.append_nil] at hHead
    have hSame : ((cs.flatMap (quoteChar q)).head? == some '\x7b') = (cs.head? == some '\x7b') := by
      rw [Bool.eq_iff_iff, beq_iff_eq, beq_iff_eq, hHead]
    rw [List.flatMap_cons, hasPlaceholder_quoteChar, hasPlaceholder_cons, ih, hSame]

end Inspect

/-! ## The literal in JavaScript -/

namespace JsLiteral

open Inspect

/-- An escape is read as what it stands for. -/
theorem readIn_escape {q d : Char} (hQuote : q ≠ '\\') {added : List ℕ}
    (hStep : step .escape d = some (.go added .within)) (r : List Char) :
    readIn q .within ('\\' :: d :: r) =
      (readIn q .within r).map fun (ns, rest) => (added ++ ns, rest) := by
  have hSlash : stepIn q .within '\\' = some (.go [] .escape) := by
    have hOther : ('\\' == q) = false := beq_eq_false_iff_ne.mpr hQuote.symm
    rw [stepIn, hOther]
    rfl
  have hEscape : stepIn q .escape d = some (.go added .within) := hStep
  simp [readIn, hSlash, hEscape, Stand.isBetween, Function.comp_def]

/-- A character other than the quote, a backslash or a line end stands for itself, unless it begins
an expression. -/
theorem readIn_itself {q c : Char} (hQuote : c ≠ q) (hSlash : c ≠ '\\')
    (hLine : ¬ (c = '\n' ∨ c = '\r')) {r : List Char}
    (hPlain : q = '\x60' → ¬ (c = '$' ∧ r.head? = some '\x7b')) :
    readIn q .within (c :: r) =
      (readIn q .within r).map fun (ns, rest) => (Text.unitsOf c.toNat ++ ns, rest) := by
  have hStep : stepIn q .within c = some (.go (Text.unitsOf c.toNat) .within) := by
    have hOther : (c == q) = false := beq_eq_false_iff_ne.mpr hQuote
    rw [stepIn, hOther, Bool.and_false]
    by_cases hDouble : c = '"'
    · rw [hDouble]
      rfl
    · have hBoth : (Stand.within.isBetween && c == '"') = false := beq_eq_false_iff_ne.mpr hDouble
      rw [hBoth, step, stepWithin, if_neg hDouble, if_neg hSlash, if_neg hLine]
      rfl
  have hNone : (q == '\x60' && Stand.within.isBetween && c == '$' &&
      r.head? == some '\x7b') = false := by
    simpa [Stand.isBetween] using hPlain
  rw [readIn, hNone, hStep]
  rfl

/-- A character between quotes is read as its units. -/
theorem readIn_quoteChar {q c : Char} (hQuote : q ≠ '\\') (hOther : q = '\'' ∨ c ≠ q) {r : List Char}
    (hPlain : q = '\x60' → ¬ (c = '$' ∧ r.head? = some '\x7b')) :
    readIn q .within (quoteChar q c ++ r) =
      (readIn q .within r).map fun (ns, rest) => (Text.unitsOf c.toNat ++ ns, rest) := by
  obtain ⟨p, hChars, hSpelled⟩ := quoteChar_spelled q c
  rw [hChars]
  cases hSpelled with
  | @escape d hMark =>
    have hStep : step .escape d = some (.go (Text.unitsOf c.toNat) .within) := by
      rcases escapes_cases hMark with ⟨rfl, rfl⟩ | ⟨rfl, rfl⟩ | ⟨rfl, rfl⟩ | ⟨rfl, rfl⟩ |
        ⟨rfl, rfl⟩ <;> rfl
    exact readIn_escape hQuote hStep r
  | itself hSlash hSingle hVisible =>
    have hNoQuote : c ≠ q := hOther.elim (fun hIs hSame => hSingle ⟨hSame.trans hIs, hIs⟩) id
    exact readIn_itself hNoQuote hSlash (not_or.mpr ⟨hVisible.1, hVisible.2.1⟩) hPlain

/-- **The literal in JavaScript.** Behind its opening quote it ends at its last character, whatever
stands behind that, and stands for the units of the text. -/
theorem readIn_body {q : Char} (rest : List Char) : ∀ {cs : List Char}, Encloses q cs →
    (q = '\x60' → hasPlaceholder cs = false) →
    readIn q .within (cs.flatMap (quoteChar q) ++ q :: rest) = some (Text.units cs, rest)
  | [], hQuote, _ => by
    have hBrace : q ≠ '$' := by rcases hQuote with rfl | ⟨rfl | rfl, -⟩ <;> decide
    have hClose : stepIn q .within q = some .close := by simp [stepIn, Stand.isBetween]
    simp [readIn, hClose, hBrace, Text.units]
  | c :: cs, hQuote, hPlain => by
    -- Only the single quote may stand in its own literal, for it alone is escaped.
    have hOther : q = '\'' ∨ c ≠ q := hQuote.imp_right fun h hSame =>
      h.2 (hSame ▸ List.mem_cons_self)
    have hTail : (q :: rest).head? ≠ some '\x7b' := by
      rcases hQuote with rfl | ⟨rfl | rfl, -⟩ <;> simp
    have hParts (hGrave : q = '\x60') := Bool.or_eq_false_iff.mp
      (hasPlaceholder_cons c cs ▸ hPlain hGrave)
    -- What follows a dollar sign in the literal is a brace only if it is one in the text.
    have hFirst : q = '\x60' → ¬ (c = '$' ∧
        (cs.flatMap (quoteChar q) ++ q :: rest).head? = some '\x7b') := by
      intro hGrave
      rw [head?_body q cs hTail]
      simpa using (hParts hGrave).1
    rw [List.flatMap_cons, List.append_assoc, readIn_quoteChar hQuote.ne_backslash hOther hFirst,
      readIn_body rest hQuote.tail fun hGrave => (hParts hGrave).2, Text.units_cons]
    rfl

end JsLiteral

/-! ## Literals of texts -/

namespace Inspect

open Literal

/-- Grave accents enclose no expression. -/
theorem quoteFor_grave {cs : List Char} (hGrave : quoteFor cs = '\x60') :
    hasPlaceholder cs = false := by
  unfold quoteFor at hGrave
  grind

/-- A text with single quotes stands between single quotes only if it has the others as well. -/
theorem quoteFor_single {cs : List Char} (hSingle : quoteFor cs = '\'') (hMem : '\'' ∈ cs) :
    '"' ∈ cs ∧ ('\x60' ∈ cs ∨ hasPlaceholder cs = true) := by
  unfold quoteFor at hSingle
  grind

/-- **A literal stands for its text.** It stands between two quotes of one kind. Inside, this quote
stands behind a backslash or not at all, and there are neither line ends nor tabs, nor between grave
accents the beginning of an expression. With its escapes undone from left to right, and as JavaScript
reads it, up to its last character whatever follows, it stands for the text. The quote has a backslash
only in a text that also holds double quotes, and grave accents or the beginning of an expression. -/
theorem quote_denotes (cs : List Char) :
    ∃ q body, quote cs = q :: body ++ [q] ∧ (q = '\'' ∨ q = '"' ∨ q = '\x60') ∧
      Piece.itself q ∉ pieces body ∧
      (∀ c ∈ quote cs, c ≠ '\n' ∧ c ≠ '\r' ∧ c ≠ '\t') ∧
      (q = '\x60' → ¬ ['$', '\x7b'] <:+: body) ∧
      undo body = some cs ∧
      (∀ rest, JsLiteral.readIn q .within (body ++ q :: rest) = some (Text.units cs, rest)) ∧
      (Piece.escape q ∈ pieces body →
        '\'' ∈ cs ∧ '"' ∈ cs ∧ ('\x60' ∈ cs ∨ ['$', '\x7b'] <:+: cs)) := by
  have hQuote := quoteFor_encloses cs
  refine ⟨quoteFor cs, cs.flatMap (quoteChar (quoteFor cs)), rfl, quoteFor_kinds cs,
    hQuote.not_itself, quote_visible cs, fun hGrave => ?plain, undo_body _ cs,
    fun rest => JsLiteral.readIn_body rest hQuote quoteFor_grave, fun hEscape => ?escaped⟩
  case plain =>
    rw [← hasPlaceholder_iff, hasPlaceholder_body, quoteFor_grave hGrave]
    exact Bool.false_ne_true
  case escaped =>
    obtain ⟨hSingle, hMem⟩ := hQuote.escape hEscape
    obtain ⟨hDouble, hOther⟩ := quoteFor_single hSingle hMem
    exact ⟨hMem, hDouble, hOther.imp_right hasPlaceholder_iff.mp⟩

/-- Quotes of every kind leave nothing but the backslash. -/
example : quote ['\'', '"', '\x60'] = ['\'', '\\', '\'', '"', '\x60', '\''] := by decide

end Inspect

end PageReporter
