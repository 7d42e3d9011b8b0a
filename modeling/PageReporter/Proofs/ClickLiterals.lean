import Mathlib.Tactic.IntervalCases
import PageReporter.Page.ClickTarget
import PageReporter.Value.Json

/-!
# Selectors as string literals

The program that finds the target of a click holds the selector as a string literal. Whatever the
selector is, the literal can be read both as JSON and as JavaScript: from its opening quote it ends
at its last character and nowhere before, and it stands for the selector again. So no selector can
leave its literal, add to the program around it, or make the same program as another one.

JavaScript strings are sequences of 16-bit units. The literal is read by a machine that takes one
character at a time, as the grammar of double-quoted literals has it: quotes, line ends, escapes of
every form, and lines that are continued. Escapes in base eight are refused, as in strict code.

* `Text.units` — a text in 16-bit units, and `Json.joinUnits_units`, the way back;
* `JsLiteral.step`, `JsLiteral.read` — the machine that reads a literal;
* `Text.hex_four` — the four digits of a unit;
* `Json.readUnits_literal`, `JsLiteral.read_literal` — the literal in the two languages;
* `ClickTarget.script_literal` — the literal in its program.
-/

namespace PageReporter

/-! ## Units -/

namespace Text

/-- A code point in 16-bit units: itself, or the two surrogates that stand for it. -/
def unitsOf (n : ℕ) : List ℕ :=
  if n < 65536 then [n] else [55296 + (n - 65536) / 1024, 56320 + (n - 65536) % 1024]

/-- A text in 16-bit units. -/
def units (cs : List Char) : List ℕ :=
  cs.flatMap fun c => unitsOf c.toNat

theorem units_cons (c : Char) (cs : List Char) :
    units (c :: cs) = unitsOf c.toNat ++ units cs :=
  List.flatMap_cons

end Text

open Text (unitsOf units)

/-- A character is no surrogate and lies below the end of the planes. -/
theorem char_bounds (c : Char) :
    c.toNat < 55296 ∨ 57344 ≤ c.toNat ∧ c.toNat < 1114112 := by
  have hValid : c.toNat.isValidChar := c.valid
  rcases hValid with hLow | ⟨hMore, hLess⟩
  · exact .inl hLow
  · exact .inr ⟨by omega, hLess⟩

namespace Json

/-- A unit that is no surrogate stands for its character, whatever comes behind it. -/
theorem joinUnits_plain {n : ℕ} (hPlain : n < 55296 ∨ 57344 ≤ n) (ns : List ℕ) :
    joinUnits (n :: ns) = Char.ofNat n :: joinUnits ns := by
  have hAlone : (decide (55296 ≤ n) && decide (n < 57344)) = false := by
    rw [Bool.and_eq_false_iff, decide_eq_false_iff_not, decide_eq_false_iff_not]
    omega
  have hFirst : (decide (55296 ≤ n) && decide (n < 56320)) = false := by
    rw [Bool.and_eq_false_iff, decide_eq_false_iff_not, decide_eq_false_iff_not]
    omega
  cases ns with
  | nil =>
    rw [joinUnits.eq_2, hAlone]
    rfl
  | cons m ns =>
    rw [joinUnits.eq_3, hFirst, hAlone]
    rfl

/-- Two surrogates that belong together stand for the one character that they were made of. -/
theorem joinUnits_pair {n : ℕ} (hLess : n < 1048576) (ns : List ℕ) :
    joinUnits ((55296 + n / 1024) :: (56320 + n % 1024) :: ns) =
      Char.ofNat (65536 + n) :: joinUnits ns := by
  have hPair : (decide (55296 ≤ 55296 + n / 1024) && decide (55296 + n / 1024 < 56320) &&
      decide (56320 ≤ 56320 + n % 1024) && decide (56320 + n % 1024 < 57344)) = true := by
    simp only [Bool.and_eq_true, decide_eq_true_eq]
    omega
  have hNumber : 65536 + (55296 + n / 1024 - 55296) * 1024 + (56320 + n % 1024 - 56320) =
      65536 + n := by
    omega
  rw [joinUnits, hPair, hNumber]
  rfl

/-- A text is got back from its units. -/
theorem joinUnits_units (cs : List Char) : joinUnits (units cs) = cs := by
  induction cs with
  | nil => rfl
  | cons c cs ih =>
    rw [Text.units_cons]
    unfold unitsOf
    split
    case isTrue hOne =>
      have hPlain : c.toNat < 55296 ∨ 57344 ≤ c.toNat := by
        rcases char_bounds c with hLow | ⟨hMore, -⟩
        · exact .inl hLow
        · exact .inr hMore
      rw [List.singleton_append, joinUnits_plain hPlain, ih, Char.ofNat_toNat]
    case isFalse hTwo =>
      have hNumber : 65536 + (c.toNat - 65536) = c.toNat := by omega
      have hLess : c.toNat - 65536 < 1048576 := by
        have := char_bounds c
        omega
      rw [List.cons_append, List.singleton_append, joinUnits_pair hLess, ih, hNumber,
        Char.ofNat_toNat]

end Json

/-! ## The digits of a unit -/

namespace Text

/-- The last digit stands behind the digits of the others. -/
theorem hex_succ (width n : ℕ) :
    hex (width + 2) n = hex (width + 1) (n / 16) ++ [Nat.digitChar (n % 16)] := by
  rcases Nat.lt_or_ge n 16 with hLess | hMore
  · have hZero : n / 16 = 0 := by omega
    have hDigits : Nat.toDigits 16 0 = ['0'] := rfl
    rw [hex, hex, hZero, hDigits, Nat.toDigits_of_lt_base hLess, Nat.mod_eq_of_lt hLess]
    -- The zero of the quotient is one more of those that fill up the width.
    show List.replicate (width + 1) '0' ++ _ = List.replicate width '0' ++ ['0'] ++ _
    rw [List.replicate_succ']
  · rw [hex, hex, Nat.toDigits_of_base_le (by decide) hMore, List.length_append,
      List.length_singleton, Nat.add_sub_add_right _ 1, List.append_assoc]

/-- A unit is written by four digits. -/
theorem hex_four {n : ℕ} (hUnit : n < 65536) :
    hex 4 n = [Nat.digitChar (n / 4096), Nat.digitChar (n / 256 % 16),
      Nat.digitChar (n / 16 % 16), Nat.digitChar (n % 16)] := by
  have hTop : n / 16 / 16 / 16 < 16 := by omega
  have hFirst : n / 16 / 16 / 16 = n / 4096 := by omega
  have hSecond : n / 16 / 16 = n / 256 := by omega
  rw [hex_succ, hex_succ, hex_succ, hex, Nat.toDigits_of_lt_base hTop, hFirst, hSecond]
  rfl

end Text

/-- A digit is read as the number that it was written for. -/
theorem Json.hexValue?_digitChar {d : ℕ} (hDigit : d < 16) :
    Json.hexValue? (Nat.digitChar d) = some d := by
  interval_cases d <;> rfl

/-- The four digits of a unit, which make up the unit again. -/
theorem Text.unitEscape_digits {n : ℕ} (hUnit : n < 65536) :
    ∃ a b c d : Char, ∃ i j k l : ℕ,
      Text.unitEscape n = ['\\', 'u', a, b, c, d] ∧
      Json.hexValue? a = some i ∧ Json.hexValue? b = some j ∧
      Json.hexValue? c = some k ∧ Json.hexValue? d = some l ∧
      ((i * 16 + j) * 16 + k) * 16 + l = n := by
  refine ⟨_, _, _, _, n / 4096, n / 256 % 16, n / 16 % 16, n % 16,
    congrArg (fun digits => '\\' :: 'u' :: digits) (Text.hex_four hUnit),
    Json.hexValue?_digitChar (by omega), Json.hexValue?_digitChar (by omega),
    Json.hexValue?_digitChar (by omega), Json.hexValue?_digitChar (by omega), by omega⟩

/-! ## Characters that print -/

/-- What prints without help in plain ASCII. -/
def Text.Plain (c : Char) : Prop :=
  32 ≤ c.toNat ∧ c.toNat < 127

/-- A digit in base sixteen prints. -/
theorem Json.plain_of_hexValue? {c : Char} {d : ℕ} (hDigit : Json.hexValue? c = some d) :
    Text.Plain c := by
  unfold Json.hexValue? at hDigit
  simp only [Bool.and_eq_true, decide_eq_true_eq] at hDigit
  unfold Text.Plain
  split at hDigit
  · omega
  split at hDigit
  · omega
  split at hDigit
  · omega
  · cases hDigit

/-! ## How a character is written -/

namespace Text

/-- The ways in which a character is written. -/
inductive Spelled (c : Char) : List Char → Prop
  /-- By a backslash and a letter that both languages know for it. -/
  | short {d : Char} (hMark : (d, c.toNat) ∈
      [('"', 34), ('\\', 92), ('n', 10), ('r', 13), ('t', 9), ('b', 8), ('f', 12)]) :
      Spelled c ['\\', d]
  /-- By itself. -/
  | itself (hPlain : Plain c) (hQuote : c ≠ '"') (hSlash : c ≠ '\\') : Spelled c [c]
  /-- By the number of its one unit. -/
  | one (hUnit : c.toNat < 65536) : Spelled c (unitEscape c.toNat)
  /-- By the numbers of its two units. -/
  | two (hUnits : 65536 ≤ c.toNat) :
      Spelled c (unitEscape (55296 + (c.toNat - 65536) / 1024) ++
        unitEscape (56320 + (c.toNat - 65536) % 1024))

theorem literalChar_spelled (c : Char) : Spelled c (literalChar c) := by
  unfold literalChar
  split
  case isTrue hIs => cases eq_of_beq hIs; exact .short (by decide)
  case isFalse hQuote =>
  split
  case isTrue hIs => cases eq_of_beq hIs; exact .short (by decide)
  case isFalse hSlash =>
  split
  case isTrue hIs => cases eq_of_beq hIs; exact .short (by decide)
  split
  case isTrue hIs => cases eq_of_beq hIs; exact .short (by decide)
  split
  case isTrue hIs => cases eq_of_beq hIs; exact .short (by decide)
  split
  case isTrue hIs => exact .short (by rw [eq_of_beq hIs]; decide)
  split
  case isTrue hIs => exact .short (by rw [eq_of_beq hIs]; decide)
  split
  case isTrue hPlain =>
    simp only [Bool.and_eq_true, decide_eq_true_eq] at hPlain
    exact .itself hPlain (fun hIs => hQuote (beq_iff_eq.mpr hIs))
      (fun hIs => hSlash (beq_iff_eq.mpr hIs))
  split
  case isTrue hUnit => exact .one hUnit
  case isFalse hUnits => exact .two (by omega)

/-- The number of a unit is written in characters that print. -/
theorem unitEscape_plain {n : ℕ} (hUnit : n < 65536) {c : Char} (hMem : c ∈ unitEscape n) :
    Plain c := by
  obtain ⟨a, b, c', d, i, j, k, l, hText, hA, hB, hC, hD, -⟩ := unitEscape_digits hUnit
  rw [hText] at hMem
  simp only [List.mem_cons, List.not_mem_nil, or_false] at hMem
  rcases hMem with rfl | rfl | rfl | rfl | rfl | rfl
  · exact ⟨by decide, by decide⟩
  · exact ⟨by decide, by decide⟩
  · exact Json.plain_of_hexValue? hA
  · exact Json.plain_of_hexValue? hB
  · exact Json.plain_of_hexValue? hC
  · exact Json.plain_of_hexValue? hD

/-- The halves of a character beyond the basic plane are units. -/
theorem surrogates_lt (c : Char) :
    55296 + (c.toNat - 65536) / 1024 < 65536 ∧ 56320 + (c.toNat - 65536) % 1024 < 65536 := by
  have := char_bounds c
  omega

/-- A character is written in characters that print. -/
theorem Spelled.plain {c d : Char} {text : List Char} (hText : Spelled c text) (hMem : d ∈ text) :
    Plain d := by
  cases hText with
  | @short e hMark =>
    have hSlash : Plain '\\' := ⟨by decide, by decide⟩
    simp only [List.mem_cons, List.not_mem_nil, or_false, Prod.mk.injEq] at hMem hMark
    rcases hMem with rfl | rfl
    · exact hSlash
    · rcases hMark with ⟨rfl, -⟩ | ⟨rfl, -⟩ | ⟨rfl, -⟩ | ⟨rfl, -⟩ | ⟨rfl, -⟩ | ⟨rfl, -⟩ | ⟨rfl, -⟩ <;>
        exact ⟨by decide, by decide⟩
  | itself hPlain =>
    rw [List.mem_singleton.mp hMem]
    exact hPlain
  | one hUnit => exact unitEscape_plain hUnit hMem
  | two =>
    obtain ⟨hHigh, hLow⟩ := surrogates_lt c
    rcases List.mem_append.mp hMem with hMem | hMem
    · exact unitEscape_plain hHigh hMem
    · exact unitEscape_plain hLow hMem

end Text

/-! ## The literal as JSON -/

namespace Json

/-- The number of a unit is read as the unit, if anything follows it. -/
theorem readUnits_unitEscape {n : ℕ} (hUnit : n < 65536) (opening : ℕ) (e : Char)
    (rest : List Char) :
    readUnits opening (Text.unitEscape n ++ e :: rest) =
      (readUnits opening (e :: rest)).map fun (ns, left) => (n :: ns, left) := by
  obtain ⟨a, b, c, d, i, j, k, l, hText, hA, hB, hC, hD, hSum⟩ := Text.unitEscape_digits hUnit
  have hQuad : hexQuad? a b c d = some n := by
    rw [hexQuad?, hA, hB, hC, hD]
    exact congrArg some hSum
  rw [hText]
  show readUnits opening ('\\' :: 'u' :: a :: b :: c :: d :: e :: rest) = _
  rw [readUnits, hQuad]

/-- A character that is neither a quote, nor a backslash, nor a control stands for itself. -/
theorem readUnits_itself {c : Char} (hQuote : c ≠ '"') (hSlash : c ≠ '\\')
    (hControl : ¬ c.toNat < 32) (opening : ℕ) (rest : List Char) :
    readUnits opening (c :: rest) =
      (readUnits opening rest).map fun (ns, left) => (c.toNat :: ns, left) := by
  rw [readUnits, if_neg hControl]
  · exact hQuote
  · exact fun hIs _ => hSlash hIs
  · exact fun _ _ _ _ _ _ hIs _ => hSlash hIs
  · exact fun _ hIs _ => hSlash hIs
  · exact fun _ _ hIs _ => hSlash hIs

/-- A literal that has ended is not changed by what stands behind it. -/
theorem readUnits_append {opening : ℕ} {front : List Char} {ns : List ℕ} {rest : List Char}
    (hRead : readUnits opening front = .ok (ns, rest)) (other : ℕ) (back : List Char) :
    readUnits other (front ++ back) = .ok (ns, rest ++ back) := by
  have hMap {result : Except Failure (List ℕ × List Char)} {n : ℕ} {found : List ℕ × List Char}
      (hFound : (result.map fun (ns, rest) => (n :: ns, rest)) = .ok found) :
      ∃ more, result = .ok (more, found.2) ∧ found.1 = n :: more := by
    cases result with
    | error e => cases hFound
    | ok value =>
      cases hFound
      exact ⟨_, rfl, rfl⟩
  fun_induction readUnits opening front generalizing ns rest with
  | case1 | case3 | case4 | case6 | case7 | case9 => cases hRead
  | case2 => cases hRead; rfl
  | case5 a b c d e cs n hQuad ih =>
    obtain ⟨more, hMore, rfl⟩ := hMap hRead
    simp only [List.cons_append] at ih ⊢
    rw [readUnits, hQuad, ih hMore]
    rfl
  | case8 c cs hFour hLetter n hMark ih =>
    obtain ⟨more, hMore, rfl⟩ := hMap hRead
    simp only [List.cons_append] at ih ⊢
    rw [readUnits, hMark, ih hMore]
    · rfl
    · exact fun _ _ _ _ _ _ hIs _ => hLetter hIs
    · exact hLetter
  | case10 c cs hQuote hLast hFour hLetter hMark hControl ih =>
    obtain ⟨more, hMore, rfl⟩ := hMap hRead
    have hSlash : c ≠ '\\' := fun hIs => by
      cases cs with
      | nil => exact hLast hIs rfl
      | cons d ds => exact hMark d ds hIs rfl
    rw [List.cons_append, readUnits_itself hQuote hSlash hControl, ih hMore]
    rfl

theorem readString_append {front : List Char} {found : String × List Char}
    (hRead : readString front = .ok found) (back : List Char) :
    readString (front ++ back) = .ok (found.1, found.2 ++ back) := by
  unfold readString at hRead ⊢
  cases hUnits : readUnits (front.length + 1) front with
  | error e =>
    rw [hUnits] at hRead
    cases hRead
  | ok value =>
    rw [hUnits] at hRead
    cases hRead
    rw [readUnits_append hUnits]
    rfl

/-- A written character is read as its units, if anything follows it. -/
theorem readUnits_spelled {c : Char} {text : List Char} (hText : Text.Spelled c text)
    (opening : ℕ) (e : Char) (rest : List Char) :
    readUnits opening (text ++ e :: rest) =
      (readUnits opening (e :: rest)).map fun (ns, left) => (unitsOf c.toNat ++ ns, left) := by
  cases hText with
  | @short d hMark =>
    simp only [List.mem_cons, List.not_mem_nil, or_false, Prod.mk.injEq] at hMark
    rcases hMark with ⟨rfl, hC⟩ | ⟨rfl, hC⟩ | ⟨rfl, hC⟩ | ⟨rfl, hC⟩ | ⟨rfl, hC⟩ | ⟨rfl, hC⟩ |
      ⟨rfl, hC⟩ <;> (rw [hC]; rfl)
  | itself hPlain hQuote hSlash =>
    have hUnits : unitsOf c.toNat = [c.toNat] := if_pos (by have := hPlain.2; omega)
    rw [hUnits]
    exact readUnits_itself hQuote hSlash (by have := hPlain.1; omega) opening (e :: rest)
  | one hUnit =>
    rw [readUnits_unitEscape hUnit, unitsOf, if_pos hUnit]
    rfl
  | two hUnits =>
    obtain ⟨hHigh, hLow⟩ := Text.surrogates_lt c
    -- The second half stands behind the first one, so something does.
    have hSecond := readUnits_unitEscape hLow opening e rest
    have hFirst := readUnits_unitEscape hHigh opening '\\'
      ('u' :: Text.hex 4 (56320 + (c.toNat - 65536) % 1024) ++ e :: rest)
    rw [unitsOf, if_neg (by omega), List.append_assoc]
    refine hFirst.trans ?_
    rw [show '\\' :: ('u' :: Text.hex 4 _ ++ e :: rest) = Text.unitEscape _ ++ e :: rest from rfl,
      hSecond]
    cases readUnits opening (e :: rest) <;> rfl

/-- A literal behind its opening quote is read as its units, up to its last character. -/
theorem readUnits_literal (opening : ℕ) (cs rest : List Char) :
    readUnits opening (cs.flatMap Text.literalChar ++ '"' :: rest) = .ok (units cs, rest) := by
  induction cs with
  | nil => rfl
  | cons c cs ih =>
    -- Behind a character there is always another one, the quote if no other.
    obtain ⟨e, more, hMore⟩ :
        ∃ e more, cs.flatMap Text.literalChar ++ '"' :: rest = e :: more := by
      cases hText : cs.flatMap Text.literalChar with
      | nil => exact ⟨_, _, rfl⟩
      | cons e more => exact ⟨_, _, rfl⟩
    rw [List.flatMap_cons, List.append_assoc, hMore,
      readUnits_spelled (Text.literalChar_spelled c), ← hMore, ih]
    rfl

/-- The text that a literal stands for is read from it, whatever stands behind its closing quote. -/
theorem readString_literal (text : String) (rest : List Char) :
    readString (text.toList.flatMap Text.literalChar ++ ['"'] ++ rest) = .ok (text, rest) := by
  rw [List.append_assoc, readString]
  show Except.map _ (readUnits _ (_ ++ '"' :: rest)) = _
  rw [readUnits_literal]
  show Except.ok (String.ofList (joinUnits _), rest) = _
  rw [joinUnits_units, String.ofList_toList]

/-- A literal that takes the whole of a text does not end before. -/
theorem readString_beginning {front back : List Char} {text : String}
    (hRead : readString (front ++ back) = .ok (text, [])) (hBack : back ≠ [])
    (found : String × List Char) : readString front ≠ .ok found := by
  intro hFront
  have hWhole := (readString_append hFront back).symm.trans hRead
  have hLeft : found.2 ++ back = [] := congrArg Prod.snd (Except.ok.inj hWhole)
  exact hBack (List.append_eq_nil_iff.mp hLeft).2

end Json

/-! ## The literal as JavaScript -/

namespace JsLiteral

/-- Where the reader of a literal stands. -/
inductive Stand
  /-- Between two of its characters. -/
  | within
  /-- Behind a backslash. -/
  | escape
  /-- Behind a backslash and a carriage return, to which a line feed may belong. -/
  | returned
  /-- Behind a backslash and a zero, which no digit may follow. -/
  | zero
  /-- Behind a backslash and a `u`. -/
  | unicode
  /-- Among digits of which there are `more` to come after the next one. -/
  | digits (more value : ℕ)
  /-- Among the digits between two braces. -/
  | braced (value : Option ℕ)
deriving DecidableEq

/-- What a character does to a literal: it ends it, or it adds units to it and moves on. -/
inductive Move
  | close
  | go (added : List ℕ) (next : Stand)

/-- What a character does between two others. A line must not end here. -/
def stepWithin (c : Char) : Option Move :=
  if c = '"' then some .close
  else if c = '\\' then some (.go [] .escape)
  else if c = '\n' ∨ c = '\r' then none
  else some (.go (unitsOf c.toNat) .within)

/-- What a character does behind a backslash: it has a meaning of its own, it continues the line,
it begins the number of a character, or it stands for itself. -/
def stepEscape (c : Char) : Option Move :=
  match c with
  | 'b' => some (.go [8] .within)
  | 't' => some (.go [9] .within)
  | 'n' => some (.go [10] .within)
  | 'v' => some (.go [11] .within)
  | 'f' => some (.go [12] .within)
  | 'r' => some (.go [13] .within)
  | 'x' => some (.go [] (.digits 1 0))
  | 'u' => some (.go [] .unicode)
  | '0' => some (.go [0] .zero)
  | '\r' => some (.go [] .returned)
  | '\n' | '\u2028' | '\u2029' => some (.go [] .within)
  | c => if Text.isAsciiDigit c then none else some (.go (unitsOf c.toNat) .within)

/-- What a character does where the reader stands; nothing, where it must not stand. -/
def step : Stand → Char → Option Move
  | .within, c => stepWithin c
  | .escape, c => stepEscape c
  | .returned, c => if c = '\n' then some (.go [] .within) else stepWithin c
  | .zero, c => if Text.isAsciiDigit c then none else stepWithin c
  | .unicode, c =>
    if c = '\x7b' then some (.go [] (.braced none))
    else (Json.hexValue? c).map fun digit => .go [] (.digits 2 digit)
  | .digits 0 value, c =>
    (Json.hexValue? c).map fun digit => .go [value * 16 + digit] .within
  | .digits (more + 1) value, c =>
    (Json.hexValue? c).map fun digit => .go [] (.digits more (value * 16 + digit))
  | .braced value, c =>
    if c = '\x7d' then value.map fun n => .go (unitsOf n) .within
    else (Json.hexValue? c).bind fun digit =>
      let n := value.getD 0 * 16 + digit
      if n < 1114112 then some (.go [] (.braced (some n))) else none

/-- The units of a literal up to its closing quote, and what follows that; nothing, if this is no
literal or it does not end. -/
def read : Stand → List Char → Option (List ℕ × List Char)
  | _, [] => none
  | stand, c :: cs =>
    match step stand c with
    | none => none
    | some .close => some ([], cs)
    | some (.go added next) => (read next cs).map fun (ns, rest) => (added ++ ns, rest)

/-- A literal that has ended is not changed by what stands behind it. -/
theorem read_append {stand : Stand} {front : List Char} {ns : List ℕ} {rest : List Char}
    (hRead : read stand front = some (ns, rest)) (back : List Char) :
    read stand (front ++ back) = some (ns, rest ++ back) := by
  induction front generalizing stand ns rest with
  | nil => cases hRead
  | cons c cs ih =>
    rw [read] at hRead
    rw [List.cons_append, read]
    split at hRead
    case h_1 => cases hRead
    case h_2 => cases hRead; rfl
    case h_3 added next hStep =>
      obtain ⟨⟨more, left⟩, hMore, hSame⟩ := Option.map_eq_some_iff.mp hRead
      cases hSame
      rw [ih hMore]
      rfl

/-- Four digits are read as the number that they write. -/
theorem read_unitEscape {n : ℕ} (hUnit : n < 65536) (rest : List Char) :
    read .within (Text.unitEscape n ++ rest) =
      (read .within rest).map fun (ns, left) => (n :: ns, left) := by
  obtain ⟨a, b, c, d, i, j, k, l, hText, hA, hB, hC, hD, hSum⟩ := Text.unitEscape_digits hUnit
  have hBrace : a ≠ '\x7b' := by
    rintro rfl
    cases hA
  have hFirst : step .unicode a = some (.go [] (.digits 2 i)) := by
    rw [step, if_neg hBrace, hA]
    rfl
  have hSecond : step (.digits 2 i) b = some (.go [] (.digits 1 (i * 16 + j))) := by
    rw [step, hB]
    rfl
  have hThird : step (.digits 1 (i * 16 + j)) c =
      some (.go [] (.digits 0 ((i * 16 + j) * 16 + k))) := by
    rw [step, hC]
    rfl
  have hFourth : step (.digits 0 ((i * 16 + j) * 16 + k)) d = some (.go [n] .within) := by
    rw [step, hD]
    exact congrArg (fun n => some (Move.go [n] .within)) hSum
  have hSlash : step .within '\\' = some (.go [] .escape) := rfl
  have hLetter : step .escape 'u' = some (.go [] .unicode) := rfl
  rw [hText]
  simp only [List.cons_append, List.nil_append, read, hSlash, hLetter, hFirst, hSecond, hThird,
    hFourth, Option.map_map]
  rfl

/-- A written character is read as its units. -/
theorem read_spelled {c : Char} {text : List Char} (hText : Text.Spelled c text)
    (rest : List Char) :
    read .within (text ++ rest) =
      (read .within rest).map fun (ns, left) => (unitsOf c.toNat ++ ns, left) := by
  cases hText with
  | @short d hMark =>
    simp only [List.mem_cons, List.not_mem_nil, or_false, Prod.mk.injEq] at hMark
    have hStep : step .escape d = some (.go (unitsOf c.toNat) .within) := by
      rcases hMark with ⟨rfl, hC⟩ | ⟨rfl, hC⟩ | ⟨rfl, hC⟩ | ⟨rfl, hC⟩ | ⟨rfl, hC⟩ | ⟨rfl, hC⟩ |
        ⟨rfl, hC⟩ <;> (rw [hC]; rfl)
    have hSlash : step .within '\\' = some (.go [] .escape) := rfl
    simp only [List.cons_append, List.nil_append, read, hSlash, hStep, Option.map_map]
    rfl
  | itself hPlain hQuote hSlash =>
    have hLine : ¬ (c = '\n' ∨ c = '\r') := by
      rintro (rfl | rfl)
      · exact absurd hPlain.1 (by decide)
      · exact absurd hPlain.1 (by decide)
    have hStep : step .within c = some (.go (unitsOf c.toNat) .within) := by
      rw [step, stepWithin, if_neg hQuote, if_neg hSlash, if_neg hLine]
    rw [List.singleton_append, read, hStep]
  | one hUnit =>
    rw [read_unitEscape hUnit, unitsOf, if_pos hUnit]
    rfl
  | two hUnits =>
    obtain ⟨hHigh, hLow⟩ := Text.surrogates_lt c
    rw [unitsOf, if_neg (by omega), List.append_assoc, read_unitEscape hHigh,
      read_unitEscape hLow, Option.map_map]
    rfl

/-- A literal behind its opening quote is read as its units, up to its last character. -/
theorem read_literal (cs rest : List Char) :
    read .within (cs.flatMap Text.literalChar ++ '"' :: rest) = some (units cs, rest) := by
  induction cs with
  | nil => rfl
  | cons c cs ih =>
    rw [List.flatMap_cons, List.append_assoc, read_spelled (Text.literalChar_spelled c), ih]
    rfl

/-- A literal that takes the whole of a text does not end before. -/
theorem read_beginning {stand : Stand} {front back : List Char} {ns : List ℕ}
    (hRead : read stand (front ++ back) = some (ns, [])) (hBack : back ≠ []) :
    read stand front = none := by
  cases hFront : read stand front with
  | none => rfl
  | some found =>
    have hWhole := (read_append hFront back).symm.trans hRead
    have hLeft : found.2 ++ back = [] := congrArg Prod.snd (Option.some.inj hWhole)
    exact absurd (List.append_eq_nil_iff.mp hLeft).2 hBack

end JsLiteral

/-! ## The literal in its program -/

namespace ClickTarget

theorem script_text (selector : String) :
    (script selector).toList =
      before.toList ++ '"' :: (selector.toList.flatMap Text.literalChar ++ ['"']) ++
        after.toList := by
  rw [script, String.toList_append, String.toList_append, String.toList_ofList, Text.literal]
  rfl

theorem script_injective {selector other : String} (hSame : script other = script selector) :
    other = selector := by
  -- The text around the literal is the same, so the literal is, and it is read back.
  have hBoth := congrArg String.toList hSame
  rw [script_text, script_text] at hBoth
  have hBodies := (List.cons.inj
    (List.append_cancel_left (List.append_cancel_right hBoth))).2
  have hRead := Json.readString_literal other []
  rw [hBodies, Json.readString_literal selector []] at hRead
  exact (congrArg Prod.fst (Except.ok.inj hRead)).symm

end ClickTarget

/-- **A selector stands in the program of a click as one string literal that it cannot leave.**
The program is the same text before and after the literal whatever the selector is. Behind its
opening quote the literal consists of printing ASCII; both as JSON and as JavaScript it ends at its
last character, whatever stands behind it, and stands for the selector, in JavaScript for its units;
no beginning of it is a literal in either of them; and no other selector makes the same program. -/
theorem ClickTarget.script_literal (selector : String) :
    ∃ body : List Char,
      (script selector).toList = before.toList ++ '"' :: body ++ after.toList ∧
      (∀ c ∈ body, 32 ≤ c.toNat ∧ c.toNat < 127) ∧
      (∀ rest, Json.readString (body ++ rest) = .ok (selector, rest)) ∧
      (∀ rest, JsLiteral.read .within (body ++ rest) =
        some (Text.units selector.toList, rest)) ∧
      Json.joinUnits (Text.units selector.toList) = selector.toList ∧
      (∀ front back, body = front ++ back → back ≠ [] →
        JsLiteral.read .within front = none ∧ ∀ found, Json.readString front ≠ .ok found) ∧
      ∀ other, script other = script selector → other = selector := by
  have hJs (rest : List Char) :
      JsLiteral.read .within (selector.toList.flatMap Text.literalChar ++ ['"'] ++ rest) =
        some (Text.units selector.toList, rest) := by
    rw [List.append_assoc]
    exact JsLiteral.read_literal selector.toList rest
  have hJson := Json.readString_literal selector
  refine ⟨_, script_text selector, fun c hMem => ?_, hJson, hJs, Json.joinUnits_units _,
    fun front back hSplit hBack => ?_, fun other => script_injective⟩
  · rcases List.mem_append.mp hMem with hMem | hMem
    · obtain ⟨d, -, hMem⟩ := List.mem_flatMap.mp hMem
      exact (Text.literalChar_spelled d).plain hMem
    · rw [List.mem_singleton.mp hMem]
      decide
  · -- The whole of the literal is a literal, so no beginning of it is.
    have hJsWhole := hJs []
    have hJsonWhole := hJson []
    rw [List.append_nil, hSplit] at hJsWhole hJsonWhole
    exact ⟨JsLiteral.read_beginning hJsWhole hBack, Json.readString_beginning hJsonWhole hBack⟩

end PageReporter
