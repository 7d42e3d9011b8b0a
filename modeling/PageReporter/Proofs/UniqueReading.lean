import Mathlib
import PageReporter.Diagnostic.Inspect

/-!
# What a printed value says

A value inside another one is printed without types and with commas and blanks that texts may hold
as well. Still no two values share a line by accident: the line says which value it was, up to
the kind of a number that is printed in the same way.

* `Value.alike` — the values that cannot be told apart: the same structure, texts, names and
  leaves, and numbers of the same text;
* `Inspect.readPiece` — a character of a literal is read back from its escaped form;
* `Inspect.mark` — the first two characters of a printed value say what kind of value it is;
* `Inspect.nested_unique` — a printed value ends where it ends, whatever follows it, and says what
  it was;
* `Inspect.render_eq_iff` — a second value is printed as the same line exactly if it is alike.
-/

namespace PageReporter

/-! ## Values that are alike -/

namespace Value

/-- The text of a number that only its text tells. Whole numbers of arbitrary size are marked and
are no such numbers. -/
def numeral? : Value → Option (List Char)
  | .int i => some (intText i)
  | .double x => some (Layout.console.write x)
  | _ => none

mutual

/-- Whether two values have the same structure, the same texts, the same names in the same order
and the same leaves, where numbers compare by their text. -/
def alike : Value → Value → Bool
  | .null, .null => true
  | .undefined, .undefined => true
  | .unresolvable, .unresolvable => true
  | .bool b, .bool c => b == c
  | .bigint i, .bigint j => i == j
  | .str s, .str t => s == t
  | .list xs, .list ys => alikeItems xs ys
  | .object ms, .object ns => alikeMembers ms ns
  | v, w =>
    match v.numeral?, w.numeral? with
    | some a, some b => a == b
    | _, _ => false

/-- Whether two lists are alike place by place. -/
def alikeItems : List Value → List Value → Bool
  | [], [] => true
  | x :: xs, y :: ys => alike x y && alikeItems xs ys
  | _, _ => false

/-- Whether the members of two objects have the same names and alike values, place by place. -/
def alikeMembers : List (String × Value) → List (String × Value) → Bool
  | [], [] => true
  | (n, x) :: ms, (k, y) :: ns => n == k && alike x y && alikeMembers ms ns
  | _, _ => false

end

/-- One and one point nothing are printed alike, the marked one is not. -/
example : alike (.int 1) (.double (.ofInt 1)) = true ∧ alike (.int 1) (.bigint 1) = false := by
  decide +kernel

end Value

/-! ## Texts up to a stop -/

/-- What stands before the first stop, and what begins with it, are found again in the whole. -/
theorem append_unique (stop : Char → Bool) {a b r s : List Char}
    (ha : ∀ c ∈ a, stop c = false) (hb : ∀ c ∈ b, stop c = false)
    (hr : ∀ c ∈ r.head?, stop c = true) (hs : ∀ c ∈ s.head?, stop c = true)
    (hEq : a ++ r = b ++ s) : a = b ∧ r = s := by
  have take {a r : List Char} (ha : ∀ c ∈ a, stop c = false)
      (hr : ∀ c ∈ r.head?, stop c = true) : (a ++ r).takeWhile (!stop ·) = a := by
    rw [List.takeWhile_append_of_pos fun c hc => by rw [ha c hc]; rfl]
    cases r with
    | nil => simp
    | cons c r => simp [hr c rfl]
  have hTexts : a = b := by rw [← take ha hr, hEq, take hb hs]
  subst hTexts
  exact ⟨rfl, List.append_cancel_left hEq⟩

/-! ## Numbers -/

namespace Value

/-- A character that digits, signs, points and exponents are written with. -/
def isNumberChar (c : Char) : Bool :=
  Text.isAsciiDigit c || c == '.' || c == 'e' || c == '+' || c == '-'

/-- The texts that numbers are printed as. -/
def IsNumberText (cs : List Char) : Prop :=
  (∀ c ∈ cs, isNumberChar c = true) ∨
    cs = "NaN".toList ∨ cs = "Infinity".toList ∨ cs = "-Infinity".toList

theorem asciiDigits_chars (n : Nat) : ∀ c ∈ Text.asciiDigits n, isNumberChar c = true := by
  intro c hc
  have hDigit : c.isDigit = true := Nat.isDigit_of_mem_toDigits (by decide) (by decide) hc
  simp only [Char.isDigit, Bool.and_eq_true, decide_eq_true_eq] at hDigit
  simp only [isNumberChar, Text.isAsciiDigit, Bool.or_eq_true, Bool.and_eq_true, decide_eq_true_eq]
  exact .inl (.inl (.inl (.inl ⟨hDigit.1, hDigit.2⟩)))

theorem intText_chars (i : Int) : ∀ c ∈ intText i, isNumberChar c = true := by
  have hDigits := asciiDigits_chars i.natAbs
  unfold intText
  split
  · exact List.forall_mem_cons.mpr ⟨by decide, hDigits⟩
  · exact hDigits

theorem intText_injective {i j : Int} (hEq : intText i = intText j) : i = j := by
  -- A minus is no digit, so the signs agree, and then the sizes are read back from the digits.
  have sizes {n m : Nat} (h : Text.asciiDigits n = Text.asciiDigits m) : n = m := by
    have hBack := congrArg (fun cs => Nat.ofDigitChars 10 cs 0) h
    simpa [Text.asciiDigits, Nat.ofDigitChars_toDigits] using hBack
  have minus (n : Nat) (cs : List Char) : Text.asciiDigits n ≠ '-' :: cs := by
    intro h
    have hDigit : ('-').isDigit = true :=
      Nat.isDigit_of_mem_toDigits (b := 10) (n := n) (by decide) (by decide)
        (by rw [← Text.asciiDigits, h]; exact List.mem_cons_self)
    exact absurd hDigit (by decide)
  unfold intText at hEq
  by_cases hi : i < 0 <;> by_cases hj : j < 0 <;> simp only [hi, hj, if_true, if_false] at hEq
  · have := sizes (List.tail_eq_of_cons_eq hEq)
    omega
  · exact absurd hEq.symm (minus _ _)
  · exact absurd hEq (minus _ _)
  · have := sizes hEq
    omega

end Value

namespace Digits

theorem ofNat_chars (m : Nat) (e : Int) :
    ∀ c ∈ (ofNat m e).digits, Value.isNumberChar c = true := by
  intro c hc
  have hKept : c ∈ (Text.asciiDigits m).reverse :=
    List.dropWhile_subset _ (List.mem_reverse.mp hc)
  exact Value.asciiDigits_chars m c (List.mem_reverse.mp hKept)

end Digits

namespace Double

theorem onGrid?_ofNat {units : Nat} {e : Int} {d : Digits} (hGrid : onGrid? units e = some d) :
    ∃ m k, d = Digits.ofNat m k := by
  unfold onGrid? at hGrid
  grind

/-- However the shortest digits were found, they are the digits of a whole number. -/
theorem shortest_ofNat (units : Nat) : ∃ m k, shortest units = Digits.ofNat m k := by
  unfold shortest
  dsimp only
  cases hFound : (List.range 17).findSome? fun (i : Nat) =>
      onGrid? units (decimalPoint units - (i + 1)) with
  | none =>
    -- The place of the point is computed from a huge power, so it must not be looked into.
    rw [Option.getD_none, significant]
    generalize decimalPoint units - ((17 : Nat) : Int) = e
    rw [rounded]
    cases gridRatio units e with
    | mk n d => exact ⟨_, _, rfl⟩
  | some d =>
    obtain ⟨i, -, hGrid⟩ := List.exists_of_findSome?_eq_some hFound
    rw [Option.getD_some]
    exact onGrid?_ofNat hGrid

theorem shortest_chars (units : Nat) :
    ∀ c ∈ (shortest units).digits, Value.isNumberChar c = true := by
  obtain ⟨m, k, hDigits⟩ := shortest_ofNat units
  rw [hDigits]
  exact Digits.ofNat_chars m k

end Double

namespace Layout

theorem console_digits : console.digits = Double.shortest := by
  dsimp only [console]

theorem zeros_chars (n : Nat) : ∀ c ∈ List.replicate n '0', Value.isNumberChar c = true := by
  intro c hc
  rw [List.eq_of_mem_replicate hc]
  decide

theorem positional_chars {d : Digits} (hDigits : ∀ c ∈ d.digits, Value.isNumberChar c = true) :
    ∀ c ∈ console.positional d, Value.isNumberChar c = true := by
  have hPoint : Value.isNumberChar '.' = true := by decide
  have hZero : Value.isNumberChar '0' = true := by decide
  unfold positional
  split
  · simp only [console, List.append_nil, List.forall_mem_append]
    exact ⟨hDigits, zeros_chars _⟩
  split
  · simp only [List.forall_mem_append, List.forall_mem_cons]
    exact ⟨fun c hc => hDigits c (List.mem_of_mem_take hc), hPoint,
      fun c hc => hDigits c (List.mem_of_mem_drop hc)⟩
  · simp only [List.cons_append, List.forall_mem_append, List.forall_mem_cons]
    exact ⟨hZero, hPoint, zeros_chars _, hDigits⟩

theorem scientific_chars {d : Digits} (hDigits : ∀ c ∈ d.digits, Value.isNumberChar c = true) :
    ∀ c ∈ console.scientific d, Value.isNumberChar c = true := by
  have hLetter : Value.isNumberChar 'e' = true := by decide
  have hSign (b : Bool) : Value.isNumberChar (if b then '+' else '-') = true := by
    cases b <;> decide
  have hExponent := Value.asciiDigits_chars (d.point - 1).natAbs
  unfold scientific
  simp only [List.forall_mem_append, List.forall_mem_cons]
  refine ⟨⟨?_, hLetter, by simpa using hSign (0 ≤ d.point - 1), zeros_chars _⟩, hExponent⟩
  -- A point stands behind the first digit, unless that is the only one.
  revert hDigits
  cases d.digits with
  | nil => exact fun _ c hMem => absurd hMem List.not_mem_nil
  | cons first rest =>
    cases rest with
    | nil => exact id
    | cons second rest =>
      intro hDigits
      obtain ⟨hFirst, hRest⟩ := List.forall_mem_cons.mp hDigits
      exact List.forall_mem_cons.mpr ⟨hFirst, List.forall_mem_cons.mpr ⟨by decide, hRest⟩⟩

theorem writeDigits_chars {d : Digits} (hDigits : ∀ c ∈ d.digits, Value.isNumberChar c = true) :
    ∀ c ∈ console.writeDigits d, Value.isNumberChar c = true := by
  unfold writeDigits
  split
  · exact positional_chars hDigits
  · exact scientific_chars hDigits

/-- The size of a finite number, in front of which its sign is put. -/
theorem size_chars (units : Nat) :
    ∀ c ∈ (if units = 0 then '0' :: console.wholeEnd
      else console.writeDigits (console.digits units)), Value.isNumberChar c = true := by
  rw [console_digits]
  split
  · exact List.all_eq_true.mp (by decide)
  · exact writeDigits_chars (Double.shortest_chars units)

/-- The console prints a finite number with the characters of numbers, and every other one by its
name. -/
theorem console_isNumberText (x : Double) : Value.IsNumberText (console.write x) := by
  match x with
  | .nan => exact .inr (.inl rfl)
  | .infinite false => exact .inr (.inr (.inl rfl))
  | .infinite true => exact .inr (.inr (.inr rfl))
  | .finite negative units h =>
    left
    have hSize := size_chars units
    cases negative with
    | false => simpa only [write, Bool.false_eq_true, if_false] using hSize
    | true =>
      simp only [write, if_true]
      exact List.forall_mem_cons.mpr ⟨by decide, hSize⟩

end Layout

/-! ## Number texts between stops -/

namespace Value

/-- The characters that follow a number: a comma, or the blank before a closing bracket. -/
def isStop (c : Char) : Bool :=
  c == ',' || c == ' '

theorem numeral?_isNumberText {v : Value} {cs : List Char} (hText : v.numeral? = some cs) :
    IsNumberText cs := by
  cases v with
  | int i => exact Option.some.inj hText ▸ .inl (intText_chars i)
  | double x => exact Option.some.inj hText ▸ Layout.console_isNumberText x
  | _ => cases hText

theorem not_isStop_of_isNumberChar {c : Char} (hChar : isNumberChar c = true) :
    isStop c = false := by
  have hComma : c ≠ ',' := fun h => absurd (h ▸ hChar) (by decide)
  have hBlank : c ≠ ' ' := fun h => absurd (h ▸ hChar) (by decide)
  simp [isStop, hComma, hBlank]

theorem IsNumberText.not_isStop {cs : List Char} (hText : IsNumberText cs) :
    ∀ c ∈ cs, isStop c = false := by
  rcases hText with hChars | rfl | rfl | rfl
  · exact fun c hc => not_isStop_of_isNumberChar (hChars c hc)
  -- A membership is decided along the list, never over all characters.
  all_goals
    intro c hMem
    simpa using (@List.all_eq_true _ (fun c => !isStop c) _).mp (by decide) c hMem

/-- No number ends in the mark of the whole numbers of arbitrary size. -/
theorem IsNumberText.ne_marked {cs ds : List Char} (hText : IsNumberText cs) :
    cs ≠ ds ++ ['n'] := by
  intro hEq
  rcases hText with hChars | rfl | rfl | rfl
  · exact absurd (hChars 'n' (by simp [hEq])) (by decide)
  all_goals
    have hLast := congrArg List.getLast? hEq
    simp at hLast

theorem marked_not_isStop (i : Int) : ∀ c ∈ intText i ++ ['n'], isStop c = false := by
  simp only [List.forall_mem_append, List.forall_mem_cons, List.not_mem_nil, false_implies,
    implies_true, and_true]
  exact ⟨fun c hc => not_isStop_of_isNumberChar (intText_chars i c hc), by decide⟩

end Value

namespace Inspect

/-! ## Literals and names -/

/-- Reads one character of a literal back, and what follows it. -/
def readPiece : List Char → Option (Char × List Char)
  | '\\' :: 'n' :: cs => some ('\n', cs)
  | '\\' :: 'r' :: cs => some ('\r', cs)
  | '\\' :: 't' :: cs => some ('\t', cs)
  | '\\' :: c :: cs => some (c, cs)
  | c :: cs => some (c, cs)
  | [] => none

theorem readPiece_plain {c : Char} (hPlain : c ≠ '\\') (cs : List Char) :
    readPiece (c :: cs) = some (c, cs) := by
  unfold readPiece
  split <;> simp_all

theorem readPiece_quoteChar (q c : Char) (r : List Char) :
    readPiece (quoteChar q c ++ r) = some (c, r) := by
  unfold quoteChar
  by_cases hBack : c = '\\'
  · subst hBack
    rfl
  by_cases hQuote : c = '\'' ∧ q = '\''
  · obtain ⟨rfl, rfl⟩ := hQuote
    rfl
  by_cases hFeed : c = '\n'
  · subst hFeed
    rfl
  by_cases hReturn : c = '\r'
  · subst hReturn
    rfl
  by_cases hTab : c = '\t'
  · subst hTab
    rfl
  -- A character that stands for itself is no backslash, so no escape is read.
  simpa [hBack, hQuote, hFeed, hReturn, hTab] using readPiece_plain hBack r

theorem quoteChar_unique {q c d : Char} {r s : List Char}
    (hEq : quoteChar q c ++ r = quoteChar q d ++ s) : c = d ∧ r = s := by
  have hRead := congrArg readPiece hEq
  rw [readPiece_quoteChar, readPiece_quoteChar] at hRead
  exact Prod.mk.inj (Option.some.inj hRead)

/-- A quote that a text can stand between: a single one, which is escaped inside, or another one
that the text does not hold. -/
def Encloses (q : Char) (cs : List Char) : Prop :=
  q = '\'' ∨ (q = '"' ∨ q = '\x60') ∧ q ∉ cs

theorem quoteFor_encloses (cs : List Char) : Encloses (quoteFor cs) cs := by
  unfold quoteFor Encloses
  grind

theorem Encloses.ne_backslash {q : Char} {cs : List Char} (hQuote : Encloses q cs) : q ≠ '\\' := by
  rcases hQuote with rfl | ⟨rfl | rfl, -⟩ <;> decide

theorem Encloses.tail {q c : Char} {cs : List Char} (hQuote : Encloses q (c :: cs)) :
    Encloses q cs :=
  hQuote.imp_right fun h => ⟨h.1, fun hMem => h.2 (List.mem_cons_of_mem c hMem)⟩

/-- No character inside looks like the closing quote. -/
theorem Encloses.not_closing {q c : Char} {cs r s : List Char} (hQuote : Encloses q (c :: cs)) :
    quoteChar q c ++ r ≠ q :: s := by
  intro hEq
  have hRead := congrArg readPiece hEq
  rw [readPiece_quoteChar, readPiece_plain hQuote.ne_backslash] at hRead
  obtain ⟨rfl, -⟩ := Prod.mk.inj (Option.some.inj hRead)
  rcases hQuote with rfl | ⟨-, hNone⟩
  · exact absurd (congrArg List.head? hEq) (by simp [quoteChar])
  · exact hNone List.mem_cons_self

/-- The body of a literal ends at its closing quote. -/
theorem body_unique {q : Char} {r s : List Char} : ∀ {cs ds : List Char},
    Encloses q cs → Encloses q ds →
    cs.flatMap (quoteChar q) ++ q :: r = ds.flatMap (quoteChar q) ++ q :: s → cs = ds ∧ r = s
  | [], [], _, _, hEq => ⟨rfl, (List.cons.inj hEq).2⟩
  | [], d :: ds, _, hQuote, hEq => by
    rw [List.flatMap_cons, List.append_assoc] at hEq
    exact (hQuote.not_closing hEq.symm).elim
  | c :: cs, [], hQuote, _, hEq => by
    rw [List.flatMap_cons, List.append_assoc] at hEq
    exact (hQuote.not_closing hEq).elim
  | c :: cs, d :: ds, hLeft, hRight, hEq => by
    rw [List.flatMap_cons, List.flatMap_cons, List.append_assoc, List.append_assoc] at hEq
    obtain ⟨rfl, hRest⟩ := quoteChar_unique hEq
    obtain ⟨rfl, hAfter⟩ := body_unique hLeft.tail hRight.tail hRest
    exact ⟨rfl, hAfter⟩

theorem quote_append (cs r : List Char) :
    quote cs ++ r = quoteFor cs :: (cs.flatMap (quoteChar (quoteFor cs)) ++ quoteFor cs :: r) := by
  simp [quote]

theorem quote_unique {cs ds r s : List Char} (hEq : quote cs ++ r = quote ds ++ s) :
    cs = ds ∧ r = s := by
  rw [quote_append, quote_append] at hEq
  obtain ⟨hQuote, hBody⟩ := List.cons.inj hEq
  rw [← hQuote] at hBody
  exact body_unique (quoteFor_encloses cs) (hQuote ▸ quoteFor_encloses ds) hBody

/-! ## Names -/

theorem startsName_ne_quote {c : Char} (hStart : startsName c = true) (cs : List Char) :
    c ≠ quoteFor cs := by
  rintro rfl
  rcases quoteFor_encloses cs with h | ⟨h | h, -⟩ <;> exact absurd (h ▸ hStart) (by decide)

theorem endsName_cons {c : Char} {cs : List Char} (hName : endsName (c :: cs) = true) :
    c ≠ ':' ∧ endsName cs = true := by
  unfold endsName at hName
  split at hName
  next h => cases h
  next h =>
    obtain ⟨rfl, rfl⟩ := List.cons.inj h
    exact ⟨by decide, rfl⟩
  next h =>
    obtain ⟨rfl, rfl⟩ := List.cons.inj h
    rw [Bool.and_eq_true] at hName
    exact ⟨fun h => absurd (h ▸ hName.1) (by decide), hName.2⟩

theorem endsName_chars : ∀ {cs : List Char}, endsName cs = true → ∀ c ∈ cs, (c == ':') = false
  | [], _ => nofun
  | c :: cs, hName => by
    obtain ⟨hFirst, hRest⟩ := endsName_cons hName
    exact List.forall_mem_cons.mpr ⟨beq_eq_false_iff_ne.mpr hFirst, endsName_chars hRest⟩

/-- A bare name begins with a letter or a sign that begins names, and holds no colon. -/
theorem isBareName_chars {cs : List Char} (hName : isBareName cs = true) :
    (∃ c rest, cs = c :: rest ∧ startsName c = true) ∧ ∀ c ∈ cs, (c == ':') = false := by
  cases cs with
  | nil => cases hName
  | cons c cs =>
    rw [isBareName, Bool.and_eq_true] at hName
    have hFirst : c ≠ ':' := fun h => absurd (h ▸ hName.1) (by decide)
    exact ⟨⟨c, cs, rfl, hName.1⟩,
      List.forall_mem_cons.mpr ⟨beq_eq_false_iff_ne.mpr hFirst, endsName_chars hName.2⟩⟩

theorem bare_ne_quote {cs ds r s : List Char} (hName : isBareName cs = true) :
    cs ++ r ≠ quote ds ++ s := by
  obtain ⟨⟨c, rest, rfl, hStart⟩, -⟩ := isBareName_chars hName
  intro hEq
  rw [quote_append] at hEq
  exact startsName_ne_quote hStart ds (List.cons.inj hEq).1

/-- A name ends at the colon behind it, and a bare one is never taken for a quoted one. -/
theorem label_unique {cs ds r s : List Char}
    (hEq : label cs ++ ':' :: r = label ds ++ ':' :: s) : cs = ds ∧ r = s := by
  unfold label at hEq
  by_cases hLeft : isBareName cs = true <;> by_cases hRight : isBareName ds = true <;>
    simp only [hLeft, hRight, if_true, if_false, Bool.false_eq_true] at hEq
  · obtain ⟨hNames, hAfter⟩ := append_unique (· == ':') (isBareName_chars hLeft).2
      (isBareName_chars hRight).2 (by simp) (by simp) hEq
    exact ⟨hNames, (List.cons.inj hAfter).2⟩
  · exact (bare_ne_quote hLeft hEq).elim
  · exact (bare_ne_quote hRight hEq.symm).elim
  · obtain ⟨hNames, hAfter⟩ := quote_unique hEq
    exact ⟨hNames, (List.cons.inj hAfter).2⟩

/-! ## Kinds of values -/

/-- What the beginning of a printed value tells about it. -/
inductive Mark
  | null
  | undefined
  | unresolvable
  | bool (b : Bool)
  | number
  | text
  | list (empty : Bool)
  | object (empty : Bool)
deriving DecidableEq

/-- The kind of the printed value at the front of a text. What begins like nothing else is a
number. -/
def mark : List Char → Mark
  | 'n' :: _ => .null
  | 'u' :: _ => .undefined
  | 't' :: _ => .bool true
  | 'f' :: _ => .bool false
  | '\'' :: _ => .text
  | '"' :: _ => .text
  | '\x60' :: _ => .text
  | '[' :: ']' :: _ => .list true
  | '[' :: ' ' :: _ => .list false
  | '[' :: _ => .unresolvable
  | '\x7b' :: '\x7d' :: _ => .object true
  | '\x7b' :: _ => .object false
  | _ => .number

/-- The kind of a value. -/
def kind : Value → Mark
  | .null => .null
  | .undefined => .undefined
  | .unresolvable => .unresolvable
  | .bool b => .bool b
  | .int _ => .number
  | .bigint _ => .number
  | .double _ => .number
  | .str _ => .text
  | .list xs => .list xs.isEmpty
  | .object ms => .object ms.isEmpty

/-- What may follow a value inside another one. -/
def Stops (r : List Char) : Prop :=
  ∀ c ∈ r.head?, Value.isStop c = true

theorem mark_number {c : Char} (hChar : Value.isNumberChar c = true) (cs : List Char) :
    mark (c :: cs) = .number := by
  unfold mark
  split <;> simp_all [Value.isNumberChar, Text.isAsciiDigit]

theorem mark_numberText {cs r : List Char} (hText : Value.IsNumberText cs) (hr : Stops r) :
    mark (cs ++ r) = .number := by
  rcases hText with hChars | rfl | rfl | rfl
  · cases cs with
    | cons c cs => exact mark_number (hChars c List.mem_cons_self) (cs ++ r)
    | nil =>
      cases r with
      | nil => rfl
      | cons c r =>
        have hStop : c = ',' ∨ c = ' ' := by simpa [Stops, Value.isStop] using hr
        rcases hStop with rfl | rfl <;> rfl
  all_goals rfl

theorem mark_marked (i : Int) (r : List Char) :
    mark (Value.intText i ++ ['n'] ++ r) = .number := by
  have hChars := Value.intText_chars i
  match hText : Value.intText i with
  | [] =>
    -- The digits of a whole number are never missing.
    have hNone : Text.asciiDigits i.natAbs = [] := by
      unfold Value.intText at hText
      split at hText
      · cases hText
      · exact hText
    exact absurd hNone Nat.toDigits_ne_nil
  | c :: cs =>
    rw [hText] at hChars
    exact mark_number (hChars c List.mem_cons_self) _

theorem nested_bigint (i : Int) : nested (.bigint i) = Value.intText i ++ ['n'] :=
  rfl

theorem nested_str (s : String) : nested (.str s) = quote s.toList :=
  rfl

theorem nestedItems_cons (x : Value) (xs : List Value) :
    nestedItems (x :: xs) = ',' :: ' ' :: (nested x ++ nestedItems xs) :=
  rfl

theorem nestedMembers_cons (n : String) (x : Value) (ms : List (String × Value)) :
    nestedMembers ((n, x) :: ms) =
      ',' :: ' ' :: (label n.toList ++ ':' :: ' ' :: (nested x ++ nestedMembers ms)) := by
  rw [show nestedMembers ((n, x) :: ms) = [',', ' '] ++ label n.toList ++ [':', ' '] ++
    nested x ++ nestedMembers ms from rfl]
  simp

/-- Behind its bracket a list is printed like items, apart from the first comma. -/
theorem nested_list (x : Value) (xs : List Value) :
    nested (.list (x :: xs)) = '[' :: (nestedItems (x :: xs)).tail ++ [' ', ']'] :=
  rfl

/-- Behind its brace an object is printed like members, apart from the first comma. -/
theorem nested_object (m : String × Value) (ms : List (String × Value)) :
    nested (.object (m :: ms)) = '\x7b' :: (nestedMembers (m :: ms)).tail ++ [' ', '\x7d'] :=
  rfl

theorem nested_list_tail (x : Value) (xs : List Value) (r : List Char) :
    ',' :: (nested (.list (x :: xs)) ++ r).tail = nestedItems (x :: xs) ++ ' ' :: ']' :: r := by
  simp [nested_list, nestedItems_cons]

theorem nested_object_tail (m : String × Value) (ms : List (String × Value)) (r : List Char) :
    ',' :: (nested (.object (m :: ms)) ++ r).tail =
      nestedMembers (m :: ms) ++ ' ' :: '\x7d' :: r := by
  obtain ⟨n, x⟩ := m
  simp [nested_object, nestedMembers_cons]

theorem nested_numeral {v : Value} {cs : List Char} (hText : v.numeral? = some cs) :
    nested v = cs := by
  cases v with
  | int i =>
    show Value.intText i = cs
    simpa only [Value.numeral?, Option.some.injEq] using hText
  | double x =>
    show Layout.console.write x = cs
    simpa only [Value.numeral?, Option.some.injEq] using hText
  | _ => cases hText

/-- A number has a text that tells it, or it is marked. -/
theorem kind_number {v : Value} (hKind : kind v = .number) :
    (∃ cs, v.numeral? = some cs) ∨ ∃ i, v = .bigint i := by
  cases v with
  | int i => exact .inl ⟨_, rfl⟩
  | double x => exact .inl ⟨_, rfl⟩
  | bigint i => exact .inr ⟨i, rfl⟩
  | _ => cases hKind

theorem mark_nested_number {v : Value} (hKind : kind v = .number) {r : List Char} (hr : Stops r) :
    mark (nested v ++ r) = .number := by
  rcases kind_number hKind with ⟨cs, hText⟩ | ⟨i, rfl⟩
  · rw [nested_numeral hText]
    exact mark_numberText (Value.numeral?_isNumberText hText) hr
  · rw [nested_bigint]
    exact mark_marked i r

theorem mark_nested (v : Value) {r : List Char} (hr : Stops r) :
    mark (nested v ++ r) = kind v := by
  cases v with
  | null | undefined | unresolvable => rfl
  | bool b => cases b <;> rfl
  | int i => exact mark_nested_number (v := .int i) rfl hr
  | bigint i => exact mark_nested_number (v := .bigint i) rfl hr
  | double x => exact mark_nested_number (v := .double x) rfl hr
  | str s =>
    rw [nested_str, quote_append]
    rcases quoteFor_encloses s.toList with h | ⟨h | h, -⟩ <;> rw [h] <;> rfl
  | list xs => cases xs <;> rfl
  | object ms => rcases ms with - | ⟨⟨n, x⟩, ms⟩ <;> rfl

/-! ## Values -/

/-- Numbers that their texts tell are alike exactly if the texts are the same. -/
theorem alike_numeral {v w : Value} {cs ds : List Char} (hv : v.numeral? = some cs)
    (hw : w.numeral? = some ds) : v.alike w = (cs == ds) := by
  cases v with
  | int i =>
    cases w with
    | int j => rw [← Option.some.inj hv, ← Option.some.inj hw]; rfl
    | double y => rw [← Option.some.inj hv, ← Option.some.inj hw]; rfl
    | _ => cases hw
  | double x =>
    cases w with
    | int j => rw [← Option.some.inj hv, ← Option.some.inj hw]; rfl
    | double y => rw [← Option.some.inj hv, ← Option.some.inj hw]; rfl
    | _ => cases hw
  | _ => cases hv

theorem number_unique {v w : Value} {r s : List Char} (hv : kind v = .number)
    (hw : kind w = .number) (hr : Stops r) (hs : Stops s)
    (hEq : nested v ++ r = nested w ++ s) : v.alike w = true ∧ r = s := by
  rcases kind_number hv with ⟨cs, hv⟩ | ⟨i, rfl⟩ <;>
    rcases kind_number hw with ⟨ds, hw⟩ | ⟨j, rfl⟩
  · have hLeft := Value.numeral?_isNumberText hv
    have hRight := Value.numeral?_isNumberText hw
    rw [nested_numeral hv, nested_numeral hw] at hEq
    obtain ⟨rfl, hAfter⟩ := append_unique Value.isStop hLeft.not_isStop hRight.not_isStop hr hs hEq
    exact ⟨by rw [alike_numeral hv hw, beq_self_eq_true], hAfter⟩
  · have hLeft := Value.numeral?_isNumberText hv
    rw [nested_numeral hv, nested_bigint] at hEq
    obtain ⟨hTexts, -⟩ :=
      append_unique Value.isStop hLeft.not_isStop (Value.marked_not_isStop j) hr hs hEq
    exact (hLeft.ne_marked hTexts).elim
  · have hRight := Value.numeral?_isNumberText hw
    rw [nested_numeral hw, nested_bigint] at hEq
    obtain ⟨hTexts, -⟩ :=
      append_unique Value.isStop (Value.marked_not_isStop i) hRight.not_isStop hr hs hEq
    exact (hRight.ne_marked hTexts.symm).elim
  · rw [nested_bigint, nested_bigint] at hEq
    obtain ⟨hTexts, hAfter⟩ :=
      append_unique Value.isStop (Value.marked_not_isStop i) (Value.marked_not_isStop j) hr hs hEq
    have hSame := Value.intText_injective (List.append_cancel_right hTexts)
    exact ⟨by rw [hSame, Value.alike, beq_self_eq_true], hAfter⟩

theorem stops_items (xs : List Value) (r : List Char) :
    Stops (nestedItems xs ++ ' ' :: ']' :: r) := by
  intro c hc
  cases xs with
  | nil => exact Option.mem_some.mp hc ▸ rfl
  | cons x xs =>
    rw [nestedItems_cons] at hc
    exact Option.mem_some.mp hc ▸ rfl

theorem stops_members (ms : List (String × Value)) (r : List Char) :
    Stops (nestedMembers ms ++ ' ' :: '\x7d' :: r) := by
  intro c hc
  rcases ms with - | ⟨⟨n, x⟩, ms⟩
  · exact Option.mem_some.mp hc ▸ rfl
  · rw [nestedMembers_cons] at hc
    exact Option.mem_some.mp hc ▸ rfl

mutual

/-- A printed value says which one it is and where it ends, whatever follows it. The recursion is
on the first of the two values; what follows an item is the rest of its list. -/
theorem nested_unique : ∀ (v w : Value) {r s : List Char}, Stops r → Stops s →
    nested v ++ r = nested w ++ s → v.alike w = true ∧ r = s
  | v, w, r, s, hr, hs, hEq => by
    have hKind : kind v = kind w := by rw [← mark_nested v hr, hEq, mark_nested w hs]
    cases v with
    | null =>
      cases w with
      | null => exact ⟨rfl, List.append_cancel_left hEq⟩
      | _ => cases hKind
    | undefined =>
      cases w with
      | undefined => exact ⟨rfl, List.append_cancel_left hEq⟩
      | _ => cases hKind
    | unresolvable =>
      cases w with
      | unresolvable => exact ⟨rfl, List.append_cancel_left hEq⟩
      | _ => cases hKind
    | bool b =>
      cases w with
      | bool c =>
        obtain rfl := Mark.bool.inj hKind
        exact ⟨beq_self_eq_true b, List.append_cancel_left hEq⟩
      | _ => cases hKind
    | int i => exact number_unique rfl hKind.symm hr hs hEq
    | bigint i => exact number_unique rfl hKind.symm hr hs hEq
    | double x => exact number_unique rfl hKind.symm hr hs hEq
    | str a =>
      cases w with
      | str b =>
        rw [nested_str, nested_str] at hEq
        obtain ⟨hTexts, hAfter⟩ := quote_unique hEq
        exact ⟨beq_iff_eq.mpr (String.toList_injective hTexts), hAfter⟩
      | _ => cases hKind
    | list xs =>
      cases w with
      | list ys =>
        match xs, ys with
        | [], [] => exact ⟨rfl, List.append_cancel_left hEq⟩
        | [], _ :: _ => cases hKind
        | _ :: _, [] => cases hKind
        | x :: xs, y :: ys =>
          have hItems := congrArg (',' :: List.tail ·) hEq
          rw [nested_list_tail, nested_list_tail] at hItems
          exact nestedItems_unique (x :: xs) (y :: ys) hItems
      | _ => cases hKind
    | object ms =>
      cases w with
      | object ns =>
        match ms, ns with
        | [], [] => exact ⟨rfl, List.append_cancel_left hEq⟩
        | [], _ :: _ => cases hKind
        | _ :: _, [] => cases hKind
        | m :: ms, k :: ns =>
          have hMembers := congrArg (',' :: List.tail ·) hEq
          rw [nested_object_tail, nested_object_tail] at hMembers
          exact nestedMembers_unique (m :: ms) (k :: ns) hMembers
      | _ => cases hKind

/-- The items of a list end at its closing bracket. -/
theorem nestedItems_unique : ∀ (xs ys : List Value) {r s : List Char},
    nestedItems xs ++ ' ' :: ']' :: r = nestedItems ys ++ ' ' :: ']' :: s →
    Value.alikeItems xs ys = true ∧ r = s
  | [], [], r, s, hEq => ⟨rfl, (List.cons.inj (List.cons.inj hEq).2).2⟩
  | [], y :: ys, r, s, hEq => by
    rw [nestedItems_cons] at hEq
    exact absurd (List.cons.inj hEq).1 (by decide)
  | x :: xs, [], r, s, hEq => by
    rw [nestedItems_cons] at hEq
    exact absurd (List.cons.inj hEq).1 (by decide)
  | x :: xs, y :: ys, r, s, hEq => by
    simp only [nestedItems_cons, List.cons_append, List.append_assoc, List.cons.injEq,
      true_and] at hEq
    obtain ⟨hFirst, hRest⟩ := nested_unique x y (stops_items xs r) (stops_items ys s) hEq
    obtain ⟨hItems, hAfter⟩ := nestedItems_unique xs ys hRest
    exact ⟨Bool.and_eq_true_iff.mpr ⟨hFirst, hItems⟩, hAfter⟩

/-- The members of an object end at its closing brace. -/
theorem nestedMembers_unique : ∀ (ms ns : List (String × Value)) {r s : List Char},
    nestedMembers ms ++ ' ' :: '\x7d' :: r = nestedMembers ns ++ ' ' :: '\x7d' :: s →
    Value.alikeMembers ms ns = true ∧ r = s
  | [], [], r, s, hEq => ⟨rfl, (List.cons.inj (List.cons.inj hEq).2).2⟩
  | [], (k, y) :: ns, r, s, hEq => by
    rw [nestedMembers_cons] at hEq
    exact absurd (List.cons.inj hEq).1 (by decide)
  | (n, x) :: ms, [], r, s, hEq => by
    rw [nestedMembers_cons] at hEq
    exact absurd (List.cons.inj hEq).1 (by decide)
  | (n, x) :: ms, (k, y) :: ns, r, s, hEq => by
    simp only [nestedMembers_cons, List.cons_append, List.append_assoc, List.cons.injEq,
      true_and] at hEq
    obtain ⟨hNames, hMember⟩ := label_unique hEq
    obtain ⟨hFirst, hRest⟩ := nested_unique x y (stops_members ms r) (stops_members ns s)
      (List.cons.inj hMember).2
    obtain ⟨hMembers, hAfter⟩ := nestedMembers_unique ms ns hRest
    have hName : (n == k) = true := beq_iff_eq.mpr (String.toList_injective hNames)
    exact ⟨Bool.and_eq_true_iff.mpr ⟨Bool.and_eq_true_iff.mpr ⟨hName, hFirst⟩, hMembers⟩, hAfter⟩

end

/-- What is alike to a number that its text tells is told by that text as well. -/
theorem numeral_of_alike {v w : Value} {cs : List Char} (hText : v.numeral? = some cs)
    (hAlike : v.alike w = true) : w.numeral? = some cs := by
  cases hOther : w.numeral? with
  | some ds =>
    rw [alike_numeral hText hOther, beq_iff_eq] at hAlike
    rw [hAlike]
  | none =>
    cases v with
    | int i => cases w with
      | int _ | double _ => cases hOther
      | _ => cases hAlike
    | double x => cases w with
      | int _ | double _ => cases hOther
      | _ => cases hAlike
    | _ => cases hText

mutual

/-- Values that are alike are printed as the same text. -/
theorem nested_of_alike : ∀ (v w : Value), v.alike w = true → nested v = nested w
  | v, w, hAlike => by
    cases v with
    | null | undefined | unresolvable => cases w <;> first | rfl | cases hAlike
    | bool b | bigint i | str a => cases w <;> first | rw [beq_iff_eq.mp hAlike] | cases hAlike
    | int i => rw [nested_numeral rfl, nested_numeral (numeral_of_alike rfl hAlike)]
    | double x => rw [nested_numeral rfl, nested_numeral (numeral_of_alike rfl hAlike)]
    | list xs =>
      cases w with
      | list ys =>
        have hItems := nestedItems_of_alike xs ys hAlike
        match xs, ys with
        | [], [] => rfl
        | [], _ :: _ => cases hAlike
        | _ :: _, [] => cases hAlike
        | x :: xs, y :: ys => rw [nested_list, nested_list, hItems]
      | _ => cases hAlike
    | object ms =>
      cases w with
      | object ns =>
        have hMembers := nestedMembers_of_alike ms ns hAlike
        match ms, ns with
        | [], [] => rfl
        | [], _ :: _ => cases hAlike
        | _ :: _, [] => cases hAlike
        | m :: ms, k :: ns => rw [nested_object, nested_object, hMembers]
      | _ => cases hAlike

theorem nestedItems_of_alike : ∀ (xs ys : List Value), Value.alikeItems xs ys = true →
    nestedItems xs = nestedItems ys
  | [], [], _ => rfl
  | [], _ :: _, hAlike => nomatch hAlike
  | _ :: _, [], hAlike => nomatch hAlike
  | x :: xs, y :: ys, hAlike => by
    obtain ⟨hFirst, hRest⟩ := Bool.and_eq_true_iff.mp hAlike
    rw [nestedItems_cons, nestedItems_cons, nested_of_alike x y hFirst,
      nestedItems_of_alike xs ys hRest]

theorem nestedMembers_of_alike : ∀ (ms ns : List (String × Value)),
    Value.alikeMembers ms ns = true → nestedMembers ms = nestedMembers ns
  | [], [], _ => rfl
  | [], _ :: _, hAlike => nomatch hAlike
  | _ :: _, [], hAlike => nomatch hAlike
  | (n, x) :: ms, (k, y) :: ns, hAlike => by
    obtain ⟨hMember, hRest⟩ := Bool.and_eq_true_iff.mp hAlike
    obtain ⟨hName, hFirst⟩ := Bool.and_eq_true_iff.mp hMember
    rw [nestedMembers_cons, nestedMembers_cons, beq_iff_eq.mp hName, nested_of_alike x y hFirst,
      nestedMembers_of_alike ms ns hRest]

end

/-- A value is printed as its text inside another one, if its numbers can be written. -/
theorem render_ok_iff {v : Value} {text : String} :
    render false v = .ok text ↔ v.fits = true ∧ String.ofList (nested v) = text := by
  unfold render
  split
  next hFits => simp [hFits]
  next hFits => simp [hFits, Value.text]

/-- Two values are printed as the same line exactly if they are alike: they have the same
structure, texts, names in the same order and leaves, and numbers of the same text. What the line
leaves out is only what kind of number a text without a mark stands for. -/
theorem render_eq_iff {v w : Value} {text : String} (hText : render false v = .ok text) :
    render false w = .ok text ↔ v.alike w = true ∧ w.fits = true := by
  obtain ⟨-, rfl⟩ := render_ok_iff.mp hText
  have hStops : Stops [] := nofun
  rw [render_ok_iff]
  constructor
  · rintro ⟨hFits, hSame⟩
    have hTexts : nested v = nested w := (String.ofList_injective hSame).symm
    exact ⟨(nested_unique v w hStops hStops (congrArg (· ++ []) hTexts)).1, hFits⟩
  · rintro ⟨hAlike, hFits⟩
    exact ⟨hFits, by rw [nested_of_alike v w hAlike]⟩

/-- A list with a text that looks like two items is not printed as the list of these items. -/
theorem render_eq_iff_quotes :
    render false (.list [.str "a', 'b"]) = .ok "[ \"a', 'b\" ]" ∧
      (render false (.list [.str "a", .str "b"]) = .ok "[ \"a', 'b\" ]" ↔
        Value.alike (.list [.str "a', 'b"]) (.list [.str "a", .str "b"]) = true ∧
          Value.fits (.list [.str "a", .str "b"]) = true) := by
  have hText : render false (.list [.str "a', 'b"]) = .ok "[ \"a', 'b\" ]" := by decide
  exact ⟨hText, render_eq_iff hText⟩

end Inspect

end PageReporter
