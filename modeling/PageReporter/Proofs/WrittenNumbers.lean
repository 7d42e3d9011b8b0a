import Mathlib
import PageReporter.Double.Layout

/-!
# The number that a text writes

A text of digits with a point and an exponent writes one decimal number, which a double is rounded
from when the text is read. What a layout makes of digits writes the number of these digits:
positional or not, with or without a fraction for a whole number, however many places the exponent
has.

* `Double.decimalParts?` — the digits of a text and their power of ten;
* `Double.readUnsigned?_eq` — reading rounds the number that these are;
* `Double.unsigned?`, `Double.written?` — that number, exactly;
* `Layout.writeDigits_writes` — digits laid out write the number that they are.
-/

namespace PageReporter

/-! ## Digits -/

namespace Text

theorem asciiDigits_ascii (n : ℕ) : ∀ c ∈ asciiDigits n, isAsciiDigit c = true := by
  intro c hMem
  have hDigit : c.isDigit = true := Nat.isDigit_of_mem_toDigits (by decide) (by decide) hMem
  simp only [Char.isDigit, Bool.and_eq_true, decide_eq_true_eq] at hDigit
  simp only [isAsciiDigit, Bool.and_eq_true, decide_eq_true_eq]
  exact ⟨hDigit.1, hDigit.2⟩

theorem isAsciiDigit_bounds {c : Char} (hDigit : isAsciiDigit c = true) :
    48 ≤ c.toNat ∧ c.toNat ≤ 57 := by
  simpa [isAsciiDigit] using hDigit

theorem isBlank_ascii {c : Char} (hDigit : isAsciiDigit c = true) : isBlank c = false := by
  obtain ⟨hLow, hHigh⟩ := isAsciiDigit_bounds hDigit
  simp only [isBlank, Bool.and_eq_false_iff, Bool.or_eq_false_iff, decide_eq_false_iff_not,
    beq_eq_false_iff_ne]
  omega

theorem zeros_ascii (k : ℕ) : ∀ c ∈ List.replicate k '0', isAsciiDigit c = true := by
  intro c hMem
  rw [List.eq_of_mem_replicate hMem]
  rfl

theorem asciiDigits_ne_nil (s : ℕ) : asciiDigits s ≠ [] :=
  Nat.toDigits_ne_nil

theorem ofAsciiDigits_asciiDigits (n : ℕ) : ofAsciiDigits (asciiDigits n) = n :=
  Nat.ofDigitChars_toDigits (by decide) (by decide)

theorem ofAsciiDigits_append (as bs : List Char) :
    ofAsciiDigits (as ++ bs) = ofAsciiDigits as * 10 ^ bs.length + ofAsciiDigits bs := by
  unfold ofAsciiDigits
  rw [List.foldl_append]
  generalize as.foldl _ 0 = n
  -- From the end, as each digit moves all that stand before it.
  induction bs using List.reverseRecOn with
  | nil => simp
  | append_singleton bs b ih =>
    rw [List.foldl_concat, List.foldl_concat, ih, List.length_append, List.length_singleton]
    ring

theorem ofAsciiDigits_zeros (k : ℕ) : ofAsciiDigits (List.replicate k '0') = 0 := by
  induction k with
  | zero => rfl
  | succ k ih =>
    rw [List.replicate_succ', ofAsciiDigits_append, ih]
    rfl

theorem digitValue?_ascii {c : Char} (hDigit : isAsciiDigit c = true) :
    digitValue? c = some (c.toNat - 48) := by
  obtain ⟨hLow, hHigh⟩ := isAsciiDigit_bounds hDigit
  have hFirst : (decide (48 ≤ c.toNat) && decide (c.toNat < 48 + 10)) = true := by
    simp only [Bool.and_eq_true, decide_eq_true_eq]
    omega
  -- The zero of ASCII is the first one of the table.
  have hTable : zeroPoints = 48 :: zeroPoints.tail := rfl
  rw [digitValue?, hTable, List.find?_cons, hFirst]
  rfl

theorem digitRun_append {cs rest : List Char} (hDigits : ∀ c ∈ cs, isAsciiDigit c = true)
    (hRest : digitRun rest = some ([], rest)) :
    digitRun (cs ++ rest) = some (cs.map (·.toNat - 48), rest) := by
  induction cs with
  | nil => exact hRest
  | cons c cs ih =>
    obtain ⟨hFirst, hOthers⟩ := List.forall_mem_cons.mp hDigits
    rw [List.cons_append, digitRun, digitValue?_ascii hFirst, ih hOthers]
    rfl

theorem ofDigitValues_map (cs : List Char) :
    ofDigitValues (cs.map (·.toNat - 48)) = ofAsciiDigits cs := by
  rw [ofDigitValues, List.foldl_map, ofAsciiDigits]

end Text

/-! ## Texts as decimal numbers -/

namespace Double

/-- The digits behind a point, if there is one. -/
def fractionRun : List Char → Option (List ℕ × List Char)
  | '.' :: rest => Text.digitRun rest
  | rest => some ([], rest)

/-- The digits of an unsigned number as a whole number, and the power of ten that follows it. -/
def decimalParts? (text : List Char) : Option (ℕ × ℤ) := do
  let (whole, rest) ← Text.digitRun text
  let (fraction, rest) ← fractionRun rest
  if whole.isEmpty && fraction.isEmpty then none
  else
    let e ← readExponent? rest
    some (Text.ofDigitValues (whole ++ fraction), e - fraction.length)

/-- A text is read as the double nearest to the number that it writes. -/
theorem readUnsigned?_eq (negative : Bool) (text : List Char) :
    readUnsigned? negative text =
      (decimalParts? text).map fun (m, e) => ofDecimal negative m e := by
  unfold readUnsigned? decimalParts?
  cases Text.digitRun text with
  | none => rfl
  | some first =>
    obtain ⟨whole, rest⟩ := first
    simp only [Option.bind_eq_bind, Option.bind_some]
    -- The point is looked for before anything is read behind it, so the readers split here.
    split
    · next rest =>
      rw [fractionRun]
      cases Text.digitRun rest with
      | none => rfl
      | some second =>
        simp only [Option.bind_some]
        split
        · rfl
        · cases readExponent? second.2 <;> rfl
    · next hNone =>
      rw [fractionRun.eq_2 _ hNone]
      simp only [Option.bind_some]
      split
      · rfl
      · cases readExponent? rest <;> rfl

theorem readExponent?_signed (e : ℤ) (width : ℕ) :
    readExponent? ('e' :: (if 0 ≤ e then '+' else '-') ::
      List.replicate width '0' ++ Text.asciiDigits e.natAbs) = some e := by
  have hDigits : ∀ c ∈ List.replicate width '0' ++ Text.asciiDigits e.natAbs,
      Text.isAsciiDigit c = true := by
    rw [List.forall_mem_append]
    exact ⟨Text.zeros_ascii width, Text.asciiDigits_ascii _⟩
  have hSome : List.replicate width '0' ++ Text.asciiDigits e.natAbs ≠ [] := fun hNone =>
    Nat.toDigits_ne_nil (List.append_eq_nil_iff.mp hNone).2
  have hValue : Text.ofAsciiDigits (List.replicate width '0' ++ Text.asciiDigits e.natAbs) =
      e.natAbs := by
    rw [Text.ofAsciiDigits_append, Text.ofAsciiDigits_zeros, zero_mul, zero_add,
      Text.ofAsciiDigits_asciiDigits]
  rw [← Text.ofDigitValues_map] at hValue
  rw [List.cons_append, List.cons_append]
  -- From here on the digits matter only by their value.
  generalize List.replicate width '0' ++ Text.asciiDigits e.natAbs = digits at *
  have hRun : Text.digitRun (digits ++ []) = some (digits.map (·.toNat - 48), []) :=
    Text.digitRun_append hDigits rfl
  rw [List.append_nil] at hRun
  split
  · next hNonneg =>
    have hSign : Text.readSign ('+' :: digits) = (false, digits) := rfl
    simpa [readExponent?, hSign, hRun, hSome, hValue] using hNonneg
  · next hNegative =>
    have hSign : Text.readSign ('-' :: digits) = (true, digits) := rfl
    have hSize : -((e.natAbs : ℕ) : ℤ) = e := by omega
    rw [← hValue] at hSize
    simp [readExponent?, hSign, hRun, hSome, hSize]

/-- The number `m` times ten to the `e`. -/
def decimal (m : ℕ) (e : ℤ) : ℚ :=
  m * 10 ^ e

theorem decimal_mul_pow (m t : ℕ) (e : ℤ) : decimal (m * 10 ^ t) e = decimal m (e + t) := by
  rw [decimal, decimal, zpow_add₀ (by norm_num), zpow_natCast]
  push_cast
  ring

/-- The number that an unsigned text writes. -/
def unsigned? (text : List Char) : Option ℚ :=
  (decimalParts? text).map fun (m, e) => decimal m e

/-- The number that a text writes. -/
def written? (text : List Char) : Option ℚ :=
  let (negative, body) := Text.readSign text
  (unsigned? body).map fun q => if negative then -q else q

variable {whole fraction rest : List Char} {e : ℤ}

theorem unsigned?_whole (hWhole : ∀ c ∈ whole, Text.isAsciiDigit c = true)
    (hSome : whole ≠ []) (hRest : rest = [] ∨ ∃ cs, rest = 'e' :: cs)
    (hExponent : readExponent? rest = some e) :
    unsigned? (whole ++ rest) = some (decimal (Text.ofAsciiDigits whole) e) := by
  have hStop : Text.digitRun rest = some ([], rest) ∧ fractionRun rest = some ([], rest) := by
    rcases hRest with rfl | ⟨cs, rfl⟩ <;> exact ⟨rfl, rfl⟩
  unfold unsigned? decimalParts?
  rw [Text.digitRun_append hWhole hStop.1]
  simp [hStop.2, hExponent, hSome, Text.ofDigitValues_map]

theorem unsigned?_fraction (hWhole : ∀ c ∈ whole, Text.isAsciiDigit c = true)
    (hSome : whole ≠ []) (hFraction : ∀ c ∈ fraction, Text.isAsciiDigit c = true)
    (hRest : rest = [] ∨ ∃ cs, rest = 'e' :: cs) (hExponent : readExponent? rest = some e) :
    unsigned? (whole ++ '.' :: (fraction ++ rest)) =
      some (decimal (Text.ofAsciiDigits (whole ++ fraction)) (e - fraction.length)) := by
  have hStop : Text.digitRun rest = some ([], rest) := by
    rcases hRest with rfl | ⟨cs, rfl⟩ <;> rfl
  have hPoint : Text.digitRun ('.' :: (fraction ++ rest)) =
      some ([], '.' :: (fraction ++ rest)) := rfl
  unfold unsigned? decimalParts?
  rw [Text.digitRun_append hWhole hPoint]
  simp [fractionRun, Text.digitRun_append hFraction hStop, hExponent, hSome,
    ← Text.ofDigitValues_map]

/-! ### Zeros and the point -/

/-- Digits and the zeros that follow them. -/
theorem padded_digits (s zeros : ℕ) :
    Text.asciiDigits s ++ List.replicate zeros '0' ≠ [] ∧
      (∀ c ∈ Text.asciiDigits s ++ List.replicate zeros '0', Text.isAsciiDigit c = true) ∧
      Text.ofAsciiDigits (Text.asciiDigits s ++ List.replicate zeros '0') = s * 10 ^ zeros := by
  refine ⟨List.append_ne_nil_of_left_ne_nil (Text.asciiDigits_ne_nil s) _,
    List.forall_mem_append.mpr ⟨Text.asciiDigits_ascii s, Text.zeros_ascii zeros⟩, ?_⟩
  rw [Text.ofAsciiDigits_append, Text.ofAsciiDigits_zeros, Text.ofAsciiDigits_asciiDigits,
    List.length_replicate, add_zero]

/-- Zeros behind the last digit move the point. -/
theorem unsigned?_zeros (s zeros : ℕ) :
    unsigned? (Text.asciiDigits s ++ List.replicate zeros '0') = some (decimal s zeros) := by
  obtain ⟨hSome, hAll, hValue⟩ := padded_digits s zeros
  have hText := unsigned?_whole hAll hSome (.inl rfl) rfl
  rw [List.append_nil] at hText
  rw [hText, hValue, decimal_mul_pow, zero_add]

/-- A fraction of nothing but a zero changes nothing. -/
theorem unsigned?_wholeEnd (s zeros : ℕ) :
    unsigned? (Text.asciiDigits s ++ List.replicate zeros '0' ++ ['.', '0']) =
      some (decimal s zeros) := by
  obtain ⟨hSome, hAll, -⟩ := padded_digits s zeros
  obtain ⟨-, -, hValue⟩ := padded_digits s (zeros + 1)
  have hText := unsigned?_fraction hAll hSome (Text.zeros_ascii 1) (.inl rfl) rfl
  rw [List.append_nil] at hText
  refine hText.trans ?_
  rw [List.append_assoc, List.replicate_append_replicate, hValue, decimal_mul_pow,
    List.length_replicate]
  congr 2
  push_cast
  ring

variable {s : ℕ}

/-- A point somewhere between the digits. -/
theorem unsigned?_split {j : ℕ} (hPos : 0 < j) (hLess : j ≤ (Text.asciiDigits s).length) :
    unsigned? ((Text.asciiDigits s).take j ++ '.' :: (Text.asciiDigits s).drop j) =
      some (decimal s (j - (Text.asciiDigits s).length)) := by
  have hDigits := Text.asciiDigits_ascii s
  have hTake : (Text.asciiDigits s).take j ≠ [] := by
    rw [Ne, List.take_eq_nil_iff, not_or]
    exact ⟨hPos.ne', Text.asciiDigits_ne_nil s⟩
  have hDrop : ∀ c ∈ (Text.asciiDigits s).drop j, Text.isAsciiDigit c = true :=
    fun c hMem => hDigits c (List.mem_of_mem_drop hMem)
  have hText := unsigned?_fraction (fun c hMem => hDigits c (List.mem_of_mem_take hMem))
    hTake hDrop (.inl rfl) rfl
  rw [List.append_nil, List.take_append_drop, Text.ofAsciiDigits_asciiDigits] at hText
  rw [hText, List.length_drop, Nat.cast_sub hLess, zero_sub, neg_sub]

/-- Zeros between the point and the first digit. -/
theorem unsigned?_low (s zeros : ℕ) :
    unsigned? ('0' :: '.' :: List.replicate zeros '0' ++ Text.asciiDigits s) =
      some (decimal s (-zeros - (Text.asciiDigits s).length)) := by
  have hAll : ∀ c ∈ List.replicate zeros '0' ++ Text.asciiDigits s,
      Text.isAsciiDigit c = true :=
    List.forall_mem_append.mpr ⟨Text.zeros_ascii zeros, Text.asciiDigits_ascii s⟩
  have hText := unsigned?_fraction (Text.zeros_ascii 1) (by simp) hAll (.inl rfl) rfl
  rw [List.append_nil, List.length_append, List.length_replicate] at hText
  refine hText.trans ?_
  rw [← List.append_assoc, List.replicate_append_replicate, Text.ofAsciiDigits_append,
    Text.ofAsciiDigits_zeros, Text.ofAsciiDigits_asciiDigits, zero_mul, zero_add]
  congr 2
  push_cast
  ring

/-- A text without a sign is one of a positive number, and one of a negative number behind a
minus. -/
theorem written?_of_unsigned? {text : List Char} {q : ℚ} (hText : unsigned? text = some q) :
    written? text = some q ∧ written? ('-' :: text) = some (-q) := by
  -- A text that begins with a sign writes no unsigned number.
  have hSign : Text.readSign text = (false, text) := by
    unfold Text.readSign
    split
    · cases hText
    · cases hText
    · rfl
  constructor
  · simp [written?, hSign, hText]
  · simp [written?, Text.readSign, hText]

end Double

/-! ## Layouts -/

namespace Layout

variable {layout : Layout} {s : ℕ} {n : ℤ}

theorem positional_writes (hEnd : layout.wholeEnd = [] ∨ layout.wholeEnd = ['.', '0']) :
    Double.unsigned? (layout.positional ⟨Text.asciiDigits s, n⟩) =
      some (Double.decimal s (n - (Text.asciiDigits s).length)) := by
  unfold positional
  dsimp only
  split
  next hWhole =>
    have hPower : n - (Text.asciiDigits s).length =
        (n.toNat - (Text.asciiDigits s).length : ℕ) := by omega
    rw [hPower]
    rcases hEnd with hEnd | hEnd
    · rw [hEnd, List.append_nil, Double.unsigned?_zeros]
    · rw [hEnd, Double.unsigned?_wholeEnd]
  next =>
    split
    next hInside =>
      rw [Double.unsigned?_split (by omega) (by omega), Int.toNat_of_nonneg hInside.le]
    next hLow =>
      have hPoint : -((-n).toNat : ℤ) = n := by omega
      rw [Double.unsigned?_low, hPoint]

theorem scientific_writes :
    Double.unsigned? (layout.scientific ⟨Text.asciiDigits s, n⟩) =
      some (Double.decimal s (n - (Text.asciiDigits s).length)) := by
  have hDigits := Text.asciiDigits_ascii s
  have hValue := Text.ofAsciiDigits_asciiDigits s
  have hExponent := Double.readExponent?_signed (n - 1)
    (layout.exponentWidth - (Text.asciiDigits (n - 1).natAbs).length)
  unfold scientific
  dsimp only
  rw [List.append_assoc, List.cons_append, List.cons_append]
  rw [List.cons_append, List.cons_append] at hExponent
  generalize ((if 0 ≤ n - 1 then '+' else '-') ::
    (List.replicate (layout.exponentWidth - (Text.asciiDigits (n - 1).natAbs).length) '0' ++
      Text.asciiDigits (n - 1).natAbs)) = tail at hExponent ⊢
  cases hAll : Text.asciiDigits s with
  | nil => exact absurd hAll (Text.asciiDigits_ne_nil s)
  | cons first others =>
    rw [hAll] at hDigits hValue
    obtain ⟨hFirst, hOthers⟩ := List.forall_mem_cons.mp hDigits
    have hOne : ∀ c ∈ [first], Text.isAsciiDigit c = true := List.forall_mem_singleton.mpr hFirst
    cases others with
    | nil =>
      rw [Double.unsigned?_whole hOne (by simp) (.inr ⟨_, rfl⟩) hExponent, hValue]
      simp
    | cons second others =>
      -- The digits behind the first one count against the exponent.
      have hText := Double.unsigned?_fraction hOne (by simp) hOthers (.inr ⟨_, rfl⟩) hExponent
      refine hText.trans ?_
      rw [List.singleton_append, hValue]
      congr 2
      simp only [List.length_cons]
      push_cast
      ring

theorem writeDigits_writes (hEnd : layout.wholeEnd = [] ∨ layout.wholeEnd = ['.', '0']) :
    Double.unsigned? (layout.writeDigits ⟨Text.asciiDigits s, n⟩) =
      some (Double.decimal s (n - (Text.asciiDigits s).length)) := by
  unfold writeDigits
  split
  · exact positional_writes hEnd
  · exact scientific_writes

end Layout

end PageReporter
