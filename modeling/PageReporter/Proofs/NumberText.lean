import Mathlib
import PageReporter.Proofs.UniqueReading
import PageReporter.Proofs.WholeDigits
import PageReporter.Proofs.WrittenNumbers

/-!
# The text of a number

A console prints a double in the manner of a script: the fewest digits that are read as the number,
laid out with a point where they are short of it or not far behind it, and with an exponent
elsewhere. The display form has the same digits in another layout, so both texts write the same
decimal number. A whole number of at most two to the 53 is printed as its digits, the same ones
that it has where it is no double.

* `Layout.script` — how a script lays digits out, by their count and the place of the point;
* `Layout.console_writeDigits` — the console's layout is that one;
* `Double.IsShortest` — which digits are laid out;
* `Double.written_reads_back` — what is printed is read back as the number;
* `number_text` — the text of every number and of every small whole number.
-/

namespace PageReporter

/-! ## The layout of a script -/

namespace Layout

variable {s : ℕ} {n : ℤ}

/-- How a script lays out the number that it prints: `s` has `k` digits, and the point stands `n`
places behind the first of them. -/
def script (s k : ℕ) (n : ℤ) : List Char :=
  let digits := Text.asciiDigits s
  let exponent := (if 0 ≤ n - 1 then '+' else '-') :: Text.asciiDigits (n - 1).natAbs
  if k ≤ n ∧ n ≤ 21 then digits ++ List.replicate (n - k).toNat '0'
  else if 0 < n ∧ n ≤ 21 then digits.take n.toNat ++ '.' :: digits.drop n.toNat
  else if -6 < n ∧ n ≤ 0 then '0' :: '.' :: List.replicate (-n).toNat '0' ++ digits
  else if k = 1 then digits ++ 'e' :: exponent
  else digits.take 1 ++ '.' :: digits.drop 1 ++ 'e' :: exponent

theorem console_positional (hLow : -6 < n) (hHigh : n ≤ 21) :
    console.positional ⟨Text.asciiDigits s, n⟩ = script s (Text.asciiDigits s).length n := by
  unfold positional script
  dsimp only
  by_cases hWhole : ((Text.asciiDigits s).length : ℤ) ≤ n
  · have hZeros : n.toNat - (Text.asciiDigits s).length =
        (n - (Text.asciiDigits s).length).toNat := by omega
    rw [if_pos hWhole, if_pos ⟨hWhole, hHigh⟩, hZeros]
    exact List.append_nil _
  have hFraction : ¬ (((Text.asciiDigits s).length : ℤ) ≤ n ∧ n ≤ 21) := fun h => hWhole h.1
  rw [if_neg hWhole, if_neg hFraction]
  by_cases hInside : 0 < n
  · rw [if_pos hInside, if_pos ⟨hInside, hHigh⟩]
  · have hBelow : ¬ (0 < n ∧ n ≤ 21) := fun h => hInside h.1
    rw [if_neg hInside, if_neg hBelow, if_pos ⟨hLow, not_lt.mp hInside⟩]

theorem console_scientific (hOut : n ≤ -6 ∨ 21 < n) :
    console.scientific ⟨Text.asciiDigits s, n⟩ = script s (Text.asciiDigits s).length n := by
  -- An exponent has a digit, so none is added to it.
  have hNone : console.exponentWidth - (Text.asciiDigits (n - 1).natAbs).length = 0 := by
    have hPos := List.length_pos_iff.mpr (Text.asciiDigits_ne_nil (n - 1).natAbs)
    show 1 - _ = 0
    omega
  have hWhole : ¬ (((Text.asciiDigits s).length : ℤ) ≤ n ∧ n ≤ 21) := by omega
  have hInside : ¬ (0 < n ∧ n ≤ 21) := by omega
  have hBelow : ¬ (-6 < n ∧ n ≤ 0) := by omega
  unfold scientific script
  dsimp only
  rw [if_neg hWhole, if_neg hInside, if_neg hBelow, hNone]
  cases hAll : Text.asciiDigits s with
  | nil => exact absurd hAll (Text.asciiDigits_ne_nil s)
  | cons first others =>
    cases others with
    | nil => simp
    | cons second others => simp

theorem console_writeDigits (s : ℕ) (n : ℤ) :
    console.writeDigits ⟨Text.asciiDigits s, n⟩ = script s (Text.asciiDigits s).length n := by
  have hRange : (console.lowest < n && n ≤ console.highest) = true ↔ -6 < n ∧ n ≤ 21 := by
    rw [Bool.and_eq_true, decide_eq_true_eq, decide_eq_true_eq]
    exact Iff.rfl
  unfold writeDigits
  dsimp only
  split
  next hIn =>
    obtain ⟨hLow, hHigh⟩ := hRange.mp hIn
    exact console_positional hLow hHigh
  next hOut =>
    rw [hRange] at hOut
    exact console_scientific (by omega)

end Layout

/-! ## The digits of a double -/

namespace Double

/-- The digits that a script prints a number with: those of `s`, `k` many and without a zero at the
end, which are read as the number with the point `n` places behind the first of them, while no
fewer digits are read as it wherever the point stands. -/
structure IsShortest (x : Double) (negative : Bool) (s k : ℕ) (n : ℤ) : Prop where
  count : (Text.asciiDigits s).length = k
  last : ¬ 10 ∣ s
  reads : ofDecimal negative s (n - k) = x
  least : ∀ m e, ofDecimal negative m e = x → k ≤ (Text.asciiDigits m).length

theorem shortest_isShortest (negative : Bool) {u : ℕ} (fits : Representable u) (hSome : u ≠ 0) :
    ∃ s k n, IsShortest (.finite negative u fits) negative s k n ∧
      shortest u = ⟨Text.asciiDigits s, n⟩ := by
  have hPos : 0 < u := Nat.pos_of_ne_zero hSome
  obtain ⟨m, e, hDigit, hRead, hDigits, hLeast⟩ := shortest_reads_back fits hPos
  obtain ⟨s, t, rfl, hLast, hTrimmed⟩ := Digits.ofNat_trimmed hDigit e
  -- Without the zeros at the end the digits are the same number.
  rw [hTrimmed] at hDigits
  rw [hDigits] at hLeast
  refine ⟨s, _, _, ⟨rfl, hLast, ?_, fun n k hOther => hLeast n k ?_⟩, hDigits⟩
  · rw [add_sub_cancel_left, ofDecimal_eq_iff fits, ← decimalUnits_shift]
    exact (readsBack_iff fits _ _).mp hRead
  · rw [readsBack_iff fits]
    exact (ofDecimal_eq_iff fits negative n k).mp hOther

/-- Every layout of the shortest digits is read back as the number. -/
theorem written_reads_back {layout : Layout}
    (hEnd : layout.wholeEnd = [] ∨ layout.wholeEnd = ['.', '0']) (negative : Bool) {u : ℕ}
    (fits : Representable u) (hSome : u ≠ 0) :
    readUnsigned? negative (layout.writeDigits (shortest u)) = some (.finite negative u fits) := by
  obtain ⟨s, k, n, hShortest, hDigits⟩ := shortest_isShortest negative fits hSome
  have hText := Layout.writeDigits_writes (s := s) (n := n) hEnd
  have hRounds := (ofDecimal_eq_iff fits negative _ _).mp hShortest.reads
  rw [← hShortest.count] at hRounds
  rw [hDigits, readUnsigned?_eq]
  unfold unsigned? at hText
  obtain ⟨⟨m, e⟩, hParts, hValue⟩ := Option.map_eq_some_iff.mp hText
  -- The digits read need not be the ones laid out, but they are the same number.
  have hUnits : decimalUnits m e = decimalUnits s (n - (Text.asciiDigits s).length) :=
    congrArg (· * (unitsPerOne : ℚ)) hValue
  rw [hParts, Option.map_some, Option.some.injEq, ofDecimal_eq_iff fits, hUnits, hRounds]

end Double

namespace Layout

theorem finite_written {layout : Layout}
    (hEnd : layout.wholeEnd = [] ∨ layout.wholeEnd = ['.', '0']) {u s : ℕ} {n : ℤ}
    (hDigits : layout.digits u = ⟨Text.asciiDigits s, n⟩) (hSome : u ≠ 0) (negative : Bool)
    (fits : Representable u) :
    Double.written? (layout.write (.finite negative u fits)) =
      some (if negative then -Double.decimal s (n - (Text.asciiDigits s).length)
        else Double.decimal s (n - (Text.asciiDigits s).length)) := by
  have hText := Double.written?_of_unsigned? (writeDigits_writes (s := s) (n := n) hEnd)
  simp only [write, if_neg hSome, hDigits]
  cases negative with
  | false => exact hText.1
  | true => exact hText.2

/-- Whole numbers below ten to the twenty-one are laid out as their digits. -/
theorem console_ofNat {i : ℕ} (hPos : 0 < i) (hLess : i < 10 ^ 21) :
    console.writeDigits (Digits.ofNat i 0) = Text.asciiDigits i := by
  have hCount := (Nat.length_toDigits_le_iff (by decide) (by decide)).mpr hLess
  rw [← Text.asciiDigits] at hCount
  obtain ⟨s, t, rfl, -, hDigits⟩ := Digits.ofNat_trimmed hPos 0
  have hSome : 0 < s := Nat.pos_of_mul_pos_right hPos
  have hZeros : ((Text.asciiDigits s).length + (t + 0) - (Text.asciiDigits s).length : ℤ).toNat =
      t := by omega
  rw [Text.asciiDigits_mul_pow hSome, List.length_append, List.length_replicate] at hCount
  rw [hDigits, console_writeDigits, script, if_pos (by omega), hZeros,
    Text.asciiDigits_mul_pow hSome]

theorem console_whole {i : ℤ} (hLe : i.natAbs ≤ twoTo 53) :
    console.write (.ofInt i) = Value.intText i := by
  have hSize : (if i.natAbs * Double.unitsPerOne = 0 then '0' :: console.wholeEnd
      else console.writeDigits (console.digits (i.natAbs * Double.unitsPerOne))) =
      Text.asciiDigits i.natAbs := by
    have hOne : 0 < Double.unitsPerOne := Nat.cast_pos.mp Double.unitsPerOne_pos
    -- Zero has no digits to search for and is printed apart.
    rcases Nat.eq_zero_or_pos i.natAbs with hZero | hPos
    · rw [hZero, Nat.zero_mul, if_pos rfl]
      rfl
    · have hTop : twoTo 53 < 10 ^ 21 := by decide
      rw [if_neg (Nat.mul_pos hPos hOne).ne', console_digits, Double.shortest_whole hPos hLe,
        console_ofNat hPos (by omega)]
  rw [Double.ofInt_eq hLe]
  simp only [write, hSize, decide_eq_true_eq]
  rfl

end Layout

/-! ## Texts -/

/-- A small whole number is printed in the same way whether it is a double or not. -/
theorem render_whole {i : ℤ} (hLe : |i| ≤ 2 ^ 53) (top : Bool) :
    Inspect.render top (.double (.ofInt i)) = Inspect.render top (.int i) := by
  have hSize : i.natAbs ≤ twoTo 53 := by
    rw [Int.abs_eq_natAbs] at hLe
    exact_mod_cast hLe
  have hFits : Value.fits (.int i) = true := by
    have hTop : twoTo 53 < 10 ^ digitLimit := by decide +kernel
    refine decide_eq_true ((Nat.length_toDigits_le_iff (by decide) (by decide)).mpr ?_)
    omega
  have hDouble : Value.fits (.double (.ofInt i)) = true := rfl
  have hNested : Inspect.nested (.double (.ofInt i)) = Inspect.nested (.int i) :=
    Layout.console_whole hSize
  have hChars : Inspect.chars (.double (.ofInt i)) = Inspect.chars (.int i) := hNested
  rw [Inspect.render, Inspect.render, if_pos hFits, if_pos hDouble, hNested, hChars]

/-- **The text of a number.** Every finite number but zero has shortest digits. Its display form and
its console form both write exactly the decimal number of these digits, with its sign, and the
console form is the text that a script makes of them. A whole number of up to two to the 53 is
printed in the same way whether it is a double or not. -/
theorem number_text :
    (∀ (negative : Bool) (u : ℕ) (fits : Representable u), u ≠ 0 →
      ∃ s k n, Double.IsShortest (.finite negative u fits) negative s k n ∧
        Double.written? (Layout.display.write (.finite negative u fits)) =
          some (if negative then -Double.decimal s (n - k) else Double.decimal s (n - k)) ∧
        Double.written? (Layout.console.write (.finite negative u fits)) =
          some (if negative then -Double.decimal s (n - k) else Double.decimal s (n - k)) ∧
        Layout.console.write (.finite negative u fits) =
          (if negative then ['-'] else []) ++ Layout.script s k n) ∧
    ∀ i : ℤ, |i| ≤ 2 ^ 53 → ∀ top,
      Inspect.render top (.double (.ofInt i)) = Inspect.render top (.int i) := by
  constructor
  · intro negative u fits hSome
    obtain ⟨s, k, n, hShortest, hDigits⟩ := Double.shortest_isShortest negative fits hSome
    obtain rfl := hShortest.count
    refine ⟨s, _, n, hShortest, Layout.finite_written (.inr rfl) hDigits hSome negative fits,
      Layout.finite_written (.inl rfl) hDigits hSome negative fits, ?_⟩
    simp only [Layout.write, if_neg hSome, Layout.console_digits, hDigits,
      Layout.console_writeDigits]
    cases negative <;> rfl
  · intro i hLe top
    exact render_whole hLe top

/-- Two to the 70 has twenty-two places, one too many to be written out; two to the 53 has not. -/
theorem number_text_powers :
    (∃ s k n, Double.IsShortest (.finite true (1 * twoTo 1144)
        (Double.representable_mul (by decide) (by decide))) true s k n ∧
          ['-'] ++ Layout.script s k n = "-1.1805916207174113e+21".toList) ∧
      Inspect.render true (.double (.ofInt (2 ^ 53))) = .ok "9007199254740992" := by
  have hSome : 1 * twoTo 1144 ≠ 0 := (Nat.mul_pos Nat.one_pos (twoTo_pos 1144)).ne'
  constructor
  · obtain ⟨s, k, n, hShortest, -, -, hText⟩ := number_text.1 true (1 * twoTo 1144)
      (Double.representable_mul (by decide) (by decide)) hSome
    have hPrinted : Layout.console.write (.finite true (1 * twoTo 1144)
        (Double.representable_mul (by decide) (by decide))) =
          "-1.1805916207174113e+21".toList := by
      decide +kernel
    exact ⟨s, k, n, hShortest, hText.symm.trans hPrinted⟩
  · rw [number_text.2 (2 ^ 53) (by decide) true]
    decide

end PageReporter
