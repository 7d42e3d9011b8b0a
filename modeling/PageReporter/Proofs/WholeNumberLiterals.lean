import PageReporter.Diagnostic.Inspect
import PageReporter.Proofs.ShortestDigits
import PageReporter.Proofs.WrittenNumbers
import PageReporter.Wire.Remote

/-!
# Literals of whole numbers

The browser tells a whole number of arbitrary size by its literal: a minus if it is negative, its
decimal digits, and an `n`. The literal is read back to the number, which is printed as that literal
again, as long as it has no more digits than may be converted. A longer one is refused by the reader
of digits, and so taken for a name that nobody knows.

* `Value.intText_eq` — the digits of a number are those of the library;
* `readInt?_intText` — reading what has been written;
* `Remote.named_literal` — what a literal stands for;
* `Remote.literal_kept` — from the literal to the number and back.
-/

namespace PageReporter

/-! ## Digits -/

namespace Text

theorem isPadding_ascii {c : Char} (hDigit : isAsciiDigit c = true) : isPadding c = false := by
  rw [isPadding, isBlank_ascii hDigit, Bool.false_and]

/-- Digits have no underscores that could be dropped. -/
theorem dropUnderscores_ascii {cs : List Char} (hDigits : ∀ c ∈ cs, isAsciiDigit c = true)
    (afterDigit : Bool) : dropUnderscores afterDigit cs = some cs := by
  induction cs generalizing afterDigit with
  | nil => rw [dropUnderscores]
  | cons c cs ih =>
    obtain ⟨hFirst, hOthers⟩ := List.forall_mem_cons.mp hDigits
    have hOther : c ≠ '_' := by
      rintro rfl
      cases hFirst
    rw [dropUnderscores.eq_4 _ _ _ (fun d ds hUnderscore _ => hOther hUnderscore)
      (fun hUnderscore _ => hOther hUnderscore), ih hOthers]
    rfl

/-- A sign is what stands in front of digits, and digits begin with none. -/
theorem readSign_ascii {cs : List Char} (hDigits : ∀ c ∈ cs, isAsciiDigit c = true) :
    readSign cs = (false, cs) := by
  unfold readSign
  split
  · cases hDigits '-' List.mem_cons_self
  · cases hDigits '+' List.mem_cons_self
  · rfl

end Text

/-- A number is written in decimal digits, with a minus in front of them if it is negative. -/
theorem Value.intText_eq (z : ℤ) : Value.intText z = (toString z).toList := by
  cases z with
  | ofNat n =>
    show Nat.toDigits 10 n = (toString n).toList
    rw [Nat.toString_eq_ofList_toDigits, String.toList_ofList]
  | negSucc n =>
    show Value.intText (Int.negSucc n) = ("-" ++ toString (n + 1)).toList
    rw [intText, if_pos (Int.negSucc_lt_zero n), String.toList_append,
      Nat.toString_eq_ofList_toDigits, @String.toList_ofList (Nat.toDigits 10 (n + 1))]
    rfl

/-! ## Reading what has been written -/

/-- A sign and digits behind it are read as the number that they write, unless there are too many
digits. -/
theorem readInt?_intText (z : ℤ) :
    readInt? (Value.intText z) = if Value.intFits z then some z else none := by
  have hDigits := Text.asciiDigits_ascii z.natAbs
  have hBody : (Text.dropUnderscores false (Text.asciiDigits z.natAbs)).bind Text.digitRun =
      some ((Text.asciiDigits z.natAbs).map (·.toNat - 48), []) := by
    rw [Text.dropUnderscores_ascii hDigits, Option.bind_some]
    nth_rewrite 1 [← List.append_nil (Text.asciiDigits z.natAbs)]
    exact Text.digitRun_append hDigits rfl
  -- Neither the minus nor a digit is padding.
  have hTrim : Text.trimWhere Text.isPadding (Value.intText z) = Value.intText z := by
    refine Text.trimWhere_unmarked fun c hMem => ?_
    unfold Value.intText at hMem
    split at hMem
    · rcases List.mem_cons.mp hMem with rfl | hDigit
      · decide
      · exact Text.isPadding_ascii (hDigits c hDigit)
    · exact Text.isPadding_ascii (hDigits c hMem)
  have hSign : Text.readSign (Value.intText z) =
      (decide (z < 0), Text.asciiDigits z.natAbs) := by
    unfold Value.intText
    split
    · next hNegative => simp [Text.readSign, hNegative]
    · next hNatural => simp [Text.readSign_ascii hDigits, hNatural]
  have hSome : (List.map (·.toNat - 48) (Text.asciiDigits z.natAbs)).isEmpty = false := by
    simpa using Text.asciiDigits_ne_nil z.natAbs
  simp only [readInt?, hTrim, hSign, hBody, hSome, Text.ofDigitValues_map,
    Text.ofAsciiDigits_asciiDigits, Value.intFits, List.length_map, Bool.false_or,
    decide_eq_true_eq]
  by_cases hFits : (Text.asciiDigits z.natAbs).length ≤ digitLimit
  · rw [if_pos hFits, if_neg (Nat.not_lt.mpr hFits)]
    congr 1
    split <;> omega
  · rw [if_neg hFits, if_pos (Nat.lt_of_not_le hFits)]

/-! ## Literals -/

namespace Remote

/-- How the browser writes a whole number of arbitrary size. -/
def literal (z : ℤ) : String :=
  toString z ++ "n"

theorem literal_toList (z : ℤ) : (literal z).toList = Value.intText z ++ ['n'] := by
  rw [literal, String.toList_append, Value.intText_eq]
  rfl

/-- What a literal stands for: its number, if its digits can be read. -/
theorem named_literal (z : ℤ) :
    named (.str (literal z)) = if Value.intFits z then .ok (.bigint z)
      else .error (.protocol s!"Unknown unserializable value: {literal z}") := by
  -- No other name ends with the letter that ends a literal.
  have hOther : ∀ {name : String}, name.toList.getLast? ≠ some 'n' → literal z ≠ name := by
    rintro name hLast rfl
    rw [literal_toList, List.getLast?_concat] at hLast
    exact hLast rfl
  have hReverse : (literal z).toList.reverse = 'n' :: (Value.intText z).reverse := by
    rw [literal_toList, List.reverse_concat]
  rw [named.eq_5 _ (hOther (by decide)) (hOther (by decide)) (hOther (by decide))
    (hOther (by decide)), hReverse]
  simp only [List.reverse_reverse, readInt?_intText]
  cases Value.intFits z <;> rfl

/-- **From the literal to the number and back.** A description that names a whole number by its
literal, whatever else it says, is read as that number, and the number is printed as that literal at
the top and inside other values, exactly if it has no more digits than may be converted. Otherwise
the description cannot be read: its literal is said to be unknown. -/
theorem literal_kept (z : ℤ) {members : List (String × Value)}
    (hNamed : Value.find? "unserializableValue" members = some (.str (literal z))) :
    (decode (.object members) = .ok (.bigint z) ↔
      (Text.asciiDigits z.natAbs).length ≤ digitLimit) ∧
    ((Text.asciiDigits z.natAbs).length ≤ digitLimit →
      ∀ top, Inspect.render top (.bigint z) = .ok (literal z)) ∧
    (digitLimit < (Text.asciiDigits z.natAbs).length →
      decode (.object members) =
        .error (.protocol s!"Unknown unserializable value: {literal z}")) := by
  have hDecode : decode (.object members) = named (.str (literal z)) := by
    simp only [decode, Value.holds, Value.index, hNamed]
    rfl
  have hFits : Value.intFits z = true ↔ (Text.asciiDigits z.natAbs).length ≤ digitLimit := by
    rw [Value.intFits, decide_eq_true_iff]
  rw [hDecode, named_literal, ← hFits]
  refine ⟨?_, fun hShort top => ?_, fun hLong => ?_⟩
  · split
    · next hShort => simp [hShort]
    · next hLong => simp [hLong]
  · have hText : String.ofList (Value.intText z ++ ['n']) = literal z := by
      rw [← literal_toList, String.ofList_toList]
    have hValue : (Value.bigint z).fits = true := hShort
    rw [Inspect.render, if_pos hValue]
    cases top <;> exact congrArg Except.ok hText
  · have hLimit : ¬ Value.intFits z = true :=
      fun hShort => absurd (hFits.mp hShort) (Nat.not_le.mpr hLong)
    rw [if_neg hLimit]

/-- A negative number of two digits is kept, among what else the browser says of it; the least number
with one digit more than the limit is not. -/
theorem literal_kept_and_lost :
    decode (.object [("type", .str "bigint"), ("unserializableValue", .str "-12n"),
      ("description", .str "-12n")]) = .ok (.bigint (-12)) ∧
    Inspect.render false (.bigint (-12)) = .ok "-12n" ∧
    ∃ z : ℤ, (Text.asciiDigits z.natAbs).length = digitLimit + 1 ∧
      decode (.object [("type", .str "bigint"), ("unserializableValue", .str (literal z))]) ≠
        .ok (.bigint z) := by
  have hLiteral : literal (-12) = "-12n" := by decide
  have hShort : (Text.asciiDigits (-12 : ℤ).natAbs).length ≤ digitLimit := by decide
  obtain ⟨hRead, hPrinted, -⟩ := literal_kept (-12) (show Value.find? "unserializableValue"
    [("type", .str "bigint"), ("unserializableValue", .str "-12n"), ("description", .str "-12n")] =
      some (.str (literal (-12))) by rw [hLiteral]; rfl)
  have hDigits : (Text.asciiDigits (((10 ^ digitLimit : ℕ) : ℤ)).natAbs).length = digitLimit + 1 := by
    have hZeros := Text.asciiDigits_mul_pow Nat.one_pos digitLimit
    rw [Nat.one_mul] at hZeros
    rw [Int.natAbs_natCast, hZeros, List.length_append, List.length_replicate, Nat.add_comm]
    rfl
  refine ⟨hRead.mpr hShort, hLiteral ▸ hPrinted hShort false, _, hDigits, fun hLong => ?_⟩
  exact absurd ((literal_kept _ rfl).1.mp hLong) (by rw [hDigits]; exact Nat.not_succ_le_self _)

end Remote

end PageReporter
