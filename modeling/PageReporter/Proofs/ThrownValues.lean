import Mathlib
import PageReporter.Proofs.NumberText
import PageReporter.Proofs.ReadValues
import PageReporter.Proofs.TabReports

/-!
# What is told of a value that was thrown

A script may throw anything, also a value that is no error. Such a value is told in its plain form,
while a console prints it in the manner of a script. The two forms agree for whole numbers, for
texts that say anything, and for those doubles that both lay out alike.

* `Layout.display_eq_console_iff` — which digits both forms lay out alike;
* `Inspect.LooksAlike`, `Inspect.plain_eq_render_iff` — which values look alike;
* `World.Attached.thrown_told` — what is reported of a value that was thrown.
-/

namespace PageReporter

/-! ## Layouts that agree -/

namespace Layout

variable {digits : List Char} {n : ℤ}

theorem display_digits : display.digits = Double.shortest := by
  dsimp only [display]

theorem exponent_not_mem_positional (hDigits : ∀ c ∈ digits, Text.isAsciiDigit c = true)
    {layout : Layout} (hEnd : layout.wholeEnd = []) : 'e' ∉ layout.positional ⟨digits, n⟩ := by
  have hMarker : 'e' ∉ digits := fun hMem => by cases hDigits _ hMem
  have hZeros : ∀ k, 'e' ∉ List.replicate k '0' := fun k hMem => by
    cases (List.mem_replicate.mp hMem).2
  unfold positional
  dsimp only
  rw [hEnd]
  split
  · simp [hMarker]
  · split
    · have hTake : 'e' ∉ digits.take n.toNat := fun hMem => hMarker (List.mem_of_mem_take hMem)
      have hDrop : 'e' ∉ digits.drop n.toNat := fun hMem => hMarker (List.mem_of_mem_drop hMem)
      simp [hTake, hDrop]
    · simp [hMarker]

theorem exponent_mem_scientific (layout : Layout) (d : Digits) : 'e' ∈ layout.scientific d := by
  unfold scientific
  simp

/-- Where both forms have a point, the display form is the longer one exactly for a whole number. -/
theorem positional_eq_iff : display.positional ⟨digits, n⟩ = console.positional ⟨digits, n⟩ ↔
    n < digits.length := by
  unfold positional
  dsimp only
  split
  next hWhole =>
    rw [List.append_right_inj]
    exact ⟨nofun, fun hLess => absurd hWhole (Int.not_le.mpr hLess)⟩
  next hFraction => exact iff_of_true rfl (Int.not_le.mp hFraction)

/-- Where both forms have an exponent, the display form pads it exactly if it has one digit. -/
theorem scientific_eq_iff : display.scientific ⟨digits, n⟩ = console.scientific ⟨digits, n⟩ ↔
    10 ≤ (n - 1).natAbs := by
  have hSome := List.length_pos_iff.mpr (Text.asciiDigits_ne_nil (n - 1).natAbs)
  have hOne : (Text.asciiDigits (n - 1).natAbs).length ≤ 1 ↔ (n - 1).natAbs < 10 ^ 1 :=
    Nat.length_toDigits_le_iff (by decide) (by decide)
  have hConsole : console.exponentWidth - (Text.asciiDigits (n - 1).natAbs).length = 0 := by
    show 1 - _ = 0
    omega
  unfold scientific
  dsimp only
  rw [hConsole, List.replicate_zero, List.append_assoc, List.append_assoc, List.append_right_inj]
  simp only [List.cons_append, List.nil_append, List.cons.injEq, true_and]
  constructor
  · intro hSame
    have hLength := congrArg List.length hSame
    rw [List.length_append, List.length_replicate] at hLength
    change 2 - _ + _ = _ at hLength
    omega
  · intro hTwo
    have hNone : display.exponentWidth - (Text.asciiDigits (n - 1).natAbs).length = 0 := by
      show 2 - _ = 0
      omega
    rw [hNone, List.replicate_zero, List.nil_append]

/-- Digits of which both forms write a fraction, or both an exponent of two digits or more. -/
def LaidAlike (d : Digits) : Prop :=
  (-4 < d.point ∧ d.point ≤ 16 ∧ d.point < d.digits.length) ∨ 21 < d.point ∨ d.point ≤ -9

theorem display_eq_console_iff (hDigits : ∀ c ∈ digits, Text.isAsciiDigit c = true) :
    display.writeDigits ⟨digits, n⟩ = console.writeDigits ⟨digits, n⟩ ↔
      LaidAlike ⟨digits, n⟩ := by
  have hDisplay : (display.lowest < n && n ≤ display.highest) = true ↔ -4 < n ∧ n ≤ 16 := by
    rw [Bool.and_eq_true, decide_eq_true_eq, decide_eq_true_eq]
    exact Iff.rfl
  have hConsole : (console.lowest < n && n ≤ console.highest) = true ↔ -6 < n ∧ n ≤ 21 := by
    rw [Bool.and_eq_true, decide_eq_true_eq, decide_eq_true_eq]
    exact Iff.rfl
  unfold writeDigits LaidAlike
  dsimp only
  by_cases hPoint : -4 < n ∧ n ≤ 16
  · rw [if_pos (hDisplay.mpr hPoint), if_pos (hConsole.mpr (by omega)), positional_eq_iff]
    omega
  rw [if_neg (mt hDisplay.mp hPoint)]
  by_cases hInside : -6 < n ∧ n ≤ 21
  · -- Only one of the two has an exponent here.
    rw [if_pos (hConsole.mpr hInside)]
    refine iff_of_false (fun hSame => ?_) (by omega)
    exact exponent_not_mem_positional hDigits rfl (hSame ▸ exponent_mem_scientific display _)
  · rw [if_neg (mt hConsole.mp hInside), scientific_eq_iff]
    omega

end Layout

/-! ## Values that look alike -/

namespace Value

/-- A value without parts, as a script can throw it. -/
def IsPrimitive : Value → Prop
  | .null => True
  | .bool _ => True
  | .int _ => True
  | .double _ => True
  | .str _ => True
  | _ => False

end Value

namespace Inspect

/-- The values whose plain form is what a console prints: whole numbers, texts, and doubles whose
shortest digits both lay out alike. -/
def LooksAlike : Value → Prop
  | .int _ => True
  | .str _ => True
  | .double (.finite _ units _) => units ≠ 0 ∧ Layout.LaidAlike (Double.shortest units)
  | _ => False

theorem double_alike_iff (x : Double) :
    Layout.display.write x = Layout.console.write x ↔ LooksAlike (.double x) := by
  cases x with
  | nan => exact iff_of_false (by decide) id
  | infinite negative => exact iff_of_false (by cases negative <;> decide) id
  | finite negative units fits =>
    by_cases hZero : units = 0
    · subst hZero
      refine iff_of_false ?_ fun hAlike => hAlike.1 rfl
      cases negative <;> simp [Layout.write, Layout.display, Layout.console]
    obtain ⟨s, k, n, -, hDigits⟩ := Double.shortest_isShortest negative fits hZero
    have hLaid := Layout.display_eq_console_iff (n := n) (Text.asciiDigits_ascii s)
    rw [← hDigits] at hLaid
    have hSign : Layout.display.write (.finite negative units fits) =
        Layout.console.write (.finite negative units fits) ↔
          Layout.display.writeDigits (Double.shortest units) =
            Layout.console.writeDigits (Double.shortest units) := by
      simp only [Layout.write, if_neg hZero, Layout.console_digits, Layout.display_digits]
      cases negative
      · simp only [Bool.false_eq_true, if_false]
      · simp only [if_true, List.cons.injEq, true_and]
    rw [hSign, hLaid, LooksAlike, and_iff_right hZero, hDigits]

/-- The plain form of a value without parts is what a console prints exactly if it looks alike. -/
theorem plain_eq_render_iff {v : Value} (hPrimitive : v.IsPrimitive) (hFits : v.fits = true) :
    render true v = .ok v.plain ↔ LooksAlike v := by
  rw [render, if_pos hFits, if_pos rfl, Except.ok.injEq]
  cases v with
  | null => exact iff_of_false (by decide) id
  | bool b => exact iff_of_false (by cases b <;> decide) id
  | int i => exact iff_of_true rfl trivial
  | str s => exact iff_of_true String.ofList_toList trivial
  | double x =>
    rw [← double_alike_iff, eq_comm]
    exact String.ofList_inj
  | _ => exact hPrimitive.elim

end Inspect

/-! ## Forms that say something -/

namespace Layout

theorem writeDigits_ne_nil (layout : Layout) {d : Digits} (hSome : d.digits ≠ []) :
    layout.writeDigits d ≠ [] := by
  unfold writeDigits
  split
  · unfold positional
    split
    · simp [hSome]
    · split <;> simp
  · exact List.ne_nil_of_mem (exponent_mem_scientific layout d)

theorem display_ne_nil (x : Double) : display.write x ≠ [] := by
  cases x with
  | nan => decide
  | infinite negative => cases negative <;> decide
  | finite negative units fits =>
    by_cases hZero : units = 0
    · cases negative <;> simp [write, hZero]
    obtain ⟨s, k, n, -, hDigits⟩ := Double.shortest_isShortest negative fits hZero
    have hSize := writeDigits_ne_nil display (d := ⟨Text.asciiDigits s, n⟩)
      (Text.asciiDigits_ne_nil s)
    cases negative <;> simp [write, hZero, display_digits, hDigits, hSize]

end Layout

/-- The plain form of a value without parts says something, unless it is an empty text. -/
theorem Value.plain_ne_empty {v : Value} (hPrimitive : v.IsPrimitive) (hSome : v ≠ .str "") :
    v.plain ≠ "" := by
  have hChars : ∀ {cs : List Char}, cs ≠ [] → String.ofList cs ≠ "" := fun hSome hEmpty =>
    hSome (String.ofList_eq_empty_iff.mp hEmpty)
  cases v with
  | str s => exact fun hEmpty => hSome (congrArg Value.str hEmpty)
  | null => decide
  | bool b => cases b <;> decide
  | int i =>
    refine hChars ?_
    show Value.intText i ≠ []
    unfold Value.intText
    split <;> simp [Text.asciiDigits_ne_nil]
  | double x => exact hChars (Layout.display_ne_nil x)
  | _ => exact hPrimitive.elim

/-! ## What is told -/

/-- What is told of a value that was thrown: its plain form, or a failure that says nothing. -/
def thrownText (v : Value) : String :=
  if v.plain = "" then "PageError(message='', stack='')" else v.plain

/-- What is told of a value that was thrown is what a console prints exactly if it looks alike and
says something. -/
theorem thrownText_eq_render_iff {v : Value} (hPrimitive : v.IsPrimitive) (hFits : v.fits = true) :
    Inspect.render true v = .ok (thrownText v) ↔ Inspect.LooksAlike v ∧ v ≠ .str "" := by
  unfold thrownText
  by_cases hEmpty : v = .str ""
  · subst hEmpty
    exact iff_of_false (by decide) fun hBoth => hBoth.2 rfl
  · rw [if_neg (Value.plain_ne_empty hPrimitive hEmpty), and_iff_left hEmpty]
    exact Inspect.plain_eq_render_iff hPrimitive hFits

namespace Event

/-- The line of an event with one text and no place. -/
theorem line_of_text (category : Category) (text : String) :
    line ⟨category, [.str text], none⟩ = .ok s!"[{category.tag}] {text}" := by
  have hText : Inspect.render true (.str text) = .ok text := by
    show Except.ok (String.ofList text.toList) = _
    rw [String.ofList_toList]
  have hPieces : pieces [.str text] = .ok [text] := by
    rw [pieces, hText]
    rfl
  have hLine : line ⟨category, [.str text], none⟩ =
      .ok (" ".intercalate [s!"[{category.tag}]", text]) := by
    simp only [line, hPieces]
    rfl
  have hTag : "[" ++ category.tag ++ "]" ++ " " = "[" ++ category.tag ++ "] " :=
    String.append_assoc
  rw [hLine]
  exact congrArg (fun tag => Except.ok (tag ++ text)) hTag

end Event

namespace PageFailure

theorem text_of_message (message : String) : text ⟨.str message, .str ""⟩ =
    .str (if message = "" then "PageError(message='', stack='')" else message) := by
  by_cases hEmpty : message = ""
  · have hShown : (let message := (Value.str "").display
        let stack := (Value.str "").display
        s!"PageError(message={message}, stack={stack})") = "PageError(message='', stack='')" := by
      decide
    subst hEmpty
    exact congrArg Value.str hShown
  · simp [text, Value.truthy, hEmpty]

end PageFailure

namespace Tab

/-- An event tells that a value without parts was thrown, and which; and this is its text. -/
structure Throws (params : Value) (text : String) (v : Value) : Prop where
  parts : ∃ members details exception, params = .object members ∧
    Value.find? "exceptionDetails" members = some (.object details) ∧
    textIn "text" details = some text ∧
    Value.find? "exception" details = some (.object exception) ∧
    Value.find? "subtype" exception ≠ some (.str "error") ∧
    Value.find? "value" exception = some v
  primitive : v.IsPrimitive

section Reading

variable {v : Value} {details exception : List (String × Value)}

theorem failureOf_thrown (hException : Value.find? "exception" details = some (.object exception))
    (hSubtype : Value.find? "subtype" exception ≠ some (.str "error"))
    (hValue : Value.find? "value" exception = some v) (hFits : v.fits = true) :
    failureOf (.object details) = .ok ⟨.str v.plain, .str ""⟩ := by
  -- The exception holds a value, so it is not empty.
  have hPart : (valueIn "exception" .null details).orElse (.object []) = .object exception := by
    rw [valueIn, hException]
    cases exception <;> rfl
  have hPlain : (valueIn "subtype" .null exception).same (.str "error") = false := by
    rw [← Bool.not_eq_true, Value.same_str, valueIn]
    cases hFind : Value.find? "subtype" exception with
    | none => exact Value.noConfusion
    | some subtype => exact fun hError => hSubtype (hFind.trans (congrArg some hError))
  have hHolds : (Value.object exception).holds "value" = .ok true := by
    rw [Value.holds, hValue]
    rfl
  have hIndex : (Value.object exception).index "value" = .ok v := by
    rw [Value.index, hValue]
  unfold failureOf
  simp only [bind, Except.bind, Value.get, memberOr_valueIn, hPart, hPlain, Bool.false_and, hHolds,
    hIndex, Value.text_ok hFits]
  rfl

variable {params : Value} {text : String}

theorem Throws.fits (hThrows : Throws params text v) (hFits : params.fits = true) :
    v.fits = true := by
  obtain ⟨members, details, exception, rfl, hDetails, -, hException, -, hValue⟩ := hThrows.parts
  have hPart : (Value.object exception).fits = true :=
    Value.find?_fits (Value.find?_fits hFits hDetails) hException
  exact Value.find?_fits hPart hValue

/-- A value that was thrown is signalled by itself, and its text tells whether it was thrown in a
promise. -/
theorem exceptionSignal_thrown (hThrows : Throws params text v) (hFits : params.fits = true) :
    exceptionSignal params =
      .ok (if "Uncaught (in promise)".toList.isPrefixOf text.toList then
        .unhandledRejection ⟨.str v.plain, .str ""⟩ else .pageError ⟨.str v.plain, .str ""⟩) := by
  have hValueFits := hThrows.fits hFits
  obtain ⟨members, details, exception, rfl, hDetails, hText, hException, hSubtype, hValue⟩ :=
    hThrows.parts
  have hPart : (valueIn "exceptionDetails" .null members).orElse (.object []) =
      .object details := by
    rw [valueIn, hDetails]
    cases details <;> rfl
  unfold exceptionSignal
  simp only [bind, Except.bind, Value.get, memberOr_valueIn, hPart, memberOr_textIn hText,
    failureOf_thrown hException hSubtype hValue hValueFits, Value.startsWith]
  split <;> rfl

end Reading

end Tab

namespace World

variable {α : Type} {w : World α} {number : Nat} {t : TabRecord}

theorem reportsOfSignal_pageError (message : String) :
    reportsOfSignal (.pageError ⟨.str message, .str ""⟩) = [⟨.pageError,
      [.str (if message = "" then "PageError(message='', stack='')" else message)], none⟩] := by
  rw [← PageFailure.text_of_message]
  rfl

theorem reportsOfSignal_unhandledRejection (message : String) :
    reportsOfSignal (.unhandledRejection ⟨.str message, .str ""⟩) = [⟨.unhandledRejection,
      [.str (if message = "" then "PageError(message='', stack='')" else message)], none⟩] := by
  rw [← PageFailure.text_of_message]
  rfl

/-- **What is told of a value that was thrown.** Of a value without parts that was thrown, a tab
that an open feed follows reports exactly one event: a rejection if the text begins as that of a
promise, and an error of the page otherwise. Behind its tag the line has the plain form of the
value, and that is what a console prints exactly for whole numbers, for texts that are not empty,
and for those doubles that both forms lay out alike. -/
theorem Attached.thrown_told (hAttached : Attached number t w) {params v : Value} {text : String}
    (hThrows : Tab.Throws params text v) (hFits : params.fits = true) :
    ∃ event, reported (fun w => (w.tabReceive number "Runtime.exceptionThrown" params).1) w =
        [event] ∧
      event.category = (if "Uncaught (in promise)".toList.isPrefixOf text.toList then
        .unhandledRejection else .pageError) ∧
      event.line = .ok s!"[{event.category.tag}] {thrownText v}" ∧
      (Inspect.render true v = .ok (thrownText v) ↔ Inspect.LooksAlike v ∧ v ≠ .str "") := by
  have hSignal : t.tab.receive w.scenario.wallClock "Runtime.exceptionThrown" params =
      t.tab.signalling (Tab.exceptionSignal params) := rfl
  rw [Tab.exceptionSignal_thrown hThrows hFits] at hSignal
  have hAlike := thrownText_eq_render_iff hThrows.primitive (hThrows.fits hFits)
  split at hSignal
  next hPromise =>
    obtain ⟨-, -, -, hReported⟩ := hAttached.receive hSignal (List.forall_mem_singleton.mpr nofun)
    refine ⟨⟨.unhandledRejection, [.str (thrownText v)], none⟩, ?_, (if_pos hPromise).symm,
      Event.line_of_text _ _, hAlike⟩
    rw [hReported]
    exact (List.flatMap_singleton ..).trans (reportsOfSignal_unhandledRejection v.plain)
  next hNone =>
    obtain ⟨-, -, -, hReported⟩ := hAttached.receive hSignal (List.forall_mem_singleton.mpr nofun)
    refine ⟨⟨.pageError, [.str (thrownText v)], none⟩, ?_, (if_neg hNone).symm,
      Event.line_of_text _ _, hAlike⟩
    rw [hReported]
    exact (List.flatMap_singleton ..).trans (reportsOfSignal_pageError v.plain)

/-- An event that tells that nothing was thrown in a promise. -/
def thrownNull : Value :=
  .object [("exceptionDetails", .object [("text", .str "Uncaught (in promise)"),
    ("exception", .object [("type", .str "object"), ("subtype", .str "null"), ("value", .null)])])]

/-- It is told in another way than it is printed. -/
theorem Attached.thrown_told_null :
    Tab.Throws thrownNull "Uncaught (in promise)" .null ∧
    ∃ event, reported (fun w => (w.tabReceive 0 "Runtime.exceptionThrown" thrownNull).1)
        followedTab = [event] ∧
      event.line = .ok "[unhandled-rejection] None" ∧
      Inspect.render true .null = .ok "null" := by
  have hThrows : Tab.Throws thrownNull "Uncaught (in promise)" .null :=
    ⟨⟨_, _, _, rfl, rfl, rfl, rfl, by simp [Value.find?], rfl⟩, trivial⟩
  obtain ⟨event, hReported, hCategory, hLine, -⟩ :=
    attached_followedTab.thrown_told hThrows (by decide)
  refine ⟨hThrows, event, hReported, ?_, by decide⟩
  rw [hLine, hCategory]
  decide

end World

end PageReporter
