import PageReporter.Proofs.CommandRun
import PageReporter.Proofs.ReadValues

/-!
# The table of commands

What a word of a command text does is told by a table, from the word and the one behind it: what
is printed, whether the run pauses or clicks, and by how many words the cursor moves. Here the
table stands by itself, and is read with a cursor over the words of a text. A text runs as its
words are read.

* `Delay.Spells` — how a time argument is written; `Delay.split?_spells` — and how it is read;
* `Command.Row` — the rows of the table; `Command.Reads` — words read with a cursor;
* `Command.runAll_reads` — commands run as the words they are made of are read;
* `Command.runText_reads` — so does a text, and its outcomes take its words apart.

A click that is called off, and not merely fails, is the one thing that ends a run early.
-/

namespace PageReporter

theorem tenTo_le {j k : Nat} (hLe : j ≤ k) : tenTo j ≤ tenTo k :=
  Nat.pow_le_pow_right (by decide) hLe

/-! ## Time arguments -/

namespace Delay

/-- The letters of a unit. -/
def Unit.letters : Unit → List Char
  | .milliseconds => ['m', 's']
  | .seconds => ['s']

/-- How a time argument is written: digits, then the letters of a unit. -/
structure Spells (arg : String) (digits : List Char) (unit : Unit) : Prop where
  some : digits ≠ []
  ascii : ∀ c ∈ digits, Text.isAsciiDigit c = true
  letters : arg.toList = digits ++ unit.letters

/-- The letters of a unit begin with no digit, so the digits end where the unit begins. -/
theorem takeWhile_spelled {digits : List Char} (hAscii : ∀ c ∈ digits, Text.isAsciiDigit c = true)
    (unit : Unit) (tail : List Char) :
    (digits ++ unit.letters ++ tail).takeWhile Text.isAsciiDigit = digits ∧
      (digits ++ unit.letters ++ tail).dropWhile Text.isAsciiDigit = unit.letters ++ tail := by
  have hTake : (unit.letters ++ tail).takeWhile Text.isAsciiDigit = [] := by cases unit <;> rfl
  have hDrop : (unit.letters ++ tail).dropWhile Text.isAsciiDigit = unit.letters ++ tail := by
    cases unit <;> rfl
  rw [List.append_assoc]
  constructor
  · rw [List.takeWhile_append_of_pos hAscii, hTake, List.append_nil]
  · rw [List.dropWhile_append_of_pos hAscii, hDrop]

/-- Letters name a unit if they are its letters, behind which one line feed may stand. -/
theorem unit?_eq_some_iff {cs : List Char} {unit : Unit} :
    unit? cs = some unit ↔ cs = unit.letters ∨ cs = unit.letters ++ ['\n'] := by
  constructor
  · intro hUnit
    unfold unit? at hUnit
    split at hUnit <;> cases hUnit
    · exact .inl rfl
    · exact .inr rfl
    · exact .inl rfl
    · exact .inr rfl
  · rintro (rfl | rfl) <;> cases unit <;> rfl

/-- A text is split into the digits that it begins with and the unit behind them, if there is nothing
else but one line feed at the end. -/
theorem split?_eq_some_iff {cs digits : List Char} {unit : Unit} :
    split? cs = some (digits, unit) ↔
      digits ≠ [] ∧ (∀ c ∈ digits, Text.isAsciiDigit c = true) ∧
        (cs = digits ++ unit.letters ∨ cs = digits ++ unit.letters ++ ['\n']) := by
  constructor
  · intro hSplit
    unfold split? at hSplit
    dsimp only at hSplit
    split at hSplit
    · cases hSplit
    · next hSome =>
      obtain ⟨found, hUnit, hParts⟩ := Option.map_eq_some_iff.mp hSplit
      obtain ⟨rfl, rfl⟩ := Prod.mk.inj hParts
      refine ⟨by simpa using hSome, fun c hMem => List.mem_takeWhile_imp hMem, ?_⟩
      rw [List.append_assoc]
      rcases unit?_eq_some_iff.mp hUnit with hRest | hRest
      · exact .inl (by rw [← hRest, List.takeWhile_append_dropWhile])
      · exact .inr (by rw [← hRest, List.takeWhile_append_dropWhile])
  · rintro ⟨hSome, hAscii, hText⟩
    obtain ⟨tail, rfl, hUnit⟩ : ∃ tail, cs = digits ++ unit.letters ++ tail ∧
        unit? (unit.letters ++ tail) = some unit := by
      rcases hText with hText | hText
      · exact ⟨[], by rw [hText, List.append_nil],
          unit?_eq_some_iff.mpr (.inl (List.append_nil _))⟩
      · exact ⟨['\n'], hText, unit?_eq_some_iff.mpr (.inr rfl)⟩
    obtain ⟨hTake, hDrop⟩ := takeWhile_spelled hAscii unit tail
    have hDigits : ¬ digits.isEmpty = true := by simpa using hSome
    simp only [split?, hTake, hDrop, hUnit]
    rw [if_neg hDigits, Option.map_some]

/-- **Reading time arguments.** A word is split into digits and a unit exactly if it is spelled
so. The line feed that may stand at the end stands in no word. -/
theorem split?_spells {arg : String} (hWord : '\n' ∉ arg.toList) {digits : List Char}
    {unit : Unit} : split? arg.toList = some (digits, unit) ↔ Spells arg digits unit := by
  rw [split?_eq_some_iff]
  constructor
  · rintro ⟨hSome, hAscii, hText | hText⟩
    · exact ⟨hSome, hAscii, hText⟩
    · exact absurd (hText ▸ List.mem_concat_self) hWord
  · intro hSpells
    exact ⟨hSpells.some, hSpells.ascii, .inl hSpells.letters⟩

/-- A word is spelled in one way. -/
theorem Spells.unique {arg : String} {digits others : List Char} {unit other : Unit}
    (hFirst : Spells arg digits unit) (hSecond : Spells arg others other) :
    digits = others ∧ unit = other := by
  obtain ⟨hTake, hDrop⟩ := takeWhile_spelled hFirst.ascii unit []
  obtain ⟨hTake', hDrop'⟩ := takeWhile_spelled hSecond.ascii other []
  simp only [List.append_nil] at hTake hDrop hTake' hDrop'
  rw [← hFirst.letters, hSecond.letters] at hTake hDrop
  have hLetters : unit.letters = other.letters := hDrop.symm.trans hDrop'
  refine ⟨hTake.symm.trans hTake', ?_⟩
  cases unit <;> cases other <;> first | rfl | cases hLetters

/-- Three hundred digits are few enough for every part of a wait. -/
theorem not_isExtreme {arg : String} (hWord : '\n' ∉ arg.toList)
    (hShort : ∀ digits unit, Spells arg digits unit → digits.length ≤ 300) :
    isExtreme arg = false := by
  unfold isExtreme
  cases hSplit : split? arg.toList with
  | none => rfl
  | some parts =>
    obtain ⟨digits, unit⟩ := parts
    have hSpells := (split?_spells hWord).mp hSplit
    have hLength := hShort digits unit hSpells
    have hValue : Text.ofAsciiDigits digits < tenTo digits.length :=
      Text.ofAsciiDigits_lt hSpells.ascii
    have hPower : tenTo digits.length ≤ tenTo 300 := tenTo_le hLength
    have hUnit : unit.size ≤ 1000 := by cases unit <;> decide
    have hProduct : Text.ofAsciiDigits digits * unit.size ≤ tenTo 300 * 1000 :=
      Nat.mul_le_mul (by omega) hUnit
    have hLimit : tenTo 300 < twoTo 1024 - twoTo 970 := by decide +kernel
    have hDigits : (300 : Nat) < digitLimit := by decide
    simp only [Bool.or_eq_false_iff, decide_eq_false_iff_not]
    omega

/-- The milliseconds of a delay are announced in decimal digits. -/
theorem label_eq {milliseconds : Nat}
    (hModest : milliseconds < 1000 * (twoTo 1024 - twoTo 970)) :
    label milliseconds = .ok (toString milliseconds) := by
  obtain ⟨text, hLabel⟩ := label_modest hModest
  unfold label Value.text at hLabel ⊢
  split at hLabel
  · next hFits =>
    rw [if_pos hFits]
    rfl
  · cases hLabel

/-- And counted as the double nearest to their thousandth. -/
theorem seconds_eq {milliseconds : Nat}
    (hModest : milliseconds < 1000 * (twoTo 1024 - twoTo 970)) :
    seconds milliseconds = .ok (Double.ofRatio false milliseconds 1000) := by
  have hFinite : ¬ (Double.ofRatio false milliseconds 1000).isInfinite = true := fun hInfinite =>
    absurd hModest (Nat.not_lt.mpr ((ofRatio_isInfinite (by decide) _).mp hInfinite))
  have hSign : decide ((milliseconds : Int) < 0) = false := by simp
  unfold seconds Value.thousandth
  simp only [Value.number?, Int.natAbs_natCast, hSign]
  rw [if_neg hFinite]

end Delay

namespace Command

variable {σ : Type} {click : String → σ → σ × Except Fault Unit}

/-! ## The table -/

/-- The column of the table that a word belongs to. -/
inductive Verb
  | wait
  | click
  | unknown (word : String)

/-- The column of a word. -/
def Verb.ofWord (word : String) : Verb :=
  if word = "wait" then .wait else if word = "click" then .click else .unknown word

/-- The rows of the table: for a word and the one behind it, what is asked for in order, the page
after it, and the outcome. -/
inductive Row (click : String → σ → σ × Except Fault Unit) (page : σ) :
    Verb → Option String → List Hand.Op → σ → Except Fault Outcome → Prop
  | waitAlone {reason : String}
      (hReason : reason = "wait command needs a time argument (e.g., 5s, 1000ms).") :
      Row click page .wait none [.print (.err, s!"[error] {reason}")] page
        (.ok ⟨.syntaxError, 1, reason, none⟩)
  | wait {arg : String} {digits : List Char} {unit : Delay.Unit} {milliseconds : Nat}
      (hSpells : Delay.Spells arg digits unit)
      (hDelay : milliseconds = Text.ofAsciiDigits digits * unit.size) :
      Row click page .wait (some arg)
        [.print (.out, s!"[wait] {milliseconds}ms"),
          .pause (Double.ofRatio false milliseconds 1000)] page
        (.ok ⟨.ok, 2, "", none⟩)
  | waitWrong {arg reason : String} (hWrong : ∀ digits unit, ¬ Delay.Spells arg digits unit)
      (hReason : reason = s!"Invalid time format for wait: {arg}. "
        ++ "Use 's' for seconds or 'ms' for milliseconds.") :
      Row click page .wait (some arg) [.print (.err, s!"[error] {reason}")] page
        (.ok ⟨.syntaxError, 2, reason, none⟩)
  | clickAlone {reason : String} (hReason : reason = "click command needs a selector argument.") :
      Row click page .click none [.print (.err, s!"[error] {reason}")] page
        (.ok ⟨.syntaxError, 1, reason, none⟩)
  | click {selector : String} {after : σ} (hClick : click selector page = (after, .ok ())) :
      Row click page .click (some selector)
        [.print (.out, s!"[click] {selector}"), .click selector] after
        (.ok ⟨.ok, 2, "", none⟩)
  | clickFails {selector reason : String} {after : σ} {e : Fault}
      (hClick : click selector page = (after, .error e)) (hOrdinary : e.isOrdinary = true)
      (hReason : reason = s!"Failed to click \"{selector}\": {e.message}") :
      Row click page .click (some selector)
        [.print (.out, s!"[click] {selector}"), .click selector,
          .print (.err, s!"[error] {reason}")] after
        (.ok ⟨.runtimeError, 2, reason, some e⟩)
  | clickEnds {selector : String} {after : σ} {e : Fault}
      (hClick : click selector page = (after, .error e)) (hOff : e.isOrdinary = false) :
      Row click page .click (some selector)
        [.print (.out, s!"[click] {selector}"), .click selector] after (.error e)
  | unknown {word reason : String} {next : Option String}
      (hReason : reason = s!"Unknown command: {word}") :
      Row click page (.unknown word) next [.print (.err, s!"[error] {reason}")] page
        (.ok ⟨.syntaxError, 1, reason, none⟩)

/-- Words read by the table from a cursor on. Reading is over when the cursor stands behind the
last word, and nowhere else but at a click that is called off. -/
inductive Reads (click : String → σ → σ × Except Fault Unit) (words : List String) :
    Nat → σ → List Hand.Op → σ → Except Fault (List Outcome) → Prop
  | finished {page : σ} : Reads click words words.length page [] page (.ok [])
  | row {i : Nat} {page after final : σ} {word : String} {ops more : List Hand.Op}
      {outcome : Outcome} {result : Except Fault (List Outcome)} (hWord : words[i]? = some word)
      (hRow : Row click page (.ofWord word) words[i + 1]? ops after (.ok outcome))
      (hRest : Reads click words (i + outcome.advance) after more final result) :
      Reads click words i page (ops ++ more) final (result.map (outcome :: ·))
  | ends {i : Nat} {page after : σ} {word : String} {ops : List Hand.Op} {e : Fault}
      (hWord : words[i]? = some word)
      (hRow : Row click page (.ofWord word) words[i + 1]? ops after (.error e)) :
      Reads click words i page ops after (.error e)

/-- The table has one row for a word and the one behind it. -/
theorem Row.unique {page after final : σ} {verb : Verb} {next : Option String}
    {ops others : List Hand.Op} {result other : Except Fault Outcome}
    (hFirst : Row click page verb next ops after result)
    (hSecond : Row click page verb next others final other) :
    ops = others ∧ after = final ∧ result = other := by
  -- Rows for the same words differ by how an argument is spelled or what a click does.
  cases hFirst with
  | waitAlone hReason =>
    cases hSecond with
    | waitAlone hReason' =>
      rw [hReason, hReason']
      exact ⟨rfl, rfl, rfl⟩
  | wait hSpells hDelay =>
    cases hSecond with
    | wait hSpells' hDelay' =>
      obtain ⟨rfl, rfl⟩ := hSpells.unique hSpells'
      rw [hDelay, hDelay']
      exact ⟨rfl, rfl, rfl⟩
    | waitWrong hWrong => exact absurd hSpells (hWrong _ _)
  | waitWrong hWrong hReason =>
    cases hSecond with
    | wait hSpells => exact absurd hSpells (hWrong _ _)
    | waitWrong _ hReason' =>
      rw [hReason, hReason']
      exact ⟨rfl, rfl, rfl⟩
  | clickAlone hReason =>
    cases hSecond with
    | clickAlone hReason' =>
      rw [hReason, hReason']
      exact ⟨rfl, rfl, rfl⟩
  | click hClick =>
    cases hSecond with
    | click hClick' =>
      cases hClick.symm.trans hClick'
      exact ⟨rfl, rfl, rfl⟩
    | clickFails hClick' => cases hClick.symm.trans hClick'
    | clickEnds hClick' => cases hClick.symm.trans hClick'
  | clickFails hClick hOrdinary hReason =>
    cases hSecond with
    | click hClick' => cases hClick.symm.trans hClick'
    | clickFails hClick' _ hReason' =>
      cases hClick.symm.trans hClick'
      rw [hReason, hReason']
      exact ⟨rfl, rfl, rfl⟩
    | clickEnds hClick' hOff =>
      cases hClick.symm.trans hClick'
      rw [hOrdinary] at hOff
      cases hOff
  | clickEnds hClick hOff =>
    cases hSecond with
    | click hClick' => cases hClick.symm.trans hClick'
    | clickFails hClick' hOrdinary =>
      cases hClick.symm.trans hClick'
      rw [hOrdinary] at hOff
      cases hOff
    | clickEnds hClick' =>
      cases hClick.symm.trans hClick'
      exact ⟨rfl, rfl, rfl⟩
  | unknown hReason =>
    cases hSecond with
    | unknown hReason' =>
      rw [hReason, hReason']
      exact ⟨rfl, rfl, rfl⟩

/-- So words are read in one way. -/
theorem Reads.unique {words : List String} {i : Nat} {page after final : σ}
    {ops others : List Hand.Op} {result other : Except Fault (List Outcome)}
    (hFirst : Reads click words i page ops after result)
    (hSecond : Reads click words i page others final other) :
    ops = others ∧ after = final ∧ result = other := by
  induction hFirst generalizing others final other with
  | finished =>
    -- Behind the last word there is none to read.
    have hNone : words[words.length]? = none := List.getElem?_eq_none (Nat.le_refl _)
    cases hSecond with
    | finished => exact ⟨rfl, rfl, rfl⟩
    | row hWord => cases hNone.symm.trans hWord
    | ends hWord => cases hNone.symm.trans hWord
  | row hWord hRow hRest ih =>
    cases hSecond with
    | finished =>
      have hNone : words[words.length]? = none := List.getElem?_eq_none (Nat.le_refl _)
      cases hNone.symm.trans hWord
    | row hWord' hRow' hRest' =>
      obtain rfl := Option.some.inj (hWord.symm.trans hWord')
      obtain ⟨rfl, rfl, hOutcome⟩ := hRow.unique hRow'
      obtain rfl := Except.ok.inj hOutcome
      obtain ⟨rfl, rfl, rfl⟩ := ih hRest'
      exact ⟨rfl, rfl, rfl⟩
    | ends hWord' hRow' =>
      obtain rfl := Option.some.inj (hWord.symm.trans hWord')
      cases (hRow.unique hRow').2.2
  | ends hWord hRow =>
    cases hSecond with
    | finished =>
      have hNone : words[words.length]? = none := List.getElem?_eq_none (Nat.le_refl _)
      cases hNone.symm.trans hWord
    | row hWord' hRow' _ =>
      obtain rfl := Option.some.inj (hWord.symm.trans hWord')
      cases (hRow.unique hRow').2.2
    | ends hWord' hRow' =>
      obtain rfl := Option.some.inj (hWord.symm.trans hWord')
      obtain ⟨rfl, rfl, hFault⟩ := hRow.unique hRow'
      exact ⟨rfl, rfl, by rw [Except.error.inj hFault]⟩

/-! ## Commands by the table -/

/-- How a command that has a row runs, and what follows it. -/
def RunsAs (click : String → σ → σ × Except Fault Unit) (page : σ) (command : Command)
    (ops : List Hand.Op) (after : σ) : Except Fault Outcome → Prop
  | .ok outcome => outcome.advance = command.width ∧
      ∀ rest, Hand.rehearse click (runAll (command :: rest)) page =
        (ops ++ (Hand.rehearse click (runAll rest) after).1,
          (Hand.rehearse click (runAll rest) after).2.1,
          (Hand.rehearse click (runAll rest) after).2.2.map (outcome :: ·))
  | .error e => ∀ rest,
      Hand.rehearse click (runAll (command :: rest)) page = (ops, after, .error e)

/-- A command that ends with an outcome runs as a row that has its report behind what it asked
for. -/
theorem runsAs_ok {command : Command} {outcome : Outcome} {page after : σ} {ops : List Hand.Op}
    (hRun : Hand.rehearse click (run command) page = (ops, after, .ok outcome))
    (hWidth : outcome.advance = command.width) :
    RunsAs click page command (ops ++ reported outcome) after (.ok outcome) := by
  refine ⟨hWidth, fun rest => ?_⟩
  rw [runAll_cons hRun, List.append_assoc]

/-- A command that is not written as it should be runs as a row that only reports it. -/
theorem runsAs_refused (click : String → σ → σ × Except Fault Unit) (page : σ)
    {command : Command} {reason : String}
    (hRun : run command = pure (.syntaxError command reason)) :
    RunsAs click page command [.print (.err, s!"[error] {reason}")] page
      (.ok (.syntaxError command reason)) := by
  have hRefused : Hand.rehearse click (run command) page =
      ([], page, .ok (.syntaxError command reason)) := by
    rw [hRun]
    rfl
  exact runsAs_ok hRefused rfl

/-- A wait that is not extreme has a row. -/
theorem wait_row (click : String → σ → σ × Except Fault Unit) {arg : String}
    (hWord : '\n' ∉ arg.toList) (hModest : Delay.isExtreme arg = false) (page : σ) :
    ∃ ops after result, Row click page .wait (some arg) ops after result ∧
      RunsAs click page (.wait (some arg)) ops after result := by
  unfold Delay.isExtreme at hModest
  cases hSplit : Delay.split? arg.toList with
  | none =>
    -- What is not spelled as a delay is reported as such.
    have hParse : Delay.parse? arg = .ok none := by rw [Delay.parse?, hSplit]
    have hWrong : ∀ digits unit, ¬ Delay.Spells arg digits unit := by
      intro digits unit hSpells
      cases hSplit.symm.trans ((Delay.split?_spells hWord).mpr hSpells)
    have hRun : run (.wait (some arg)) = pure (.syntaxError (.wait (some arg))
        (s!"Invalid time format for wait: {arg}. "
          ++ "Use 's' for seconds or 'ms' for milliseconds.")) := by
      simp only [run, hParse]
      rfl
    exact ⟨_, _, _, .waitWrong hWrong rfl, runsAs_refused click page hRun⟩
  | some parts =>
    obtain ⟨digits, unit⟩ := parts
    have hSpells := (Delay.split?_spells hWord).mp hSplit
    simp only [hSplit, Bool.or_eq_false_iff, decide_eq_false_iff_not, Nat.not_lt, Nat.not_le]
      at hModest
    obtain ⟨hShort, hSmall⟩ := hModest
    have hParse : Delay.parse? arg = .ok (some (Text.ofAsciiDigits digits * unit.size)) := by
      simp only [Delay.parse?, hSplit]
      rw [if_neg (Nat.not_lt.mpr hShort)]
    have hRun : Hand.rehearse click (run (.wait (some arg))) page =
        ([.print (.out, s!"[wait] {Text.ofAsciiDigits digits * unit.size}ms"),
          .pause (Double.ofRatio false (Text.ofAsciiDigits digits * unit.size) 1000)], page,
          .ok (.success (.wait (some arg)))) := by
      rw [run_wait hParse, Delay.label_eq hSmall, Delay.seconds_eq hSmall]
      rfl
    exact ⟨_, _, _, .wait hSpells rfl, runsAs_ok hRun rfl⟩

/-- So has every click, whatever comes of it. -/
theorem click_row (click : String → σ → σ × Except Fault Unit) (selector : String) (page : σ) :
    ∃ ops after result, Row click page .click (some selector) ops after result ∧
      RunsAs click page (.click (some selector)) ops after result := by
  have hRun := rehearse_click click selector page
  rcases hClick : click selector page with ⟨after, e | u⟩
  · rw [hClick] at hRun
    cases hOrdinary : e.isOrdinary with
    | true =>
      rw [afterClick_ordinary selector hOrdinary] at hRun
      exact ⟨_, _, _, .clickFails hClick hOrdinary rfl, runsAs_ok hRun rfl⟩
    | false =>
      -- A click that is called off is not taken for a failure, and ends everything.
      have hOff : afterClick selector (.error e) = .done (.error e) := by
        simp only [afterClick, Script.bind, Script.rescue]
        rw [if_neg (by simp [hOrdinary])]
      rw [hOff] at hRun
      exact ⟨_, _, _, .clickEnds hClick hOrdinary, fun rest => Hand.rehearse_bind_error hRun⟩
  · rw [hClick] at hRun
    exact ⟨_, _, _, .click hClick, runsAs_ok hRun rfl⟩

section

variable {words : List String} {i : Nat}

/-- A command with a row, at the cursor, and the commands behind it. -/
theorem reads_cons {page : σ} {word : String} {command : Command} {rest : List Command}
    (hWord : words[i]? = some word)
    (hRow : ∃ ops after result, Row click page (.ofWord word) words[i + 1]? ops after result ∧
      RunsAs click page command ops after result)
    (hRest : ∀ after, Reads click words (i + command.width) after
      (Hand.rehearse click (runAll rest) after).1 (Hand.rehearse click (runAll rest) after).2.1
      (Hand.rehearse click (runAll rest) after).2.2) :
    Reads click words i page (Hand.rehearse click (runAll (command :: rest)) page).1
      (Hand.rehearse click (runAll (command :: rest)) page).2.1
      (Hand.rehearse click (runAll (command :: rest)) page).2.2 := by
  obtain ⟨ops, after, e | outcome, hRow, hRuns⟩ := hRow
  · rw [hRuns rest]
    exact .ends hWord hRow
  · obtain ⟨hWidth, hAll⟩ := hRuns
    rw [hAll rest]
    refine .row hWord hRow ?_
    rw [hWidth]
    exact hRest after

/-- The words from the cursor on. -/
theorem at_cursor {word : String} {later : List String} (hDrop : words.drop i = word :: later) :
    words[i]? = some word ∧ words[i + 1]? = later.head? ∧ words.drop (i + 1) = later := by
  have hLater : words.drop (i + 1) = later := by
    rw [← List.drop_drop, hDrop, List.drop_one, List.tail_cons]
  refine ⟨?_, ?_, hLater⟩
  · rw [← List.head?_drop, hDrop, List.head?_cons]
  · rw [← hLater, List.head?_drop]

/-- **Commands run as their words are read.** The cursor stands where the words that are left
begin, and the commands left are those that these words make. -/
theorem runAll_reads (click : String → σ → σ × Except Fault Unit)
    (hWords : ∀ word ∈ words, '\n' ∉ word.toList) (rest : List String) {i : Nat}
    (hDrop : words.drop i = rest) (hCursor : i ≤ words.length)
    (hModest : ∀ command ∈ ofTokens rest, command.isExtreme = false) (page : σ) :
    Reads click words i page (Hand.rehearse click (runAll (ofTokens rest)) page).1
      (Hand.rehearse click (runAll (ofTokens rest)) page).2.1
      (Hand.rehearse click (runAll (ofTokens rest)) page).2.2 := by
  -- Once the cursor stands behind the last word, there is nothing to run.
  have hFinished : ∀ {i : Nat}, words.drop i = [] → i ≤ words.length → ∀ after : σ,
      Reads click words i after [] after (.ok []) := by
    intro i hNone hCursor after
    have hEnd : i = words.length := Nat.le_antisymm hCursor (List.drop_eq_nil_iff.mp hNone)
    rw [hEnd]
    exact .finished
  have hInside : ∀ {i : Nat} {word : String}, words[i]? = some word → i + 1 ≤ words.length := by
    intro i word hWord
    exact (List.getElem?_eq_some_iff.mp hWord).1
  induction rest using ofTokens.induct generalizing i page with
  | case1 => exact hFinished hDrop hCursor page
  | case2 =>
    obtain ⟨hWord, hNext, hLater⟩ := at_cursor hDrop
    refine reads_cons hWord ?_ (hFinished hLater (hInside hWord))
    rw [hNext]
    exact ⟨_, _, _, .waitAlone rfl, runsAs_refused click page rfl⟩
  | case3 =>
    obtain ⟨hWord, hNext, hLater⟩ := at_cursor hDrop
    refine reads_cons hWord ?_ (hFinished hLater (hInside hWord))
    rw [hNext]
    exact ⟨_, _, _, .clickAlone rfl, runsAs_refused click page rfl⟩
  | case4 verb hWait hClick =>
    obtain ⟨hWord, -, hLater⟩ := at_cursor hDrop
    have hVerb : Verb.ofWord verb = .unknown verb := by
      rw [Verb.ofWord, if_neg hWait, if_neg hClick]
    rw [ofTokens, if_neg hWait, if_neg hClick]
    refine reads_cons hWord ?_ (hFinished hLater (hInside hWord))
    rw [hVerb]
    exact ⟨_, _, _, .unknown rfl, runsAs_refused click page rfl⟩
  | case5 arg rest ih =>
    obtain ⟨hWord, hNext, hLater⟩ := at_cursor hDrop
    obtain ⟨hArg, -, hBehind⟩ := at_cursor hLater
    have hModest' := List.forall_mem_cons.mp hModest
    refine reads_cons hWord ?_ fun after => ih hBehind (hInside hArg) hModest'.2 after
    rw [hNext]
    exact wait_row click (hWords arg (List.mem_of_getElem? hArg)) hModest'.1 page
  | case6 arg rest _ ih =>
    obtain ⟨hWord, hNext, hLater⟩ := at_cursor hDrop
    obtain ⟨hArg, -, hBehind⟩ := at_cursor hLater
    have hModest' := List.forall_mem_cons.mp hModest
    refine reads_cons hWord ?_ fun after => ih hBehind (hInside hArg) hModest'.2 after
    rw [hNext]
    exact click_row click arg page
  | case7 verb arg rest hWait hClick ih =>
    obtain ⟨hWord, -, hLater⟩ := at_cursor hDrop
    have hVerb : Verb.ofWord verb = .unknown verb := by
      rw [Verb.ofWord, if_neg hWait, if_neg hClick]
    rw [ofTokens, if_neg hWait, if_neg hClick] at hModest ⊢
    have hModest' := List.forall_mem_cons.mp hModest
    -- A word that is no command leaves the one behind it to be read by itself.
    refine reads_cons hWord ?_ fun after => ih hLater (hInside hWord) hModest'.2 after
    rw [hVerb]
    exact ⟨_, _, _, .unknown rfl, runsAs_refused click page rfl⟩

end

/-! ## What reading leaves behind -/

/-- The lines on the error stream among what was asked for. -/
def errorLines (ops : List Hand.Op) : List String :=
  (ops.filterMap Hand.line?).filterMap fun line => if line.1 = .err then some line.2 else none

/-- A row moves the cursor by one word or two, and reports its outcome in one line unless it
succeeded. -/
theorem Row.reports {page after : σ} {verb : Verb} {next : Option String} {ops : List Hand.Op}
    {outcome : Outcome} (hRow : Row click page verb next ops after (.ok outcome)) :
    (outcome.advance = 1 ∨ outcome.advance = 2) ∧
      errorLines ops = if outcome.isOk then [] else [s!"[error] {outcome.reason}"] := by
  cases hRow with
  | waitAlone => exact ⟨.inl rfl, rfl⟩
  | clickAlone => exact ⟨.inl rfl, rfl⟩
  | unknown => exact ⟨.inl rfl, rfl⟩
  | _ => exact ⟨.inr rfl, rfl⟩

/-- The one row without an outcome is that of a click that is called off. -/
theorem Row.off {page after : σ} {verb : Verb} {next : Option String} {ops : List Hand.Op}
    {e : Fault} (hRow : Row click page verb next ops after (.error e)) :
    ∃ selector, click selector page = (after, .error e) ∧ e.isOrdinary = false := by
  cases hRow with
  | clickEnds hClick hOff => exact ⟨_, hClick, hOff⟩

/-- Reading that comes to its end takes all words, one or two at a time, and what it printed on
the error stream are the reasons of the outcomes that were no success, in order. -/
theorem Reads.accounts {words : List String} {i : Nat} {page after : σ} {ops : List Hand.Op}
    {outcomes : List Outcome} (hReads : Reads click words i page ops after (.ok outcomes)) :
    (∀ outcome ∈ outcomes, outcome.advance = 1 ∨ outcome.advance = 2) ∧
      i + (outcomes.map Outcome.advance).sum = words.length ∧
      errorLines ops = (outcomes.filter fun outcome => !outcome.isOk).map
        fun outcome => s!"[error] {outcome.reason}" := by
  generalize hResult : Except.ok outcomes = result at hReads
  induction hReads generalizing outcomes with
  | finished =>
    cases hResult
    exact ⟨nofun, by simp, rfl⟩
  | @row i page after final word ops more outcome result hWord hRow hRest ih =>
    obtain ⟨later, rfl⟩ : ∃ later, result = .ok later := by
      cases result with
      | error e => cases hResult
      | ok later => exact ⟨later, rfl⟩
    obtain rfl := Except.ok.inj hResult
    obtain ⟨hSteps, hSum, hLines⟩ := ih rfl
    obtain ⟨hStep, hLine⟩ := hRow.reports
    refine ⟨List.forall_mem_cons.mpr ⟨hStep, hSteps⟩, ?_, ?_⟩
    · rw [List.map_cons, List.sum_cons]
      omega
    · have hSplit : errorLines (ops ++ more) = errorLines ops ++ errorLines more := by
        simp only [errorLines, List.filterMap_append]
      rw [hSplit, hLine, hLines]
      cases hOk : outcome.isOk with
      | true => simp [hOk]
      | false => simp [hOk]
  | ends => cases hResult

/-- Reading ends early only with a click that was called off. -/
theorem Reads.off {words : List String} {i : Nat} {page after : σ} {ops : List Hand.Op}
    {e : Fault} (hReads : Reads click words i page ops after (.error e)) :
    ∃ selector page after, click selector page = (after, .error e) ∧ e.isOrdinary = false := by
  generalize hResult : Except.error e = result at hReads
  induction hReads with
  | finished => cases hResult
  | @row _ _ _ _ _ _ _ _ result _ _ _ ih =>
    cases result with
    | ok later => cases hResult
    | error f => exact ih (congrArg Except.error (Except.error.inj hResult))
  | ends _ hRow =>
    obtain rfl := Except.error.inj hResult
    obtain ⟨selector, hClick, hOff⟩ := hRow.off
    exact ⟨selector, _, _, hClick, hOff⟩

/-- The argument of a wait is one of the words. -/
theorem mem_of_wait_mem {words : List String} {arg : String}
    (hWait : .wait (some arg) ∈ ofTokens words) : arg ∈ words := by
  induction words using ofTokens.induct with
  | case1 => cases hWait
  | case2 => simp [ofTokens] at hWait
  | case3 => simp [ofTokens] at hWait
  | case4 verb hNoWait hNoClick => simp [ofTokens, hNoWait, hNoClick] at hWait
  | case5 other rest ih =>
    rw [ofTokens, if_pos rfl] at hWait
    rcases List.mem_cons.mp hWait with hThis | hLater
    · cases hThis
      simp
    · simp [ih hLater]
  | case6 other rest _ ih =>
    rw [ofTokens, if_neg (by decide), if_pos rfl] at hWait
    rcases List.mem_cons.mp hWait with hThis | hLater
    · cases hThis
    · simp [ih hLater]
  | case7 verb other rest hNoWait hNoClick ih =>
    rw [ofTokens, if_neg hNoWait, if_neg hNoClick] at hWait
    rcases List.mem_cons.mp hWait with hThis | hLater
    · cases hThis
    · exact List.mem_cons_of_mem verb (ih hLater)

/-- **A text runs as the table says.** If the delays of its waits have at most three hundred
digits, a text asks for exactly what its words ask for when they are read by the table with a
cursor, in the same order and with the same outcomes, whatever the page does, and no other reading
is possible. Its outcomes take its words apart: one or two at a time, all of them, with one line on
the error stream for each that was no success. Only a click that is called off can keep it from
coming to its end. -/
theorem runText_reads (click : String → σ → σ × Except Fault Unit) {text : String}
    (hShort : ∀ arg, .wait (some arg) ∈ ofTokens (tokens text) →
      ∀ digits unit, Delay.Spells arg digits unit → digits.length ≤ 300) (page : σ) :
    ∃ ops after result, Hand.rehearse click (runText text) page = (ops, after, result) ∧
      (∀ others final other, Reads click (tokens text) 0 page others final other ↔
        others = ops ∧ final = after ∧ other = result) ∧
      (∀ outcomes, result = .ok outcomes →
        (∀ outcome ∈ outcomes, outcome.advance = 1 ∨ outcome.advance = 2) ∧
          (outcomes.map Outcome.advance).sum = (tokens text).length ∧
          errorLines ops = (outcomes.filter fun outcome => !outcome.isOk).map
            fun outcome => s!"[error] {outcome.reason}") ∧
      ∀ e, result = .error e →
        ∃ selector page after, click selector page = (after, .error e) ∧ e.isOrdinary = false := by
  -- No word holds a line feed, as line feeds are blanks.
  have hWords : ∀ word ∈ tokens text, '\n' ∉ word.toList := by
    intro word hMem hFeed
    obtain ⟨cs, hWord, rfl⟩ := List.mem_map.mp hMem
    rw [String.toList_ofList] at hFeed
    have hBlank := Text.words_clean hWord '\n' hFeed
    revert hBlank
    decide
  have hModest : ∀ command ∈ ofTokens (tokens text), command.isExtreme = false := by
    intro command hMem
    cases command with
    | wait arg =>
      cases arg with
      | none => rfl
      | some arg =>
        exact Delay.not_isExtreme (hWords arg (mem_of_wait_mem hMem)) (hShort arg hMem)
    | click selector => rfl
    | unknown verb => rfl
  have hReads := runAll_reads click hWords (tokens text) rfl (Nat.zero_le _) hModest page
  refine ⟨_, _, _, rfl, ?_, ?_, ?_⟩
  · intro others final other
    constructor
    · intro hOther
      exact hOther.unique hReads
    · rintro ⟨rfl, rfl, rfl⟩
      exact hReads
  · intro outcomes hResult
    rw [runText] at hResult
    rw [hResult] at hReads
    obtain ⟨hSteps, hSum, hLines⟩ := hReads.accounts
    rw [Nat.zero_add] at hSum
    exact ⟨hSteps, hSum, hLines⟩
  · intro e hResult
    rw [runText] at hResult
    rw [hResult] at hReads
    exact hReads.off

/-- A wait, then a failing click on what could have been a wait, then a word that is no command:
five words, and two lines on the error stream. -/
theorem runText_reads_verb_as_selector :
    ∃ ops outcomes,
      Hand.rehearse (fun _ page => (page + 1, .error (.click "no target")))
        (runText "wait 2s click wait hover") (0 : Nat) = (ops, 1, .ok outcomes) ∧
      (outcomes.map Outcome.advance).sum = 5 ∧ (errorLines ops).length = 2 := by
  have hTokens : tokens "wait 2s click wait hover" = ["wait", "2s", "click", "wait", "hover"] := by
    cbv
  have hShort : ∀ arg, .wait (some arg) ∈ ofTokens (tokens "wait 2s click wait hover") →
      ∀ digits unit, Delay.Spells arg digits unit → digits.length ≤ 300 := by
    intro arg hMem digits unit hSpells
    have hArg : arg = "2s" := by
      rw [hTokens] at hMem
      simpa [ofTokens] using hMem
    have hLength := congrArg List.length hSpells.letters
    rw [hArg, List.length_append, show ("2s".toList).length = 2 by cbv] at hLength
    omega
  obtain ⟨ops, after, result, hRun, hReads, -⟩ :=
    runText_reads (σ := Nat) (fun _ page => (page + 1, .error (.click "no target"))) hShort 0
  rw [hTokens] at hReads
  -- The reasons of the two outcomes that are no success.
  have hReasons : ∀ (selector word : String) (e : Fault), ∃ failed wrong,
      failed = s!"Failed to click \"{selector}\": {e.message}" ∧
        wrong = s!"Unknown command: {word}" := fun _ _ _ => ⟨_, _, rfl, rfl⟩
  obtain ⟨failed, wrong, hFailed, hWrong⟩ := hReasons "wait" "hover" (.click "no target")
  -- The rows that are read, one after the other.
  let click : String → Nat → Nat × Except Fault Unit :=
    fun _ page => (page + 1, .error (.click "no target"))
  let words : List String := ["wait", "2s", "click", "wait", "hover"]
  have hSpells : Delay.Spells "2s" ['2'] .seconds :=
    ⟨by simp, by simp [Text.isAsciiDigit], by cbv⟩
  obtain ⟨milliseconds, hDelay⟩ : ∃ n, n = Text.ofAsciiDigits ['2'] * Delay.Unit.size .seconds :=
    ⟨_, rfl⟩
  have hWait : Row click 0 .wait (some "2s") _ 0 (.ok ⟨.ok, 2, "", none⟩) := .wait hSpells hDelay
  have hClick : Row click 0 .click (some "wait") _ 1
      (.ok ⟨.runtimeError, 2, failed, some (.click "no target")⟩) :=
    .clickFails rfl rfl hFailed
  have hHover : Row click 1 (.unknown "hover") none _ 1 (.ok ⟨.syntaxError, 1, wrong, none⟩) :=
    .unknown hWrong
  have hLastWord : words[4]? = some "hover" := rfl
  have hMiddleWord : words[2]? = some "click" := rfl
  have hFirstWord : words[0]? = some "wait" := rfl
  have hLast : Reads click words 4 1 _ 1 _ := .row hLastWord hHover .finished
  have hMiddle : Reads click words 2 0 _ 1 _ := .row hMiddleWord hClick hLast
  have hAll : Reads click words 0 0 _ 1 _ := .row hFirstWord hWait hMiddle
  obtain ⟨rfl, rfl, rfl⟩ := (hReads _ _ _).mp hAll
  exact ⟨_, _, hRun, rfl, rfl⟩

end Command

end PageReporter
