import Mathlib
import PageReporter.Command.Rehearsal
import PageReporter.Proofs.Rounding

/-!
# Which command texts run to their end

A command that is wrong or fails is reported and skipped, with one exception: a wait whose delay
is no number that can be read, announced and counted ends the whole run. So a text runs to its end
exactly if it holds no such wait, whatever the page does.

* `Delay.isExtreme`, `Command.isExtreme` — the exception;
* `Command.run_modest`, `Command.run_wait_extreme` — one command, without it and with it;
* `Command.runText_finishes_iff` — when a text runs to its end, and where it stops otherwise.
-/

namespace PageReporter

/-! ## Delays -/

namespace Delay

/-- Whether a delay has too many digits, or more milliseconds than seconds fit into a double. -/
def isExtreme (arg : String) : Bool :=
  match split? arg.toList with
  | none => false
  | some (digits, unit) =>
    digitLimit < digits.length ||
      1000 * (twoTo 1024 - twoTo 970) ≤ Text.ofAsciiDigits digits * unit.size

/-- What fits into a double has few enough digits to be announced. -/
theorem label_modest {milliseconds : Nat}
    (hModest : milliseconds < 1000 * (twoTo 1024 - twoTo 970)) :
    ∃ label, Delay.label milliseconds = .ok label := by
  have hDigits : milliseconds < 10 ^ digitLimit := by
    refine Nat.lt_of_lt_of_le hModest ?_
    decide +kernel
  have hFits : (Value.int milliseconds).fits = true := by
    rw [Value.fits, Value.intFits, decide_eq_true_iff]
    exact (Nat.length_toDigits_le_iff (by decide) (by decide)).mpr hDigits
  exact ⟨_, if_pos hFits⟩

/-- The delays that the clock can count. -/
theorem seconds_cases (milliseconds : Nat) :
    (1000 * (twoTo 1024 - twoTo 970) ≤ milliseconds ∧
      ∃ message, Delay.seconds milliseconds = .error (.tooLarge message)) ∨
    (milliseconds < 1000 * (twoTo 1024 - twoTo 970) ∧
      ∃ seconds, Delay.seconds milliseconds = .ok seconds) := by
  unfold Delay.seconds Value.thousandth
  simp only [Value.number?, Int.natAbs_natCast]
  by_cases hLarge : 1000 * (twoTo 1024 - twoTo 970) ≤ milliseconds
  · left
    rw [if_pos ((ofRatio_isInfinite (by decide) _).mpr hLarge)]
    exact ⟨hLarge, _, rfl⟩
  · right
    rw [if_neg fun hInfinite => hLarge ((ofRatio_isInfinite (by decide) _).mp hInfinite)]
    exact ⟨Nat.lt_of_not_le hLarge, _, rfl⟩

end Delay

/-! ## Scripts of commands -/

section

variable {σ α β : Type} {click : String → σ → σ × Except Fault Unit}

namespace Hand

/-- A script and then another: everything asked for by the one and then by the other. -/
theorem rehearse_bind_ok {script : Script Hand α} {f : α → Script Hand β} {page after : σ}
    {ops : List Hand.Op} {a : α} (hScript : rehearse click script page = (ops, after, .ok a)) :
    rehearse click (script.bind f) page =
      (ops ++ (rehearse click (f a) after).1, (rehearse click (f a) after).2) := by
  induction script generalizing page ops with
  | done result =>
    cases hScript
    rfl
  | ask op next ih =>
    obtain ⟨rfl, hRest⟩ := Prod.mk.inj hScript
    exact congrArg (fun r => (op :: r.1, r.2)) (ih _ (Prod.ext rfl hRest))

/-- A script that ends with a fault, and another that is never begun. -/
theorem rehearse_bind_error {script : Script Hand α} {f : α → Script Hand β} {page after : σ}
    {ops : List Hand.Op} {e : Fault}
    (hScript : rehearse click script page = (ops, after, .error e)) :
    rehearse click (script.bind f) page = (ops, after, .error e) := by
  induction script generalizing page ops with
  | done result =>
    cases hScript
    rfl
  | ask op next ih =>
    obtain ⟨rfl, hRest⟩ := Prod.mk.inj hScript
    exact congrArg (fun r => (op :: r.1, r.2)) (ih _ (Prod.ext rfl hRest))

end Hand

namespace Command

/-- Whether a command is a wait with an extreme delay. -/
def isExtreme : Command → Bool
  | .wait (some arg) => Delay.isExtreme arg
  | _ => false

/-- What a fault of an extreme wait is about. -/
def OutOfRange (e : Fault) : Prop :=
  e.isBadValue = true ∨ ∃ message, e = .tooLarge message

/-- A wait whose delay has been read. -/
theorem run_wait {arg : String} {milliseconds : Nat}
    (hParse : Delay.parse? arg = .ok (some milliseconds)) :
    run (.wait (some arg)) =
      (Script.ofExcept (Delay.label milliseconds)).bind fun label =>
        (Script.perform (S := Hand) (.print (.out, s!"[wait] {label}ms"))).bind fun _ =>
          (Script.ofExcept (Delay.seconds milliseconds)).bind fun seconds =>
            (Script.perform (S := Hand) (.pause seconds)).bind fun _ =>
              .done (.ok (.success (.wait (some arg)))) := by
  simp only [run, hParse]
  rfl

/-- A wait that is not extreme ends with an outcome. -/
theorem run_wait_modest (click : String → σ → σ × Except Fault Unit) {arg : String}
    (hModest : Delay.isExtreme arg = false) (page : σ) :
    ∃ ops outcome, Hand.rehearse click (run (.wait (some arg))) page = (ops, page, .ok outcome) ∧
      outcome.advance = 2 := by
  unfold Delay.isExtreme at hModest
  cases hSplit : Delay.split? arg.toList with
  | none =>
    -- What is no delay at all is reported as such.
    have hParse : Delay.parse? arg = .ok none := by rw [Delay.parse?, hSplit]
    simp only [run, hParse]
    exact ⟨_, _, rfl, rfl⟩
  | some parts =>
    obtain ⟨digits, unit⟩ := parts
    simp only [hSplit, Bool.or_eq_false_iff, decide_eq_false_iff_not, Nat.not_lt, Nat.not_le]
      at hModest
    -- Few enough digits to be read, and few enough milliseconds to be written and counted.
    obtain ⟨hShort, hSmall⟩ := hModest
    have hParse : Delay.parse? arg = .ok (some (Text.ofAsciiDigits digits * unit.size)) := by
      simp only [Delay.parse?, hSplit]
      rw [if_neg (Nat.not_lt.mpr hShort)]
    obtain ⟨label, hLabel⟩ := Delay.label_modest hSmall
    rcases Delay.seconds_cases (Text.ofAsciiDigits digits * unit.size) with
      ⟨hLarge, -⟩ | ⟨-, seconds, hSeconds⟩
    · exact absurd hSmall (Nat.not_lt.mpr hLarge)
    · rw [run_wait hParse, hLabel, hSeconds]
      exact ⟨_, _, rfl, rfl⟩

/-- An extreme wait ends with a fault, and all it may have done is to announce itself. -/
theorem run_wait_extreme (click : String → σ → σ × Except Fault Unit) {arg : String}
    (hExtreme : Delay.isExtreme arg = true) (page : σ) :
    ∃ ops e, Hand.rehearse click (run (.wait (some arg))) page = (ops, page, .error e) ∧
      OutOfRange e ∧ ∀ op ∈ ops, ∃ line, op = .print line := by
  unfold Delay.isExtreme at hExtreme
  cases hSplit : Delay.split? arg.toList with
  | none =>
    rw [hSplit] at hExtreme
    cases hExtreme
  | some parts =>
    obtain ⟨digits, unit⟩ := parts
    simp only [hSplit, Bool.or_eq_true, decide_eq_true_eq] at hExtreme
    by_cases hLong : digitLimit < digits.length
    · -- The digits cannot be read.
      have hParse : ∃ message, Delay.parse? arg = .error (.badValue message) := by
        simp only [Delay.parse?, hSplit]
        rw [if_pos hLong]
        exact ⟨_, rfl⟩
      obtain ⟨message, hParse⟩ := hParse
      simp only [run, hParse]
      exact ⟨[], _, rfl, .inl rfl, nofun⟩
    · have hParse : Delay.parse? arg = .ok (some (Text.ofAsciiDigits digits * unit.size)) := by
        simp only [Delay.parse?, hSplit]
        rw [if_neg hLong]
      have hLarge := hExtreme.resolve_left hLong
      rw [run_wait hParse]
      rcases Delay.seconds_cases (Text.ofAsciiDigits digits * unit.size) with
        ⟨-, message, hSeconds⟩ | ⟨hSmall, -⟩
      · cases hLabel : Delay.label (Text.ofAsciiDigits digits * unit.size) with
        | error e =>
          -- Neither can the milliseconds be written.
          have hKind : e.isBadValue = true := by
            unfold Delay.label Value.text at hLabel
            split at hLabel <;> cases hLabel
            rfl
          exact ⟨[], e, rfl, .inl hKind, nofun⟩
        | ok label =>
          -- They can be written, so the wait is announced, but there is no such double.
          rw [hSeconds]
          exact ⟨[_], _, rfl, .inr ⟨message, rfl⟩, by simp⟩
      · exact absurd hLarge (Nat.not_le.mpr hSmall)

/-- A click that has been tried. -/
def afterClick (selector : String) (reply : Except Fault Unit) : Script Hand Outcome :=
  ((Script.done reply).bind fun _ => .done (.ok (.success (.click (some selector))))).rescue
    fun e =>
      if e.isOrdinary then
        .done (.ok (.runtimeError (.click (some selector))
          s!"Failed to click \"{selector}\": {e.message}" e))
      else .done (.error e)

/-- A click is announced and tried once. -/
theorem rehearse_click (click : String → σ → σ × Except Fault Unit) (selector : String)
    (page : σ) :
    Hand.rehearse click (run (.click (some selector))) page =
      (.print (.out, s!"[click] {selector}") :: .click selector ::
        (Hand.rehearse click (afterClick selector (click selector page).2)
          (click selector page).1).1,
        (Hand.rehearse click (afterClick selector (click selector page).2)
          (click selector page).1).2) :=
  rfl

theorem afterClick_ordinary (selector : String) {e : Fault} (hOrdinary : e.isOrdinary = true) :
    afterClick selector (.error e) =
      .done (.ok (.runtimeError (.click (some selector))
        s!"Failed to click \"{selector}\": {e.message}" e)) := by
  simp only [afterClick, Script.bind, Script.rescue]
  rw [if_pos hOrdinary]

/-- Any other command ends with an outcome, whatever the page does. -/
theorem run_other {command : Command} (hOther : ∀ arg, command ≠ .wait (some arg))
    (hOrdinary : ∀ selector page e, (click selector page).2 = .error e → e.isOrdinary = true)
    (page : σ) :
    ∃ ops after outcome, Hand.rehearse click (run command) page = (ops, after, .ok outcome) ∧
      outcome.advance = command.width := by
  cases command with
  | unknown verb => exact ⟨_, _, _, rfl, rfl⟩
  | wait arg =>
    cases arg with
    | none => exact ⟨_, _, _, rfl, rfl⟩
    | some arg => exact absurd rfl (hOther arg)
  | click selector =>
    cases selector with
    | none => exact ⟨_, _, _, rfl, rfl⟩
    | some selector =>
      -- The page is asked once; what it says decides only the outcome.
      rw [rehearse_click]
      cases hReply : (click selector page).2 with
      | ok u => exact ⟨_, _, _, rfl, rfl⟩
      | error e =>
        rw [afterClick_ordinary selector (hOrdinary selector page e hReply)]
        exact ⟨_, _, _, rfl, rfl⟩

/-- A command that is not extreme ends with an outcome, whatever the page does. -/
theorem run_modest {command : Command}
    (hOrdinary : ∀ selector page e, (click selector page).2 = .error e → e.isOrdinary = true)
    (hModest : command.isExtreme = false) (page : σ) :
    ∃ ops after outcome, Hand.rehearse click (run command) page = (ops, after, .ok outcome) ∧
      outcome.advance = command.width := by
  by_cases hWait : ∃ arg, command = .wait (some arg)
  · obtain ⟨arg, rfl⟩ := hWait
    obtain ⟨ops, outcome, hRun, hAdvance⟩ := run_wait_modest click hModest page
    exact ⟨ops, page, outcome, hRun, hAdvance⟩
  · exact run_other (fun arg hArg => hWait ⟨arg, hArg⟩) hOrdinary page

/-- What the report of an outcome asks for. -/
def reported (outcome : Outcome) : List Hand.Op :=
  if outcome.isOk then [] else [.print (.err, s!"[error] {outcome.reason}")]

/-- A report only prints. -/
theorem rehearse_report (click : String → σ → σ × Except Fault Unit) (outcome : Outcome)
    (page : σ) :
    Hand.rehearse click (report outcome) page = (reported outcome, page, .ok ()) := by
  by_cases hOk : outcome.isOk = true
  · have hNone : report outcome = pure () := if_pos hOk
    rw [hNone, reported, if_pos hOk]
    rfl
  · have hLine : report outcome =
        Script.perform (S := Hand) (.print (.err, s!"[error] {outcome.reason}")) := if_neg hOk
    rw [hLine, reported, if_neg hOk]
    rfl

/-! ## All commands -/

/-- One command with its report, and what follows it. -/
theorem runAll_cons {command : Command} {outcome : Outcome} {page after : σ} {ops : List Hand.Op}
    (hRun : Hand.rehearse click (run command) page = (ops, after, .ok outcome))
    (rest : List Command) :
    Hand.rehearse click (runAll (command :: rest)) page =
      (ops ++ (reported outcome ++ (Hand.rehearse click (runAll rest) after).1),
        (Hand.rehearse click (runAll rest) after).2.1,
        (Hand.rehearse click (runAll rest) after).2.2.map (outcome :: ·)) := by
  have hReport := rehearse_report click outcome after
  rw [runAll, Hand.rehearse_bind_ok hRun, Hand.rehearse_bind_ok hReport]
  rcases hRest : Hand.rehearse click (runAll rest) after with ⟨restOps, final, e | outcomes⟩
  · rw [Hand.rehearse_bind_error hRest]
    rfl
  · rw [Hand.rehearse_bind_ok hRest]
    simp [Hand.rehearse, pure, Except.map]

/-- **Commands that run to their end.** Each gets an outcome, and none keeps another one from
running. -/
theorem runAll_modest {commands : List Command}
    (hOrdinary : ∀ selector page e, (click selector page).2 = .error e → e.isOrdinary = true)
    (hModest : ∀ command ∈ commands, command.isExtreme = false) (page : σ) :
    ∃ ops after outcomes,
      Hand.rehearse click (runAll commands) page = (ops, after, .ok outcomes) ∧
        outcomes.map Outcome.advance = commands.map width := by
  induction commands generalizing page with
  | nil => exact ⟨[], page, [], rfl, rfl⟩
  | cons command rest ih =>
    obtain ⟨ops, after, outcome, hRun, hAdvance⟩ :=
      run_modest hOrdinary (hModest command (.head _)) page
    obtain ⟨restOps, final, outcomes, hRest, hAdvances⟩ :=
      ih (fun other hOther => hModest other (.tail _ hOther)) after
    -- The outcome of this command, and behind it those of the others.
    have hAll := runAll_cons hRun rest
    rw [hRest] at hAll
    exact ⟨_, _, outcome :: outcomes, hAll, by simp [hAdvance, hAdvances]⟩

/-- **Where commands stop.** The first extreme wait ends the run: what was asked for is what the
commands before it asked for, and then at most the announcement of the wait. -/
theorem runAll_stops {before : List Command} {arg : String} (rest : List Command)
    (hOrdinary : ∀ selector page e, (click selector page).2 = .error e → e.isOrdinary = true)
    (hModest : ∀ command ∈ before, command.isExtreme = false)
    (hExtreme : Delay.isExtreme arg = true) (page : σ) :
    ∃ ops e,
      Hand.rehearse click (runAll (before ++ .wait (some arg) :: rest)) page =
          ((Hand.rehearse click (runAll before) page).1 ++ ops,
            (Hand.rehearse click (runAll before) page).2.1, .error e) ∧
        OutOfRange e ∧ ∀ op ∈ ops, ∃ line, op = .print line := by
  induction before generalizing page with
  | nil =>
    obtain ⟨ops, e, hRun, hOut, hPrints⟩ := run_wait_extreme click hExtreme page
    refine ⟨ops, e, ?_, hOut, hPrints⟩
    exact Hand.rehearse_bind_error hRun
  | cons command others ih =>
    -- Both runs begin with this command, and go on from where it leaves the page.
    obtain ⟨ops, after, outcome, hRun, -⟩ :=
      run_modest hOrdinary (hModest command (.head _)) page
    obtain ⟨more, e, hRest, hOut, hPrints⟩ :=
      ih (fun other hOther => hModest other (.tail _ hOther)) after
    refine ⟨more, e, ?_, hOut, hPrints⟩
    rw [List.cons_append, runAll_cons hRun, runAll_cons hRun, hRest]
    simp [Except.map]

/-- The commands of a text take all its words. -/
theorem ofTokens_width : ∀ words : List String, ((ofTokens words).map width).sum = words.length
  | [] => rfl
  | [verb] => by
    unfold ofTokens
    split
    · rfl
    · split <;> rfl
  | verb :: arg :: rest => by
    have hRest := ofTokens_width rest
    have hNext := ofTokens_width (arg :: rest)
    rw [ofTokens]
    split
    · simp [width, hRest]
      omega
    · split
      · simp [width, hRest]
        omega
      · simp only [List.map_cons, List.sum_cons, width, hNext, List.length_cons]
        omega

/-- Among commands of which one is extreme, there is a first one. -/
theorem exists_first_extreme {commands : List Command} {command : Command}
    (hMem : command ∈ commands) (hExtreme : command.isExtreme = true) :
    ∃ before arg rest, commands = before ++ .wait (some arg) :: rest ∧
      (∀ other ∈ before, other.isExtreme = false) ∧ Delay.isExtreme arg = true := by
  -- Only a wait with an argument can be extreme, so that is what the first one is.
  obtain ⟨first, hFirst⟩ : ∃ first, commands.find? isExtreme = some first := by
    rw [← Option.isSome_iff_exists, List.find?_isSome]
    exact ⟨command, hMem, hExtreme⟩
  obtain ⟨hThis, before, rest, hSplit, hBefore⟩ := List.find?_eq_some_iff_append.mp hFirst
  have hModest : ∀ other ∈ before, other.isExtreme = false := by
    intro other hOther
    simpa using hBefore other hOther
  cases first with
  | wait arg =>
    cases arg with
    | none => cases hThis
    | some arg => exact ⟨before, arg, rest, hSplit, hModest, hThis⟩
  | click selector => cases hThis
  | unknown verb => cases hThis

/-- **Which texts run to their end.** A text runs to its end, with one outcome for each command
and all words taken, exactly if none of its waits is extreme. Otherwise the first wait that is
ends the run with a fault: what was asked for is what the commands before it asked for, and then
at most the announcement of the wait. -/
theorem runText_finishes_iff {σ : Type} {click : String → σ → σ × Except Fault Unit}
    (hOrdinary : ∀ selector page e, (click selector page).2 = .error e → e.isOrdinary = true)
    (text : String) (page : σ) :
    ((∃ outcomes, (Hand.rehearse click (runText text) page).2.2 = .ok outcomes ∧
        outcomes.length = (ofTokens (tokens text)).length ∧
        (outcomes.map Outcome.advance).sum = (tokens text).length) ↔
      ∀ command ∈ ofTokens (tokens text), command.isExtreme = false) ∧
    ∀ before arg rest, ofTokens (tokens text) = before ++ .wait (some arg) :: rest →
      (∀ command ∈ before, command.isExtreme = false) → Delay.isExtreme arg = true →
      ∃ ops e,
        Hand.rehearse click (runText text) page =
            ((Hand.rehearse click (runAll before) page).1 ++ ops,
              (Hand.rehearse click (runAll before) page).2.1, .error e) ∧
          OutOfRange e ∧ ∀ op ∈ ops, ∃ line, op = .print line := by
  refine ⟨⟨?_, ?_⟩, ?_⟩
  · rintro ⟨outcomes, hFinished, -⟩
    intro command hMem
    cases hExtreme : command.isExtreme with
    | false => rfl
    | true =>
      obtain ⟨before, arg, rest, hSplit, hModest, hArg⟩ := exists_first_extreme hMem hExtreme
      obtain ⟨ops, e, hStops, -⟩ := runAll_stops rest hOrdinary hModest hArg page
      rw [runText, hSplit, hStops] at hFinished
      cases hFinished
  · intro hModest
    obtain ⟨ops, after, outcomes, hRun, hAdvances⟩ := runAll_modest hOrdinary hModest page
    refine ⟨outcomes, by rw [runText, hRun], ?_, ?_⟩
    · simpa using congrArg List.length hAdvances
    · rw [hAdvances, ofTokens_width]
  · intro before arg rest hSplit hModest hExtreme
    rw [runText, hSplit]
    exact runAll_stops rest hOrdinary hModest hExtreme page

/-- A failing click between a wait and a word that is no command. -/
theorem runText_finishes_iff_failing_click :
    ∃ outcomes,
      (Hand.rehearse (fun _ page => (page + 1, .error (.click "no target")))
        (runText "wait 1s click #a hover") (0 : Nat)).2.2 = .ok outcomes ∧ outcomes.length = 3 := by
  have hOrdinary : ∀ (selector : String) (page : Nat) (e : Fault),
      (.error (.click "no target") : Except Fault Unit) = .error e → e.isOrdinary = true := by
    rintro selector page e ⟨⟩
    rfl
  have hCommands : ofTokens (tokens "wait 1s click #a hover") =
      [.wait (some "1s"), .click (some "#a"), .unknown "hover"] := by
    cbv
  have hModest : ∀ command ∈ ofTokens (tokens "wait 1s click #a hover"),
      command.isExtreme = false := by
    have hSplit : Delay.split? "1s".toList = some (['1'], .seconds) := by cbv
    have hWait : Delay.isExtreme "1s" = false := by
      rw [Delay.isExtreme, hSplit]
      decide +kernel
    rw [hCommands]
    rintro command (_ | ⟨_, _ | ⟨_, _ | ⟨_, ⟨⟩⟩⟩⟩)
    · exact hWait
    · rfl
    · rfl
  obtain ⟨outcomes, hFinished, hLength, -⟩ :=
    (@runText_finishes_iff Nat (fun _ page => (page + 1, .error (.click "no target"))) hOrdinary
      "wait 1s click #a hover" 0).1.mpr hModest
  rw [hCommands] at hLength
  exact ⟨outcomes, hFinished, hLength⟩

end Command

end

end PageReporter
