import Mathlib.Data.List.Induction
import PageReporter.LogLevel

/-!
# The output of notes

Whatever levels are asked for one after the other, there is always one output of notes, for the
level that was asked for last. It stays the same output as long as levels are asked for by their
names: another one takes its place when the level changes. A name that is no level's stands for
warnings, but is not remembered, so it replaces the output each time that it comes.

* `Outputs.Adds` — how outputs are added;
* `LogLevel.meant` — the level that a name stands for;
* `Logging.configureBy_eq` — what one call does;
* `Logging.Standing` — what holds after any calls;
* `Logging.replaced_iff` — the output after a call, and when it is another one than before.
-/

namespace PageReporter

/-! ## Levels -/

namespace LogLevel

theorem mem_all (level : LogLevel) : level ∈ all := by
  cases level <;> decide

theorem ofName?_name (level : LogLevel) : ofName? level.name = some level := by
  cases level <;> decide

/-- The levels that get through are those that are at least as grave. -/
theorem mem_shown {level other : LogLevel} :
    other ∈ level.shown ↔ level.severity ≤ other.severity := by
  rw [shown, List.mem_filter, decide_eq_true_iff, and_iff_right (mem_all other)]

/-- The level that a name stands for: its own, or else warnings. -/
def meant (name : String) : LogLevel :=
  (ofName? name).getD .warning

theorem meant_name (level : LogLevel) : meant level.name = level := by
  rw [meant, ofName?_name, Option.getD_some]

theorem name_of_ofName? {name : String} {level : LogLevel} (hLevel : ofName? name = some level) :
    level.name = name := by
  have hFound := List.find?_some hLevel
  exact of_decide_eq_true hFound

/-- A name is that of the level that it stands for exactly if it is a level's. -/
theorem name_meant_iff {name : String} : (meant name).name = name ↔ ofName? name ≠ none := by
  constructor
  · intro hName hUnknown
    rw [← hName, ofName?_name] at hUnknown
    cases hUnknown
  · intro hKnown
    obtain ⟨level, hLevel⟩ := Option.ne_none_iff_exists'.mp hKnown
    rw [meant, hLevel, Option.getD_some]
    exact name_of_ofName? hLevel

end LogLevel

/-! ## Adding outputs -/

namespace Outputs

/-- How outputs are added: by the name of a level one more output is installed, and any other name
is a value that is not understood. -/
structure Adds (add : Outputs → String → Except Fault Outputs) : Prop where
  known : ∀ outputs level, add outputs (LogLevel.name level) = .ok (outputs.install level)
  unknown : ∀ outputs name, LogLevel.ofName? name = none →
    ∃ e, add outputs name = .error e ∧ e.isBadValue = true

theorem add_adds : Adds add where
  known outputs level := by rw [add, LogLevel.ofName?_name]
  unknown outputs name hUnknown := ⟨_, by rw [add, hUnknown], rfl⟩

end Outputs

namespace Logging

variable {add : Outputs → String → Except Fault Outputs}

/-! ## One call -/

/-- What one call does: nothing, or one output for the level that the name stands for. -/
theorem configureBy_eq (hAdds : Outputs.Adds add) (log : Logging)
    (argument environment : Option String) :
    log.configureBy add argument environment =
      if log.remembered = some (requested argument environment) then (log, .ok false)
      else
        let level := LogLevel.meant (requested argument environment)
        (⟨log.outputs.clear.install level, some level.name⟩, .ok true) := by
  unfold configureBy
  generalize requested argument environment = name
  by_cases hSame : log.remembered = some name
  · simp only [if_pos hSame]
  simp only [if_neg hSame]
  by_cases hKnown : LogLevel.ofName? name = none
  · -- Adding fails at first, and is tried again with the name for warnings.
    obtain ⟨e, hError, hBad⟩ := hAdds.unknown log.outputs.clear name hKnown
    have hMeant : LogLevel.meant name = .warning := by rw [LogLevel.meant, hKnown, Option.getD_none]
    have hWarning : add log.outputs.clear "WARNING" = _ := hAdds.known _ .warning
    simp only [hError, hBad, if_true, hWarning, hMeant]
    rfl
  · have hName := LogLevel.name_meant_iff.mpr hKnown
    have hAdded := hAdds.known log.outputs.clear (LogLevel.meant name)
    rw [hName] at hAdded
    simp only [hAdded, hName]

theorem configure_eq {log next : Logging} {argument environment : Option String} {replaced : Bool}
    (hCall : log.configureBy Outputs.add argument environment = (next, .ok replaced)) :
    log.configure argument environment = (next, replaced) := by
  rw [configure, hCall]
  rfl

/-- The call that has put a level in force changes nothing when it comes again, unless its name is no
level's. -/
theorem configureBy_again (hAdds : Outputs.Adds add) {log : Logging}
    {argument environment : Option String}
    (hName : log.remembered = some (LogLevel.meant (requested argument environment)).name) :
    (log.configureBy add argument environment).2 =
      .ok (LogLevel.ofName? (requested argument environment)).isNone := by
  rw [configureBy_eq hAdds, hName]
  generalize requested argument environment = name
  by_cases hKnown : LogLevel.ofName? name = none
  · rw [if_neg fun hEq => LogLevel.name_meant_iff.mp (Option.some.inj hEq) hKnown, hKnown]
    rfl
  · rw [if_pos (congrArg some (LogLevel.name_meant_iff.mpr hKnown)),
      Option.isNone_eq_false_iff.mpr (Option.isSome_iff_ne_none.mpr hKnown)]

/-! ## Any calls -/

/-- The log after calls with these arguments and environments. -/
def after (add : Outputs → String → Except Fault Outputs)
    (calls : List (Option String × Option String)) : Logging :=
  calls.foldl (fun log call => (log.configureBy add call.1 call.2).1) {}

/-- What holds of the log after any calls: the numbers of its outputs have been given away, and where
a name is remembered, there is one output, for the level of this name. -/
structure Standing (log : Logging) : Prop where
  numbered : ∀ output ∈ log.outputs.installed, output.number < log.outputs.next
  level : ∀ name, log.remembered = some name →
    ∃ number level, log.outputs.installed = [⟨number, level⟩] ∧ name = LogLevel.name level

theorem Standing.start : Standing {} where
  numbered := by decide
  level := nofun

theorem Standing.configureBy (hAdds : Outputs.Adds add) {log : Logging} (hLog : Standing log)
    (argument environment : Option String) :
    Standing (log.configureBy add argument environment).1 := by
  rw [configureBy_eq hAdds]
  split
  · exact hLog
  · refine ⟨fun output hMem => ?_, fun name hName => ⟨_, _, rfl, (Option.some.inj hName).symm⟩⟩
    obtain rfl := List.mem_singleton.mp hMem
    exact Nat.lt_succ_self _

theorem Standing.after (hAdds : Outputs.Adds add) (calls : List (Option String × Option String)) :
    Standing (after add calls) := by
  induction calls using List.reverseRecOn with
  | nil => exact Standing.start
  | append_singleton calls call ih =>
    rw [Logging.after, List.foldl_append]
    exact ih.configureBy hAdds call.1 call.2

theorem level_eq {log : Logging} {level : LogLevel} (hName : log.remembered = some level.name) :
    log.level = some level := by
  rw [Logging.level, hName, Option.bind_some, LogLevel.ofName?_name]

/-- The name that is remembered is the one name of the level in force. -/
theorem Standing.remembered_iff {log : Logging} (hLog : Standing log) (name : String) :
    log.remembered = some name ↔
      log.level = some (LogLevel.meant name) ∧ LogLevel.ofName? name ≠ none := by
  constructor
  · intro hName
    obtain ⟨-, level, -, rfl⟩ := hLog.level name hName
    rw [LogLevel.meant_name, LogLevel.ofName?_name]
    exact ⟨level_eq hName, nofun⟩
  · rintro ⟨hLevel, hKnown⟩
    obtain ⟨remembered, hName, hFound⟩ := Option.bind_eq_some_iff.mp hLevel
    rw [hName, ← LogLevel.name_of_ofName? hFound, LogLevel.name_meant_iff.mpr hKnown]

/-- What gets through where there is one output. -/
theorem shows_iff {outputs : Outputs} {number : ℕ} {level other : LogLevel}
    (hOne : outputs.installed = [⟨number, level⟩]) :
    outputs.shows other = true ↔ level.severity ≤ other.severity := by
  rw [Outputs.shows, hOne, List.any_cons, List.any_nil, Bool.or_false, List.contains_iff_mem,
    LogLevel.mem_shown]

/-- **The output of notes.** After any calls one more call never fails. It leaves one output behind,
for the level that was asked for, and remembers the name of that level: what gets through are the
notes of this level and the graver ones. Either nothing at all has changed, or the output is another
one than there was; it is another one exactly if the level has changed or is the first one, or if the
name asked for is no level's. So the same call again replaces the output exactly if its name is no
level's. -/
theorem replaced_iff (hAdds : Outputs.Adds add) (calls : List (Option String × Option String))
    (argument environment : Option String) :
    let log := after add calls
    let name := requested argument environment
    let level := LogLevel.meant name
    ∃ next number replaced,
      log.configureBy add argument environment = (next, .ok replaced) ∧
      next.outputs.installed = [⟨number, level⟩] ∧
      next.remembered = some level.name ∧
      (∀ other, next.outputs.shows other = true ↔ level.severity ≤ other.severity) ∧
      (replaced = false → next = log) ∧
      (replaced = true → ∀ output ∈ log.outputs.installed, output.number ≠ number) ∧
      (replaced = true ↔ log.level ≠ some level ∨ LogLevel.ofName? name = none) ∧
      (next.configureBy add argument environment).2 = .ok (LogLevel.ofName? name).isNone := by
  intro log name level
  have hLog : Standing log := Standing.after hAdds calls
  have hSame := hLog.remembered_iff name
  by_cases hName : log.remembered = some name
  · -- The level in force is asked for, and the invariant tells which output stands for it.
    obtain ⟨hLevel, hKnown⟩ := hSame.mp hName
    have hMeant : log.remembered = some level.name := by
      rw [hName, LogLevel.name_meant_iff.mpr hKnown]
    obtain ⟨number, found, hOne, hFound⟩ := hLog.level _ hMeant
    obtain rfl : level = found := by
      rw [← LogLevel.meant_name level, hFound, LogLevel.meant_name]
    refine ⟨log, number, false, ?_, hOne, hMeant, fun other => shows_iff hOne, fun _ => rfl, nofun,
      ?_, configureBy_again hAdds hMeant⟩
    · rw [configureBy_eq hAdds, if_pos hName]
    · exact iff_of_false nofun (not_or.mpr ⟨not_not.mpr hLevel, hKnown⟩)
  · -- The new output has the next number, which no output has had before.
    refine ⟨⟨log.outputs.clear.install level, some level.name⟩, log.outputs.next, true, ?_, rfl, rfl,
      fun other => shows_iff rfl, nofun, fun _ output hMem => Nat.ne_of_lt (hLog.numbered output hMem),
      ?_, configureBy_again hAdds rfl⟩
    · rw [configureBy_eq hAdds, if_neg hName]
    · exact iff_of_true rfl ((not_and_or.mp (mt hSame.mpr hName)).imp_right not_not.mp)

/-- A name that is no level's replaces the output for warnings by another one for warnings; the name
of the level in force, in whatever letters, replaces nothing. -/
theorem replaced_iff_unknown_name :
    Outputs.Adds Outputs.add ∧
    (after Outputs.add [(some "bogus", none)]).level = some .warning ∧
    (∃ next, (after Outputs.add [(some "bogus", none)]).configure (some "bogus") none =
      (next, true) ∧ next.level = some .warning) ∧
    ∃ next, (after Outputs.add [(some "bogus", none), (none, some "Debug")]).configure
      (some "dEBUG") none = (next, false) := by
  have hAdds := Outputs.add_adds
  refine ⟨hAdds, by decide, ?_, ?_⟩
  · obtain ⟨next, number, replaced, hCall, -, hName, -, -, -, hReplaced, -⟩ :=
      replaced_iff hAdds [(some "bogus", none)] (some "bogus") none
    have hNew : replaced = true := hReplaced.mpr (.inr (by decide))
    have hMeant : LogLevel.meant (requested (some "bogus") none) = .warning := by decide
    exact ⟨next, hNew ▸ configure_eq hCall, hMeant ▸ level_eq hName⟩
  · obtain ⟨next, number, replaced, hCall, -, -, -, -, -, hReplaced, -⟩ :=
      replaced_iff hAdds [(some "bogus", none), (none, some "Debug")] (some "dEBUG") none
    have hOld : ¬ replaced = true := fun hNew => by
      rcases hReplaced.mp hNew with hLevel | hUnknown
      · exact hLevel (by decide)
      · exact absurd hUnknown (by decide)
    exact ⟨next, Bool.eq_false_iff.mpr hOld ▸ configure_eq hCall⟩

end Logging

end PageReporter
