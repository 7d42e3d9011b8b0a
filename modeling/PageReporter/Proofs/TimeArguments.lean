import PageReporter.Proofs.CommandTable
import PageReporter.Proofs.WrittenNumbers

/-!
# What time arguments say

A time argument is one or more digits with the letters of a unit behind them, and says as many
milliseconds as the digits write in that unit. Everything else is no time argument, with two
exceptions: one line feed at the end is passed over, and an argument of more digits than can be read
as a number is a fault.

* `Text.ofAsciiDigits_eq` — the number that digits write, by their places;
* `Delay.Tells` — an argument and the delay that it tells;
* `Delay.parse?_eq_some_iff` and its companions — when an argument is read in each way;
* `Delay.parse_reads` — which arguments are read, and as what.
-/

namespace PageReporter

/-- Each digit counts by its place from the end. -/
theorem Text.ofAsciiDigits_eq (digits : List Char) :
    ofAsciiDigits digits = Nat.ofDigits 10 (digits.map fun c => c.toNat - 48).reverse := by
  induction digits using List.reverseRecOn with
  | nil => rfl
  | append_singleton digits c ih =>
    -- The last digit is the first one from the end, and moves the others by one place.
    rw [ofAsciiDigits, List.foldl_concat, ← ofAsciiDigits, ih, List.map_append, List.reverse_append,
      List.map_singleton, List.reverse_singleton, List.singleton_append, Nat.ofDigits_cons,
      Nat.add_comm]

namespace Delay

/-- An argument that tells a delay: it is spelled so, and one line feed may stand behind it. -/
def Tells (arg : String) (digits : List Char) (unit : Unit) : Prop :=
  ∃ word, Spells word digits unit ∧ (arg = word ∨ arg = word ++ "\n")

theorem split?_tells {arg : String} {digits : List Char} {unit : Unit} :
    split? arg.toList = some (digits, unit) ↔ Tells arg digits unit := by
  rw [split?_eq_some_iff]
  constructor
  · rintro ⟨hSome, hAscii, hText⟩
    refine ⟨String.ofList (digits ++ unit.letters),
      ⟨hSome, hAscii, String.toList_ofList⟩, hText.imp (fun hText => ?_) fun hText => ?_⟩
    · rw [← hText, String.ofList_toList]
    · rw [← String.toList_inj, hText, String.toList_append, String.toList_ofList]
      rfl
  · rintro ⟨word, hSpells, rfl | rfl⟩
    · exact ⟨hSpells.some, hSpells.ascii, .inl hSpells.letters⟩
    · refine ⟨hSpells.some, hSpells.ascii, .inr ?_⟩
      rw [String.toList_append, hSpells.letters]
      rfl

theorem parse?_of_tells {arg : String} {digits : List Char} {unit : Unit}
    (hTells : Tells arg digits unit) :
    parse? arg =
      if digitLimit < digits.length then
        .error (.badValue (Json.Problem.digits digits.length).text)
      else .ok (some (Text.ofAsciiDigits digits * unit.size)) := by
  rw [parse?, split?_tells.mpr hTells]

theorem parse?_eq_some_iff {arg : String} {milliseconds : ℕ} :
    parse? arg = .ok (some milliseconds) ↔
      ∃ digits unit, Tells arg digits unit ∧ digits.length ≤ digitLimit ∧
        milliseconds = Text.ofAsciiDigits digits * unit.size := by
  constructor
  · intro hRead
    unfold parse? at hRead
    split at hRead
    · cases hRead
    · next digits unit hSplit =>
      split at hRead
      · cases hRead
      · next hFew =>
        cases hRead
        exact ⟨digits, unit, split?_tells.mp hSplit, Nat.not_lt.mp hFew, rfl⟩
  · rintro ⟨digits, unit, hTells, hFew, rfl⟩
    rw [parse?_of_tells hTells, if_neg (Nat.not_lt.mpr hFew)]

theorem parse?_eq_error_iff {arg : String} {e : Fault} :
    parse? arg = .error e ↔
      ∃ digits unit, Tells arg digits unit ∧ digitLimit < digits.length ∧
        e = .badValue (Json.Problem.digits digits.length).text := by
  constructor
  · intro hRead
    unfold parse? at hRead
    split at hRead
    · cases hRead
    · next digits unit hSplit =>
      split at hRead
      · next hMany =>
        cases hRead
        exact ⟨digits, unit, split?_tells.mp hSplit, hMany, rfl⟩
      · cases hRead
  · rintro ⟨digits, unit, hTells, hMany, rfl⟩
    rw [parse?_of_tells hTells, if_pos hMany]

theorem parse?_eq_none_iff {arg : String} :
    parse? arg = .ok none ↔ ∀ digits unit, ¬ Tells arg digits unit := by
  constructor
  · intro hRead digits unit hTells
    rw [parse?_of_tells hTells] at hRead
    split at hRead <;> cases hRead
  · intro hNone
    have hSplit : split? arg.toList = none :=
      Option.eq_none_iff_forall_ne_some.mpr fun found hFound => hNone _ _ (split?_tells.mp hFound)
    rw [parse?, hSplit]

/-- **Which arguments are read, and as what.** An argument is read as a number of milliseconds
exactly if it tells a delay of few enough digits, and then as the number that they write in its unit;
it is read as no delay exactly if it tells none; and it is a fault exactly if it tells a delay of too
many digits. -/
theorem parse_reads (arg : String) :
    (∀ milliseconds, parse? arg = .ok (some milliseconds) ↔
      ∃ digits unit, Tells arg digits unit ∧ digits.length ≤ digitLimit ∧
        milliseconds =
          Nat.ofDigits 10 (digits.map fun c => c.toNat - 48).reverse * unit.size) ∧
    (parse? arg = .ok none ↔ ∀ digits unit, ¬ Tells arg digits unit) ∧
    ∀ e, parse? arg = .error e ↔
      ∃ digits unit, Tells arg digits unit ∧ digitLimit < digits.length ∧
        e = .badValue (Json.Problem.digits digits.length).text := by
  refine ⟨fun milliseconds => ?_, parse?_eq_none_iff, fun e => parse?_eq_error_iff⟩
  simp only [← Text.ofAsciiDigits_eq]
  exact parse?_eq_some_iff

/-- A line feed behind a delay is passed over, a blank is not; and a delay whose digits are too many is
a fault, though all but the last of them are zeros. -/
theorem parse_reads_line_feed :
    parse? "5s\n" = .ok (some 5000) ∧ parse? "5s " = .ok none ∧
    ∃ arg, Spells arg (List.replicate digitLimit '0' ++ ['5']) .milliseconds ∧
      ∃ e, parse? arg = .error e := by
  refine ⟨((parse_reads "5s\n").1 5000).mpr ?_, (parse_reads "5s ").2.1.mpr ?_, ?_⟩
  · have hSpells : Spells "5s" ['5'] .seconds :=
      ⟨nofun, fun c hMem => by rw [List.mem_singleton.mp hMem]; rfl, rfl⟩
    exact ⟨['5'], .seconds, ⟨"5s", hSpells, .inr (by decide)⟩, by decide, rfl⟩
  · intro digits unit hTells
    have hSplit : split? "5s ".toList = none := by decide
    cases hSplit.symm.trans (split?_tells.mpr hTells)
  · have hSpells : Spells (String.ofList (List.replicate digitLimit '0' ++ ['5'] ++ ['m', 's']))
        (List.replicate digitLimit '0' ++ ['5']) .milliseconds := by
      refine ⟨List.append_ne_nil_of_right_ne_nil _ nofun, fun c hMem => ?_, String.toList_ofList⟩
      rcases List.mem_append.mp hMem with hZero | hFive
      · exact Text.zeros_ascii _ c hZero
      · rw [List.mem_singleton.mp hFive]
        rfl
    refine ⟨_, hSpells, _, ((parse_reads _).2.2 _).mpr ⟨_, _, ⟨_, hSpells, .inl rfl⟩, ?_, rfl⟩⟩
    rw [List.length_append, List.length_replicate]
    exact Nat.lt_succ_self _

end Delay

end PageReporter
