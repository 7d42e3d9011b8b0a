import PageReporter.LogLevel
import PageReporter.Milestone
import PageReporter.Value.Access
import PageReporter.Text.Lines

/-!
# Settings

What a session needs besides its address and its commands: defaults, then the settings file, then
the environment. Values from the file are kept as they are; only what has to be decided here is
looked into.

* `Settings` — the settings;
* `SettingsFile` — what was found where the file should be; `SettingsFile.read` — its object;
* `Settings.load` — all layers together, with the notes made on the way.
-/

namespace PageReporter

/-! ## Settings -/

/-- The settings of a session. -/
structure Settings where
  chromePath : Value := .null
  headless : Value := .bool true
  cdpUrl : Value := .null
  waitUntil : Value := .str "networkidle2"
  navigationTimeout : Value := .double 30
  protocolTimeout : Value := .double 30
  launchTimeout : Value := .double 30
  gracePeriod : Value := .double (Double.ofRatio false 1 10)
  extraArgs : Value := .list []

namespace Settings

/-- The names of the settings in the file. -/
def names : List String :=
  ["chrome_path", "headless", "cdp_url", "wait_until", "navigation_timeout", "protocol_timeout",
    "launch_timeout", "grace_period", "extra_args"]

/-- Gives the setting of this name a value. -/
def set (s : Settings) (name : String) (v : Value) : Settings :=
  match name with
  | "chrome_path" => ⟨v, s.headless, s.cdpUrl, s.waitUntil, s.navigationTimeout,
      s.protocolTimeout, s.launchTimeout, s.gracePeriod, s.extraArgs⟩
  | "headless" => ⟨s.chromePath, v, s.cdpUrl, s.waitUntil, s.navigationTimeout,
      s.protocolTimeout, s.launchTimeout, s.gracePeriod, s.extraArgs⟩
  | "cdp_url" => ⟨s.chromePath, s.headless, v, s.waitUntil, s.navigationTimeout,
      s.protocolTimeout, s.launchTimeout, s.gracePeriod, s.extraArgs⟩
  | "wait_until" => ⟨s.chromePath, s.headless, s.cdpUrl, v, s.navigationTimeout,
      s.protocolTimeout, s.launchTimeout, s.gracePeriod, s.extraArgs⟩
  | "navigation_timeout" => ⟨s.chromePath, s.headless, s.cdpUrl, s.waitUntil, v,
      s.protocolTimeout, s.launchTimeout, s.gracePeriod, s.extraArgs⟩
  | "protocol_timeout" => ⟨s.chromePath, s.headless, s.cdpUrl, s.waitUntil, s.navigationTimeout,
      v, s.launchTimeout, s.gracePeriod, s.extraArgs⟩
  | "launch_timeout" => ⟨s.chromePath, s.headless, s.cdpUrl, s.waitUntil, s.navigationTimeout,
      s.protocolTimeout, v, s.gracePeriod, s.extraArgs⟩
  | "grace_period" => ⟨s.chromePath, s.headless, s.cdpUrl, s.waitUntil, s.navigationTimeout,
      s.protocolTimeout, s.launchTimeout, v, s.extraArgs⟩
  | "extra_args" => ⟨s.chromePath, s.headless, s.cdpUrl, s.waitUntil, s.navigationTimeout,
      s.protocolTimeout, s.launchTimeout, s.gracePeriod, v⟩
  | _ => s

/-- The settings with the milestone that they are to wait for, if it is one; otherwise with the
default one, and a note. -/
def checked (s : Settings) : Except Fault (Settings × List Note) := do
  match ← Milestone.ofValue? s.waitUntil with
  | some _ => pure (s, [])
  | none =>
    let shown := s.waitUntil.display
    pure (s.set "wait_until" (.str "networkidle2"),
      [.warning s!"Unknown wait_until {shown}; using networkidle2"])

/-- The defaults with the given settings in their places. Every name has to be known. -/
def ofMembers (ms : List (String × Value)) : Except Fault (Settings × List Note) :=
  match ms.find? fun (n, _) => !names.contains n with
  | some (n, _) => .error (.misuse (.other s!"got an unexpected keyword argument '{n}'"))
  | none => checked (ms.foldl (fun s (n, v) => s.set n v) {})

end Settings

/-! ## The file -/

/-- What was found where the settings file should be. -/
inductive SettingsFile
  | missing
  | directory
  | bytes (content : ByteArray)

namespace SettingsFile

/-- The note about a file that cannot be used. -/
def unreadable : Note :=
  .warning "Ignoring unreadable config file <config>"

/-- The object that the file holds: empty if there is no file, if it cannot be read, or if it
holds something else. Bytes that are no text are a fault, as is a number with too many digits. -/
def read : SettingsFile → Except Fault (List (String × Value) × List Note)
  | .missing => .ok ([], [])
  | .directory => .ok ([], [unreadable])
  | .bytes content =>
    match String.fromUTF8? content with
    | none => .error .badEncoding
    | some text =>
      match Json.ofText (String.ofList (Text.unifyLineEnds text.toList)) with
      | .ok (.object ms) => .ok (ms, [])
      | .ok _ => .ok ([], [])
      | .error (.badJson _ _) => .ok ([], [unreadable])
      | .error e => .error e

end SettingsFile

/-! ## Layers -/

namespace Settings

/-- The entries of a table whose names need not be texts. -/
abbrev Entries := List (Value × Value)

/-- Gives an entry a value: in its old place if there is one with an equal key, otherwise at the
end. -/
def putEntry (key v : Value) : Entries → Entries
  | [] => [(key, v)]
  | (k, w) :: rest => if k.sameKey key then (k, v) :: rest else (k, w) :: putEntry key v rest

/-- The entries that a list of pairs makes, where everything that can be walked through in two
steps is a pair. -/
def ofPairs : Entries → List Value → Except Fault Entries
  | entries, [] => .ok entries
  | entries, pair :: pairs => do
    match ← pair.items with
    | [k, v] =>
      let k ← k.asKey
      ofPairs (putEntry k v entries) pairs
    | other =>
      throw (.badValue s!"dictionary update sequence element has length {other.length}; 2 is required")

/-- The entries of the file's section for sessions. A section that is empty counts as absent. -/
def ofSection (v : Value) : Except Fault Entries :=
  if !v.truthy then .ok []
  else match v with
    | .object ms => .ok (ms.map fun (n, w) => (.str n, w))
    | v => do ofPairs [] (← v.items)

/-- The variables of the environment that settings come from. -/
def sourceNames : List String :=
  ["PAGEWATCH_CHROME", "PAGEWATCH_HEADLESS", "CDP_URL", "PAGEWATCH_WAIT_UNTIL",
    "PAGEWATCH_NAV_TIMEOUT_MS", "PAGEWATCH_GRACE_MS", "PAGEWATCH_CHROME_FLAGS"]

/-- A variable of the environment that is set and not empty. -/
def filled? (env : List (String × String)) (name : String) : Option String :=
  (env.lookup name).filter fun s => !s.isEmpty

/-- A path whose leading tilde stands for the home directory. The tilde of another person's home
stays, and a person whose name holds a zero character cannot be asked for. -/
def expandHome (home path : String) : Except Fault String :=
  match path.toList with
  | '~' :: rest =>
    let person := rest.takeWhile (· != '/')
    if person.isEmpty then
      let base := (home.toList.reverse.dropWhile (· == '/')).reverse
      let whole := base ++ rest
      .ok (if whole.isEmpty then "/" else String.ofList whole)
    else if person.contains '\x00' then .error (.badValue "embedded null byte")
    else .ok path
  | _ => .ok path

/-- Whether a setting that need not be a truth value stands for true. -/
def asBool (v : Value) : Except Fault Bool :=
  match v with
  | .bool b => .ok b
  | v => do
    let word := String.ofList (Text.lower (Text.trim (← v.text).toList))
    pure (word ∉ ["0", "false", "no", "off", ""])

/-- The setting that a variable gives, if it is set and not empty. -/
def given (env : List (String × String)) (source name : String) (f : String → Value) :
    List (String × Value) :=
  match filled? env source with
  | some text => [(name, f text)]
  | none => []

/-- The setting that a variable gives in milliseconds, as seconds. A text that is no number is
ignored with a note. -/
def givenSeconds (env : List (String × String)) (source name : String) :
    List (String × Value) × List Note :=
  match filled? env source with
  | none => ([], [])
  | some text =>
    match Double.read? text.toList with
    | some x => ([(name, .double (x.divide 1000))], [])
    | none =>
      let shown := (Value.str text).display
      ([], [.warning s!"Ignoring {source}={shown}: not a number"])

/-- The path of the browser that a variable gives. -/
def givenChrome (home : String) (env : List (String × String)) :
    Except Fault (List (String × Value)) :=
  match filled? env "PAGEWATCH_CHROME" with
  | some path => (expandHome home path).map fun s => [("chrome_path", .str s)]
  | none => .ok []

/-- Whether the window is to be hidden, as a variable gives it even if it is empty. -/
def givenHeadless (env : List (String × String)) : List (String × Value) :=
  match env.lookup "PAGEWATCH_HEADLESS" with
  | some text => [("headless", .str text)]
  | none => []

/-- The switches in a text, separated by commas. -/
def flags (text : String) : Value :=
  let pieces := (Text.split (· == ',') text.toList).map Text.trim
  .list ((pieces.filter fun w => !w.isEmpty).map fun w => .str (String.ofList w))

/-- The names of the entries; a key that is no text is a misuse. -/
def entryNames : Entries → Except Fault (List (String × Value))
  | [] => .ok []
  | (.str n, v) :: rest => (entryNames rest).map ((n, v) :: ·)
  | (k, _) :: _ => .error (.misuse (.other s!"expected str instance, {k.shape} found"))

/-- The settings that the environment gives. -/
def fromEnvironment (home : String) (env : List (String × String)) :
    Except Fault (List (String × Value) × List Note) := do
  let chrome ← givenChrome home env
  let (navigation, first) := givenSeconds env "PAGEWATCH_NAV_TIMEOUT_MS" "navigation_timeout"
  let (grace, second) := givenSeconds env "PAGEWATCH_GRACE_MS" "grace_period"
  pure (chrome ++ givenHeadless env ++ given env "CDP_URL" "cdp_url" .str ++
    given env "PAGEWATCH_WAIT_UNTIL" "wait_until"
      (fun s => .str (String.ofList (Text.lower (Text.trim s.toList)))) ++
    navigation ++ grace ++ given env "PAGEWATCH_CHROME_FLAGS" "extra_args" flags, first ++ second)

/-- The entries with settings in the places of their names. -/
def putSettings (entries : Entries) (ms : List (String × Value)) : Entries :=
  ms.foldl (fun entries (n, v) => putEntry (.str n) v entries) entries

/-- The note about names that are not known, in alphabetical order, if there are any. -/
def unknownNote (unknown : List String) : List Note :=
  if unknown.isEmpty then []
  else
    let listed := ", ".intercalate (unknown.mergeSort fun s t => s ≤ t)
    [.warning s!"Ignoring unknown session settings: {listed}"]

/-- The settings that the entries make. Names that are not known are ignored with a note, which
stays if a fault ends it. -/
def ofEntries (entries : Entries) : List Note × Except Fault Settings :=
  match entryNames entries with
  | .error e => ([], .error e)
  | .ok ms =>
    let notes := unknownNote ((ms.map Prod.fst).filter fun n => !names.contains n)
    match ofMembers (ms.filter fun (n, _) => names.contains n) with
    | .ok (s, more) => (notes ++ more, .ok s)
    | .error e => (notes, .error e)

/-- The truth value of the entry for a visible window, if there is one. -/
def settleHeadless (entries : Entries) : Except Fault Entries :=
  match entries.find? fun (k, _) => k.same (.str "headless") with
  | none => .ok entries
  | some (_, v) => (asBool v).map fun b => putEntry (.str "headless") (.bool b) entries

/-- The settings from the file's section for sessions and the environment, with the notes made on
the way, which stay if a fault ends it. -/
def layered (home : String) (value : Value) (env : List (String × String)) :
    List Note × Except Fault Settings :=
  match ofSection value with
  | .error e => ([], .error e)
  | .ok entries =>
    match fromEnvironment home env with
    | .error e => ([], .error e)
    | .ok (given, notes) =>
      match settleHeadless (putSettings entries given) with
      | .error e => (notes, .error e)
      | .ok entries =>
        let (last, settings) := ofEntries entries
        (notes ++ last, settings)

/-- The settings from all layers, with the notes made on the way, which stay if a fault ends
it. -/
def load (home : String) (file : SettingsFile) (env : List (String × String)) :
    List Note × Except Fault Settings :=
  match file.read with
  | .error e => ([], .error e)
  | .ok (ms, notes) =>
    let (more, settings) := layered home ((Value.find? "session" ms).getD .null) env
    (notes ++ more, settings)

end Settings

end PageReporter
