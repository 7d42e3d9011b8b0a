import PageReporter.Browser.Port
import PageReporter.Host

/-!
# Starting a browser

A browser is started with a profile of its own, which is thrown away with it. It chooses a port
and tells it in a file, which is looked for ten times a second.

* `LaunchOptions` — what can be said about the start;
* `Browser.terminate` — ends the process, by force if it has to be;
* `Browser.awaitSocket` — waits for the address of the socket;
* `Browser.launch` — the whole start.
-/

namespace PageReporter

/-- What can be said about the start of a browser. -/
structure LaunchOptions where
  chromePath : Value := .null
  headless : Value := .bool true
  extraArgs : Value := .list []
  timeout : Value := .double 30
  protocolTimeout : Value := .double 30

namespace Browser

/-! ## Ending the process -/

/-- Waits a while for the process to end, and ends it by force if it does not. -/
def awaitEnd : Script Host Unit := do
  try
    Host.ask (.awaitExit (.seconds 5))
  catch e =>
    if e.isTimeLimit then do
      Script.ignoring Fault.isNoProcess (Host.ask .kill)
      Host.ask (.awaitExit .unlimited)
    else throw e

/-- Ends the process of the browser, unless it has ended by itself: it is asked to end first. -/
def terminate : Script Host Unit := do
  let code : Option Int ← Host.ask .exitCode
  match code with
  | some _ => pure ()
  | none => do
    Script.ignoring Fault.isNoProcess (Host.ask .terminate)
    awaitEnd

/-- Ends the process and throws its profile away. -/
def discard : Script Host Unit := do
  terminate
  Host.ask .removeProfile

/-! ## The command -/

/-- Said when no browser is found. -/
def notFound : String :=
  "Chrome/Chromium not found. Install it or set PAGEWATCH_CHROME=...\n\n"
    ++ "Install options:\n"
    ++ "  macOS:   brew install --cask google-chrome\n"
    ++ "  Ubuntu:  sudo apt install chromium-browser\n"
    ++ "  Fedora:  sudo dnf install chromium"

/-- The switches that every browser is started with. -/
def switches : List String :=
  ["--no-sandbox", "--disable-setuid-sandbox", "--no-first-run", "--no-default-browser-check",
    "--disable-background-networking", "--disable-sync"]

/-- The words of a command, which all have to be texts. -/
def words : List Value → Except Fault (List String)
  | [] => .ok []
  | .str s :: rest => (words rest).map (s :: ·)
  | v :: _ => .error (.misuse (.other s!"sequence item: expected str instance, {v.shape} found"))

/-- The command that starts a browser with a profile. -/
def command (binary : Value) (profile : String) (headless extraArgs : Value) :
    Except Fault (List String) := do
  let front := [binary, .str "--remote-debugging-port=0", .str s!"--user-data-dir={profile}"]
  let window := if headless.truthy then [.str "--headless=new"] else []
  let extra ← extraArgs.items
  words (front ++ switches.map .str ++ window ++ extra ++ [.str "about:blank"])

/-! ## Waiting for the socket -/

/-- When a wait that begins at a time is over. -/
def deadline (start : Double) (timeout : Value) : Except Fault Double :=
  match timeout.number? with
  | some _ => timeout.asDouble.map (start + ·)
  | none => .error (.misuse (.other s!"unsupported operand type(s) for +: '{timeout.shape}'"))

/-- How many looks fit into a wait with room to spare: each takes a tenth of a second. -/
def looks (timeout : Value) : Nat :=
  match timeout.asDouble with
  | .ok x => ((x.scale 10).truncate?.getD 0x10000000000000000).toNat * 2 + 16
  | .error _ => 0

/-- Looks for the address of the socket, with a tenth of a second between two looks, until the
deadline or until the process has ended. -/
def look (timeout : Value) (due : Double) : Nat → Script Host String
  | 0 => timedOut
  | fuel + 1 => do
    let time : Double ← Host.ask .now
    if !time.lt due then timedOut
    else do
      let code : Option Int ← Host.ask .exitCode
      match code with
      | some code => throw (.protocol s!"Browser exited with code {code} during startup")
      | none => do
        let content : Option ByteArray ← Host.ask .portFile
        match ← Script.ofExcept (Port.address? content) with
        | some address => pure address
        | none => do
          Host.ask (.sleep (.double (Double.ofRatio false 1 10)))
          look timeout due fuel
where
  /-- The end of a wait in vain. -/
  timedOut : Script Host String := do
    let limit ← Script.ofExcept timeout.general
    throw (.system .timeLimit s!"Browser started but DevTools was not ready after {limit}s.")

/-- Waits for the address of the socket. -/
def awaitSocket (timeout : Value) : Script Host String := do
  let start : Double ← Host.ask .now
  let due ← Script.ofExcept (deadline start timeout)
  look timeout due (looks timeout)

/-! ## The start -/

/-- The binary to start: the one that is named, or else one that is found. -/
def binary (chromePath : Value) : Script Host Value := do
  if chromePath.truthy then pure chromePath
  else do
    let found : Option String ← Host.ask .findBrowser
    match found with
    | some path => if path.isEmpty then missing else pure (.str path)
    | none => missing
where
  /-- There is no browser. -/
  missing : Script Host Value := throw (.system .missingFile notFound)

/-- Starts the process. If the system refuses, the profile goes. -/
def spawn (command : List String) : Script Host Unit := do
  try
    Host.ask (.spawn command)
  catch e =>
    if e.isSystem then do
      Host.ask .removeProfile
      throw e
    else throw e

/-- Connects to the socket once its address is known. Whatever goes wrong, process and profile
go. -/
def reach (options : LaunchOptions) : Script Host Unit := do
  try
    let address ← awaitSocket options.timeout
    Host.ask (.openSocket address options.protocolTimeout)
  catch e => do
    discard
    throw e

/-- Starts a browser with a profile of its own. -/
def launch (options : LaunchOptions) : Script Host Browser := do
  let binary ← binary options.chromePath
  let profile : String ← Host.ask .makeProfile
  let command ← Script.ofExcept (command binary profile options.headless options.extraArgs)
  spawn command
  reach options
  Host.ask (.adopt true)
  pure ⟨true, options.protocolTimeout⟩

end Browser

end PageReporter
