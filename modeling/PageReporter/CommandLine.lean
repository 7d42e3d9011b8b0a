import PageReporter.Settings
import PageReporter.Stream

/-!
# The command line

What the arguments of the tool ask for, and the texts that it prints about itself.

* `Invocation.ofArgs` — the address and the commands among the arguments;
* `CommandLine.plan` — what the arguments ask for;
* `CommandLine.helpLines`, `CommandLine.refusal`, `CommandLine.failure?` — what is printed;
* `CommandLine.ending` — how a visit ends.
-/

namespace PageReporter

/-! ## Arguments -/

/-- What one run of the tool is to do. -/
structure Invocation where
  url : String
  commands : Option String
deriving DecidableEq

namespace Invocation

/-- Whether an argument is an option: a dash with something after it. -/
def isOption (arg : String) : Bool :=
  match arg.toList with
  | '-' :: _ :: _ => true
  | _ => false

/-- The address and the commands among the arguments. There are no options here, so the first
one that looks like one is refused; an address has to be there; more than two arguments are
not looked at. -/
def ofArgs (args : List String) : Except Fault Invocation :=
  match args.find? isOption with
  | some option => .error (.usage s!"Unknown option: {option}")
  | none =>
    match args with
    | [] => .error (.usage "Please provide a URL.")
    | url :: rest =>
      if url.isEmpty then .error (.usage "Please provide a URL.")
      else .ok ⟨url, rest.head?⟩

end Invocation

/-- What arguments ask for. -/
inductive Plan
  | help
  | version
  | refuse (cause : Fault)
  | visit (invocation : Invocation)

namespace CommandLine

/-- What arguments ask for. Without any there is help; asking for help comes before asking for
the version, wherever they stand. -/
def plan (args : List String) : Plan :=
  if args.isEmpty || args.any fun a => a == "--help" || a == "-h" then .help
  else if args.any fun a => a == "--version" || a == "-V" then .version
  else match Invocation.ofArgs args with
    | .ok invocation => .visit invocation
    | .error e => .refuse e

/-! ## Texts -/

/-- A text in a color of the terminal, if there are colors. -/
def paint (color : Bool) (code text : String) : String :=
  if color then s!"\x1b[{code}m{text}\x1b[0m" else text

def dim (color : Bool) (text : String) : String :=
  paint color "2" text

def bold (color : Bool) (text : String) : String :=
  paint color "1" text

def cyan (color : Bool) (text : String) : String :=
  paint color "36" text

def red (color : Bool) (text : String) : String :=
  paint color "31" text

/-- The commands with what each does. -/
def commands : List (String × String) :=
  [("wait <time>", "Waits for a specified time (e.g., 5s, 1000ms)."),
    ("click <selector>", "Clicks an element.")]

/-- A text filled up with spaces to a width. -/
def padded (width : Nat) (text : String) : String :=
  text ++ String.ofList (List.replicate (width - text.length) ' ')

/-- The help text. -/
def helpLines (color : Bool) : List Line :=
  ["", bold color "Usage:" ++ " pagewatch <url> \"[commands]\"", "",
    "A command-line tool to automate browser actions.",
    "Console output, page errors, failed requests and non-OK responses",
    "are mirrored to this terminal.", "",
    cyan color "Commands:"].map (Stream.out, ·)
  ++ (commands.map fun (command, text) => (Stream.out, "  " ++ padded 18 command ++ text))
  ++ ["", cyan color "Example:",
    "  pagewatch https://example.com \"click .some-button wait 5s\"", "",
    dim color "Env: CDP_URL — attach to a running browser instead of launching one",
    dim color "     PAGEWATCH_CHROME — browser binary (default: auto-detect)",
    dim color "     PAGEWATCH_HEADLESS=0 — show the browser window",
    dim color "     PAGEWATCH_LOG_LEVEL — internal log level (default: WARNING)",
    dim color "     NO_COLOR — disable colored output", ""].map (Stream.out, ·)

/-- The version. -/
def versionLine : Line :=
  (.out, "pagewatch 0.1.0")

/-- What is printed about arguments that are refused. -/
def refusal (color : Bool) (cause : Fault) : List Line :=
  [(.err, cause.message), (.err, dim color "Run 'pagewatch --help' for usage.")]

/-- What is printed about a session that could not be had. None for faults of another kind: they
are not the tool's to report. -/
def failure? (color : Bool) (cause : Fault) : Option (List Line) :=
  match cause with
  | .noBrowser _ => some [(.err, red color "✗ Browser not running\n"), (.err, cause.message)]
  | .system .missingFile _ => some [(.err, red color s!"✗ {cause.message}")]
  | .system .timeLimit _ => some [(.err, red color s!"✗ {cause.message}")]
  | cause => if cause.isProtocol then some [(.err, red color s!"✗ {cause.message}")] else none

/-! ## Endings -/

/-- How a visit ends. -/
inductive Ending
  /-- With an exit status, after some lines. -/
  | exit (status : Nat) (lines : List Line)
  /-- With a fault that nothing reports. -/
  | escape (cause : Fault)
deriving DecidableEq

/-- How a visit with this result ends. One that the person at the keyboard interrupts ends
quietly. -/
def ending {α : Type} (color : Bool) (result : Except Fault α) : Ending :=
  match result with
  | .ok _ => .exit 0 []
  | .error .interrupted => .exit 0 []
  | .error cause =>
    match failure? color cause with
    | some lines => .exit 1 lines
    | none => .escape cause

end CommandLine

end PageReporter
