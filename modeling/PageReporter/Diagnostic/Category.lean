import PageReporter.Value.Access

/-!
# Categories of diagnostics

The closed set of things that are reported about a page, with the tag that each is printed under.

* `Category` — the set; `Category.tag` — what stands between the brackets;
* `Category.ofConsoleType` — where a console call belongs.
-/

namespace PageReporter

/-- What a diagnostic is about. -/
inductive Category
  | consoleLog
  | consoleInfo
  | consoleWarn
  | consoleError
  | consoleDebug
  | pageError
  | unhandledRejection
  | requestFailed
  | responseError
  | browserDisconnected
  | pageCrash
deriving DecidableEq

namespace Category

/-- All categories. -/
def all : List Category :=
  [.consoleLog, .consoleInfo, .consoleWarn, .consoleError, .consoleDebug, .pageError,
    .unhandledRejection, .requestFailed, .responseError, .browserDisconnected, .pageCrash]

/-- The full name of a category. -/
def name : Category → String
  | .consoleLog => "console-log"
  | .consoleInfo => "console-info"
  | .consoleWarn => "console-warn"
  | .consoleError => "console-error"
  | .consoleDebug => "console-debug"
  | .pageError => "page-error"
  | .unhandledRejection => "unhandled-rejection"
  | .requestFailed => "request-failed"
  | .responseError => "response-error"
  | .browserDisconnected => "browser-disconnected"
  | .pageCrash => "page-crash"

/-- The category with this full name. -/
def ofName? (name : String) : Option Category :=
  all.find? fun c => c.name = name

/-- Whether a diagnostic comes from a call of the console. -/
def isConsole : Category → Bool
  | .consoleLog => true
  | .consoleInfo => true
  | .consoleWarn => true
  | .consoleError => true
  | .consoleDebug => true
  | _ => false

/-- The tag of a category: the level for console calls, the full name for all else. -/
def tag : Category → String
  | .consoleLog => "log"
  | .consoleInfo => "info"
  | .consoleWarn => "warn"
  | .consoleError => "error"
  | .consoleDebug => "debug"
  | c => c.name

/-- The category of a console call by its type. A type that is not listed is a plain log. -/
def ofConsoleName (type : String) : Category :=
  match type with
  | "error" => .consoleError
  | "assert" => .consoleError
  | "warn" => .consoleWarn
  | "warning" => .consoleWarn
  | "info" => .consoleInfo
  | "debug" => .consoleDebug
  | _ => .consoleLog

/-- The category of a console call by its type, of which nothing is known. -/
def ofConsoleType (type : Value) : Except Fault Category :=
  match type with
  | .str name => .ok (ofConsoleName name)
  | type => type.asKey.map fun _ => .consoleLog

end Category

end PageReporter
