import PageReporter.LogLevel
import PageReporter.Value.Access
import PageReporter.Diagnostic.Event

/-!
# What a page tells

The signals that a page makes out of the browser's events, with what each of them carries. What
they carry is as the browser tells it.

* `PageSignal` — the signals; `PageSignal.name` — the name that each goes by;
* `Handle` — a value that lives in the page; `PageMessage` — a call of its console.
-/

namespace PageReporter

/-- A value that lives in the page: the browser's description of it, and the context to call
functions in. -/
structure Handle where
  remote : Value
  context : Value

/-- How a handle shows itself. -/
def Handle.label (handle : Handle) : Except Fault String := do
  let type ← handle.remote.memberOr "type" (.str "?")
  let text ← type.text
  pure s!"JSHandle({text})"

/-- A call of the page's console. -/
structure PageMessage where
  type : Value
  place : Location
  args : List Handle
  timestamp : Double

/-- An exception that no one caught, or a crash. -/
structure PageFailure where
  message : Value
  stack : Value

/-- A request that the page made. -/
structure Request where
  url : Value
  method : Value
  failure : Value

/-- The answer to a request. -/
structure Response where
  url : Value
  status : Int
  statusText : Value

/-- Whether an answer counts as a success: any status from 200 to 299, and the status zero of
what never went over the network. -/
def Response.isOk (response : Response) : Bool :=
  response.status = 0 || (200 ≤ response.status && response.status ≤ 299)

/-- A signal of a page. -/
inductive PageSignal
  | console (message : PageMessage)
  | pageError (failure : PageFailure)
  | unhandledRejection (failure : PageFailure)
  | requestFailed (request : Request)
  | response (response : Response)
  | crash (failure : PageFailure)

namespace PageSignal

/-- The name that subscribers know a signal by. -/
def name : PageSignal → String
  | .console _ => "console"
  | .pageError _ => "pageerror"
  | .unhandledRejection _ => "unhandledrejection"
  | .requestFailed _ => "requestfailed"
  | .response _ => "response"
  | .crash _ => "error"

/-- The names of all signals. -/
def names : List String :=
  ["console", "pageerror", "unhandledrejection", "requestfailed", "response", "error"]

end PageSignal

end PageReporter
