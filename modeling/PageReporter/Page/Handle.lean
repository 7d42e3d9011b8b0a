import PageReporter.Host
import PageReporter.Wire.Remote

/-!
# Looking up values of the page

A value that lives in the page is fetched by calling a function with it there. What comes back is
described by value.

* `Handle.evaluate` — the result of a function of the page;
* `Handle.resolve` — the value itself, where an error stands for its stack.
-/

namespace PageReporter.Handle

/-- The function that fetches an argument of a console call: an error becomes its stack trace, or
its message; everything else is handed back as it is. -/
def resolver : String :=
  "(o) => \x7b\n  if (o instanceof Error) \x7b\n    return o.stack || o.message;\n  \x7d\n  return o;\n\x7d"

/-- Where a function is called: on the object itself if the value has one, otherwise in the
context in which the value was told. -/
def place (handle : Handle) : Except Fault (String × Value) := do
  if ← handle.remote.holds "objectId" then
    pure ("objectId", ← handle.remote.index "objectId")
  else if !handle.context.isNull then pure ("executionContextId", handle.context)
  else throw (.protocol "Cannot evaluate a handle without an execution context")

/-- The parameters of a call. -/
def callParams (handle : Handle) (function : String) : Except Fault Value := do
  let argument ← Remote.argument handle.remote
  let place ← handle.place
  pure (.object [("functionDeclaration", .str function), ("arguments", .list [argument]),
    ("returnByValue", .bool true), ("awaitPromise", .bool true), place])

/-- The value that a call's answer describes, unless the function threw. -/
def resultOf (answer : Value) : Except Fault Value := do
  if ← answer.holds "exceptionDetails" then
    throw (.protocol (← Remote.exceptionText (← answer.index "exceptionDetails")))
  let result ← answer.get "result"
  Remote.decode (result.orElse (.object []))

/-- Calls a function of the page with a value, in the session of the page. -/
def evaluate (handle : Handle) (session : Nat) (key : Value) (function : String) :
    Script Host Value := do
  let params ← Script.ofExcept (handle.callParams function)
  let detached : Bool ← Host.ask (.isDetached session)
  if detached then throw (.protocol "Runtime.callFunctionOn: target closed")
  let answer ← Host.send key "Runtime.callFunctionOn" params .null
  Script.ofExcept (resultOf answer)

/-- Fetches an argument of a console call. -/
def resolve (handle : Handle) (session : Nat) (key : Value) : Script Host Value :=
  handle.evaluate session key resolver

end PageReporter.Handle
