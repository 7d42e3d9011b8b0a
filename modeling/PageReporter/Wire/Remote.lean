import PageReporter.Value.Access

/-!
# Values that the browser describes

The browser tells a value of the page by a description: a kind, and the value itself where it can
be written down. Here descriptions are read, and turned into arguments of further calls.

* `Remote.decode` — the value that a description stands for;
* `Remote.argument` — the description as an argument;
* `Remote.exceptionText` — what an uncaught exception says.
-/

namespace PageReporter.Remote

/-- The value behind one of the names for what JSON has no literal for: the numbers that are not
finite, negative zero, and whole numbers of arbitrary size. -/
def named (raw : Value) : Except Fault Value :=
  match raw with
  | .str "NaN" => .ok (.double .nan)
  | .str "Infinity" => .ok (.double (.infinite false))
  | .str "-Infinity" => .ok (.double (.infinite true))
  | .str "-0" => .ok (.double (.finite true 0 representable_zero))
  | .str s =>
    let unknown : Except Fault Value := .error (.protocol s!"Unknown unserializable value: {s}")
    match s.toList.reverse with
    | 'n' :: digits =>
      match readInt? digits.reverse with
      | some i => .ok (.bigint i)
      | none => unknown
    | _ => unknown
  | v => .error (.noAttribute v.shape "endswith")

/-- The value that a description stands for. A named value comes first, then undefined, then the
value itself; a description with none of them cannot be read. -/
def decode (remote : Value) : Except Fault Value := do
  if ← remote.holds "unserializableValue" then
    named (← remote.index "unserializableValue")
  else
    let type ← remote.get "type"
    if type.same (.str "undefined") then pure .undefined
    else if ← remote.holds "value" then remote.index "value"
    else
      let description ← remote.get "description"
      let what := description.orElse (← remote.memberOr "type" (.str "value"))
      throw (.protocol s!"Could not serialize {what.plain}")

/-- A description as an argument of a call: by reference if it has one, by name or by value
otherwise. Undefined is the argument that says nothing. -/
def argument (remote : Value) : Except Fault Value := do
  if ← remote.holds "objectId" then
    pure (.object [("objectId", ← remote.index "objectId")])
  else if ← remote.holds "unserializableValue" then
    pure (.object [("unserializableValue", ← remote.index "unserializableValue")])
  else if (← remote.get "type").same (.str "undefined") then pure (.object [])
  else pure (.object [("value", ← remote.get "value")])

/-- What an uncaught exception says: the thrown value if it is no object, its description, or
what the browser says about it. -/
def exceptionText (details : Value) : Except Fault String := do
  let exception := (← details.get "exception").orElse (.object [])
  if ← exception.holds "value" then
    if !(← exception.get "type").same (.str "object") then
      return ← (← exception.index "value").text
  let description ← exception.get "description"
  if description.truthy then return description.plain
  let text ← details.get "text"
  return if text.truthy then text.plain else "Evaluation failed"

end PageReporter.Remote
