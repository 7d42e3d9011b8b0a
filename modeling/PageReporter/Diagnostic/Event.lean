import PageReporter.Diagnostic.Category
import PageReporter.Diagnostic.Inspect
import PageReporter.Stream

/-!
# Diagnostic events

One thing that happened on a page, ready to be printed, and the line that it is printed as.

* `Event` — category, parts and place;
* `Event.line` — the tagged line; `Event.stream` — where it goes.
-/

namespace PageReporter

/-- A place in a source of the page. Its members are as the browser tells them. -/
structure Location where
  url : Value
  line : Value
  column : Value

/-- A diagnostic. -/
structure Event where
  category : Category
  parts : List Value
  location : Option Location

namespace Location

/-- A place on one line: the address, and line and column unless the line is absent or zero. -/
def text (location : Location) : Except Fault String := do
  let place ← if location.line.truthy then do
      let line ← location.line.text
      let column ← location.column.text
      pure s!":{line}:{column}"
    else pure ""
  let url ← location.url.text
  pure (url ++ place)

end Location

namespace Event

/-- The place of an event on one line; empty if it has none. -/
def place (event : Event) : Except Fault String :=
  match event.location with
  | none => .ok ""
  | some location => location.text

/-- The parts of an event on one line each. -/
def pieces : List Value → Except Fault (List String)
  | [] => .ok []
  | part :: parts => do
    let piece ← Inspect.render true part
    let rest ← pieces parts
    pure (piece :: rest)

/-- The line of an event: the tag in brackets, the place if there is one, and the parts, with a
space between each two. -/
def line (event : Event) : Except Fault String := do
  let place ← event.place
  let parts ← pieces event.parts
  let front := if place.isEmpty then [] else [place]
  pure (" ".intercalate (s!"[{event.category.tag}]" :: front ++ parts))

/-- Where an event is printed: plain console calls as output, everything else as errors. -/
def stream (event : Event) : Stream :=
  match event.category with
  | .consoleLog => .out
  | .consoleInfo => .out
  | .consoleDebug => .out
  | _ => .err

end Event

end PageReporter
