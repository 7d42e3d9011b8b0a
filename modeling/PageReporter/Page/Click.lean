import PageReporter.Host
import PageReporter.Page.ClickTarget
import PageReporter.Wire.Remote

/-!
# Clicking

Clicking the first element that a selector matches: the page is asked for the point, and then the
pointer is moved there, pressed and released, each once the one before it has been answered.

* `ClickTarget.ofAnswer` — the point that the page tells, or why there is none;
* `Page.click` — the whole click.
-/

namespace PageReporter

namespace ClickTarget

/-- The point that the page's answer tells. -/
def ofAnswer (selector : String) (answer : Value) : Except Fault (Value × Value) := do
  if ← answer.holds "exceptionDetails" then
    throw (.click (← Remote.exceptionText (← answer.index "exceptionDetails")))
  let result := (← answer.get "result").orElse (.object [])
  let told := (← result.get "value").orElse (.str "\x7b\x7d")
  let info ← told.parse
  let error ← info.get "error"
  if error.same (.str "missing") then
    throw (.click s!"No element found for selector: {selector}")
  if !(← info.holds "x") || !(← info.holds "y") then
    throw (.click "Node is either not visible or not an HTMLElement")
  pure (← info.index "x", ← info.index "y")

end ClickTarget

namespace Page

/-- One movement of the pointer. -/
def pointer (page : Page) (kind : String) (x y : Value) (button : List (String × Value)) :
    Script Host Unit := do
  let params := [("type", .str kind), ("x", x), ("y", y)] ++ button
  let _ ← Host.sendTo page "Input.dispatchMouseEvent" (.object params) .null
  pure ()

/-- The left button, once. -/
def leftButton : List (String × Value) :=
  [("button", .str "left"), ("clickCount", .int 1)]

/-- Clicks the first element that a selector matches, in its middle. The pointer is moved first,
so that the page sees it come. -/
def click (page : Page) (selector : String) : Script Host Unit := do
  let answer ← Host.sendTo page "Runtime.evaluate"
    (.object [("expression", .str (ClickTarget.script selector)), ("returnByValue", .bool true)])
    .null
  let (x, y) ← Script.ofExcept (ClickTarget.ofAnswer selector answer)
  page.pointer "mouseMoved" x y []
  page.pointer "mousePressed" x y leftButton
  page.pointer "mouseReleased" x y leftButton

end Page

end PageReporter
