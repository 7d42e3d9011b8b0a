import PageReporter.Text.Escape

/-!
# Finding the target of a click

The program that the page runs to find the point to click: the middle of the first element that a
selector matches, once it has been scrolled into view. It answers with a JSON text that holds
either the two coordinates or the reason why there are none.

* `ClickTarget.script` — the program for one selector.
-/

namespace PageReporter.ClickTarget

/-- The program up to the selector. -/
def before : String :=
  "\n    (() => \x7b\n      const el = document.querySelector("

/-- The program from the selector on. -/
def after : String :=
  ");\n"
    ++ "      if (!el) return JSON.stringify(\x7b error: 'missing' \x7d);\n"
    ++ "      if (typeof el.scrollIntoViewIfNeeded === 'function') \x7b\n"
    ++ "        el.scrollIntoViewIfNeeded(true);\n"
    ++ "      \x7d else if (typeof el.scrollIntoView === 'function') \x7b\n"
    ++ "        el.scrollIntoView(\x7b block: 'center', inline: 'center' \x7d);\n"
    ++ "      \x7d\n"
    ++ "      const rects = el.getClientRects ? el.getClientRects() : [];\n"
    ++ "      const rect = rects.length ? rects[0] : null;\n"
    ++ "      if (!rect || rect.width === 0 || rect.height === 0) \x7b\n"
    ++ "        return JSON.stringify(\x7b error: 'invisible' \x7d);\n"
    ++ "      \x7d\n"
    ++ "      return JSON.stringify(\x7b\n"
    ++ "        x: rect.left + rect.width / 2,\n"
    ++ "        y: rect.top + rect.height / 2,\n"
    ++ "      \x7d);\n"
    ++ "    \x7d)()\n"
    ++ "    "

/-- The program for one selector, which stands in it as a string literal. -/
def script (selector : String) : String :=
  before ++ String.ofList (Text.literal selector.toList) ++ after

end PageReporter.ClickTarget
