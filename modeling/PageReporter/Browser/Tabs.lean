import PageReporter.Host
import PageReporter.Page.Tab

/-!
# Opening and closing pages

A browser opens a blank page, attaches to it, and switches on what its signals are made of. Only
then is the page one that the browser keeps, and closes when it is done.

* `Browser.newPage` — a new page;
* `Page.close` — asks the browser to close a page;
* `Browser.closePages` — closes all pages that are kept.
-/

namespace PageReporter

namespace Page

/-- The commands that switch on the events of a page. -/
def domains : List String :=
  ["Page.enable", "Runtime.enable", "Network.enable", "Inspector.enable"]

/-- Switches on the events of a page. -/
def enable (page : Page) : Script Host Unit := do
  Script.forEach (fun method => do
    let _ ← Host.sendTo page method .null .null
    pure ()) domains
  let _ ← Host.sendTo page "Page.setLifecycleEventsEnabled" (.object [("enabled", .bool true)]) .null
  pure ()

/-- Asks the browser to close a page. -/
def close (page : Page) : Script Host Unit := do
  let _ ← Host.send .null "Target.closeTarget" (.object [("targetId", page.target)]) .null
  pure ()

/-- How a page shows itself. -/
def label (page : Page) : String :=
  Tab.label page.target

end Page

namespace Browser

/-- Opens a blank page and attaches to it. -/
def newPage (browser : Browser) : Script Host Page := do
  let created ← Host.send .null "Target.createTarget"
    (.object [("url", .str "about:blank")]) .null
  let target ← Script.ofExcept (created.index "targetId")
  let attached ← Host.send .null "Target.attachToTarget"
    (.object [("targetId", target), ("flatten", .bool true)]) .null
  let key ← Script.ofExcept (attached.index "sessionId")
  let session : Nat ← Host.ask (.register key target)
  let tab : Nat ← Host.ask (.openTab session)
  let page : Page := ⟨tab, session, key, target, browser.timeout⟩
  page.enable
  Host.ask (.keepPage page)
  pure page

/-- Closes the kept pages from a number on. Pages may still be kept while others are closed, so
there is no count beforehand. -/
def closePagesFrom : Nat → Nat → Script Host Unit
  | 0, _ => pure ()
  | fuel + 1, number => do
    let page? : Option Page ← Host.ask (.keptPage number)
    match page? with
    | none => pure ()
    | some page => do
      page.close.ignoring Fault.isProtocol
      closePagesFrom fuel (number + 1)

/-- Closes all pages that are kept. No run keeps as many pages as this would still leave. -/
def closePages : Script Host Unit :=
  closePagesFrom 0x100000000 0

end Browser

end PageReporter
