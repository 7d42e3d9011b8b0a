import PageReporter.Browser.Launch
import PageReporter.Browser.Tabs

/-!
# Letting go of a browser

A browser that was started here is asked to quit, and its process and profile go whatever it
does. One that was running before keeps running: only the pages that were opened are closed.

* `Browser.close` — both cases.
-/

namespace PageReporter.Browser

/-- Asks a browser to quit and closes the connection to it. -/
def quit : Script Host Unit := do
  Script.ignoring Fault.isProtocol (do
    let _ ← Host.send .null "Browser.close" .null (.double 5)
    pure ())
  Host.ask .hangUp

/-- Closes the pages that were opened, and the connection. -/
def leave : Script Host Unit := do
  closePages
  Host.ask .mute
  Host.ask .hangUp

/-- Lets go of a browser. -/
def close (browser : Browser) : Script Host Unit :=
  if browser.launched then quit.andFinally discard else leave

end PageReporter.Browser
