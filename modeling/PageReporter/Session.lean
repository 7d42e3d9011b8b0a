import PageReporter.Browser.Attach
import PageReporter.Browser.Close
import PageReporter.Command.Executor
import PageReporter.Page.Click
import PageReporter.Page.Navigation
import PageReporter.Settings

/-!
# Sessions

One session: a browser, a page, a navigation, commands, and a while of grace for what is still on
its way, with everything reported from before the navigation on. Whatever happens, the browser is
let go of, and then the feed is emptied.

* `Session.openBrowser` — attaches or starts, as the settings say;
* `Session.closeFeed` — waits for the console, then prints what is left;
* `Session.run` — the whole session; its result is what became of the commands.
-/

namespace PageReporter.Session

/-! ## Parts -/

/-- Attaches to the browser that the settings name, or starts one. -/
def openBrowser (settings : Settings) : Script Host Browser :=
  if settings.cdpUrl.truthy then Browser.attach settings.cdpUrl settings.protocolTimeout
  else Browser.launch ⟨settings.chromePath, settings.headless, settings.extraArgs,
    settings.launchTimeout, settings.protocolTimeout⟩

/-- Waits until the console's line-up is empty, closes the feed, and waits until everything is
printed. A feed that is closed is left alone. -/
def closeFeed : Script Host Unit := do
  let closed : Bool ← Host.ask .isFeedClosed
  if closed then pure ()
  else do
    Host.ask .awaitLineup
    let printer : Bool ← Host.ask .stopFeed
    if printer then Host.ask .awaitPrinter else pure ()

/-- What commands ask for, done with a page. -/
def hand (page : Page) : (op : Hand.Op) → Script Host Unit
  | .print (stream, text) => Host.print stream text
  | .pause seconds => Host.ask (.sleep (.double seconds))
  | .click selector => page.click selector

/-- Runs the commands of a text on a page. -/
def runCommands (page : Page) (commands : Option String) : Script Host (List Outcome) :=
  match commands with
  | none => pure []
  | some text =>
    if text.isEmpty then pure []
    else (Command.runText text).interpret (T := Host) (hand page)

/-- Opens a page, navigates, and runs the commands. -/
def visit (browser : Browser) (url : String) (commands : Option String) (settings : Settings) :
    Script Host (List Outcome) := do
  let page ← browser.newPage
  Host.ask (.followTab page.tab)
  page.goto url settings.waitUntil settings.navigationTimeout
  runCommands page commands

/-! ## The session -/

/-- A visit, where a fault of the conversation is reported and ends the visit only. -/
def attempt (browser : Browser) (url : String) (commands : Option String) (settings : Settings) :
    Script Host (List Outcome) := do
  try
    visit browser url commands settings
  catch e =>
    if e.isProtocol then do
      Host.print .err s!"Failed to navigate to {url}: {e.message}"
      pure []
    else throw e

/-- A visit and the while of grace after it. -/
def stay (browser : Browser) (url : String) (commands : Option String) (settings : Settings) :
    Script Host (List Outcome) := do
  let outcomes ← attempt browser url commands settings
  Host.ask (.sleep settings.gracePeriod)
  pure outcomes

/-- The whole session. -/
def run (url : String) (commands : Option String) (settings : Settings) :
    Script Host (List Outcome) := do
  Host.print .out s!"Navigating to {url}..."
  let browser ← openBrowser settings
  Host.ask .followBrowser
  Host.ask .startPrinter
  (stay browser url commands settings).andFinally (browser.close.andFinally closeFeed)

end PageReporter.Session
