import PageReporter.Diagnostic.Feed
import PageReporter.Limit
import PageReporter.Milestone
import PageReporter.Script
import PageReporter.Wire.Connection

/-!
# The host

What a session asks its surroundings for. One host has one connection, one browser and one feed;
sessions, tabs and watches are known by the order in which they came.

* `Host.Op` — the questions; `Host` — with their answers;
* `Page`, `Browser` — what scripts hold on to;
* `Host.sendTo` and its companions — the questions as scripts.
-/

namespace PageReporter

/-! ## What scripts hold on to -/

/-- A page: its tab, its session, and what commands to it need. -/
structure Page where
  tab : Nat
  session : Nat
  key : Value
  target : Value
  timeout : Value

/-- A browser, which either was started here or had been running before. -/
structure Browser where
  launched : Bool
  timeout : Value

/-- How a browser shows itself. -/
def Browser.label (browser : Browser) (connected : Bool) : String :=
  let mode := if browser.launched then "launched" else "attached"
  let up := if connected then "True" else "False"
  s!"Browser({mode}, connected={up})"

/-- The notice that a navigation waits for. A frame that is null stands for any. -/
structure Sought where
  frame : Value
  loader : Value
  milestone : Milestone

/-! ## Questions -/

/-- What scripts ask a host for. -/
inductive Host.Op
  /-- The seconds since the host came up. -/
  | now
  | sleep (seconds : Value)
  | print (line : Line)
  /-- Sends a command and waits for its answer; a limit that is null is the connection's own. -/
  | send (key : Value) (method : String) (params limit : Value)
  | isDetached (session : Nat)
  | register (key target : Value)
  /-- Closes the connection and waits for its reader to end. -/
  | hangUp
  | openTab (session : Nat)
  | keepPage (page : Page)
  /-- The page that was kept as the one with this number. -/
  | keptPage (number : Nat)
  | beginWatch (tab : Nat)
  | endWatch (tab : Nat)
  /-- Waits for a notice among those that a watch keeps. -/
  | awaitMilestone (tab watch : Nat) (sought : Sought) (limit : Value)
  /-- The end of the connection is no longer told as the loss of the browser. -/
  | mute
  | findBrowser
  | makeProfile
  | removeProfile
  | spawn (command : List String)
  /-- The exit code of the browser's process, once it has ended. -/
  | exitCode
  /-- What the browser has written about its port so far, if it has begun to. -/
  | portFile
  | terminate
  | kill
  | awaitExit (limit : Limit)
  | fetch (address : String)
  /-- Opens the socket and starts reading. The limit is also that of every later command. -/
  | openSocket (address : String) (limit : Value)
  /-- The browser listens to its connection from now on. -/
  | adopt (launched : Bool)
  | followBrowser
  | followTab (tab : Nat)
  /-- Keeps a record of what a tab tells from now on. -/
  | recordTab (tab : Nat)
  /-- Whether the connection is up. -/
  | isConnected
  | startPrinter
  | isFeedClosed
  /-- Waits until no console call is left in the line-up. -/
  | awaitLineup
  /-- Closes the feed, and prints what is left if there is no printer. Answers whether there
  is one. -/
  | stopFeed
  /-- Waits until the printer has ended. -/
  | awaitPrinter

/-- The surroundings of a session. -/
@[reducible] def Host : Signature where
  Op := Host.Op
  Answer
    | .now => Double
    | .send .. => Value
    | .isDetached _ => Bool
    | .register .. => Nat
    | .openTab _ => Nat
    | .keptPage _ => Option Page
    | .beginWatch _ => Nat
    | .findBrowser => Option String
    | .makeProfile => String
    | .exitCode => Option Int
    | .portFile => Option ByteArray
    | .fetch _ => ByteArray
    | .isConnected => Bool
    | .isFeedClosed => Bool
    | .stopFeed => Bool
    | _ => Unit

namespace Host

/-- A question to the host. -/
def ask (op : Host.Op) : Script Host (Host.Answer op) :=
  Script.perform (S := Host) op

/-- Sends a command to the session with a key, or to the browser if the key is empty. -/
def send (key : Value) (method : String) (params limit : Value) : Script Host Value :=
  ask (.send key method params limit)

/-- Sends a command to the session of a page, unless it has come to its end. -/
def sendTo (page : Page) (method : String) (params limit : Value) : Script Host Value := do
  let detached : Bool ← ask (.isDetached page.session)
  if detached then throw (.protocol s!"{method}: target closed")
  else send page.key method params limit

/-- Prints a line. -/
def print (stream : Stream) (text : String) : Script Host Unit :=
  ask (.print (stream, text))

end Host

end PageReporter
