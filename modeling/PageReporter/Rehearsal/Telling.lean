import PageReporter.Rehearsal.World

/-!
# Telling events in a rehearsal

How an event gets from the socket to those who listen: from the connection to sessions, from
sessions to tabs, from tabs to the feed, and from the feed to the lines that are recorded.

* `World.fireFeed` — a signal arrives at the feed, and the arguments it needs are looked up;
* `World.tellTab`, `World.tellSession`, `World.tellConnection` — an event is told;
* `World.deliver` — what the connection makes of a frame is told.
-/

namespace PageReporter.World

variable {α : Type}

/-! ## The feed -/

/-- Whether one text occurs in another. -/
def mentions (text part : String) : Bool :=
  Value.occurs part.toList text.toList

/-- Prints an event in its column, unless its line cannot be made or cannot be printed. -/
def emit (event : Event) (w : World α) : World α × Option Fault :=
  match event.line with
  | .error e => (w, some e)
  | .ok text =>
    let refused := match w.scenario.unprintable with
      | some part => mentions text part
      | none => false
    if refused then (w, some (.system .general "unprintable"))
    else
      let lane := if event.category.isConsole then .console else .signals
      (w.printLine lane (event.stream, text), none)

/-- The feed takes its course: what is settled is queued, and what is queued is printed. Those who
wait for the line-up or the printer are woken when there is an end to wait for. -/
def pump (w : World α) : World α :=
  let (feed, notes) := w.feed.advance
  let w := notes.foldl note w
  let (feed, w) := feed.print emit (fun n w => w.note n) w
  let w := { w with feed := feed }
  let w := if feed.lineup.isEmpty then w.wake (fun op _ => op matches .awaitLineup) else w
  if feed.printer = .ended then w.wake (fun op _ => op matches .awaitPrinter) else w

/-- An argument of a console call is settled. -/
def settleArgument (w : World α) (ticket slot : Nat) (result : Except Fault Value) : World α :=
  { w with feed := w.feed.settle ticket slot result }

/-- A look-up as a script that ends with the argument, however the look-up ends. -/
def argumentScript (ticket slot : Nat) : Script Host Value → Script Host (Ending α)
  | .done result => .done (.ok (.argument ticket slot result))
  | .ask op next => .ask op fun answer => argumentScript ticket slot (next answer)

/-- Begins a look-up of an argument, which is called off when its time is over. -/
def beginLookup (limit : Limit) (ticket slot : Nat) (lookup : Script Host Value) (w : World α) :
    World α :=
  match limit with
  | .over => w.settleArgument ticket slot (.error .cancelled)
  | .unlimited => (w.spawn (argumentScript ticket slot lookup)).2
  | .within seconds =>
    let (id, w) := w.spawn (argumentScript ticket slot lookup)
    w.addTimer (w.clock + seconds) (.callOff id)

/-- Begins the look-ups of the arguments of a console call. -/
def beginLookups (limit : Limit) (ticket : Nat) :
    Nat → List (Script Host Value) → World α → World α
  | _, [], w => w
  | slot, lookup :: rest, w =>
    beginLookups limit ticket (slot + 1) rest (w.beginLookup limit ticket slot lookup)

/-- The seconds that a look-up may take. -/
def lookupLimit : Limit :=
  .seconds 5

/-- A signal arrives at the feed, with the look-ups of its arguments. -/
def fireFeed (w : World α) (limit : Limit) (signal : FeedSignal)
    (lookups : List (Script Host Value)) : World α × Option Fault :=
  match w.feed.fire signal with
  | .error e => (w, some e)
  | .ok (feed, none) => (pump { w with feed := feed }, none)
  | .ok (feed, some ticket) =>
    (pump (beginLookups limit ticket 0 lookups { w with feed := feed }), none)

/-! ## Tabs -/

/-- Whether a signal can be recorded: the handles in it have to show themselves. -/
def recordable : PageSignal → Except Fault Unit
  | .console message => message.args.forM fun handle => handle.label.map fun _ => ()
  | _ => .ok ()

/-- The look-ups that a signal of a tab needs. -/
def lookupsOf (session : Nat) (key : Value) : PageSignal → List (Script Host Value)
  | .console message => message.args.map fun handle => handle.resolve session key
  | _ => []

/-- The key of a session. -/
def keyOf (w : World α) (session : Nat) : Value :=
  match w.connection.session? session with
  | some s => s.key
  | none => .null

/-- Tells a signal of a tab to one of its followers. -/
def tellFollower (number session : Nat) (signal : PageSignal) :
    Follower → World α → World α × Option Fault
  | .recorder, w =>
    match recordable signal with
    | .ok _ => (w.hear (.page number) signal.name (.signal signal), none)
    | .error e => (w, some e)
  | .feed, w =>
    w.fireFeed lookupLimit signal.toFeed (lookupsOf session (w.keyOf session) signal)

/-- Tells a signal of a tab to those who follow the tab. -/
def tellTab (number : Nat) (w : World α) (signal : PageSignal) : World α :=
  match w.tabs[number]? with
  | none => w
  | some t =>
    emitTo (tellFollower number t.session signal) (fun n w => w.note n) signal.name
      (t.followers.handlers signal.name) w

/-- A tab gets an event of its session. Those who wait for its notices are woken. -/
def tabReceive (number : Nat) (event : String) (payload : Value) (w : World α) :
    World α × Option Fault :=
  match w.tabs[number]? with
  | none => (w, none)
  | some t =>
    let reaction := t.tab.receive w.scenario.wallClock event payload
    let w := { w with tabs := w.tabs.set number ⟨t.session, reaction.tab, t.followers⟩ }
    let w := reaction.signals.foldl (tellTab number) w
    let w := w.wake fun op _ =>
      match op with
      | .awaitMilestone tab _ _ _ => tab = number
      | _ => false
    (w, reaction.fault)

/-! ## Sessions, browser, connection -/

/-- A handler of the rehearsal's that is made to fail. -/
def staged : Fault :=
  .foreign "RuntimeError" "staged"

/-- Tells an event of a session to one who listens. -/
def tellSessionListener (key : Value) (event : String) (payload : Value) :
    SessionListener → World α → World α × Option Fault
  | .recorder, w => (w.hear (.session key) event (.value payload), none)
  | .faulty, w => (w, some staged)
  | .tab number, w => w.tabReceive number event payload

/-- Tells an event of a session. -/
def tellSession (w : World α) (number : Nat) (event : String) (payload : Value) : World α :=
  let roster := (w.sessionListeners[number]?).getD {}
  emitTo (tellSessionListener (w.keyOf number) event payload) (fun n w => w.note n) event
    (roster.handlers event) w

/-- Tells an event of the browser to one who follows it. -/
def tellBrowserFollower (event : String) : Follower → World α → World α × Option Fault
  | .recorder, w => (w.hear .browser event (.value .null), none)
  | .feed, w => w.fireFeed lookupLimit .disconnected []

/-- Tells an event of the browser. -/
def tellBrowser (w : World α) (event : String) : World α :=
  emitTo (tellBrowserFollower event) (fun n w => w.note n) event
    (w.browserFollowers.handlers event) w

/-- Tells an event of the connection to one who listens. -/
def tellConnectionListener (event : String) (payload : Value) :
    ConnectionListener → World α → World α × Option Fault
  | .recorder, w => (w.hear .connection event (.value payload), none)
  | .faulty, w => (w, some staged)
  | .browser, w => (if w.muted then w else w.tellBrowser "disconnected", none)

/-- Tells an event of the connection. -/
def tellConnection (w : World α) (event : String) (payload : Value) : World α :=
  emitTo (tellConnectionListener event payload) (fun n w => w.note n) event
    (w.connectionListeners.handlers event) w

/-- Tells what the connection made of a frame. -/
def deliver (w : World α) : Delivery → World α
  | .browser event payload => w.tellConnection event payload
  | .session number event payload => w.tellSession number event payload

/-! ## The reader -/

/-- The turn of the script that waits for the answer to a command comes. -/
def wakeSender (w : World α) (number : Nat) : World α :=
  w.wake fun op n =>
    match op with
    | .send .. => n = number
    | _ => false

/-- The connection is closed, and everyone hears of it. -/
def closeConnection (w : World α) : World α :=
  let (c, numbers, told) := w.connection.close
  let w := numbers.foldl wakeSender { w with connection := c }
  told.foldl deliver w

/-- The reader ends, and with it the connection. -/
def endReader (w : World α) (fault : Option Fault) : World α :=
  let w := w.closeConnection
  let w := { w with reader := .ended fault }
  w.wake fun op _ => op matches .hangUp

/-- What a frame made of the connection takes effect. -/
def applyOutcome (w : World α) (outcome : Connection.Outcome) : World α :=
  let w := { w with connection := outcome.connection }
  let w := match outcome.settled with
    | some number => w.wakeSender number
    | none => w
  outcome.deliveries.foldl deliver w

/-- The reader reads what has come in, up to the first frame that it cannot understand or to the
end. -/
def readAll : List Inbound → World α → World α
  | [], w => w
  | .closing :: _, w => w.endReader none
  | .lost :: _, w => w.endReader none
  | .text frame :: rest, w =>
    let outcome := w.connection.dispatchText frame
    let w := w.applyOutcome outcome
    match outcome.fault with
    | some e => w.endReader (some e)
    | none => readAll rest w
  | .members frame :: rest, w =>
    let outcome := w.connection.dispatch frame
    let w := w.applyOutcome outcome
    match outcome.fault with
    | some e => w.endReader (some e)
    | none => readAll rest w

/-- The reader's turn. -/
def read (w : World α) : World α :=
  match w.reader with
  | .running => readAll w.inbox { w with inbox := [] }
  | _ => w

/-- Frames come in. After the end of the socket nothing does. -/
def receive : List Inbound → World α → World α
  | [], w => w
  | frame :: rest, w =>
    if !w.receiving then w
    else
      let w := { w with inbox := w.inbox ++ [frame] }
      match frame with
      | .closing => { w with receiving := false, sendable := false }
      | .lost => { w with receiving := false, sendable := false }
      | _ => receive rest w

/-- Frames come in, and the reader's turn comes. -/
def arrive (w : World α) (frames : List Inbound) : World α :=
  (receive frames w).addTurn .read

/-- The reader starts, once. -/
def startReader (w : World α) : World α :=
  match w.reader with
  | .absent => { w with reader := .running }.addTurn .read
  | _ => w

end PageReporter.World
