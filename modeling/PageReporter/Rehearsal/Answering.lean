import PageReporter.Page.Navigation
import PageReporter.Rehearsal.Telling

/-!
# Answering scripts in a rehearsal

What the world of a rehearsal answers to each question of a script: at once, or once something
has happened that the script then waits for.

* `World.begin` — a question is asked; `World.poll` — whether a wait has come to its end;
* `World.proceed` — a script goes on as far as it can;
* `World.takeTurn` — one turn.
-/

namespace PageReporter.World

variable {α : Type}

/-- What comes of a question: an answer at once, or a wait, with the number of the command whose
answer is waited for. -/
inductive Begun (α : Type) (β : Type)
  | answered (w : World α) (answer : Except Fault β)
  | waits (w : World α) (number : Nat)

/-! ## Commands -/

/-- What comes back for a command is on its way. -/
def schedule (w : World α) (start : Double) : List (Double × List Inbound) → World α
  | [] => w
  | (milliseconds, frames) :: rest =>
    schedule (w.addTimer (after start milliseconds) (.deliver frames)) start rest

/-- Sends a frame, and lets the scripted browser respond. -/
def transmit (w : World α) (number : Nat) (method : String) (params key : Value) : World α :=
  let frame := Connection.frame number method params key
  let w := { w with record.sent := w.record.sent ++ [(w.clock, frame)] }
  let (peer, groups) := w.peer.respond number method params
  schedule { w with peer := peer } w.clock groups

/-- The limit of a command, as it is given or as the connection has it. -/
def limitOf (w : World α) (limit : Value) : Value :=
  if limit.isNull then w.timeout else limit

/-- The sender of a command is done with it. -/
def done (w : World α) (number : Nat) : World α :=
  { w with connection := w.connection.finish number }

/-- Said of a command that took too long. -/
def timedOut {β : Type} (method : String) (limit : Value) : Except Fault β := do
  let text ← limit.general
  throw (.protocol s!"{method} timed out after {text}s")

/-- A wait within a limit. -/
def within (w : World α) (task : Nat) (limit : Limit) : World α :=
  match limit with
  | .within seconds => w.addTimer (w.clock + seconds) (.elapse task)
  | _ => w

/-- Begins a command. -/
def beginSend (w : World α) (task : Nat) (key : Value) (method : String) (params limit : Value) :
    Begun α Value :=
  match w.connection.begin method with
  | .error e => .answered w (.error e)
  | .ok (number, c) =>
    let w := { w with connection := c }
    if !w.sendable then
      .answered (w.done number) (.error (.protocol s!"{method}: connection closed"))
    else
      let w := w.transmit number method params key
      let limit := w.limitOf limit
      match Limit.ofValue limit with
      | .error e => .answered (w.done number) (.error e)
      | .ok .over => .answered (w.done number) (timedOut method limit)
      | .ok bounded => .waits (w.within task bounded) number

/-! ## The process -/

/-- What is written into the port file is on its way; what is there from the start is there. -/
def schedulePort (start : Double) : List (Double × ByteArray) → World α → World α
  | [], w => w
  | (milliseconds, content) :: rest, w =>
    let w := if milliseconds.le 0 then { w with portFile := some content }
      else w.addTimer (after start milliseconds) (.writePort content)
    schedulePort start rest w

/-- Starts the process. -/
def startProcess (w : World α) (command : List String) : World α × Except Fault Unit :=
  let w := { w with record.spawned := w.record.spawned ++ [command] }
  match w.scenario.spawnFault with
  | some e => (w, .error e)
  | none =>
    let w := schedulePort w.clock w.scenario.portFile w
    let w := match w.scenario.exit with
      | some (milliseconds, code) => w.addTimer (after w.clock milliseconds) (.exit code)
      | none => w
    (w, .ok ())

/-- The process ends, unless it has ended. -/
def exit (w : World α) (code : Int) : World α :=
  match w.exitCode with
  | some _ => w
  | none =>
    let w := { w with exitCode := some code }
    w.wake fun op _ =>
      match op with
      | .awaitExit _ => true
      | _ => false

/-- Asks the process to end. -/
def askToEnd (w : World α) : World α × Except Fault Unit :=
  let w := { w with record.signals := w.record.signals ++ [(w.clock, false)] }
  let w := match w.scenario.endsAfter with
    | none => w
    | some milliseconds =>
      if milliseconds.le 0 then w.exit (-15)
      else w.addTimer (after w.clock milliseconds) (.exit (-15))
  (w, if w.scenario.terminateFails then .error (.system .noProcess "no such process") else .ok ())

/-- Ends the process by force. -/
def forceEnd (w : World α) : World α × Except Fault Unit :=
  let w := { w with record.signals := w.record.signals ++ [(w.clock, true)] }
  (w.exit (-9), if w.scenario.killFails then .error (.system .noProcess "no such process") else .ok ())

/-! ## The connection -/

/-- Opens the socket and starts reading. -/
def openSocket (w : World α) (address : String) (limit : Value) : World α × Except Fault Unit :=
  let w := { w with record.connected := w.record.connected ++ [(address, limit)] }
  match w.scenario.socketFault with
  | some e => (w, .error e)
  | none => (startReader { w with timeout := limit }, .ok ())

/-- The socket is closed from this end. -/
def closeSocket (w : World α) : World α :=
  if w.receiving then
    let w := { w with receiving := false, sendable := false, inbox := w.inbox ++ [Inbound.closing] }
    w.addTurn .read
  else { w with sendable := false }

/-- What hanging up comes to once the reader is not running. -/
def hungUp (w : World α) : World α × Except Fault Unit :=
  match w.reader with
  | .ended (some e) => (w, .error e)
  | _ => (w.closeConnection, .ok ())

/-! ## Tabs -/

/-- A session begins. -/
def registerSession (w : World α) (key target : Value) : World α × Except Fault Nat :=
  match w.connection.register key target with
  | .error e => (w, .error e)
  | .ok (number, c) =>
    ({ w with connection := c, sessionListeners := w.sessionListeners ++ [{}] }, .ok number)

/-- Lets someone listen to a session. -/
def listen (w : World α) (session : Nat) (events : List String) (listener : SessionListener) :
    World α :=
  { w with
    sessionListeners := w.sessionListeners.modify session fun roster =>
      roster.subscribeAll events listener }

/-- Opens a tab on a session. -/
def openTab (w : World α) (session : Nat) : Nat × World α :=
  let number := w.tabs.length
  let tab : TabRecord := ⟨session, {}, {}⟩
  (number, listen { w with tabs := w.tabs ++ [tab] } session Tab.events (.tab number))

/-- Changes what a tab remembers. -/
def modifyTab (w : World α) (number : Nat) (f : Tab → Tab) : World α :=
  { w with tabs := w.tabs.modify number fun t => ⟨t.session, f t.tab, t.followers⟩ }

/-- Lets someone follow a tab. -/
def followTab (w : World α) (number : Nat) (follower : Follower) : World α :=
  { w with
    tabs := w.tabs.modify number fun t =>
      ⟨t.session, t.tab, t.followers.subscribeAll PageSignal.names follower⟩ }

/-- A new watch on a tab. -/
def beginWatch (w : World α) (number : Nat) : Nat × World α :=
  match w.tabs[number]? with
  | none => (0, w)
  | some t => (t.tab.beginWatch.1, w.modifyTab number fun tab => tab.beginWatch.2)

/-- What the notices kept for a watch make of a wait. -/
def scanWatch (w : World α) (number watch : Nat) (sought : Sought) :
    Option (Except Fault Unit) :=
  match w.tabs[number]? with
  | none => none
  | some t => sought.scan (t.tab.noticesOf watch)

/-! ## The feed -/

/-- Closes the feed, and answers whether there is a printer. -/
def stopFeed (w : World α) : World α × Bool :=
  let printer := w.feed.printer ≠ .absent
  let (feed, w) := w.feed.stop emit (fun n w => w.note n) w
  (pump { w with feed := feed }, printer)

/-! ## Questions -/

/-- The answer to a question that has no result. -/
def answeredUnit (result : World α × Except Fault Unit) : Begun α Unit :=
  .answered result.1 result.2

/-- What comes of a question that a script asks. -/
def begin (w : World α) (task : Nat) (op : Host.Op) : Begun α (Host.Answer op) :=
  match op with
  | .now => .answered w (.ok w.clock)
  | .sleep seconds =>
    match Limit.ofValue seconds with
    | .error e => .answered w (.error e)
    | .ok .over => .waits (w.addTurn (.elapse task)) 0
    | .ok .unlimited => .answered w (.error (.misuse (.order seconds.shape)))
    | .ok (.within s) => .waits (w.within task (.within s)) 0
  | .print line => .answered (w.printLine .commands line) (.ok ())
  | .send key method params limit => w.beginSend task key method params limit
  | .isDetached session => .answered w (.ok (w.connection.isDetached session))
  | .register key target =>
    let (w, result) := w.registerSession key target
    .answered w result
  | .hangUp =>
    let w := w.closeSocket
    match w.reader with
    | .running => .waits w 0
    | _ => answeredUnit w.hungUp
  | .openTab session =>
    let (number, w) := w.openTab session
    .answered w (.ok number)
  | .keepPage page => .answered { w with kept := w.kept ++ [page] } (.ok ())
  | .keptPage number => .answered w (.ok w.kept[number]?)
  | .beginWatch tab =>
    let (watch, w) := w.beginWatch tab
    .answered w (.ok watch)
  | .endWatch tab => .answered (w.modifyTab tab Tab.endWatch) (.ok ())
  | .awaitMilestone tab watch sought limit =>
    match Limit.ofValue limit with
    | .error e => .answered w (.error e)
    | .ok .over => .answered w (.error (.system .timeLimit ""))
    | .ok bounded =>
      match w.scanWatch tab watch sought with
      | some result => .answered w result
      | none => .waits (w.within task bounded) 0
  | .mute => .answered { w with muted := true } (.ok ())
  | .findBrowser => .answered w (.ok w.scenario.found)
  | .makeProfile => .answered { w with profile := true } (.ok "<profile>")
  | .removeProfile => .answered { w with profile := false } (.ok ())
  | .spawn command => answeredUnit (w.startProcess command)
  | .exitCode => .answered w (.ok w.exitCode)
  | .portFile => .answered w (.ok w.portFile)
  | .terminate => answeredUnit w.askToEnd
  | .kill => answeredUnit w.forceEnd
  | .awaitExit limit =>
    if w.exitCode.isSome then .answered w (.ok ()) else .waits (w.within task limit) 0
  | .fetch address =>
    .answered { w with record.fetched := w.record.fetched ++ [address] } w.scenario.description
  | .openSocket address limit => answeredUnit (w.openSocket address limit)
  | .adopt launched =>
    .answered { w with
      browser := some launched
      connectionListeners := w.connectionListeners.subscribe "disconnected" .browser } (.ok ())
  | .followBrowser =>
    .answered { w with browserFollowers := w.browserFollowers.subscribe "disconnected" .feed }
      (.ok ())
  | .followTab tab => .answered (w.followTab tab .feed) (.ok ())
  | .recordTab tab => .answered (w.followTab tab .recorder) (.ok ())
  | .isConnected => .answered w (.ok (!w.connection.closed))
  | .startPrinter => .answered (pump { w with feed := w.feed.start }) (.ok ())
  | .isFeedClosed => .answered w (.ok w.feed.closed)
  | .awaitLineup => if w.feed.lineup.isEmpty then .answered w (.ok ()) else .waits w 0
  | .stopFeed =>
    let (w, printer) := w.stopFeed
    .answered w (.ok printer)
  | .awaitPrinter => if w.feed.printer = .ended then .answered w (.ok ()) else .waits w 0

/-! ## Waits -/

/-- What a wait that is called off comes to, for waits that simply end. -/
def givenUp {β : Type} (w : World α) (waiting : Waiting α) (late : Except Fault β) :
    Option (World α × Except Fault β) :=
  if waiting.cancelled then some (w, .error .cancelled)
  else if waiting.elapsed then some (w, late)
  else none

/-- Whether a wait has come to its end, and with what answer. What is there counts even if the
time is over or the wait has been called off. -/
def poll (w : World α) (waiting : Waiting α) (op : Host.Op) :
    Option (World α × Except Fault (Host.Answer op)) :=
  match op with
  | .sleep _ => w.givenUp waiting (.ok ())
  | .send _ method _ limit =>
    match w.connection.answer? waiting.number with
    | some answer => some (w.done waiting.number, answer)
    | none =>
      (w.givenUp waiting (timedOut method (w.limitOf limit))).map fun (w, answer) =>
        (w.done waiting.number, answer)
  | .hangUp =>
    match w.reader with
    | .running =>
      if waiting.cancelled then
        let w := w.endReader none
        some (w.closeConnection, .ok ())
      else none
    | _ => some w.hungUp
  | .awaitMilestone tab watch sought _ =>
    match w.scanWatch tab watch sought with
    | some result => some (w, result)
    | none => w.givenUp waiting (.error (.system .timeLimit ""))
  | .awaitExit _ =>
    if w.exitCode.isSome then some (w, .ok ())
    else w.givenUp waiting (.error (.system .timeLimit ""))
  | .awaitLineup =>
    if waiting.cancelled then some (w, .error .cancelled)
    else if w.feed.lineup.isEmpty then some (w, .ok ())
    else none
  | .awaitPrinter =>
    if w.feed.printer = .ended then some (w, .ok ())
    else if waiting.cancelled then some ({ w with feed := w.feed.abandon }, .error .cancelled)
    else none
  | _ => none

/-! ## Turns -/

/-- A script has ended. -/
def conclude (w : World α) (id : Nat) (result : Except Fault (Ending α)) : World α :=
  match result with
  | .error e => w.finish id (.error e)
  | .ok (.result a) => w.finish id (.ok a)
  | .ok (.argument ticket slot value) =>
    let w := { w with tasks := w.tasks.filter fun t => t.id ≠ id }
    pump (w.settleArgument ticket slot value)

/-- A script goes on until it has ended or has to wait. -/
def proceed (id : Nat) : Script Host (Ending α) → World α → World α
  | .done result, w => w.conclude id result
  | .ask op next, w =>
    match w.begin id op with
    | .answered w answer => proceed id (next answer) w
    | .waits w number => w.setWaiting id ⟨op, next, number, false, false⟩

/-- A script's turn. -/
def go (w : World α) (id : Nat) : World α :=
  match w.task? id with
  | none => w
  | some ⟨_, .fresh script⟩ => proceed id script w
  | some ⟨_, .waiting waiting⟩ =>
    match w.poll waiting waiting.op with
    | none => w
    | some (w, answer) => proceed id (waiting.next answer) (w.dropTimers id)

/-- Marks the wait of a script. -/
def mark (w : World α) (id : Nat) (f : Waiting α → Waiting α) : World α :=
  match w.task? id with
  | some ⟨_, .waiting waiting⟩ => w.setWaiting id (f waiting)
  | _ => w

/-- A script is called off. One that has not begun ends at once. -/
def callOff (w : World α) (id : Nat) : World α :=
  match w.task? id with
  | some ⟨_, .waiting waiting⟩ =>
    (w.setWaiting id ⟨waiting.op, waiting.next, waiting.number, waiting.elapsed, true⟩).addTurn
      (.go id)
  | some ⟨_, .fresh _⟩ => w.finish id (.error .cancelled)
  | none => w

/-- One turn. -/
def takeTurn (w : World α) : Turn → World α
  | .go id => w.go id
  | .elapse id =>
    (w.mark id fun v => ⟨v.op, v.next, v.number, true, v.cancelled⟩).addTurn (.go id)
  | .callOff id => w.callOff id
  | .deliver frames => w.arrive frames
  | .read => w.read
  | .exit code => w.exit code
  | .writePort content => { w with portFile := some content }

end PageReporter.World
