import PageReporter.Page.Signal

/-!
# The feed of diagnostics

Everything that a page and its browser signal goes through one queue to the printer. The arguments
of a console call live in the page and have to be looked up first, so console calls wait in a
line-up of their own: each is queued when its arguments are settled and the call before it has
been queued. All other signals are queued at once.

* `Feed` — the line-up, the queue, and the printer's state;
* `Feed.fire` — a signal arrives; `Feed.settle` — one argument of a console call is settled;
* `Feed.advance` — the front of the line-up is queued as far as it is settled;
* `Feed.print` — the printer works through the queue;
* `Feed.stop` — nothing more is queued, and the printer is to end.
-/

namespace PageReporter

/-! ## Signals -/

/-- A console call as it arrives: its type, its place unless it has none, and how many arguments
have to be looked up. -/
structure ConsoleCall where
  type : Value
  place : Option Location
  width : Nat

/-- A signal as it arrives. -/
inductive FeedSignal
  | console (call : ConsoleCall)
  /-- A failure of the page, with what it says. -/
  | failure (category : Category) (text : Value)
  | requestFailed (url reason : Value)
  | response (response : Response)
  | disconnected

namespace PageFailure

/-- What a failure says: its stack, or else its message, or else all there is to it. -/
def text (failure : PageFailure) : Value :=
  if failure.stack.truthy then failure.stack
  else if failure.message.truthy then failure.message
  else
    let message := failure.message.display
    let stack := failure.stack.display
    .str s!"PageError(message={message}, stack={stack})"

end PageFailure

/-- The signal of a page as it arrives at the feed. -/
def PageSignal.toFeed : PageSignal → FeedSignal
  | .console message => .console ⟨message.type, some message.place, message.args.length⟩
  | .pageError e => .failure .pageError e.text
  | .unhandledRejection e => .failure .unhandledRejection e.text
  | .requestFailed r => .requestFailed r.url r.failure
  | .response r => .response r
  | .crash e => .failure .pageCrash e.text

/-! ## Events of signals -/

/-- The event of a signal other than a console call, if it is one to report: answers that
succeeded are not. -/
def FeedSignal.event? : FeedSignal → Except Fault (Option Event)
  | .console _ => .ok none
  | .failure category text => .ok (some ⟨category, [text], none⟩)
  | .requestFailed url reason => do
    let url ← url.text
    let reason ← reason.text
    pure (some ⟨.requestFailed, [.str s!"{url} {reason}"], none⟩)
  | .response r =>
    if r.isOk then .ok none
    else do
      let status ← (Value.int r.status).text
      let statusText ← r.statusText.text
      let url ← r.url.text
      pure (some ⟨.responseError, [.str s!"{status} {statusText} {url}"], none⟩)
  | .disconnected =>
    .ok (some ⟨.browserDisconnected, [.str "Browser was disconnected."], none⟩)

namespace ConsoleCall

/-- The place of a call, with what is absent or empty in it replaced by the empty address and the
number zero. -/
def location (call : ConsoleCall) : Except Fault Location :=
  match call.place with
  | none => .error (.noAttribute "NoneType" "url")
  | some place =>
    .ok ⟨place.url.orElse (.str ""), place.line.orElse (.int 0), place.column.orElse (.int 0)⟩

/-- The event of a call whose arguments are settled. -/
def event (call : ConsoleCall) (parts : List Value) : Except Fault Event := do
  let category ← Category.ofConsoleType call.type
  let location ← call.location
  pure ⟨category, parts, some location⟩

end ConsoleCall

/-! ## State -/

/-- A console call in the line-up, with the arguments that are settled. -/
structure Ticket where
  number : Nat
  call : ConsoleCall
  slots : List (Option Value)

/-- What stands in the queue: an event, or the mark at which the printer ends. -/
inductive FeedItem
  | event (event : Event)
  | stop

/-- What the printer is doing. -/
inductive Printer
  | absent
  | running
  | ended
deriving DecidableEq

/-- The feed. -/
structure Feed where
  /-- The console calls that have not been queued, in the order in which they arrived. -/
  lineup : List Ticket := []
  /-- How many console calls have arrived. -/
  arrived : Nat := 0
  queue : List FeedItem := []
  printer : Printer := .absent
  closed : Bool := false

namespace Ticket

/-- The arguments of a call, if all of them are settled. -/
def parts? : List (Option Value) → Option (List Value)
  | [] => some []
  | none :: _ => none
  | some v :: slots => (parts? slots).map (v :: ·)

end Ticket

namespace Feed

/-- The feed with another line-up. -/
def withLineup (feed : Feed) (lineup : List Ticket) : Feed :=
  ⟨lineup, feed.arrived, feed.queue, feed.printer, feed.closed⟩

/-- The feed with another queue. -/
def withQueue (feed : Feed) (queue : List FeedItem) : Feed :=
  ⟨feed.lineup, feed.arrived, queue, feed.printer, feed.closed⟩

/-! ## Arrival -/

/-- Queues an event, unless the feed is closed. -/
def publish (feed : Feed) (event : Event) : Feed :=
  if feed.closed then feed else feed.withQueue (feed.queue ++ [.event event])

/-- A signal arrives. A console call goes to the end of the line-up, and its number there is
answered; every other signal is queued at once. A closed feed takes nothing. -/
def fire (feed : Feed) (signal : FeedSignal) : Except Fault (Feed × Option Nat) :=
  match signal with
  | .console call =>
    if feed.closed then .ok (feed, none)
    else
      let ticket : Ticket := ⟨feed.arrived, call, List.replicate call.width none⟩
      .ok (⟨feed.lineup ++ [ticket], feed.arrived + 1, feed.queue, feed.printer, feed.closed⟩,
        some feed.arrived)
  | signal => do
    match ← signal.event? with
    | none => pure (feed, none)
    | some event => pure (feed.publish event, none)

/-- One argument of a console call is settled. What could not be fetched stands as such. -/
def settle (feed : Feed) (number slot : Nat) (result : Except Fault Value) : Feed :=
  let v := match result with
    | .ok v => v
    | .error _ => .unresolvable
  feed.withLineup (feed.lineup.map fun ticket =>
    if ticket.number = number then ⟨ticket.number, ticket.call, ticket.slots.set slot (some v)⟩
    else ticket)

/-- Queues the calls at the front of a line-up as far as they are settled. A call that makes no
event is dropped with a note. -/
def advanceLineup : List Ticket → Feed → Feed × List Note
  | [], feed => (feed.withLineup [], [])
  | ticket :: rest, feed =>
    match Ticket.parts? ticket.slots with
    | none => (feed.withLineup (ticket :: rest), [])
    | some parts =>
      match ticket.call.event parts with
      | .ok event => advanceLineup rest (feed.publish event)
      | .error e =>
        let (feed, notes) := advanceLineup rest feed
        (feed, .skipped "Dropping console event that failed to build" e :: notes)

/-- Queues the front of the line-up as far as it is settled. -/
def advance (feed : Feed) : Feed × List Note :=
  advanceLineup feed.lineup feed

/-! ## Printing -/

/-- Hands the events of a queue to a printer up to a stop mark. `emit` hands over one event and
tells how that failed, if it did; a failure is noted by `log` and passed over. Answered are what
is left, and whether a mark was met. -/
def printQueue {σ : Type} (emit : Event → σ → σ × Option Fault) (log : Note → σ → σ) :
    List FeedItem → σ → List FeedItem × Bool × σ
  | [], s => ([], false, s)
  | .stop :: rest, s => (rest, true, s)
  | .event event :: rest, s =>
    match emit event s with
    | (s, none) => printQueue emit log rest s
    | (s, some e) => printQueue emit log rest (log (.skipped "Failed to write diagnostic event" e) s)

/-- Lets the printer work through the queue, if it is running. -/
def print {σ : Type} (emit : Event → σ → σ × Option Fault) (log : Note → σ → σ) (feed : Feed)
    (s : σ) : Feed × σ :=
  if feed.printer = .running then
    let (rest, met, s) := printQueue emit log feed.queue s
    let printer := if met then .ended else .running
    (⟨feed.lineup, feed.arrived, rest, printer, feed.closed⟩, s)
  else (feed, s)

/-- Starts the printer, once. -/
def start (feed : Feed) : Feed :=
  if feed.printer = .absent then
    ⟨feed.lineup, feed.arrived, feed.queue, .running, feed.closed⟩
  else feed

/-! ## The end -/

/-- Closes the feed and marks the end of the queue. -/
def close (feed : Feed) : Feed :=
  ⟨feed.lineup, feed.arrived, feed.queue ++ [.stop], feed.printer, true⟩

/-- Closes the feed. If there is no printer, the queue is printed up to the mark right away. -/
def stop {σ : Type} (emit : Event → σ → σ × Option Fault) (log : Note → σ → σ) (feed : Feed)
    (s : σ) : Feed × σ :=
  let feed := feed.close
  if feed.printer = .absent then
    let (rest, _, s) := printQueue emit log feed.queue s
    (feed.withQueue rest, s)
  else (feed, s)

/-- The printer is called off, and prints nothing more. -/
def abandon (feed : Feed) : Feed :=
  ⟨feed.lineup, feed.arrived, feed.queue, .ended, feed.closed⟩

/-- How many events and marks wait in the queue. -/
def queued (feed : Feed) : Nat :=
  feed.queue.length

end Feed

end PageReporter
