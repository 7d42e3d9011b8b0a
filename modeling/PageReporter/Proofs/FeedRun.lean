import PageReporter.Session

/-!
# Runs of the feed

A feed does nothing by itself. Signals arrive while arguments are being looked up, the line-up
moves up, the printer takes one event after the other, and at some time somebody closes the feed.
Here each of these is one act, and a run is a list of acts in any order, so that a property of
all runs is a property of all schedules.

* `Arrival` — what is signalled to a feed; `Sink` — where its events are handed to;
* `FeedRun.Stage` — a feed among those who use it, with what has happened so far;
* `FeedRun.Step` — one act; `FeedRun.Steps` — a run;
* `FeedRun.advance_steps`, `FeedRun.print_steps` — the line-up that moves up as far as it can and
  the printer that prints all there is are runs of single acts.

Only `Stage.handed` and `Stage.fired` are a history that no act looks at.
-/

namespace PageReporter

/-! ## Those around a feed -/

/-- What is signalled to a feed: by the page, or by the browser when it is gone. -/
inductive Arrival
  | page (signal : PageSignal)
  | disconnected

/-- A signal as it arrives at the feed. -/
def Arrival.toFeed : Arrival → FeedSignal
  | .page signal => signal.toFeed
  | .disconnected => .disconnected

/-- Where events are handed to. Handing one over may fail, but only in ways that may be passed
over. -/
structure Sink (σ : Type) where
  emit : Event → σ → σ × Option Fault
  note : Note → σ → σ
  ordinary : ∀ event s fault, (emit event s).2 = some fault → fault.isOrdinary = true

namespace Sink

variable {σ : Type}

/-- Hands an event over, and remembers it. -/
def handOver (sink : Sink σ) (event : Event) (s : σ × List Event) :
    (σ × List Event) × Option Fault :=
  (((sink.emit event s.1).1, s.2 ++ [event]), (sink.emit event s.1).2)

/-- Notes something. -/
def remark (sink : Sink σ) (note : Note) (s : σ × List Event) : σ × List Event :=
  (sink.note note s.1, s.2)

/-- The sink after an event: a failure is noted. -/
def after (sink : Sink σ) (event : Event) (s : σ) : σ :=
  match sink.emit event s with
  | (s, none) => s
  | (s, some e) => sink.note (.skipped "Failed to write diagnostic event" e) s

/-- An event at the front of a queue is handed over, whatever becomes of it. -/
theorem printQueue_event (sink : Sink σ) (event : Event) (rest : List FeedItem) (s : σ)
    (handed : List Event) :
    Feed.printQueue sink.handOver sink.remark (.event event :: rest) (s, handed) =
      Feed.printQueue sink.handOver sink.remark rest (sink.after event s, handed ++ [event]) := by
  rw [Feed.printQueue]
  simp only [handOver, after]
  rcases sink.emit event s with ⟨emitted, _ | fault⟩ <;> rfl

end Sink

namespace FeedRun

variable {σ : Type}

/-! ## Stages -/

/-- A feed among those who use it. -/
structure Stage (σ : Type) where
  feed : Feed := {}
  sink : σ
  /-- The events that have been handed to the sink, in order. -/
  handed : List Event := []
  /-- The signals that arrived while the feed was open, in order. -/
  fired : List Arrival := []
  /-- What is left of the closing of the feed, once that has begun. -/
  closing : Option (Script Host Unit) := none

namespace Stage

/-- A signal arrives. One that cannot be put into words leaves the feed as it is. -/
def arrive (stage : Stage σ) (arrival : Arrival) : Stage σ :=
  { stage with
    feed := match stage.feed.fire arrival.toFeed with
      | .ok (feed, _) => feed
      | .error _ => stage.feed
    fired := if stage.feed.closed then stage.fired else stage.fired ++ [arrival] }

/-- The line-up moves up by one console call, if the one at its front is settled. -/
def release (stage : Stage σ) : Stage σ :=
  match stage.feed.lineup with
  | [] => stage
  | ticket :: rest =>
    let front := (stage.feed.withLineup [ticket]).advance.1
    { stage with feed := front.withLineup (front.lineup ++ rest) }

/-- The printer takes what is first in the queue, if it is running. -/
def print (sink : Sink σ) (stage : Stage σ) : Stage σ :=
  match stage.feed.queue with
  | [] => stage
  | item :: rest =>
    let (front, (s, handed)) :=
      (stage.feed.withQueue [item]).print sink.handOver sink.remark (stage.sink, stage.handed)
    { stage with feed := front.withQueue (front.queue ++ rest), sink := s, handed := handed }

/-- What the script that closes the feed gets for a question; none while it has to wait. -/
def answer (sink : Sink σ) (stage : Stage σ) (op : Host.Op) :
    Option (Stage σ × Except Fault (Host.Answer op)) :=
  match op with
  | .isFeedClosed => some (stage, .ok stage.feed.closed)
  | .awaitLineup => if stage.feed.lineup.isEmpty then some (stage, .ok ()) else none
  | .stopFeed =>
    let printer : Bool := stage.feed.printer ≠ .absent
    let (feed, (s, handed)) :=
      stage.feed.stop sink.handOver sink.remark (stage.sink, stage.handed)
    some ({ stage with feed := feed, sink := s, handed := handed }, .ok printer)
  | .awaitPrinter => if stage.feed.printer = .ended then some (stage, .ok ()) else none
  | _ => none

/-- The closing goes on until it has to wait or is done. -/
def proceed (sink : Sink σ) : Script Host Unit → Stage σ → Stage σ
  | .done result, stage => { stage with closing := some (.done result) }
  | .ask op next, stage =>
    match stage.answer sink op with
    | some (stage, answer) => proceed sink (next answer) stage
    | none => { stage with closing := some (.ask op next) }

/-- The closing of the feed has come to its end. -/
def Returned (stage : Stage σ) : Prop :=
  stage.closing = some (.done (.ok ()))

end Stage

/-! ## Acts -/

/-- One thing that happens to a feed. -/
inductive Act
  | arrive (arrival : Arrival)
  /-- A look-up ends: with a value, with a failure, or because its time is over. -/
  | settle (number slot : Nat) (result : Except Fault Value)
  | release
  | start
  | print
  /-- Somebody closes the feed. -/
  | close
  /-- The closing looks whether it can go on. -/
  | resume

/-- Whether an argument of a console call in the line-up is still being looked up. -/
def Awaited (feed : Feed) (number slot : Nat) : Prop :=
  ∃ ticket ∈ feed.lineup, ticket.number = number ∧ ticket.slots[slot]? = some none

/-- One act. Each look-up ends once, and the feed is closed once. -/
inductive Step (sink : Sink σ) : Act → Stage σ → Stage σ → Prop
  | arrive {stage : Stage σ} (arrival : Arrival) :
      Step sink (.arrive arrival) stage (stage.arrive arrival)
  | settle {stage : Stage σ} {number slot : Nat} (result : Except Fault Value)
      (hAwaited : Awaited stage.feed number slot) :
      Step sink (.settle number slot result) stage
        { stage with feed := stage.feed.settle number slot result }
  | release {stage : Stage σ} : Step sink .release stage stage.release
  | start {stage : Stage σ} : Step sink .start stage { stage with feed := stage.feed.start }
  | print {stage : Stage σ} : Step sink .print stage (stage.print sink)
  | close {stage : Stage σ} (hOpen : stage.closing = none) :
      Step sink .close stage (stage.proceed sink Session.closeFeed)
  | resume {stage : Stage σ} {script : Script Host Unit}
      (hClosing : stage.closing = some script) :
      Step sink .resume stage (stage.proceed sink script)

/-- A run: acts one after the other. -/
inductive Steps (sink : Sink σ) (start : Stage σ) : List Act → Stage σ → Prop
  | nil : Steps sink start [] start
  | snoc {trace : List Act} {stage next : Stage σ} {act : Act}
      (hSteps : Steps sink start trace stage) (hStep : Step sink act stage next) :
      Steps sink start (trace ++ [act]) next

/-! ## What acts do -/

namespace Stage

/-- The events that wait in the queue. -/
def queued (stage : Stage σ) : List Event :=
  stage.feed.queue.filterMap fun
    | .event event => some event
    | .stop => none

/-- The event of a signal other than a console call, if there is one to report. -/
def reportOf (arrival : Arrival) : Option Event :=
  match arrival.toFeed.event? with
  | .ok event => event
  | .error _ => none

/-- A signal other than a console call goes straight to the queue. -/
theorem fire_other {feed : Feed} {signal : FeedSignal}
    (hSignal : ∀ call, signal ≠ .console call) :
    feed.fire signal = signal.event?.map fun event => (event.elim feed feed.publish, none) := by
  unfold Feed.fire
  cases signal with
  | console call => exact absurd rfl (hSignal call)
  | _ =>
    simp only
    cases FeedSignal.event? _ with
    | error e => rfl
    | ok event => cases event <;> rfl

/-- A closed feed takes nothing. -/
theorem arrive_closed {stage : Stage σ} (hClosed : stage.feed.closed = true) (arrival : Arrival) :
    stage.arrive arrival = stage := by
  unfold arrive
  rw [hClosed, if_pos rfl]
  -- The line-up refuses console calls, the queue all other signals.
  by_cases hSignal : ∃ call, arrival.toFeed = .console call
  · obtain ⟨call, hCall⟩ := hSignal
    rw [hCall]
    simp [Feed.fire, hClosed]
  · rw [fire_other (not_exists.mp hSignal)]
    cases arrival.toFeed.event? with
    | error e => rfl
    | ok event => cases event <;> simp [Except.map, Feed.publish, hClosed]

/-- A console call takes its place at the end of the line-up. -/
theorem arrive_console {stage : Stage σ} (hOpen : stage.feed.closed = false)
    {arrival : Arrival} {call : ConsoleCall} (hSignal : arrival.toFeed = .console call) :
    stage.arrive arrival =
      { stage with
        feed := ⟨stage.feed.lineup ++ [⟨stage.feed.arrived, call, List.replicate call.width none⟩],
          stage.feed.arrived + 1, stage.feed.queue, stage.feed.printer, stage.feed.closed⟩
        fired := stage.fired ++ [arrival] } := by
  simp [arrive, Feed.fire, hSignal, hOpen]

/-- Every other signal is queued at once, if there is anything to report of it. -/
theorem arrive_other {stage : Stage σ} (hOpen : stage.feed.closed = false)
    {arrival : Arrival} (hSignal : ∀ call, arrival.toFeed ≠ .console call) :
    stage.arrive arrival =
      { stage with
        feed := stage.feed.withQueue (stage.feed.queue ++ (reportOf arrival).toList.map .event)
        fired := stage.fired ++ [arrival] } := by
  unfold arrive reportOf
  rw [fire_other hSignal, hOpen, if_neg Bool.false_ne_true]
  cases arrival.toFeed.event? with
  | error e => simp [Except.map, Feed.withQueue]
  | ok event =>
    cases event with
    | none => simp [Except.map, Feed.withQueue]
    | some event => simp [Except.map, Feed.publish, Feed.withQueue, hOpen]

/-! ### The line-up and the queue -/

/-- An empty line-up, or one whose front is still being looked up, stays where it is. -/
theorem release_waiting {stage : Stage σ}
    (hFront : ∀ ticket ∈ stage.feed.lineup.head?, Ticket.parts? ticket.slots = none) :
    stage.release = stage := by
  unfold release
  cases hLineup : stage.feed.lineup with
  | nil => rfl
  | cons ticket rest =>
    have hParts : Ticket.parts? ticket.slots = none := hFront ticket (by simp [hLineup])
    simp [Feed.advance, Feed.advanceLineup, Feed.withLineup, hParts, ← hLineup]

/-- A console call that is settled goes to the queue of an open feed. -/
theorem release_settled {stage : Stage σ} {ticket : Ticket} {rest : List Ticket}
    {parts : List Value} {event : Event} (hOpen : stage.feed.closed = false)
    (hLineup : stage.feed.lineup = ticket :: rest)
    (hParts : Ticket.parts? ticket.slots = some parts)
    (hEvent : ticket.call.event parts = .ok event) :
    stage.release =
      { stage with
        feed := ⟨rest, stage.feed.arrived, stage.feed.queue ++ [.event event],
          stage.feed.printer, stage.feed.closed⟩ } := by
  unfold release
  simp [hLineup, Feed.advance, Feed.advanceLineup, Feed.withLineup, Feed.withQueue, Feed.publish,
    hParts, hEvent, hOpen]

/-- The printer hands an event to the sink, whether that fails or not. -/
theorem print_event {sink : Sink σ} {stage : Stage σ} {event : Event} {rest : List FeedItem}
    (hQueue : stage.feed.queue = .event event :: rest) (hPrinter : stage.feed.printer = .running) :
    stage.print sink =
      { stage with
        feed := stage.feed.withQueue rest
        sink := sink.after event stage.sink
        handed := stage.handed ++ [event] } := by
  unfold print
  simp [hQueue, Feed.print, Feed.withQueue, hPrinter, Sink.printQueue_event, Feed.printQueue]

/-- The printer ends at the mark. -/
theorem print_mark {sink : Sink σ} {stage : Stage σ} {rest : List FeedItem}
    (hQueue : stage.feed.queue = .stop :: rest) (hPrinter : stage.feed.printer = .running) :
    stage.print sink =
      { stage with
        feed := ⟨stage.feed.lineup, stage.feed.arrived, rest, .ended, stage.feed.closed⟩ } := by
  unfold print
  simp [hQueue, Feed.print, Feed.withQueue, hPrinter, Feed.printQueue]

/-- Without a printer, or with nothing in the queue, nothing is printed. -/
theorem print_idle {sink : Sink σ} {stage : Stage σ}
    (hIdle : stage.feed.queue = [] ∨ stage.feed.printer ≠ .running) :
    stage.print sink = stage := by
  unfold print
  rcases hIdle with hQueue | hPrinter
  · simp [hQueue]
  · cases hQueue : stage.feed.queue with
    | nil => rfl
    | cons item rest => simp [Feed.print, Feed.withQueue, hPrinter, ← hQueue]

/-! ### Closing -/

/-- What is left of the closing when only the printer is waited for. -/
def awaitEnd : Script Host Unit :=
  Host.ask .awaitPrinter

/-- What is left of the closing once the feed has been seen to be open. -/
def drain : Script Host Unit := do
  Host.ask .awaitLineup
  let printer : Bool ← Host.ask .stopFeed
  if printer then awaitEnd else pure ()

/-- Events up to the mark are all handed over, whatever becomes of each. -/
theorem printQueue_marked (sink : Sink σ) (events : List Event) (s : σ) (handed : List Event) :
    ∃ t, Feed.printQueue sink.handOver sink.remark (events.map .event ++ [.stop]) (s, handed) =
      ([], true, (t, handed ++ events)) := by
  -- What has been handed over so far grows from the left, so it stays free in the induction.
  induction events generalizing s handed with
  | nil => exact ⟨s, by simp [Feed.printQueue]⟩
  | cons event rest ih =>
    have hRest : handed ++ event :: rest = (handed ++ [event]) ++ rest := by simp
    rw [hRest, List.map_cons, List.cons_append, Sink.printQueue_event]
    exact ih _ _

/-- Closing goes on with the answer to its question. -/
theorem proceed_answered {sink : Sink σ} {stage after : Stage σ} {op : Host.Op}
    {next : Except Fault (Host.Answer op) → Script Host Unit}
    {answer : Except Fault (Host.Answer op)}
    (hAnswer : stage.answer sink op = some (after, answer)) :
    stage.proceed sink (.ask op next) = after.proceed sink (next answer) := by
  rw [proceed.eq_def]
  simp only [hAnswer]

/-- Closing waits where its question has no answer. -/
theorem proceed_waits {sink : Sink σ} {stage : Stage σ} {op : Host.Op}
    {next : Except Fault (Host.Answer op) → Script Host Unit}
    (hAnswer : stage.answer sink op = none) :
    stage.proceed sink (.ask op next) = { stage with closing := some (.ask op next) } := by
  rw [proceed.eq_def]
  simp only [hAnswer]

/-- Closing an open feed begins with the wait for the line-up. -/
theorem proceed_closeFeed {sink : Sink σ} {stage : Stage σ} (hOpen : stage.feed.closed = false) :
    stage.proceed sink Session.closeFeed = stage.proceed sink drain := by
  have hAnswer : stage.answer sink .isFeedClosed = some (stage, .ok false) := by
    simp [answer, hOpen]
  exact proceed_answered hAnswer

/-- While a console call is in the line-up, closing waits. -/
theorem proceed_drain_waiting {sink : Sink σ} {stage : Stage σ} (hLineup : stage.feed.lineup ≠ []) :
    stage.proceed sink drain = { stage with closing := some drain } := by
  have hWaits : stage.answer sink .awaitLineup = none := by simp [answer, hLineup]
  exact proceed_waits hWaits

/-- With the line-up empty and a printer running, closing marks the end of the queue and waits
for the printer. -/
theorem proceed_drain_printer {sink : Sink σ} {stage : Stage σ} (hLineup : stage.feed.lineup = [])
    (hPrinter : stage.feed.printer = .running) :
    stage.proceed sink drain =
      { stage with feed := stage.feed.close, closing := some awaitEnd } := by
  -- Three questions: two of them are answered, and at the third closing has to wait.
  have hGoesOn : stage.answer sink .awaitLineup = some (stage, .ok ()) := by simp [answer, hLineup]
  have hStops : stage.answer sink .stopFeed =
      some ({ stage with feed := stage.feed.close }, .ok true) := by
    simp [answer, Feed.stop, Feed.close, hPrinter]
  have hWaits : Stage.answer sink { stage with feed := stage.feed.close } .awaitPrinter = none := by
    simp [answer, Feed.close, hPrinter]
  exact (proceed_answered hGoesOn).trans ((proceed_answered hStops).trans (proceed_waits hWaits))

/-- With the line-up empty and no printer, closing hands over all that is queued, and is done. -/
theorem proceed_drain_alone (sink : Sink σ) {stage : Stage σ} {events : List Event}
    (hLineup : stage.feed.lineup = []) (hPrinter : stage.feed.printer = .absent)
    (hQueue : stage.feed.queue = events.map .event) :
    ∃ s, stage.proceed sink drain =
      { stage with
        feed := ⟨[], stage.feed.arrived, [], .absent, true⟩
        sink := s
        handed := stage.handed ++ events
        closing := some (.done (.ok ())) } := by
  -- The mark is put behind the events, and then everything up to it is handed over.
  obtain ⟨s, hPrinted⟩ := printQueue_marked sink events stage.sink stage.handed
  have hGoesOn : stage.answer sink .awaitLineup = some (stage, .ok ()) := by simp [answer, hLineup]
  have hStops : stage.answer sink .stopFeed =
      some ({ stage with
        feed := ⟨[], stage.feed.arrived, [], .absent, true⟩
        sink := s
        handed := stage.handed ++ events }, .ok false) := by
    simp [answer, Feed.stop, Feed.close, Feed.withQueue, hPrinter, hQueue, hLineup, hPrinted]
  exact ⟨s, (proceed_answered hGoesOn).trans (proceed_answered hStops)⟩

/-- The wait for the printer is over when the printer has ended. -/
theorem proceed_awaitEnd_ended {sink : Sink σ} {stage : Stage σ}
    (hEnded : stage.feed.printer = .ended) :
    stage.proceed sink awaitEnd = { stage with closing := some (.done (.ok ())) } := by
  have hAnswer : stage.answer sink .awaitPrinter = some (stage, .ok ()) := by
    simp [answer, hEnded]
  exact proceed_answered hAnswer

/-- Until then closing waits. -/
theorem proceed_awaitEnd_waiting {sink : Sink σ} {stage : Stage σ}
    (hPrinter : stage.feed.printer ≠ .ended) :
    stage.proceed sink awaitEnd = { stage with closing := some awaitEnd } := by
  have hAnswer : stage.answer sink .awaitPrinter = none := by simp [answer, hPrinter]
  exact proceed_waits hAnswer

end Stage

/-! ## Whole courses as runs -/

/-- One run and then another from where it ended. -/
theorem Steps.trans {sink : Sink σ} {start stage after : Stage σ} {trace more : List Act}
    (hFirst : Steps sink start trace stage) (hMore : Steps sink stage more after) :
    Steps sink start (trace ++ more) after := by
  induction hMore with
  | nil => rwa [List.append_nil]
  | snoc _ hStep ih =>
    rw [← List.append_assoc]
    exact ih.snoc hStep

/-- One act and then a run. -/
theorem Steps.cons {sink : Sink σ} {start stage after : Stage σ} {act : Act} {more : List Act}
    (hFirst : Step sink act start stage) (hMore : Steps sink stage more after) :
    Steps sink start (act :: more) after :=
  Steps.trans (Steps.nil.snoc hFirst) hMore

/-- What the line-up was before does not matter to how it moves up. -/
theorem advanceLineup_withLineup (lineup other : List Ticket) (feed : Feed) :
    Feed.advanceLineup lineup (feed.withLineup other) = Feed.advanceLineup lineup feed := by
  induction lineup generalizing feed with
  | nil => rfl
  | cons ticket rest ih =>
    have hPublish : ∀ event, (feed.withLineup other).publish event =
        (feed.publish event).withLineup other := by
      intro event
      by_cases hClosed : feed.closed = true <;>
        simp [Feed.publish, Feed.withLineup, Feed.withQueue, hClosed]
    rw [Feed.advanceLineup, Feed.advanceLineup]
    cases Ticket.parts? ticket.slots with
    | none => rfl
    | some parts =>
      simp only
      cases ticket.call.event parts with
      | ok event => simp only [hPublish, ih]
      | error e => simp only [ih]

/-- The line-up moves up as far as it is settled by moving up one call at a time. -/
theorem advance_steps (sink : Sink σ) (stage : Stage σ) :
    ∃ trace, (∀ act ∈ trace, act = .release) ∧
      Steps sink stage trace { stage with feed := stage.feed.advance.1 } := by
  -- The induction is on the line-up, with the stage free: each release leaves another one.
  obtain ⟨lineup, hLineup⟩ : ∃ lineup, stage.feed.lineup = lineup := ⟨_, rfl⟩
  rw [Feed.advance, hLineup]
  induction lineup generalizing stage with
  | nil =>
    refine ⟨[], nofun, ?_⟩
    have hStays : (Feed.advanceLineup [] stage.feed).1 = stage.feed := by
      rw [Feed.advanceLineup, Feed.withLineup, ← hLineup]
    rw [hStays]
    exact .nil
  | cons ticket rest ih =>
    cases hParts : Ticket.parts? ticket.slots with
    | none =>
      refine ⟨[], nofun, ?_⟩
      have hStays : (Feed.advanceLineup (ticket :: rest) stage.feed).1 = stage.feed := by
        rw [Feed.advanceLineup, hParts, Feed.withLineup, ← hLineup]
      rw [hStays]
      exact .nil
    | some parts =>
      -- The front leaves the line-up, whether it makes an event or is dropped.
      have hNext : ∃ feed : Feed, stage.release = { stage with feed := feed.withLineup rest } ∧
          (Feed.advanceLineup (ticket :: rest) stage.feed).1 =
            (Feed.advanceLineup rest feed).1 := by
        unfold Stage.release
        cases hEvent : ticket.call.event parts with
        | ok event =>
          refine ⟨stage.feed.publish event, ?_, ?_⟩
          · by_cases hClosed : stage.feed.closed = true <;>
              simp [hLineup, Feed.advance, Feed.advanceLineup, Feed.withLineup, Feed.withQueue,
                Feed.publish, hParts, hEvent, hClosed]
          · rw [Feed.advanceLineup, hParts]
            simp only [hEvent]
        | error e =>
          refine ⟨stage.feed, ?_, ?_⟩
          · simp [hLineup, Feed.advance, Feed.advanceLineup, Feed.withLineup, hParts, hEvent]
          · rw [Feed.advanceLineup, hParts]
            simp only [hEvent]
      obtain ⟨feed, hRelease, hSame⟩ := hNext
      obtain ⟨trace, hActs, hSteps⟩ := ih { stage with feed := feed.withLineup rest } rfl
      refine ⟨.release :: trace, ?_, ?_⟩
      · rintro act (_ | ⟨_, hMem⟩)
        · rfl
        · exact hActs act hMem
      · rw [hSame, ← advanceLineup_withLineup rest rest feed]
        refine Steps.cons .release ?_
        rw [hRelease]
        exact hSteps

/-- The printer works through the queue by taking one item at a time. -/
theorem print_steps (sink : Sink σ) (stage : Stage σ) :
    ∃ trace, (∀ act ∈ trace, act = .print) ∧
      Steps sink stage trace
        { stage with
          feed := (stage.feed.print sink.handOver sink.remark (stage.sink, stage.handed)).1
          sink := (stage.feed.print sink.handOver sink.remark (stage.sink, stage.handed)).2.1
          handed :=
            (stage.feed.print sink.handOver sink.remark (stage.sink, stage.handed)).2.2 } := by
  obtain ⟨queue, hQueue⟩ : ∃ queue, stage.feed.queue = queue := ⟨_, rfl⟩
  -- Only a running printer takes anything; it works through the queue item by item.
  by_cases hPrinter : stage.feed.printer = .running
  · rw [Feed.print, if_pos hPrinter, hQueue]
    induction queue generalizing stage with
    | nil =>
      refine ⟨[], nofun, ?_⟩
      have hStays : stage.feed = ⟨stage.feed.lineup, stage.feed.arrived, [], .running,
          stage.feed.closed⟩ := by
        rw [← hQueue, ← hPrinter]
      simp only [Feed.printQueue, Bool.false_eq_true, if_false, ← hStays]
      exact .nil
    | cons item rest ih =>
      cases item with
      | stop =>
        -- The printer ends at the mark and leaves the rest.
        refine ⟨[.print], by simp, ?_⟩
        refine Steps.cons .print ?_
        rw [Stage.print_mark hQueue hPrinter]
        exact .nil
      | event event =>
        have hPrint : stage.print sink = _ := Stage.print_event hQueue hPrinter
        obtain ⟨trace, hActs, hSteps⟩ := ih (stage.print sink) (by rw [hPrint]; rfl)
          (by rw [hPrint]; exact hPrinter)
        refine ⟨.print :: trace, ?_, Steps.cons .print ?_⟩
        · rintro act (_ | ⟨_, hMem⟩)
          · rfl
          · exact hActs act hMem
        · rw [Sink.printQueue_event]
          rw [hPrint] at hSteps ⊢
          exact hSteps
  · rw [Feed.print, if_neg hPrinter]
    exact ⟨[], nofun, .nil⟩

end FeedRun

end PageReporter
