import PageReporter.Proofs.FittingFeeds
import PageReporter.Proofs.PublishTimes

/-!
# No diagnostic is lost for want of a line

A rehearsal is fed by frames, which are texts, and runs whatever scripts join it. What comes in
waits in the inbox, becomes the answer of a command that a look-up waits for, or is remembered by a
tab, and in the end stands in the line-up or in the queue. All of it can be written, and every
function of the rehearsal keeps that. So the printer finds a line for each event, and where it
passes over an event after all, the line was there but was refused.

* `World.Fits` — the invariant; `World.Fits.pump`, `World.Fits.fireFeed`, `World.Fits.deliver`,
  `World.Fits.read` — the feed, those who listen and the reader keep it;
* `World.Fits.begin`, `World.Fits.poll`, `World.Fits.proceed` — so do scripts;
* `World.Fits.takeTurn`, `World.Fits.next` — so does every turn, and whatever comes next;
* `World.Fed` — the rehearsals that are reached; `World.Fed.fits` — the invariant holds of them;
* `World.Fed.diagnostics_written` — every event in them has a line.
-/

namespace PageReporter

open World

variable {α : Type} {w after : World α}

/-! ## The invariant -/

/-- Frames that come in later can be written. -/
def Turn.Fits : Turn → Prop
  | .deliver frames => ∀ frame ∈ frames, frame.Fits
  | _ => True

/-- A script that brings the feed only what can be written. -/
def TaskState.Fits : TaskState α → Prop
  | .fresh script => script.Gives Ending.Fits
  | .waiting wait => ∀ answer, wait.op.Fits answer → (wait.next answer).Gives Ending.Fits

/-- A fault that says that the surroundings refused to print the line of an event. -/
def World.Refuses (w : World α) (e : Fault) : Prop :=
  ∃ event : Event, ∃ text part, event.line = .ok text ∧ w.scenario.unprintable = some part ∧
    mentions text part = true ∧ e = .system .general "unprintable"

/-- Everything in a rehearsal that may still be reported can be written, and where the printer has
passed over an event, printing its line was refused. -/
structure World.Fits (w : World α) : Prop where
  /-- The browser responds only by its script: what it is sent does not come back unread. -/
  peer : w.peer.lively = false
  inbox : ∀ frame ∈ w.inbox, frame.Fits
  timers : ∀ timer ∈ w.timers, timer.turn.Fits
  turns : ∀ turn ∈ w.turns, turn.Fits
  calls : ∀ call ∈ w.connection.calls, call.Fits
  tabs : ∀ t ∈ w.tabs, t.tab.Fits
  tasks : ∀ task ∈ w.tasks, task.state.Fits
  feed : w.feed.Fits
  losses : ∀ e, .skipped "Failed to write diagnostic event" e ∈ w.record.notes → w.Refuses e

namespace World.Fits

/-- What each of several things keeps, all of them keep. -/
theorem foldl {β : Type} {f : World α → β → World α} {bs : List β} (hFits : w.Fits)
    (hStep : ∀ b ∈ bs, ∀ w : World α, w.Fits → (f w b).Fits) : (bs.foldl f w).Fits := by
  induction bs generalizing w with
  | nil => exact hFits
  | cons b rest ih =>
    obtain ⟨hFirst, hRest⟩ := List.forall_mem_cons.mp hStep
    exact ih (hFirst w hFits) hRest

/-! ### Time and scripts -/

theorem addTurns (hFits : w.Fits) {more : List Turn} (hMore : ∀ turn ∈ more, turn.Fits) :
    Fits { w with turns := w.turns ++ more } :=
  { hFits with turns := List.forall_mem_append.mpr ⟨hFits.turns, hMore⟩ }

theorem addTurn (hFits : w.Fits) {turn : Turn} (hTurn : turn.Fits) : (w.addTurn turn).Fits :=
  hFits.addTurns (List.forall_mem_singleton.mpr hTurn)

theorem addTimer (hFits : w.Fits) (due : Double) {turn : Turn} (hTurn : turn.Fits) :
    (w.addTimer due turn).Fits := by
  unfold World.addTimer
  split
  · refine { hFits with timers := fun timer hMem => ?_ }
    rcases Quiet.mem_insertTimer.mp hMem with rfl | hOld
    · exact hTurn
    · exact hFits.timers timer hOld
  · exact hFits.addTurn hTurn

theorem wake (hFits : w.Fits) (p : Host.Op → ℕ → Bool) : (w.wake p).Fits := by
  refine hFits.addTurns fun turn hMem => ?_
  obtain ⟨task, -, rfl⟩ := List.mem_map.mp hMem
  trivial

theorem dropTimers (hFits : w.Fits) (id : ℕ) : (w.dropTimers id).Fits :=
  { hFits with
    timers := fun timer hMem => hFits.timers timer (List.mem_of_mem_filter hMem)
    turns := fun turn hMem => hFits.turns turn (List.mem_of_mem_filter hMem) }

theorem spawn (hFits : w.Fits) {script : Script Host (Ending α)}
    (hScript : script.Gives Ending.Fits) : (w.spawn script).2.Fits := by
  have hJoins : ∀ task ∈ [(⟨w.started, .fresh script⟩ : Task α)], task.state.Fits :=
    List.forall_mem_singleton.mpr hScript
  refine World.Fits.addTurn ?_ trivial
  exact { hFits with tasks := List.forall_mem_append.mpr ⟨hFits.tasks, hJoins⟩ }

theorem setWaiting (hFits : w.Fits) (id : ℕ) {waiting : Waiting α}
    (hWaiting : (TaskState.waiting waiting).Fits) : (w.setWaiting id waiting).Fits := by
  refine { hFits with tasks := fun task hMem => ?_ }
  obtain ⟨old, hOld, rfl⟩ := List.mem_map.mp hMem
  split
  · exact hWaiting
  · exact hFits.tasks old hOld

theorem leave (hFits : w.Fits) (id : ℕ) :
    Fits { w with tasks := w.tasks.filter fun t => t.id ≠ id } :=
  { hFits with tasks := fun task hMem => hFits.tasks task (List.mem_of_mem_filter hMem) }

theorem finish (hFits : w.Fits) (id : ℕ) (result : Except Fault α) : (w.finish id result).Fits :=
  { hFits.leave id with }

theorem of_task? (hFits : w.Fits) {id number : ℕ} {state : TaskState α}
    (hTask : w.task? id = some ⟨number, state⟩) : state.Fits :=
  hFits.tasks _ (List.mem_of_find?_eq_some hTask)

/-! ### The feed -/

theorem note (hFits : w.Fits) {n : Note}
    (hNote : ∀ e, n = .skipped "Failed to write diagnostic event" e → w.Refuses e) :
    (w.note n).Fits := by
  refine { hFits with losses := fun e hMem => ?_ }
  rcases List.mem_append.mp hMem with hOld | hNew
  · exact hFits.losses e hOld
  · exact hNote e (List.mem_singleton.mp hNew).symm

theorem withFeed (hFits : w.Fits) {feed : Feed} (hFeed : feed.Fits) : Fits { w with feed := feed } :=
  { hFits with feed := hFeed }

theorem notes (hFits : w.Fits) {notes : List Note}
    (hNotes : ∀ note ∈ notes, ∃ e, note = .skipped "Dropping console event that failed to build" e) :
    (notes.foldl World.note w).Fits := by
  have hOther : "Dropping console event that failed to build" ≠
      "Failed to write diagnostic event" := by decide
  refine hFits.foldl fun note hMem w hFits => ?_
  obtain ⟨e, rfl⟩ := hNotes note hMem
  exact hFits.note fun _ hSame => absurd (congrArg Note.message hSame) hOther

/-- An event that can be written is printed, unless the surroundings refuse its line. -/
theorem emit (hFits : w.Fits) {event : Event} (hEvent : event.Fits) :
    (World.emit event w).1.Fits ∧
      ∀ e, (World.emit event w).2 = some e → (World.emit event w).1.Refuses e := by
  obtain ⟨text, hLine⟩ := Event.line_of_fits hEvent
  unfold World.emit
  rw [hLine]
  -- There is a line, so nothing but a refusal is left that could fail.
  cases hPart : w.scenario.unprintable with
  | none => exact ⟨{ hFits with }, fun e hFailed => by cases hFailed⟩
  | some part =>
    dsimp only
    split
    · next hMentions =>
      exact ⟨hFits, fun e hFailed =>
        ⟨event, text, part, hLine, hPart, hMentions, (Option.some.inj hFailed).symm⟩⟩
    · exact ⟨{ hFits with }, fun e hFailed => by cases hFailed⟩

theorem printQueue (hFits : w.Fits) {items : List FeedItem}
    (hItems : ∀ event, .event event ∈ items → event.Fits) :
    (Feed.printQueue World.emit (fun n w => w.note n) items w).2.2.Fits := by
  induction items generalizing w with
  | nil => exact hFits
  | cons item rest ih =>
    have hRest : ∀ event, .event event ∈ rest → event.Fits :=
      fun event hMem => hItems event (.tail _ hMem)
    cases item with
    | stop => exact hFits
    | event event =>
      obtain ⟨hEmitted, hRefuses⟩ := hFits.emit (hItems event (.head _))
      unfold Feed.printQueue
      split
      · next after hDone =>
        rw [hDone] at hEmitted
        exact ih hEmitted hRest
      · next after e hFailed =>
        rw [hFailed] at hEmitted hRefuses
        -- The note bears the fault with which the line was refused.
        refine ih (hEmitted.note fun other hSame => ?_) hRest
        obtain rfl := Option.some.inj (congrArg Note.cause hSame)
        exact hRefuses e rfl

/-- **The feed keeps what can be written.** -/
theorem pump (hFits : w.Fits) : w.pump.Fits := by
  -- The line-up moves up, which may leave notes; then the queue is printed; and only then does the
  -- feed that is left by both take its place.
  obtain ⟨hFeed, hNotes⟩ := hFits.feed.advance
  have hNoted := hFits.notes hNotes
  have hPrinted : (w.feed.advance.1.print World.emit (fun n w => w.note n)
      (w.feed.advance.2.foldl World.note w)).2.Fits := by
    unfold Feed.print
    split
    · exact hNoted.printQueue hFeed.queue
    · exact hNoted
  have hLeft : (w.feed.advance.1.print World.emit (fun n w => w.note n)
      (w.feed.advance.2.foldl World.note w)).1.Fits := hFeed.print _
  have hDone := hPrinted.withFeed hLeft
  unfold World.pump
  dsimp only
  split
  · split
    · exact (hDone.wake _).wake _
    · exact hDone.wake _
  · split
    · exact hDone.wake _
    · exact hDone

theorem settleArgument (hFits : w.Fits) (ticket slot : ℕ) {result : Except Fault Value}
    (hResult : Gives (fun v => v.fits = true) result) :
    (w.settleArgument ticket slot result).Fits :=
  hFits.withFeed (hFits.feed.settle ticket slot hResult)

theorem beginLookup (hFits : w.Fits) (limit : Limit) (ticket slot : ℕ) {lookup : Script Host Value}
    (hLookup : lookup.Gives fun v => v.fits = true) :
    (w.beginLookup limit ticket slot lookup).Fits := by
  unfold World.beginLookup
  split
  · exact hFits.settleArgument ticket slot .error
  · exact hFits.spawn (argumentScript_gives hLookup ticket slot)
  · exact (hFits.spawn (argumentScript_gives hLookup ticket slot)).addTimer _ trivial

theorem beginLookups (hFits : w.Fits) (limit : Limit) (ticket slot : ℕ)
    {lookups : List (Script Host Value)}
    (hLookups : ∀ lookup ∈ lookups, lookup.Gives fun v => v.fits = true) :
    (w.beginLookups limit ticket slot lookups).Fits := by
  induction lookups generalizing slot w with
  | nil => exact hFits
  | cons lookup rest ih =>
    obtain ⟨hFirst, hRest⟩ := List.forall_mem_cons.mp hLookups
    exact ih (hFits.beginLookup limit ticket slot hFirst) _ hRest

/-- A signal that can be written is taken in, and the feed takes its course. -/
theorem fireFeed (hFits : w.Fits) (limit : Limit) {signal : FeedSignal} (hSignal : signal.Fits)
    {lookups : List (Script Host Value)}
    (hLookups : ∀ lookup ∈ lookups, lookup.Gives fun v => v.fits = true) :
    (w.fireFeed limit signal lookups).1.Fits := by
  obtain ⟨feed, number, hFire, hFeed⟩ := hFits.feed.fire hSignal
  have hFired := hFits.withFeed hFeed
  unfold World.fireFeed
  rw [hFire]
  cases number with
  | none => exact hFired.pump
  | some ticket => exact (hFired.beginLookups limit ticket 0 hLookups).pump

/-! ### Those who listen -/

/-- The note about a handler that failed is not about an event that was not written. -/
theorem failedHandler_ne (event : String) (cause e : Fault) :
    Note.failedHandler event cause ≠ .skipped "Failed to write diagnostic event" e := by
  intro hSame
  have hTexts := congrArg (fun n => n.message.toList) hSame
  simp [Note.failedHandler, Note.skipped, toString] at hTexts

/-- Telling an event keeps what each handler keeps. -/
theorem emitTo {H : Type} {run : H → World α → World α × Option Fault}
    (hRun : ∀ handler (w : World α), w.Fits → (run handler w).1.Fits) (hFits : w.Fits)
    (event : String) (handlers : List H) :
    (emitTo run (fun n w => w.note n) event handlers w).Fits := by
  induction handlers generalizing w with
  | nil => exact hFits
  | cons handler rest ih =>
    have hHandler := hRun handler w hFits
    unfold PageReporter.emitTo
    split
    · next after hDone =>
      rw [hDone] at hHandler
      exact ih hHandler
    · next after e hFailed =>
      rw [hFailed] at hHandler
      exact ih (hHandler.note fun other hSame => absurd hSame (failedHandler_ne event e other))

theorem tellTab (hFits : w.Fits) (number : ℕ) {signal : PageSignal} (hSignal : signal.Fits) :
    (w.tellTab number signal).Fits := by
  unfold World.tellTab
  split
  · exact hFits
  · next t _ =>
    refine emitTo (fun follower w hFits => ?_) hFits signal.name _
    unfold tellFollower
    split
    · split
      · exact { hFits with }
      · exact hFits
    · refine hFits.fireFeed _ (PageSignal.toFeed_fits hSignal) fun lookup hMem => ?_
      -- What a console call needs looked up are its arguments.
      unfold lookupsOf at hMem
      split at hMem
      · obtain ⟨handle, -, rfl⟩ := List.mem_map.mp hMem
        exact handle.evaluate_gives _ _ _
      · cases hMem

theorem tabReceive (hFits : w.Fits) (number : ℕ) (event : String) {payload : Value}
    (hPayload : payload.fits = true) : (w.tabReceive number event payload).1.Fits := by
  unfold World.tabReceive
  split
  · exact hFits
  · next t hTab =>
    obtain ⟨hSignals, hAfter⟩ :=
      Tab.receive_fits (hFits.tabs t (List.mem_of_getElem? hTab)) w.scenario.wallClock event hPayload
    have hTabs : Fits { w with
        tabs := w.tabs.set number
          ⟨t.session, (t.tab.receive w.scenario.wallClock event payload).tab, t.followers⟩ } := by
      refine { hFits with tabs := fun other hMem => ?_ }
      rcases List.mem_or_eq_of_mem_set hMem with hOld | rfl
      · exact hFits.tabs other hOld
      · exact hAfter
    -- The signals of the event are told one after the other, once the tab has changed.
    exact World.Fits.wake
      (hTabs.foldl fun signal hMem _ hFits => hFits.tellTab number (hSignals signal hMem)) _

theorem tellSession (hFits : w.Fits) (number : ℕ) (event : String) {payload : Value}
    (hPayload : payload.fits = true) : (w.tellSession number event payload).Fits := by
  refine emitTo (fun listener w hFits => ?_) hFits event _
  cases listener with
  | recorder => exact { hFits with }
  | faulty => exact hFits
  | tab number => exact hFits.tabReceive number event hPayload

theorem tellBrowser (hFits : w.Fits) (event : String) : (w.tellBrowser event).Fits := by
  refine emitTo (fun follower w hFits => ?_) hFits event _
  cases follower with
  | recorder => exact { hFits with }
  | feed =>
    have hLost : FeedSignal.Fits .disconnected := trivial
    exact hFits.fireFeed lookupLimit hLost (List.forall_mem_nil _)

theorem tellConnection (hFits : w.Fits) (event : String) (payload : Value) :
    (w.tellConnection event payload).Fits := by
  refine emitTo (fun listener w hFits => ?_) hFits event _
  cases listener with
  | recorder => exact { hFits with }
  | faulty => exact hFits
  | browser =>
    show World.Fits (if w.muted then w else w.tellBrowser "disconnected")
    split
    · exact hFits
    · exact hFits.tellBrowser _

/-- **Whatever is told keeps what can be written.** -/
theorem deliver (hFits : w.Fits) {delivery : Delivery} (hDelivery : delivery.Fits) :
    (w.deliver delivery).Fits := by
  cases delivery with
  | browser event payload => exact hFits.tellConnection event payload
  | session number event payload => exact hFits.tellSession number event hDelivery

theorem deliverAll (hFits : w.Fits) {told : List Delivery}
    (hTold : ∀ delivery ∈ told, delivery.Fits) : (told.foldl World.deliver w).Fits :=
  hFits.foldl fun delivery hMem _ hFits => hFits.deliver (hTold delivery hMem)

/-! ### The reader -/

theorem connect (hFits : w.Fits) {c : Connection} (hCalls : ∀ call ∈ c.calls, call.Fits) :
    Fits { w with connection := c } :=
  { hFits with calls := hCalls }

theorem closeConnection (hFits : w.Fits) : w.closeConnection.Fits := by
  obtain ⟨hCalls, hTold⟩ := Connection.close_fits hFits.calls
  have hRoused : (w.connection.close.2.1.foldl World.wakeSender
      { w with connection := w.connection.close.1 }).Fits :=
    (hFits.connect hCalls).foldl fun _ _ _ hFits => hFits.wake _
  exact hRoused.deliverAll hTold

theorem endReader (hFits : w.Fits) (fault : Option Fault) : (w.endReader fault).Fits := by
  have hEnded : Fits { w.closeConnection with reader := .ended fault } :=
    { hFits.closeConnection with }
  exact hEnded.wake _

theorem applyOutcome (hFits : w.Fits) {outcome : Connection.Outcome} (hOutcome : outcome.Fits) :
    (w.applyOutcome outcome).Fits := by
  have hHeard := hFits.connect hOutcome.calls
  unfold World.applyOutcome
  dsimp only
  split
  · exact World.Fits.deliverAll (hHeard.wake _) hOutcome.deliveries
  · exact hHeard.deliverAll hOutcome.deliveries

theorem readAll (hFits : w.Fits) {frames : List Inbound} (hFrames : ∀ frame ∈ frames, frame.Fits) :
    (World.readAll frames w).Fits := by
  induction frames generalizing w with
  | nil => exact hFits
  | cons frame rest ih =>
    obtain ⟨hFrame, hRest⟩ := List.forall_mem_cons.mp hFrames
    cases frame with
    | text frame =>
      have hHeard := hFits.applyOutcome (Connection.dispatchText_fits hFits.calls frame)
      unfold World.readAll
      dsimp only
      split
      · exact hHeard.endReader _
      · exact ih hHeard hRest
    | members frame =>
      have hHeard := hFits.applyOutcome (Connection.dispatch_fits hFits.calls hFrame)
      unfold World.readAll
      dsimp only
      split
      · exact hHeard.endReader _
      · exact ih hHeard hRest
    | closing => exact hFits.endReader none
    | lost => exact hFits.endReader none

/-- **The reader keeps what can be written.** -/
theorem read (hFits : w.Fits) : w.read.Fits := by
  unfold World.read
  split
  · have hEmpty : Fits { w with inbox := [] } := { hFits with inbox := List.forall_mem_nil _ }
    exact hEmpty.readAll hFits.inbox
  · exact hFits

theorem receive (hFits : w.Fits) {frames : List Inbound} (hFrames : ∀ frame ∈ frames, frame.Fits) :
    (World.receive frames w).Fits := by
  induction frames generalizing w with
  | nil => exact hFits
  | cons frame rest ih =>
    obtain ⟨hFrame, hRest⟩ := List.forall_mem_cons.mp hFrames
    have hCome : Fits { w with inbox := w.inbox ++ [frame] } :=
      { hFits with
        inbox := List.forall_mem_append.mpr ⟨hFits.inbox, List.forall_mem_singleton.mpr hFrame⟩ }
    unfold World.receive
    split
    · exact hFits
    · dsimp only
      split
      · exact { hCome with }
      · exact { hCome with }
      · exact ih hCome hRest

theorem arrive (hFits : w.Fits) {frames : List Inbound} (hFrames : ∀ frame ∈ frames, frame.Fits) :
    (w.arrive frames).Fits :=
  (hFits.receive hFrames).addTurn trivial

/-! ### Commands and the process -/

theorem schedule (hFits : w.Fits) (start : Double) {groups : List (Double × List Inbound)}
    (hGroups : ∀ group ∈ groups, ∀ frame ∈ group.2, frame.Fits) :
    (w.schedule start groups).Fits := by
  induction groups generalizing w with
  | nil => exact hFits
  | cons group rest ih =>
    obtain ⟨hFirst, hRest⟩ := List.forall_mem_cons.mp hGroups
    exact ih (hFits.addTimer _ hFirst) hRest

theorem schedulePort (hFits : w.Fits) (start : Double) (contents : List (Double × ByteArray)) :
    (World.schedulePort start contents w).Fits := by
  induction contents generalizing w with
  | nil => exact hFits
  | cons first rest ih =>
    unfold World.schedulePort
    dsimp only
    split
    · exact ih { hFits with }
    · exact ih (hFits.addTimer _ trivial)

theorem startProcess (hFits : w.Fits) (command : List String) :
    (w.startProcess command).1.Fits := by
  have hSpawned : Fits { w with record.spawned := w.record.spawned ++ [command] } :=
    { hFits with }
  have hPort := hSpawned.schedulePort w.clock w.scenario.portFile
  unfold World.startProcess
  dsimp only
  split
  · exact hSpawned
  · split
    · exact hPort.addTimer _ trivial
    · exact hPort

theorem exit (hFits : w.Fits) (code : ℤ) : (w.exit code).Fits := by
  unfold World.exit
  split
  · exact hFits
  · have hEnded : Fits { w with exitCode := some code } := { hFits with }
    exact hEnded.wake _

theorem askToEnd (hFits : w.Fits) : w.askToEnd.1.Fits := by
  have hAsked : Fits { w with record.signals := w.record.signals ++ [(w.clock, false)] } :=
    { hFits with }
  unfold World.askToEnd
  dsimp only
  split
  · exact hAsked
  · split
    · exact hAsked.exit _
    · exact hAsked.addTimer _ trivial

theorem forceEnd (hFits : w.Fits) : w.forceEnd.1.Fits := by
  have hForced : Fits { w with record.signals := w.record.signals ++ [(w.clock, true)] } :=
    { hFits with }
  exact hForced.exit _

theorem openSocket (hFits : w.Fits) (address : String) (limit : Value) :
    (w.openSocket address limit).1.Fits := by
  unfold World.openSocket
  dsimp only
  split
  · exact { hFits with }
  · unfold World.startReader
    dsimp only
    split
    · have hReads : Fits { w with
          record.connected := w.record.connected ++ [(address, limit)]
          timeout := limit
          reader := .running } := { hFits with }
      exact hReads.addTurn trivial
    · exact { hFits with }

theorem closeSocket (hFits : w.Fits) : w.closeSocket.Fits := by
  unfold World.closeSocket
  split
  · refine World.Fits.addTurn ?_ trivial
    exact { hFits with
      inbox := List.forall_mem_append.mpr
        ⟨hFits.inbox, List.forall_mem_singleton.mpr (show Inbound.Fits .closing from trivial)⟩ }
  · exact { hFits with }

theorem hungUp (hFits : w.Fits) : w.hungUp.1.Fits := by
  unfold World.hungUp
  split
  · exact hFits
  · exact hFits.closeConnection

/-! ### Tabs -/

theorem modifyTabs (hFits : w.Fits) (number : ℕ) {f : TabRecord → TabRecord}
    (hKeeps : ∀ t, (f t).tab.requests = t.tab.requests) :
    Fits { w with tabs := w.tabs.modify number f } := by
  refine { hFits with tabs := fun t hMem entry hEntry => ?_ }
  obtain ⟨i, hTab⟩ := List.getElem?_of_mem hMem
  rw [List.getElem?_modify] at hTab
  obtain ⟨old, hOld, rfl⟩ := Option.map_eq_some_iff.mp hTab
  have hBefore := hFits.tabs old (List.mem_of_getElem? hOld)
  split at hEntry
  · exact hBefore entry (hKeeps old ▸ hEntry)
  · exact hBefore entry hEntry

theorem openTab (hFits : w.Fits) (session : ℕ) : (w.openTab session).2.Fits := by
  have hNew : ∀ t ∈ [(⟨session, {}, {}⟩ : TabRecord)], t.tab.Fits :=
    List.forall_mem_singleton.mpr (List.forall_mem_nil _)
  have hTabs : Fits { w with tabs := w.tabs ++ [⟨session, {}, {}⟩] } :=
    { hFits with tabs := List.forall_mem_append.mpr ⟨hFits.tabs, hNew⟩ }
  exact { hTabs with }

theorem beginWatch (hFits : w.Fits) (number : ℕ) : (w.beginWatch number).2.Fits := by
  unfold World.beginWatch
  split
  · exact hFits
  · exact hFits.modifyTabs number fun _ => rfl

theorem registerSession (hFits : w.Fits) (key target : Value) :
    (w.registerSession key target).1.Fits := by
  unfold World.registerSession
  split
  · exact hFits
  · next number c hRegister =>
    obtain ⟨known, -, hAfter⟩ := Fault.of_bind_ok hRegister
    cases hAfter
    exact { hFits with }

end World.Fits

/-! ## Scripts -/

/-- What comes of a question, if everything can be written: the answer too, if it is that of a
command. -/
def World.Begun.Fits (op : Host.Op) : Begun α (Host.Answer op) → Prop
  | .answered w answer => w.Fits ∧ op.Fits answer
  | .waits w _ => w.Fits

namespace World.Fits

theorem transmit (hFits : w.Fits) (number : ℕ) (method : String) (params key : Value) :
    (w.transmit number method params key).Fits := by
  obtain ⟨hPeer, hGroups⟩ := Peer.respond_fits hFits.peer number method params
  have hSent : Fits { w with
      record.sent := w.record.sent ++ [(w.clock, Connection.frame number method params key)]
      peer := (w.peer.respond number method params).1 } := { hFits with peer := hPeer }
  exact hSent.schedule _ hGroups

theorem done (hFits : w.Fits) (number : ℕ) : (w.done number).Fits :=
  hFits.connect fun call hMem => hFits.calls call (List.mem_of_mem_filter hMem)

theorem within (hFits : w.Fits) (task : ℕ) (limit : Limit) : (w.within task limit).Fits := by
  unfold World.within
  split
  · exact hFits.addTimer _ trivial
  · exact hFits

theorem timedOut_gives (method : String) (limit : Value) :
    Gives (fun v : Value => v.fits = true) (timedOut method limit) :=
  .after fun _ => .error

theorem beginSend (hFits : w.Fits) (task : ℕ) (key : Value) (method : String)
    (params limit : Value) :
    Begun.Fits (.send key method params limit) (w.beginSend task key method params limit) := by
  unfold World.beginSend
  split
  · exact ⟨hFits, .error⟩
  · next number c hBegin =>
    have hBegun : Fits { w with connection := c } := by
      -- The command that joins the others has no answer yet.
      unfold Connection.begin at hBegin
      split at hBegin <;> cases hBegin
      refine hFits.connect (List.forall_mem_append.mpr ⟨hFits.calls, ?_⟩)
      refine List.forall_mem_singleton.mpr fun v hAnswer => ?_
      cases hAnswer
    have hSent := hBegun.transmit number method params key
    dsimp only
    split
    · exact ⟨hBegun.done number, .error⟩
    · -- A limit that is over or is none ends the command as soon as it has been sent.
      split
      · exact ⟨hSent.done number, .error⟩
      · exact ⟨hSent.done number, timedOut_gives method _⟩
      · exact hSent.within task _

theorem stopFeed (hFits : w.Fits) : w.stopFeed.1.Fits := by
  have hStopped : (w.feed.stop World.emit (fun n w => w.note n) w).2.Fits := by
    unfold Feed.stop
    dsimp only
    split
    · exact hFits.printQueue hFits.feed.close.queue
    · exact hFits
  exact (hStopped.withFeed (hFits.feed.stop w)).pump

/-- **Whatever a script asks for keeps what can be written.** -/
theorem begin (hFits : w.Fits) (id : ℕ) (op : Host.Op) : (w.begin id op).Fits op := by
  -- Questions of the last case change at most what is not reported.
  cases op with
  | sleep seconds =>
    unfold World.begin
    dsimp only
    split
    · exact ⟨hFits, trivial⟩
    · exact hFits.addTurn trivial
    · exact ⟨hFits, trivial⟩
    · exact hFits.within id _
  | send key method params limit => exact hFits.beginSend id key method params limit
  | register key target => exact ⟨hFits.registerSession key target, trivial⟩
  | hangUp =>
    unfold World.begin
    dsimp only
    split
    · exact hFits.closeSocket
    · exact ⟨hFits.closeSocket.hungUp, trivial⟩
  | openTab session => exact ⟨hFits.openTab session, trivial⟩
  | beginWatch tab => exact ⟨hFits.beginWatch tab, trivial⟩
  | endWatch tab => exact ⟨hFits.modifyTabs tab fun _ => rfl, trivial⟩
  | awaitMilestone tab watch sought limit =>
    unfold World.begin
    dsimp only
    split
    · exact ⟨hFits, trivial⟩
    · exact ⟨hFits, trivial⟩
    · split
      · exact ⟨hFits, trivial⟩
      · exact hFits.within id _
  | spawn command => exact ⟨hFits.startProcess command, trivial⟩
  | terminate => exact ⟨hFits.askToEnd, trivial⟩
  | kill => exact ⟨hFits.forceEnd, trivial⟩
  | awaitExit limit =>
    unfold World.begin
    dsimp only
    split
    · exact ⟨hFits, trivial⟩
    · exact hFits.within id _
  | openSocket address limit => exact ⟨hFits.openSocket address limit, trivial⟩
  | followTab tab => exact ⟨hFits.modifyTabs tab fun _ => rfl, trivial⟩
  | recordTab tab => exact ⟨hFits.modifyTabs tab fun _ => rfl, trivial⟩
  | startPrinter => exact ⟨(hFits.withFeed hFits.feed.start).pump, trivial⟩
  | awaitLineup =>
    unfold World.begin
    dsimp only
    split
    · exact ⟨hFits, trivial⟩
    · exact hFits
  | stopFeed => exact ⟨hFits.stopFeed, trivial⟩
  | awaitPrinter =>
    unfold World.begin
    dsimp only
    split
    · exact ⟨hFits, trivial⟩
    · exact hFits
  | _ => exact ⟨{ hFits with }, trivial⟩

theorem answer? (hFits : w.Fits) {number : ℕ} {answer : Except Fault Value}
    (hAnswer : w.connection.answer? number = some answer) :
    Gives (fun v => v.fits = true) answer := by
  obtain ⟨call, hFound, hSome⟩ := Option.bind_eq_some_iff.mp hAnswer
  rintro v rfl
  exact hFits.calls call (List.mem_of_find?_eq_some hFound) v hSome

/-- A wait that is given up comes to nothing, or to what is said of it when it is late. -/
theorem givenUp_answer {β : Type} {waiting : Waiting α} {late answer : Except Fault β}
    (hGivenUp : w.givenUp waiting late = some (after, answer)) :
    answer = .error .cancelled ∨ answer = late := by
  unfold World.givenUp at hGivenUp
  split at hGivenUp
  · cases hGivenUp
    exact .inl rfl
  · split at hGivenUp
    · cases hGivenUp
      exact .inr rfl
    · cases hGivenUp

/-- The end of a wait keeps what can be written, and so can the answer be that a command gets. -/
theorem poll (hFits : w.Fits) {waiting : Waiting α} {op : Host.Op}
    {answer : Except Fault (Host.Answer op)} (hPoll : w.poll waiting op = some (after, answer)) :
    after.Fits ∧ op.Fits answer := by
  -- Only a command is answered with a value, and only the end of the connection tells anything.
  cases op with
  | sleep seconds =>
    rw [givenUp_same hPoll]
    exact ⟨hFits, trivial⟩
  | send key method params limit =>
    unfold World.poll at hPoll
    dsimp only at hPoll
    split at hPoll
    · next given hAnswer =>
      cases hPoll
      exact ⟨hFits.done _, hFits.answer? hAnswer⟩
    · obtain ⟨⟨before, given⟩, hEnd, hDone⟩ := Option.map_eq_some_iff.mp hPoll
      obtain rfl := givenUp_same hEnd
      cases hDone
      refine ⟨hFits.done _, ?_⟩
      rcases givenUp_answer hEnd with rfl | rfl
      · exact .error
      · exact timedOut_gives method _
  | hangUp =>
    unfold World.poll at hPoll
    dsimp only at hPoll
    split at hPoll
    · split at hPoll
      · cases hPoll
        exact ⟨(hFits.endReader none).closeConnection, trivial⟩
      · cases hPoll
    · have hWorld : after = w.hungUp.1 := by
        rw [Option.some.inj hPoll]
      exact ⟨hWorld ▸ hFits.hungUp, trivial⟩
  | awaitMilestone tab watch sought limit =>
    unfold World.poll at hPoll
    dsimp only at hPoll
    split at hPoll
    · cases hPoll
      exact ⟨hFits, trivial⟩
    · rw [givenUp_same hPoll]
      exact ⟨hFits, trivial⟩
  | awaitExit limit =>
    unfold World.poll at hPoll
    dsimp only at hPoll
    split at hPoll
    · cases hPoll
      exact ⟨hFits, trivial⟩
    · rw [givenUp_same hPoll]
      exact ⟨hFits, trivial⟩
  | awaitLineup =>
    unfold World.poll at hPoll
    dsimp only at hPoll
    split at hPoll
    · cases hPoll
      exact ⟨hFits, trivial⟩
    · split at hPoll <;> cases hPoll
      exact ⟨hFits, trivial⟩
  | awaitPrinter =>
    unfold World.poll at hPoll
    dsimp only at hPoll
    split at hPoll
    · cases hPoll
      exact ⟨hFits, trivial⟩
    · split at hPoll <;> cases hPoll
      exact ⟨hFits.withFeed ⟨hFits.feed.lineup, hFits.feed.queue⟩, trivial⟩
  | _ => cases hPoll

theorem conclude (hFits : w.Fits) (id : ℕ) {result : Except Fault (Ending α)}
    (hResult : Gives Ending.Fits result) : (w.conclude id result).Fits := by
  unfold World.conclude
  split
  · exact hFits.finish id _
  · exact hFits.finish id _
  · next ticket slot value =>
    exact ((hFits.leave id).settleArgument ticket slot (hResult _ rfl)).pump

/-- A script goes on, from question to question. -/
theorem proceed (hFits : w.Fits) (id : ℕ) {script : Script Host (Ending α)}
    (hScript : script.Gives Ending.Fits) : (World.proceed id script w).Fits := by
  -- Over the questions of the script: each answer can be written, so what follows it brings the
  -- feed only what can be.
  induction script generalizing w with
  | done result => exact hFits.conclude id hScript
  | ask op next ih =>
    have hBegun := hFits.begin id op
    unfold World.proceed
    split
    · next after answer hAnswered =>
      rw [hAnswered] at hBegun
      exact ih answer hBegun.1 (hScript answer hBegun.2)
    · next after number hWaits =>
      rw [hWaits] at hBegun
      have hAfter : after.Fits := hBegun
      exact hAfter.setWaiting id hScript

/-! ### Turns -/

theorem go (hFits : w.Fits) (id : ℕ) : (w.go id).Fits := by
  unfold World.go
  split
  · exact hFits
  · next number script hTask => exact hFits.proceed id (hFits.of_task? hTask)
  · next number waiting hTask =>
    split
    · exact hFits
    · next after answer hPoll =>
      obtain ⟨hAfter, hAnswer⟩ := hFits.poll hPoll
      exact (hAfter.dropTimers id).proceed id (hFits.of_task? hTask answer hAnswer)

theorem callOff (hFits : w.Fits) (id : ℕ) : (w.callOff id).Fits := by
  unfold World.callOff
  split
  · next number waiting hTask =>
    have hWaiting : (TaskState.waiting waiting).Fits := hFits.of_task? hTask
    refine World.Fits.addTurn (hFits.setWaiting id ?_) trivial
    exact hWaiting
  · exact hFits.finish id _
  · exact hFits

theorem elapse (hFits : w.Fits) (id : ℕ) : (w.takeTurn (.elapse id)).Fits := by
  refine World.Fits.addTurn ?_ trivial
  unfold World.mark
  split
  · next number waiting hTask =>
    have hWaiting : (TaskState.waiting waiting).Fits := hFits.of_task? hTask
    exact hFits.setWaiting id hWaiting
  · exact hFits

/-- **Every turn keeps what can be written.** -/
theorem takeTurn (hFits : w.Fits) {turn : Turn} (hTurn : turn.Fits) : (w.takeTurn turn).Fits := by
  cases turn with
  | go id => exact hFits.go id
  | elapse id => exact hFits.elapse id
  | callOff id => exact hFits.callOff id
  | deliver frames => exact hFits.arrive hTurn
  | read => exact hFits.read
  | exit code => exact hFits.exit code
  | writePort content => exact { hFits with }

/-- The clock moves, and what is due then can be written as it could be before. -/
theorem jump (hFits : w.Fits) (hJump : w.jump? = some after) : after.Fits := by
  unfold World.jump? at hJump
  split at hJump
  · cases hJump
  · rw [List.span_eq_takeWhile_dropWhile] at hJump
    obtain rfl := Option.some.inj hJump
    -- What is due now and what is due later were both among the timers.
    refine { hFits with
      timers := fun timer hMem => hFits.timers timer ((List.dropWhile_sublist _).subset hMem)
      turns := List.forall_mem_append.mpr ⟨hFits.turns, fun turn hMem => ?_⟩ }
    obtain ⟨timer, hDue, rfl⟩ := List.mem_map.mp hMem
    exact hFits.timers timer ((List.takeWhile_sublist _).subset hDue)

/-- **Whatever comes next keeps what can be written.** -/
theorem next (hFits : w.Fits) : w.next.Fits := by
  unfold World.next
  split
  · next turn rest hTurns =>
    obtain ⟨hTurn, hRest⟩ := List.forall_mem_cons.mp (hTurns ▸ hFits.turns)
    have hLeft : Fits { w with turns := rest } := { hFits with turns := hRest }
    exact hLeft.takeTurn hTurn
  · cases hJump : w.jump? with
    | none => exact hFits
    | some after => exact hFits.jump hJump

end World.Fits

/-! ## Rehearsals -/

/-- What is reached from a rehearsal in which nothing has happened, with a browser that responds
only by its script, whatever its surroundings are to do: a rehearsal goes on by itself, with any
pauses, and at any time frames come in, scripts join, and scripts are to be called off. -/
inductive World.Fed : World α → Prop
  | blank {scenario : Scenario} {peer : Peer} (hScripted : peer.lively = false) (clock : Double) :
      Fed { scenario := scenario, peer := peer, clock := clock }
  | next {w : World α} (hFed : Fed w) : Fed w.next
  | pass {w : World α} (hFed : Fed w) (time : Double) : Fed { w with clock := time }
  | arrive {w : World α} (hFed : Fed w) {frames : List Inbound}
      (hFrames : ∀ frame ∈ frames, frame.Fits) : Fed (w.arrive frames)
  | join {w : World α} (hFed : Fed w) (script : Script Host α) :
      Fed (w.spawn (script.bind fun a => .done (.ok (.result a)))).2
  | callOff {w : World α} (hFed : Fed w) (due : Double) (id : ℕ) :
      Fed (w.addTimer due (.callOff id))

/-- Everything can be written that is in a rehearsal that is reached. -/
theorem World.Fed.fits (hFed : w.Fed) : w.Fits := by
  induction hFed with
  | blank hScripted clock =>
    have hNoEvent : ∀ event, FeedItem.event event ∈ ([] : List FeedItem) → event.Fits :=
      fun event hMem => by cases hMem
    exact ⟨hScripted, List.forall_mem_nil _, List.forall_mem_nil _, List.forall_mem_nil _,
      List.forall_mem_nil _, List.forall_mem_nil _, List.forall_mem_nil _,
      ⟨List.forall_mem_nil _, hNoEvent⟩, fun e hMem => by cases hMem⟩
  | next _ ih => exact ih.next
  | pass _ time ih => exact { ih with }
  | arrive _ hFrames ih => exact ih.arrive hFrames
  | join _ script ih => exact ih.spawn script.result_gives
  | callOff _ due id ih => exact ih.addTimer due trivial

/-- **No diagnostic is lost for want of a line.** In every rehearsal that is fed by frames of which
everything can be written, such as all texts, each event that waits in the queue has a line, and so
has each event that is queued by whatever comes next; and wherever the printer has failed to write
an event, it was the line of an event that was refused. -/
theorem World.Fed.diagnostics_written (hFed : w.Fed) :
    (∀ event, .event event ∈ w.feed.queue → ∃ text, event.line = .ok text) ∧
      (∀ event, .event event ∈ LookupRun.put World.next w → ∃ text, event.line = .ok text) ∧
      ∀ e, .skipped "Failed to write diagnostic event" e ∈ w.record.notes → w.Refuses e := by
  have hFits := hFed.fits
  -- What is queued next stays in the queue if the printer is called off before.
  have hSilent : World.Fits { w with feed := w.feed.abandon } :=
    hFits.withFeed ⟨hFits.feed.lineup, hFits.feed.queue⟩
  refine ⟨fun event hMem => ?_, fun event hMem => ?_, hFits.losses⟩
  · exact Event.line_of_fits (hFits.feed.queue event hMem)
  · exact Event.line_of_fits (hSilent.next.feed.queue event (List.mem_of_mem_drop hMem))

/-- A script that opens a page and begins to read, with a printer if one is asked for. -/
def attendPage (printing : Bool) : Script Host Unit := do
  let session ← Host.ask (.register (.str "S") .null)
  let tab ← Host.ask (.openTab session)
  Host.ask (.followTab tab)
  if printing then Host.ask .startPrinter
  Host.ask (.openSocket "" (.int 9))

/-- A page that calls its console with a whole number that is told by its name, at a place whose
line is a list. Then a request of it fails, for a reason that is a list as well, of a number that
cannot be printed. -/
def untypedPage (printing : Bool) : World Unit :=
  let number : Value := .object [("type", .str "bigint"), ("unserializableValue", .str "-12n")]
  let place : Value := .object [("url", .list []), ("lineNumber", .list [.int 7])]
  let params : Value :=
    .object [("executionContextId", .int 1), ("args", .list [number]),
      ("stackTrace", .object [("callFrames", .list [place])])]
  let reply : Peer.Act := .reply "\x7b\"result\":\x7b\"unserializableValue\":\"-12n\"\x7d\x7d"
  let peer : Peer := { answers := [("Runtime.callFunctionOn", [[⟨0, reply⟩]])], lively := false }
  let start : World Unit := { scenario := { unprintable := some "404" }, peer := peer }
  (start.spawn ((attendPage printing).bind fun a => .done (.ok (.result a)))).2.arrive
    [.members [("method", .str "Runtime.consoleAPICalled"), ("sessionId", .str "S"),
        ("params", params)],
      .text ("\x7b\"method\":\"Network.loadingFailed\",\"sessionId\":\"S\","
        ++ "\"params\":\x7b\"errorText\":[404]\x7d\x7d")]

theorem untypedPage_fed (printing : Bool) (n : ℕ) :
    (World.next^[n] (untypedPage printing)).Fed := by
  induction n with
  | zero =>
    refine Fed.arrive (Fed.join (.blank rfl 0) _) ?_
    refine List.forall_mem_cons.mpr ⟨?_, List.forall_mem_singleton.mpr trivial⟩
    show Value.fitsMembers _ = true
    decide
  | succ n ih =>
    rw [Function.iterate_succ_apply']
    exact ih.next

/-- Without a printer the failed request is queued at once and the console call once its argument
is there, and both wait. With a printer the line of the failed request is refused. -/
theorem World.Fed.diagnostics_written_untyped :
    ((World.next^[7] (untypedPage false)).feed.queue.length = 2 ∧
      ∀ event, .event event ∈ (World.next^[7] (untypedPage false)).feed.queue →
        ∃ text, event.line = .ok text) ∧
    ((LookupRun.put World.next (World.next^[1] (untypedPage false))).length = 1 ∧
      ∀ event, .event event ∈
          LookupRun.put World.next (World.next^[1] (untypedPage false)) →
        ∃ text, event.line = .ok text) ∧
    ∃ e, .skipped "Failed to write diagnostic event" e ∈
        (World.next^[2] (untypedPage true)).record.notes ∧
      (World.next^[2] (untypedPage true)).Refuses e := by
  obtain ⟨hWaiting, -, -⟩ := (untypedPage_fed false 7).diagnostics_written
  obtain ⟨-, hQueued, -⟩ := (untypedPage_fed false 1).diagnostics_written
  obtain ⟨-, -, hLosses⟩ := (untypedPage_fed true 2).diagnostics_written
  have hNoted : .skipped "Failed to write diagnostic event" (.system .general "unprintable") ∈
      (World.next^[2] (untypedPage true)).record.notes := by decide +kernel
  exact ⟨⟨by decide +kernel, hWaiting⟩, ⟨by decide +kernel, hQueued⟩, _, hNoted,
    hLosses _ hNoted⟩

end PageReporter
