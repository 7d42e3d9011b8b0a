import PageReporter.Proofs.FeedOrder
import PageReporter.Proofs.FeedPhases

/-!
# Losses of the browser in the feed

The feed reports the loss of the browser like any other signal. Whatever else goes on, it tells a
loss as often as one arrived while it was open, and nothing else as a loss.

* `Event.isLoss`, `Arrival.isLoss` — the event and the signal;
* `FeedRun.Stage.reportOf_isLoss` — a signal is reported as a loss if it is one;
* `FeedRun.Stage.Counted` — losses have been told as often as they arrived;
* `FeedRun.Stage.Counted.step`, `FeedRun.Stage.Counted.stop` — it stays so.
-/

namespace PageReporter

/-! ## Losses that are told -/

/-- Whether an event tells that the browser is lost. -/
def Event.isLoss (event : Event) : Bool :=
  event.category = .browserDisconnected

/-- Whether a signal tells that the browser is lost. -/
def Arrival.isLoss : Arrival → Bool
  | .disconnected => true
  | .page _ => false

/-- Every other event than that of a lost browser is about something else. -/
theorem event?_isLoss {signal : FeedSignal} {event : Event}
    (hFailure : ∀ category text, signal = .failure category text → category ≠ .browserDisconnected)
    (hOther : signal ≠ .disconnected) (hEvent : signal.event? = .ok (some event)) :
    event.isLoss = false := by
  cases signal with
  | console call => cases hEvent
  | failure category text =>
    cases hEvent
    exact decide_eq_false (hFailure category text rfl)
  | requestFailed url reason =>
    obtain ⟨_, -, hRest⟩ := Fault.of_bind_ok hEvent
    obtain ⟨_, -, hDone⟩ := Fault.of_bind_ok hRest
    cases hDone
    rfl
  | response response =>
    simp only [FeedSignal.event?] at hEvent
    split at hEvent
    · cases hEvent
    · obtain ⟨_, -, hRest⟩ := Fault.of_bind_ok hEvent
      obtain ⟨_, -, hRest⟩ := Fault.of_bind_ok hRest
      obtain ⟨_, -, hDone⟩ := Fault.of_bind_ok hRest
      cases hDone
      rfl
  | disconnected => exact absurd rfl hOther

/-- Nor is the event of a console call. -/
theorem ConsoleCall.event_isLoss {call : ConsoleCall} {parts : List Value} {event : Event}
    (hEvent : call.event parts = .ok event) : event.isLoss = false := by
  obtain ⟨category, hCategory, hRest⟩ := Fault.of_bind_ok hEvent
  obtain ⟨_, -, hDone⟩ := Fault.of_bind_ok hRest
  cases hDone
  refine decide_eq_false ?_
  unfold Category.ofConsoleType at hCategory
  split at hCategory
  · cases hCategory
    unfold Category.ofConsoleName
    split <;> nofun
  · obtain ⟨_, -, rfl⟩ := Fault.of_map_ok hCategory
    nofun

namespace FeedRun

variable {σ : Type} {sink : Sink σ} {stage after : Stage σ} {act : Act}

/-- A signal is reported as a loss if it is one. -/
theorem Stage.reportOf_isLoss (arrival : Arrival) :
    (Stage.reportOf arrival).toList.countP Event.isLoss = [arrival].countP Arrival.isLoss := by
  cases arrival with
  | disconnected => rfl
  | page signal =>
    rw [List.countP_singleton, show Arrival.isLoss (.page signal) = false from rfl, if_neg nofun,
      List.countP_eq_zero]
    intro event hMem
    have hEvent : signal.toFeed.event? = .ok (some event) := by
      have hReport := Option.mem_toList.mp hMem
      unfold Stage.reportOf at hReport
      split at hReport
      · next hOk => exact hOk.trans (congrArg Except.ok hReport)
      · cases hReport
    refine Bool.eq_false_iff.mp (event?_isLoss ?_ ?_ hEvent)
    · intro category text hFailure
      cases signal <;> cases hFailure <;> nofun
    · cases signal <;> nofun

/-- A signal that arrives does not close the feed. -/
theorem Stage.arrive_sameClosed (stage : Stage σ) (arrival : Arrival) :
    (stage.arrive arrival).feed.closed = stage.feed.closed := by
  cases hClosed : stage.feed.closed with
  | true => rw [Stage.arrive_closed hClosed, hClosed]
  | false =>
    by_cases hConsole : ∃ call, arrival.toFeed = .console call
    · obtain ⟨call, hCall⟩ := hConsole
      rw [Stage.arrive_console hClosed hCall, hClosed]
    · rw [Stage.arrive_other hClosed (not_exists.mp hConsole)]
      exact hClosed

/-- The events in a queue. -/
def eventsOf (queue : List FeedItem) : List Event :=
  queue.filterMap fun
    | .event event => some event
    | .stop => none

theorem eventsOf_append (queue : List FeedItem) (events : List Event) :
    eventsOf (queue ++ events.map .event) = eventsOf queue ++ events := by
  rw [eventsOf, List.filterMap_append, List.filterMap_map]
  exact congrArg _ List.filterMap_some

/-- Losses have been told as often as they arrived. -/
def Stage.Counted (stage : Stage σ) : Prop :=
  stage.told.countP Event.isLoss = stage.fired.countP Arrival.isLoss

/-- A change that tells nothing, and lets nothing arrive. -/
theorem Stage.Counted.same (hCounted : stage.Counted) (hTold : after.told = stage.told)
    (hFired : after.fired = stage.fired) : after.Counted := by
  unfold Stage.Counted
  rw [hTold, hFired]
  exact hCounted

theorem Stage.Counted.arrive (hCounted : stage.Counted) (arrival : Arrival) :
    (stage.arrive arrival).Counted := by
  cases hClosed : stage.feed.closed with
  | true => rwa [Stage.arrive_closed hClosed]
  | false =>
    by_cases hConsole : ∃ call, arrival.toFeed = .console call
    · obtain ⟨call, hCall⟩ := hConsole
      rw [Stage.arrive_console hClosed hCall]
      have hNone : [arrival].countP Arrival.isLoss = 0 := by
        cases arrival with
        | disconnected => cases hCall
        | page signal => rfl
      unfold Stage.Counted
      rw [List.countP_append, hNone]
      exact hCounted
    · rw [Stage.arrive_other hClosed (not_exists.mp hConsole)]
      unfold Stage.Counted at hCounted ⊢
      rw [List.countP_append, ← Stage.reportOf_isLoss, ← hCounted, ← List.countP_append]
      show (stage.handed ++ eventsOf (stage.feed.queue ++ _)).countP _ =
        (stage.handed ++ eventsOf stage.feed.queue ++ _).countP _
      rw [eventsOf_append, List.append_assoc]

theorem Stage.Counted.release (hCounted : stage.Counted) : stage.release.Counted := by
  cases hLineup : stage.feed.lineup with
  | nil => rwa [Stage.release_waiting (by simp [hLineup])]
  | cons ticket rest =>
    cases hParts : Ticket.parts? ticket.slots with
    | none => rwa [Stage.release_waiting (by simp [hLineup, hParts])]
    | some parts =>
      -- The call at the front is published, if it makes an event and the feed is open.
      cases hEvent : ticket.call.event parts with
      | error e =>
        refine hCounted.same ?_ ?_ <;>
          simp [Stage.told, Stage.queued, Stage.release, hLineup, Feed.advance, Feed.advanceLineup,
            Feed.withLineup, hParts, hEvent]
      | ok event =>
        cases hClosed : stage.feed.closed with
        | true =>
          refine hCounted.same ?_ ?_ <;>
            simp [Stage.told, Stage.queued, Stage.release, hLineup, Feed.advance,
              Feed.advanceLineup, Feed.withLineup, Feed.publish, hParts, hEvent, hClosed]
        | false =>
          rw [Stage.release_settled hClosed hLineup hParts hEvent]
          have hOther := ConsoleCall.event_isLoss hEvent
          unfold Stage.Counted at hCounted ⊢
          rw [← hCounted]
          simp [Stage.told, Stage.queued, hOther]

theorem Stage.Counted.print (hCounted : stage.Counted) : (stage.print sink).Counted := by
  by_cases hRunning : stage.feed.printer = .running
  · cases hQueue : stage.feed.queue with
    | nil => rwa [Stage.print_idle (.inl hQueue)]
    | cons item rest =>
      cases item with
      | event event =>
        rw [Stage.print_event hQueue hRunning]
        exact hCounted.same (told_printed _ hQueue) rfl
      | stop =>
        rw [Stage.print_mark hQueue hRunning]
        refine hCounted.same ?_ rfl
        simp [Stage.told, Stage.queued, hQueue]
  · rwa [Stage.print_idle (.inr hRunning)]

/-- Whatever happens to a feed that is left to itself keeps the count. -/
theorem Stage.Counted.step (hCounted : stage.Counted) (hStep : Step sink act stage after)
    (hAlone : act.isAlone = true) : after.Counted := by
  cases hStep with
  | arrive arrival => exact hCounted.arrive arrival
  | settle result hAwaited => exact hCounted.same rfl rfl
  | release => exact hCounted.release
  | print => exact hCounted.print
  | start | close | resume => cases hAlone

/-- A feed that is closed stays so. -/
theorem Step.staysClosed (hStep : Step sink act stage after) (hAlone : act.isAlone = true)
    (hClosed : stage.feed.closed = true) : after.feed.closed = true := by
  cases hStep with
  | arrive arrival => rwa [Stage.arrive_closed hClosed]
  | settle result hAwaited => exact hClosed
  | release =>
    unfold Stage.release
    split
    · exact hClosed
    · next ticket rest _ =>
      cases hParts : Ticket.parts? ticket.slots with
      | none => simpa [Feed.advance, Feed.advanceLineup, Feed.withLineup, hParts] using hClosed
      | some parts =>
        cases hEvent : ticket.call.event parts <;>
          simp [Feed.advance, Feed.advanceLineup, Feed.withLineup, Feed.publish, hParts, hEvent,
            hClosed]
  | print =>
    by_cases hRunning : stage.feed.printer = .running
    · cases hQueue : stage.feed.queue with
      | nil => rwa [Stage.print_idle (.inl hQueue)]
      | cons item rest =>
        cases item with
        | event event =>
          rw [Stage.print_event hQueue hRunning]
          exact hClosed
        | stop =>
          rw [Stage.print_mark hQueue hRunning]
          exact hClosed
    · rwa [Stage.print_idle (.inr hRunning)]
  | start | close | resume => cases hAlone

/-- What is printed of a queue at once was at its front before. -/
theorem printQueue_front (sink : Sink σ) (queue : List FeedItem) (s : σ) (handed : List Event) :
    ∃ rest met t events,
      Feed.printQueue sink.handOver sink.remark queue (s, handed) =
        (rest, met, (t, handed ++ events)) ∧
      eventsOf queue = events ++ eventsOf rest := by
  induction queue generalizing s handed with
  | nil => exact ⟨[], false, s, [], by simp [Feed.printQueue], rfl⟩
  | cons item queue ih =>
    cases item with
    | stop => exact ⟨queue, true, s, [], by simp [Feed.printQueue], rfl⟩
    | event event =>
      obtain ⟨rest, met, t, events, hPrinted, hQueue⟩ := ih (sink.after event s) (handed ++ [event])
      refine ⟨rest, met, t, event :: events, ?_, congrArg (event :: ·) hQueue⟩
      rw [Sink.printQueue_event, hPrinted, List.append_assoc]
      rfl

theorem Stage.stop_fired {printer : Except Fault Bool}
    (hAnswer : stage.answer sink .stopFeed = some (after, printer)) :
    after.fired = stage.fired := by
  simp only [Stage.answer, Option.some.injEq, Prod.mk.injEq] at hAnswer
  rw [← hAnswer.1]

theorem Stage.stop_closed {printer : Except Fault Bool}
    (hAnswer : stage.answer sink .stopFeed = some (after, printer)) : after.feed.closed = true := by
  simp only [Stage.answer, Option.some.injEq, Prod.mk.injEq] at hAnswer
  rw [← hAnswer.1]
  dsimp only [Feed.stop]
  split <;> rfl

/-- Closing a feed tells what was still in its queue, and nothing else. -/
theorem Stage.Counted.stop {printer : Except Fault Bool} (hCounted : stage.Counted)
    (hAnswer : stage.answer sink .stopFeed = some (after, printer)) : after.Counted := by
  have hMarked : eventsOf stage.feed.close.queue = eventsOf stage.feed.queue := by
    show eventsOf (stage.feed.queue ++ [.stop]) = _
    rw [eventsOf, List.filterMap_append]
    exact List.append_nil _
  simp only [Stage.answer, Feed.stop, Option.some.injEq, Prod.mk.injEq] at hAnswer
  obtain ⟨rfl, -⟩ := hAnswer
  split
  · obtain ⟨rest, met, t, events, hPrinted, hQueue⟩ :=
      printQueue_front sink stage.feed.close.queue stage.sink stage.handed
    rw [hPrinted]
    refine hCounted.same ?_ rfl
    show stage.handed ++ events ++ eventsOf rest = stage.handed ++ eventsOf stage.feed.queue
    rw [List.append_assoc, ← hQueue, hMarked]
  · exact hCounted.same (congrArg (stage.handed ++ ·) hMarked) rfl

end FeedRun

end PageReporter
