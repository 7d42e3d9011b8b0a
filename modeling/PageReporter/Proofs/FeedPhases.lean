import PageReporter.Proofs.FeedRun

/-!
# A feed left to itself

Signals arrive, look-ups end, the line-up moves up and the printer prints, without anybody starting
the printer or closing the feed. An open feed then stays open, with nothing but events in its queue,
and one that is closed with its line-up empty is being emptied, whatever else arrives.

* `Act.isAlone` — the acts that nobody asks for; `Alone` — a feed that is left to itself;
* `Accepting`, `Emptying` — a feed that takes signals, and one that is printed to its end;
* `Accepting.alone`, `Emptying.alone` — they stay so; `Accepting.close` — from the one to the other.
-/

namespace PageReporter.FeedRun

variable {σ : Type} {sink : Sink σ} {stage after : Stage σ} {act : Act} {trace : List Act}

/-! ## Acts -/

/-- Nobody asks for the act. -/
def Act.isAlone : Act → Bool
  | .arrive _ | .settle .. | .release | .print => true
  | .start | .close | .resume => false

/-- Such acts do not look at how far the closing has come. -/
theorem Step.withClosing (hStep : Step sink act stage after) (hAlone : act.isAlone = true)
    (closing : Option (Script Host Unit)) :
    Step sink act { stage with closing := closing } { after with closing := closing } := by
  cases hStep with
  | arrive arrival => exact .arrive arrival
  | settle result hAwaited => exact .settle result hAwaited
  | release =>
    have hSame : ({ stage with closing := closing } : Stage σ).release =
        { stage.release with closing := closing } := by
      obtain ⟨⟨lineup, _, _, _, _⟩, _, _, _, _⟩ := stage
      cases lineup <;> rfl
    rw [← hSame]
    exact .release
  | print =>
    have hSame : ({ stage with closing := closing } : Stage σ).print sink =
        { stage.print sink with closing := closing } := by
      obtain ⟨⟨_, _, queue, _, _⟩, _, _, _, _⟩ := stage
      cases queue <;> rfl
    rw [← hSame]
    exact .print
  | start | close | resume => cases hAlone

theorem Step.closing (hStep : Step sink act stage after) (hAlone : act.isAlone = true) :
    after.closing = stage.closing := by
  cases hStep with
  | arrive | settle => rfl
  | release =>
    obtain ⟨⟨lineup, _, _, _, _⟩, _, _, _, _⟩ := stage
    cases lineup <;> rfl
  | print =>
    obtain ⟨⟨_, _, queue, _, _⟩, _, _, _, _⟩ := stage
    cases queue <;> rfl
  | start | close | resume => cases hAlone

/-- What becomes of a feed that is left to itself. -/
def Alone (sink : Sink σ) (stage after : Stage σ) : Prop :=
  ∃ trace, (∀ act ∈ trace, act.isAlone = true) ∧ Steps sink stage trace after

namespace Alone

theorem refl (stage : Stage σ) : Alone sink stage stage :=
  ⟨[], nofun, .nil⟩

theorem trans {mid : Stage σ} (hFirst : Alone sink stage mid) (hSecond : Alone sink mid after) :
    Alone sink stage after := by
  obtain ⟨first, hFirstAlone, hFirstSteps⟩ := hFirst
  obtain ⟨second, hSecondAlone, hSecondSteps⟩ := hSecond
  exact ⟨first ++ second, List.forall_mem_append.mpr ⟨hFirstAlone, hSecondAlone⟩,
    hFirstSteps.trans hSecondSteps⟩

theorem step (hAlone : act.isAlone = true) (hStep : Step sink act stage after) :
    Alone sink stage after :=
  ⟨[] ++ [act], by simpa using hAlone, Steps.nil.snoc hStep⟩

/-- What every such act keeps, a feed that is left to itself keeps. -/
theorem keeps {P : Stage σ → Prop} (hAlone : Alone sink stage after)
    (hStep : ∀ {act stage after}, P stage → Step sink act stage after → act.isAlone = true → P after)
    (hStage : P stage) : P after := by
  obtain ⟨trace, hActs, hSteps⟩ := hAlone
  induction hSteps with
  | nil => exact hStage
  | snoc _ hLast ih =>
    obtain ⟨hBefore, hOnly⟩ := List.forall_mem_append.mp hActs
    exact hStep (ih hBefore) hLast (hOnly _ (List.mem_singleton_self _))

theorem closing (hAlone : Alone sink stage after) : after.closing = stage.closing :=
  hAlone.keeps (fun hSame hStep hAct => (hStep.closing hAct).trans hSame) rfl

theorem withClosing (hAlone : Alone sink stage after) (closing : Option (Script Host Unit)) :
    Alone sink { stage with closing := closing } { after with closing := closing } :=
  hAlone.keeps (P := fun now =>
      Alone sink { stage with closing := closing } { now with closing := closing })
    (fun hBefore hStep hAct => hBefore.trans (.step hAct (hStep.withClosing hAct closing)))
    (.refl _)

end Alone

/-! ## Phases -/

/-- The feed takes signals, and there is nothing but events in its queue. -/
structure Accepting (printer : Printer) (stage : Stage σ) : Prop where
  closed : stage.feed.closed = false
  printer : stage.feed.printer = printer
  queue : ∃ events : List Event, stage.feed.queue = events.map .event

/-- The feed is closed, and is printed up to its end or has been. -/
inductive Emptying (stage : Stage σ) : Prop
  | printing (hClosed : stage.feed.closed = true) (hLineup : stage.feed.lineup = [])
      (hPrinter : stage.feed.printer = .running) (events : List Event)
      (hQueue : stage.feed.queue = events.map .event ++ [.stop])
  | printed (hClosed : stage.feed.closed = true) (hLineup : stage.feed.lineup = [])
      (hPrinter : stage.feed.printer = .ended) (hQueue : stage.feed.queue = [])

/-- The line-up that moves up queues at most an event. -/
theorem release_open (hOpen : stage.feed.closed = false) :
    ∃ lineup, ∃ events : List Event, stage.release.feed =
      ⟨lineup, stage.feed.arrived, stage.feed.queue ++ events.map .event, stage.feed.printer,
        stage.feed.closed⟩ := by
  have hStays : stage.release = stage → ∃ lineup, ∃ events : List Event, stage.release.feed =
      ⟨lineup, stage.feed.arrived, stage.feed.queue ++ events.map .event, stage.feed.printer,
        stage.feed.closed⟩ := by
    intro hSame
    rw [hSame]
    exact ⟨stage.feed.lineup, [], by rw [List.map_nil, List.append_nil]⟩
  cases hLineup : stage.feed.lineup with
  | nil => exact hStays (Stage.release_waiting (by simp [hLineup]))
  | cons ticket rest =>
    cases hParts : Ticket.parts? ticket.slots with
    | none => exact hStays (Stage.release_waiting (by simp [hLineup, hParts]))
    | some parts =>
      cases hEvent : ticket.call.event parts with
      | ok event =>
        rw [Stage.release_settled hOpen hLineup hParts hEvent]
        exact ⟨rest, [event], rfl⟩
      | error e =>
        -- A call that makes no event leaves the line-up all the same.
        refine ⟨rest, [], ?_⟩
        unfold Stage.release
        simp [hLineup, Feed.advance, Feed.advanceLineup, Feed.withLineup, hParts, hEvent]

theorem Accepting.step {printer : Printer} (hAccepting : Accepting printer stage)
    (hStep : Step sink act stage after) (hAlone : act.isAlone = true) :
    Accepting printer after := by
  obtain ⟨hOpen, hPrinter, events, hQueue⟩ := hAccepting
  cases hStep with
  | arrive arrival =>
    by_cases hConsole : ∃ call, arrival.toFeed = .console call
    · obtain ⟨call, hCall⟩ := hConsole
      rw [Stage.arrive_console hOpen hCall]
      exact ⟨hOpen, hPrinter, events, hQueue⟩
    · rw [Stage.arrive_other hOpen (not_exists.mp hConsole)]
      refine ⟨hOpen, hPrinter, events ++ (Stage.reportOf arrival).toList, ?_⟩
      simp [Feed.withQueue, hQueue]
  | settle result hAwaited => exact ⟨hOpen, hPrinter, events, hQueue⟩
  | release =>
    obtain ⟨lineup, more, hFeed⟩ := release_open hOpen
    refine ⟨?_, ?_, events ++ more, ?_⟩
    · rw [hFeed]
      exact hOpen
    · rw [hFeed]
      exact hPrinter
    · simp [hFeed, hQueue]
  | print =>
    by_cases hRunning : stage.feed.printer = .running
    · cases events with
      | nil =>
        rw [Stage.print_idle (.inl hQueue)]
        exact ⟨hOpen, hPrinter, [], hQueue⟩
      | cons event rest =>
        rw [Stage.print_event hQueue hRunning]
        exact ⟨hOpen, hPrinter, rest, rfl⟩
    · rw [Stage.print_idle (.inr hRunning)]
      exact ⟨hOpen, hPrinter, events, hQueue⟩
  | start | close | resume => cases hAlone

theorem Accepting.alone {printer : Printer} (hAccepting : Accepting printer stage)
    (hAlone : Alone sink stage after) : Accepting printer after :=
  hAlone.keeps Accepting.step hAccepting

/-- Starting the printer of a feed that has none changes nothing else. -/
theorem Accepting.start (hAccepting : Accepting .absent stage) :
    Accepting .running { stage with feed := stage.feed.start } := by
  obtain ⟨hOpen, hPrinter, hQueue⟩ := hAccepting
  unfold Feed.start
  rw [if_pos hPrinter]
  exact ⟨hOpen, rfl, hQueue⟩

theorem Emptying.closed (hEmptying : Emptying stage) : stage.feed.closed = true := by
  cases hEmptying with
  | printing hClosed => exact hClosed
  | printed hClosed => exact hClosed

theorem Emptying.lineup (hEmptying : Emptying stage) : stage.feed.lineup = [] := by
  cases hEmptying with
  | printing _ hLineup => exact hLineup
  | printed _ hLineup => exact hLineup

theorem Emptying.step (hEmptying : Emptying stage) (hStep : Step sink act stage after)
    (hAlone : act.isAlone = true) : Emptying after := by
  have hClosed := hEmptying.closed
  have hLineup := hEmptying.lineup
  cases hStep with
  | arrive arrival =>
    rw [Stage.arrive_closed hClosed]
    exact hEmptying
  | settle result hAwaited =>
    obtain ⟨ticket, hMem, -⟩ := hAwaited
    rw [hLineup] at hMem
    cases hMem
  | release =>
    rw [Stage.release_waiting (by simp [hLineup])]
    exact hEmptying
  | print =>
    cases hEmptying with
    | printed _ _ hPrinter hQueue =>
      rw [Stage.print_idle (.inl hQueue)]
      exact .printed hClosed hLineup hPrinter hQueue
    | printing _ _ hPrinter events hQueue =>
      cases events with
      | nil =>
        rw [Stage.print_mark hQueue hPrinter]
        exact .printed hClosed hLineup rfl rfl
      | cons event rest =>
        rw [Stage.print_event hQueue hPrinter]
        exact .printing hClosed hLineup hPrinter rest rfl
  | start | close | resume => cases hAlone

theorem Emptying.alone (hEmptying : Emptying stage) (hAlone : Alone sink stage after) :
    Emptying after :=
  hAlone.keeps Emptying.step hEmptying

/-- Closing a feed whose line-up is empty begins to empty it. -/
theorem Accepting.close (hAccepting : Accepting .running stage) (hLineup : stage.feed.lineup = []) :
    Emptying { stage with feed := stage.feed.close } := by
  obtain ⟨-, hPrinter, events, hQueue⟩ := hAccepting
  refine .printing rfl hLineup hPrinter events ?_
  show stage.feed.queue ++ [.stop] = _
  rw [hQueue]

end PageReporter.FeedRun
