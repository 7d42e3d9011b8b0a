import PageReporter.Proofs.PublishTimes

/-!
# What the feed reports of a tab

A feed that follows a tab reports what the tab signals, at once and in order, whoever else follows
the tab and whatever is in the line-up. Calls of the console take their own time and are left out
here.

* `World.reported` — the events that a change queues, besides those about the console;
* `World.Reports` — a change that keeps the feed open and queues certain events;
* `World.Attached` — a tab that an open feed follows; `World.attached_followTab` — how one comes
  about;
* `World.Attached.receive` — what one event of the browser makes of such a tab, and what is
  reported of it.
-/

namespace PageReporter.World

open LookupRun FeedRun

variable {α : Type} {u v w after : World α} {events more : List Event}

/-! ## Reports -/

/-- What is in the queue, unless it is about the console. -/
def reportIn? : FeedItem → Option Event
  | .event event => if event.category.isConsole then none else some event
  | .stop => none

/-- The events that a change queues, besides those about the console. -/
def reported (change : World α → World α) (w : World α) : List Event :=
  (put change w).filterMap reportIn?

/-- A world whose feed is still open after a change. If nobody prints, nobody prints afterwards, and
besides what is about the console the change has queued these events. -/
structure Reports (w after : World α) (events : List Event) : Prop where
  opened : after.feed.closed = false
  queued : w.feed.printer = .ended → after.feed.printer = .ended ∧
    ∃ items, after.feed.queue = w.feed.queue ++ items ∧ items.filterMap reportIn? = events

namespace Reports

/-- A change that has nothing to do with the feed. -/
theorem still (hOpen : w.feed.closed = false) (hFeed : after.feed = w.feed) :
    Reports w after [] := by
  refine ⟨hFeed ▸ hOpen, fun hEnded => ⟨hFeed ▸ hEnded, [], ?_, rfl⟩⟩
  rw [hFeed, List.append_nil]

theorem trans (hFirst : Reports u v events) (hSecond : Reports v w more) :
    Reports u w (events ++ more) := by
  refine ⟨hSecond.opened, fun hEnded => ?_⟩
  obtain ⟨hStill, items, hQueue, hItems⟩ := hFirst.queued hEnded
  obtain ⟨hLast, others, hMore, hOthers⟩ := hSecond.queued hStill
  refine ⟨hLast, items ++ others, ?_, ?_⟩
  · rw [hMore, hQueue, List.append_assoc]
  · rw [List.filterMap_append, hItems, hOthers]

/-- The feed takes its course after something has been queued. What leaves the line-up meanwhile is
about the console. -/
theorem pump {items : List FeedItem} (hOpen : w.feed.closed = false)
    (hItems : items.filterMap reportIn? = events) :
    Reports w (World.pump { w with feed := w.feed.withQueue (w.feed.queue ++ items) }) events := by
  obtain ⟨queue, printer, hAfter, -, hKept⟩ :=
    pump_open (w := { w with feed := w.feed.withQueue (w.feed.queue ++ items) }) hOpen
  refine ⟨by rw [hAfter], fun hEnded => ?_⟩
  obtain ⟨rfl, rfl⟩ := hKept fun hRunning => nomatch hEnded.symm.trans hRunning
  have hConsole : ∀ item ∈ (w.feed.lineup.takeWhile isSettled).filterMap itemOf,
      reportIn? item = none := by
    intro item hMem
    obtain ⟨ticket, -, hItem⟩ := List.mem_filterMap.mp hMem
    have hAbout := isOfConsole_itemOf hItem 0
    cases item with
    | event event => exact if_pos hAbout
    | stop => rfl
  rw [hAfter]
  refine ⟨hEnded, items ++ (w.feed.lineup.takeWhile isSettled).filterMap itemOf,
    List.append_assoc .., ?_⟩
  rw [List.filterMap_append, hItems, List.filterMap_eq_nil_iff.mpr hConsole, List.append_nil]

/-- A signal other than a call of the console is reported, if there is anything to report. -/
theorem fireSignal {arrival : Arrival} (hOpen : w.feed.closed = false)
    (hOther : ∀ call, arrival.toFeed ≠ .console call) :
    Reports w (LookupRun.fireSignal arrival w) (Stage.reportOf arrival).toList := by
  have hItems : (reportsOf arrival).filterMap reportIn? = (Stage.reportOf arrival).toList := by
    unfold reportsOf
    cases hReport : Stage.reportOf arrival with
    | none => rfl
    | some event => simp [reportIn?, reportOf_not_console hReport]
  obtain ⟨hNone, hSame⟩ | hFires := fireSignal_cases (α := α) hOther
  · rw [hNone] at hItems
    rw [← hItems, hSame]
    exact still hOpen rfl
  · rw [hFires w hOpen]
    exact pump hOpen hItems

/-- If nobody prints, what a change has queued is what it reports. -/
theorem reported_eq {change : World α → World α}
    (hReports : Reports { w with feed := w.feed.abandon }
      (change { w with feed := w.feed.abandon }) events) : reported change w = events := by
  obtain ⟨-, items, hQueue, hItems⟩ := hReports.queued rfl
  unfold reported put
  rw [hQueue]
  show ((w.feed.queue ++ items).drop w.feed.queue.length).filterMap reportIn? = events
  rw [List.drop_left, hItems]

end Reports

/-! ## Those who follow a tab -/

/-- What is to be reported of a signal of a page. -/
def reportsOfSignal (signal : PageSignal) : List Event :=
  (Stage.reportOf (.page signal)).toList

/-- A signal of a page that is no call of its console. -/
def IsPlainSignal (signal : PageSignal) : Prop :=
  ∀ call, signal.toFeed ≠ .console call

variable {signal : PageSignal} {number session : Nat}

theorem lookupsOf_plain (hPlain : IsPlainSignal signal) (key : Value) :
    lookupsOf session key signal = [] := by
  cases signal with
  | console message => exact absurd rfl (hPlain _)
  | _ => rfl

/-- The feed reports what it is told, and everyone else leaves the feed alone. -/
theorem tellFollower_reports (hOpen : w.feed.closed = false) (hPlain : IsPlainSignal signal)
    (follower : Follower) : Reports w (tellFollower number session signal follower w).1
      (if follower = .feed then reportsOfSignal signal else []) := by
  cases follower with
  | recorder =>
    simp only [tellFollower]
    split <;> exact .still hOpen rfl
  | feed =>
    simp only [tellFollower, lookupsOf_plain hPlain]
    have hSignal : ∀ call, (Arrival.page signal).toFeed ≠ .console call := hPlain
    exact .fireSignal hOpen hSignal

theorem tellFollowers_reports (hOpen : w.feed.closed = false) (hPlain : IsPlainSignal signal)
    (followers : List Follower) : Reports w
      (emitTo (tellFollower number session signal) (fun n w => w.note n) signal.name followers w)
      (followers.flatMap fun follower =>
        if follower = .feed then reportsOfSignal signal else []) := by
  induction followers generalizing w with
  | nil => exact .still hOpen rfl
  | cons follower rest ih =>
    have hFollower : Reports w (tellFollower number session signal follower w).1 _ :=
      tellFollower_reports hOpen hPlain follower
    unfold emitTo
    rw [List.flatMap_cons]
    split
    · next after hDone =>
      rw [hDone] at hFollower
      exact hFollower.trans (ih hFollower.opened)
    · next after e hFailed =>
      rw [hFailed] at hFollower
      -- The note about the failure is not for the feed.
      have hNoted : Reports after (after.note (.failedHandler signal.name e)) [] :=
        .still hFollower.opened rfl
      exact hFollower.trans (hNoted.trans (ih hNoted.opened))

/-! ## Tabs -/

/-- A tab that an open feed follows: the feed is told each of its signals once. -/
structure Attached (number : Nat) (t : TabRecord) (w : World α) : Prop where
  opened : w.feed.closed = false
  tab : w.tabs[number]? = some t
  followed : ∀ name ∈ PageSignal.names, (t.followers.handlers name).count .feed = 1

/-- A tab that nobody follows is attached when an open feed follows it. -/
theorem attached_followTab {t : TabRecord} (hOpen : w.feed.closed = false)
    (hTab : w.tabs[number]? = some t) (hAlone : t.followers.entries = []) :
    Attached number ⟨t.session, t.tab, t.followers.subscribeAll PageSignal.names .feed⟩
      (w.followTab number .feed) := by
  refine ⟨hOpen, ?_, ?_⟩
  · show (w.tabs.modify number _)[number]? = _
    rw [List.getElem?_modify_eq, hTab]
    rfl
  · unfold Roster.subscribeAll Roster.handlers
    rw [hAlone]
    show ∀ name ∈ PageSignal.names, (((PageSignal.names.map fun event =>
      (event, Follower.feed)).filter fun (n, _) => n = name).map Prod.snd).count .feed = 1
    decide

/-- A rehearsal with one tab, which a running feed follows. -/
def followedTab : World Unit :=
  (openTab { scenario := {}, peer := {}, feed := Feed.start {} } 0).2.followTab 0 .feed

theorem attached_followedTab : Attached 0
    ⟨0, {}, ({} : Roster Follower).subscribeAll PageSignal.names .feed⟩ followedTab :=
  attached_followTab (t := ⟨0, {}, {}⟩) rfl rfl rfl

namespace Attached

variable {t : TabRecord}

theorem name_mem (signal : PageSignal) : signal.name ∈ PageSignal.names := by
  cases signal <;> simp [PageSignal.name, PageSignal.names]

/-- What an attached tab signals is reported once. -/
theorem tell (hAttached : Attached number t w) (hPlain : IsPlainSignal signal) :
    Attached number t (w.tellTab number signal) ∧
      Reports w (w.tellTab number signal) (reportsOfSignal signal) := by
  have hOnce : ((t.followers.handlers signal.name).flatMap fun follower =>
      if follower = .feed then reportsOfSignal signal else []) = reportsOfSignal signal := by
    have hCount := hAttached.followed signal.name (name_mem signal)
    -- All others contribute nothing, so as many copies are left as there are feeds.
    have hCopies : ∀ followers : List Follower, (followers.flatMap fun follower =>
        if follower = .feed then reportsOfSignal signal else []) =
          (List.replicate (followers.count .feed) (reportsOfSignal signal)).flatten := by
      intro followers
      induction followers with
      | nil => rfl
      | cons follower rest ih => cases follower <;> simp [ih, List.replicate_succ]
    rw [hCopies, hCount, List.replicate_one, List.flatten_singleton]
  have hReports : Reports w (w.tellTab number signal) (reportsOfSignal signal) := by
    unfold World.tellTab
    rw [hAttached.tab]
    rw [← hOnce]
    exact tellFollowers_reports hAttached.opened hPlain (t.followers.handlers signal.name)
  refine ⟨⟨hReports.opened, ?_, hAttached.followed⟩, hReports⟩
  rw [(Changes.tellTab number w signal).tabs]
  exact hAttached.tab

theorem tellAll (hAttached : Attached number t w) {signals : List PageSignal}
    (hPlain : ∀ signal ∈ signals, IsPlainSignal signal) :
    Attached number t (signals.foldl (tellTab number) w) ∧
      Reports w (signals.foldl (tellTab number) w) (signals.flatMap reportsOfSignal) := by
  induction signals generalizing w with
  | nil => exact ⟨hAttached, .still hAttached.opened rfl⟩
  | cons signal rest ih =>
    obtain ⟨hFirst, hRest⟩ := List.forall_mem_cons.mp hPlain
    obtain ⟨hStays, hSignal⟩ := hAttached.tell hFirst
    obtain ⟨hLast, hOthers⟩ := ih hStays hRest
    exact ⟨hLast, hSignal.trans hOthers⟩

/-- The printer is called off. -/
theorem abandon (hAttached : Attached number t w) :
    Attached number t { w with feed := w.feed.abandon } :=
  ⟨hAttached.opened, hAttached.tab, hAttached.followed⟩

/-- **One event of the browser.** An attached tab reacts to it and stays attached, and exactly what
it signals is reported, in order. -/
theorem receive (hAttached : Attached number t w) {event : String} {params : Value}
    {reaction : Tab.Reaction}
    (hReaction : t.tab.receive w.scenario.wallClock event params = reaction)
    (hPlain : ∀ signal ∈ reaction.signals, IsPlainSignal signal) :
    ∃ after, w.tabReceive number event params = (after, reaction.fault) ∧
      Attached number ⟨t.session, reaction.tab, t.followers⟩ after ∧
      reported (fun w => (w.tabReceive number event params).1) w =
        reaction.signals.flatMap reportsOfSignal := by
  have hReceives : ∀ w : World α, Attached number t w →
      t.tab.receive w.scenario.wallClock event params = reaction →
      ∃ after, w.tabReceive number event params = (after, reaction.fault) ∧
        Attached number ⟨t.session, reaction.tab, t.followers⟩ after ∧
        Reports w after (reaction.signals.flatMap reportsOfSignal) := by
    intro w hAttached hReaction
    have hSet : Attached number ⟨t.session, reaction.tab, t.followers⟩
        { w with tabs := w.tabs.set number ⟨t.session, reaction.tab, t.followers⟩ } := by
      refine ⟨hAttached.opened, ?_, hAttached.followed⟩
      rw [List.getElem?_set_self]
      exact (List.getElem?_eq_some_iff.mp hAttached.tab).1
    obtain ⟨hStays, hReports⟩ := hSet.tellAll hPlain
    unfold tabReceive
    rw [hAttached.tab]
    dsimp only
    rw [hReaction]
    -- Waking those who wait for notices concerns neither the feed nor the tabs.
    exact ⟨_, rfl, ⟨hStays.opened, hStays.tab, hStays.followed⟩,
      ⟨hStays.opened, fun hEnded => hReports.queued hEnded⟩⟩
  obtain ⟨after, hAfter, hStays, -⟩ := hReceives w hAttached hReaction
  refine ⟨after, hAfter, hStays, ?_⟩
  obtain ⟨idle, hIdle, -, hReports⟩ := hReceives _ hAttached.abandon hReaction
  refine Reports.reported_eq ?_
  rw [hIdle]
  exact hReports

end Attached

end PageReporter.World
