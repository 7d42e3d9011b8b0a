import PageReporter.Proofs.LookupTurns
import PageReporter.Proofs.MessageTimes

/-!
# Console messages are queued on time

Messages and other signals are fired at any time, the printer is started at some time, and besides
that a rehearsal goes on by itself. The line-up lets each message wait for those before it, but all
look-ups run at once, so that no message waits longer than for the slowest look-up among its own
and those before it. Everything else goes past the line-up.

* `Course` — a rehearsal with what has been fired and what has been put into the queue so far;
* `Course.Step`, `Course.Reached` — what happens while the feed is open, and what is reached;
* `Sound` — what holds of every course: `Sound.pumped` is what one change preserves, and
  `Course.Reached.sound` what a whole course does;
* `Sound.ends` — a course that is left to itself comes to where nothing is left to do;
* `Course.Reached.published_on_time` — every message is queued exactly when it is due, which is at
  most five seconds after it was fired, and every other signal when it is fired.
-/

namespace PageReporter

namespace LookupRun

open World

variable {α : Type}

/-! ## Courses -/

/-- A rehearsal with a feed, and what has happened in it so far. -/
structure Course (α : Type) where
  world : World α
  /-- The console messages that have been fired, in order. -/
  messages : List Message := []
  /-- The other signals, each with the time at which it was fired. -/
  signals : List (Double × Arrival) := []
  /-- What has been put into the queue, in order, and when. -/
  queued : List (Double × FeedItem) := []

/-- What a change puts into the queue: what it leaves there when nobody prints. -/
def put (change : World α → World α) (w : World α) : List FeedItem :=
  (change { w with feed := w.feed.abandon }).feed.queue.drop w.feed.queue.length

/-- A console message is fired. -/
def fireMessage (message : Message) (w : World α) : World α :=
  (w.fireFeed lookupLimit (.console message.call) (message.lookups.map Lookup.script)).1

/-- Another signal is fired. -/
def fireSignal (arrival : Arrival) (w : World α) : World α :=
  (w.fireFeed lookupLimit arrival.toFeed []).1

/-- The printer starts. -/
def startPrinter (w : World α) : World α :=
  pump { w with feed := w.feed.start }

namespace Course

/-- A change of the rehearsal. -/
def after (course : Course α) (change : World α → World α) : Course α :=
  { course with
    world := change course.world
    queued := course.queued ++ (put change course.world).map fun item =>
      (course.world.clock, item) }

/-- A console message is fired. -/
def fire (course : Course α) (message : Message) : Course α :=
  { course with messages := course.messages ++ [message] }.after (fireMessage message)

/-- Another signal is fired. -/
def tell (course : Course α) (arrival : Arrival) : Course α :=
  { course with signals := course.signals ++ [(course.world.clock, arrival)] }.after
    (fireSignal arrival)

/-- What comes next by itself: a turn, or the clock moves. -/
def next (course : Course α) : Course α :=
  course.after World.next

/-- What happens while the feed is open: signals are fired and the printer is started at any time,
and besides that a course goes on by itself, with any pauses. -/
inductive Step : Course α → Course α → Prop
  | message {course : Course α} {message : Message} (hNow : message.fired = course.world.clock) :
      Step course (course.fire message)
  | signal {course : Course α} {arrival : Arrival}
      (hOther : ∀ call, arrival.toFeed ≠ .console call) : Step course (course.tell arrival)
  | start {course : Course α} : Step course (course.after startPrinter)
  | next {course : Course α} : Step course course.next
  | pass {course : Course α} {time : Double} (hSettled : course.world.turns = [])
      (hLater : course.world.clock.lt time = true)
      (hBefore : ∀ timer ∈ course.world.timers, time.lt timer.due = true) :
      Step course { course with world := { course.world with clock := time } }

/-- What is reached from a rehearsal in which nothing has happened. -/
inductive Reached : Course α → Prop
  | blank (scenario : Scenario) (peer : Peer) :
      Reached { world := { scenario := scenario, peer := peer } }
  | step {course after : Course α} (hReached : Reached course) (hStep : Step course after) :
      Reached after

end Course

/-- Whether something in the queue is about the console. -/
def isOfConsole (entry : Double × FeedItem) : Bool :=
  match entry.2 with
  | .event event => event.category.isConsole
  | .stop => false

/-- What is to be reported of a signal, as it stands in the queue. -/
def reportsOf (arrival : Arrival) : List FeedItem :=
  (FeedRun.Stage.reportOf arrival).toList.map .event

/-- What is to be reported of signals: each at the time at which it was fired. -/
def reports (signals : List (Double × Arrival)) : List (Double × FeedItem) :=
  signals.flatMap fun signal => (reportsOf signal.2).map fun item => (signal.1, item)

/-! ## The feed takes its course -/

variable {w : World α}

/-- The line-up of an open feed moves up, and what leaves it is queued. -/
theorem pump_open (hOpen : w.feed.closed = false) :
    ∃ queue printer, w.pump.feed =
        ⟨w.feed.lineup.dropWhile isSettled, w.feed.arrived, queue, printer, false⟩ ∧
      (printer = .absent → w.feed.printer = .absent) ∧
      (w.feed.printer ≠ .running → printer = w.feed.printer ∧
        queue = w.feed.queue ++ (w.feed.lineup.takeWhile isSettled).filterMap itemOf) := by
  obtain ⟨v, hFeed⟩ := pump_feed w
  rw [hFeed, Feed.advance, advanceLineup_open hOpen, hOpen]
  unfold Feed.print
  split
  · next hRunning =>
    refine ⟨_, _, rfl, fun hAbsent => ?_, fun hIdle => absurd hRunning hIdle⟩
    dsimp only at hAbsent
    split at hAbsent <;> cases hAbsent
  · exact ⟨_, _, rfl, id, fun _ => ⟨rfl, rfl⟩⟩

/-- What leaves the line-up is about the console. -/
theorem isOfConsole_itemOf {ticket : Ticket} {item : FeedItem} (hItem : itemOf ticket = some item)
    (time : Double) : isOfConsole (time, item) = true := by
  obtain ⟨values, -, hEvent⟩ := Option.bind_eq_some_iff.mp hItem
  obtain ⟨event, hBuilt, rfl⟩ := Option.map_eq_some_iff.mp hEvent
  show event.category.isConsole = true
  cases hMade : ticket.call.event values with
  | error e =>
    rw [hMade] at hBuilt
    cases hBuilt
  | ok made =>
    rw [hMade] at hBuilt
    obtain rfl := Option.some.inj hBuilt
    obtain ⟨category, hCategory, hRest⟩ := Fault.of_bind_ok hMade
    obtain ⟨location, -, hDone⟩ := Fault.of_bind_ok hRest
    cases hDone
    unfold Category.ofConsoleType at hCategory
    split at hCategory
    · cases hCategory
      unfold Category.ofConsoleName
      split <;> rfl
    · obtain ⟨_, -, rfl⟩ := Fault.of_map_ok hCategory
      rfl

/-- What is reported of a signal is not about the console. -/
theorem isOfConsole_reportsOf {arrival : Arrival} {item : FeedItem}
    (hMem : item ∈ reportsOf arrival) (time : Double) : isOfConsole (time, item) = false := by
  obtain ⟨event, hEvent, rfl⟩ := List.mem_map.mp hMem
  exact FeedRun.reportOf_not_console (Option.mem_toList.mp hEvent)

/-- What is queued at an instant is all about the console, or not at all. -/
theorem filter_entries {items : List FeedItem} {time : Double} {console : Bool}
    (hItems : ∀ item ∈ items, isOfConsole (time, item) = console) :
    (items.map fun item => (time, item)).filter isOfConsole =
        (if console then items.map fun item => (time, item) else []) ∧
      (items.map fun item => (time, item)).filter (fun entry => !isOfConsole entry) =
        if console then [] else items.map fun item => (time, item) := by
  have hAll : ∀ entry ∈ items.map fun item => (time, item), isOfConsole entry = console := by
    intro entry hMem
    obtain ⟨item, hItem, rfl⟩ := List.mem_map.mp hMem
    exact hItems item hItem
  cases console with
  | true =>
    refine ⟨List.filter_eq_self.mpr hAll, List.filter_eq_nil_iff.mpr fun entry hMem => ?_⟩
    simp [hAll entry hMem]
  | false =>
    constructor
    · refine List.filter_eq_nil_iff.mpr fun entry hMem => ?_
      simp [hAll entry hMem]
    · refine List.filter_eq_self.mpr fun entry hMem => ?_
      simp [hAll entry hMem]

/-! ### Signals -/

/-- The feed with a message at the end of its line-up. -/
def Message.lined (message : Message) (feed : Feed) : Feed :=
  ⟨feed.lineup ++ [⟨feed.arrived, message.call, List.replicate message.lookups.length none⟩],
    feed.arrived + 1, feed.queue, feed.printer, feed.closed⟩

/-- A message joins the line-up, and its look-ups are begun. -/
def beginMessage (limit : Limit) (message : Message) (w : World α) : World α :=
  World.beginLookups limit w.feed.arrived 0 (message.lookups.map Lookup.script)
    { w with feed := message.lined w.feed }

theorem fireFeed_message (limit : Limit) {message : Message} (hOpen : w.feed.closed = false) :
    (w.fireFeed limit (.console message.call) (message.lookups.map Lookup.script)).1 =
      (beginMessage limit message w).pump := by
  have hFire : w.feed.fire (.console message.call) =
      .ok (message.lined w.feed, some w.feed.arrived) := by
    unfold Feed.fire
    simp only [hOpen, Bool.false_eq_true, if_false]
    unfold Message.lined
    rw [hOpen]
    rfl
  unfold fireFeed
  rw [hFire]
  rfl

theorem Tracked.begins_message {looks : List Look} (hTracked : Tracked looks w) {limit : Limit}
    (hAllows : limit.Allows) (message : Message) :
    Tracked (looks ++ begun limit w.started w.feed.arrived 0 w.clock message.lookups)
        (beginMessage limit message w) ∧
      (beginMessage limit message w).clock = w.clock ∧
      (beginMessage limit message w).feed = message.lined w.feed := by
  have hLined : Tracked looks ({ w with feed := message.lined w.feed } : World α) :=
    hTracked.ofAgenda rfl
  exact hLined.begins_all hAllows w.feed.arrived 0 message.lookups

/-- A signal that cannot be put into words changes nothing; every other goes to the queue. -/
theorem fireSignal_cases {arrival : Arrival} (hOther : ∀ call, arrival.toFeed ≠ .console call) :
    reportsOf arrival = [] ∧ (∀ w : World α, fireSignal arrival w = w) ∨
      ∀ w : World α, w.feed.closed = false → fireSignal arrival w =
        pump { w with feed := w.feed.withQueue (w.feed.queue ++ reportsOf arrival) } := by
  unfold reportsOf FeedRun.Stage.reportOf fireSignal fireFeed
  simp only [FeedRun.Stage.fire_other hOther]
  cases arrival.toFeed.event? with
  | error e => exact .inl ⟨rfl, fun _ => rfl⟩
  | ok event =>
    refine .inr fun w hOpen => ?_
    cases event with
    | none => simp [Except.map, Feed.withQueue]
    | some event => simp [Except.map, Feed.publish, Feed.withQueue, hOpen]

/-! ## What holds of every course -/

/-- What holds of a course at any time: the look-ups that are under way are all that goes on, the
line-up stands as they leave it, with its front held up, and what has been queued is as it should
be. -/
structure Sound (course : Course α) (looks : List Look) (parts : List (List Value)) : Prop where
  tracked : Tracked looks course.world
  opened : course.world.feed.closed = false
  arrived : course.world.feed.arrived = course.messages.length
  stands : Stands course.messages course.world.clock looks parts course.world.feed.lineup
  front : ∀ ticket ∈ course.world.feed.lineup.head?, isSettled ticket = false
  console : course.queued.filter isOfConsole = publications course.messages parts
  others : course.queued.filter (fun entry => !isOfConsole entry) = reports course.signals
  kept : course.world.feed.printer = .absent →
    course.world.feed.queue = course.queued.map Prod.snd

/-- A rehearsal in which the feed is about to take its course: the signals are what they are to be
afterwards, the items are in the queue, and no message that is in the line-up is late. -/
structure Poised (course : Course α) (looks : List Look) (parts : List (List Value))
    (messages : List Message) (signals : List (Double × Arrival)) (items : List FeedItem)
    (v : World α) : Prop where
  tracked : Tracked looks v
  clock : v.clock = course.world.clock
  opened : v.feed.closed = false
  arrived : v.feed.arrived = messages.length
  queue : v.feed.queue = course.world.feed.queue ++ items
  printer : v.feed.printer = .absent → course.world.feed.printer = .absent
  stands : Stands messages course.world.clock looks parts v.feed.lineup
  ahead : ∀ k, parts.length ≤ k → k < messages.length →
    course.world.clock.le (publishedAt messages k) = true
  console : publications messages parts = publications course.messages parts
  signals : reports signals =
    reports course.signals ++ items.map fun item => (course.world.clock, item)
  items : ∀ item ∈ items, isOfConsole (course.world.clock, item) = false

namespace Sound

variable {course : Course α} {looks : List Look} {parts : List (List Value)}

/-- No message that is still in the line-up is late. -/
theorem ahead (hSound : Sound course looks parts) {k : Nat} (hLeft : parts.length ≤ k)
    (hMore : k < course.messages.length) :
    course.world.clock.le (publishedAt course.messages k) = true ∧
      (course.world.turns = [] →
        course.world.clock.lt (publishedAt course.messages k) = true) := by
  obtain ⟨look, hMem, hBy⟩ := hSound.stands.held hSound.front hLeft hMore
  have hAllows := hSound.tracked.allows look hMem
  exact ⟨Double.le_trans ((hSound.tracked.underway look hMem).le_settledAt hAllows) hBy,
    fun hSettled => Double.lt_of_lt_of_le (hSound.tracked.lt_settledAt hSettled hMem) hBy⟩

/-- A change that leaves the feed as it is. -/
theorem still (hSound : Sound course looks parts) {change : World α → World α}
    (hFeed : (change course.world).feed = course.world.feed)
    (hQuiet : (change { course.world with feed := course.world.feed.abandon }).feed =
      course.world.feed.abandon) (hTracked : Tracked looks (change course.world))
    (hLater : course.world.clock.le (change course.world).clock = true) :
    Sound (course.after change) looks parts := by
  have hQueued : (course.after change).queued = course.queued := by
    show course.queued ++ List.map _ (put change course.world) = course.queued
    unfold put
    rw [hQuiet]
    show course.queued ++ List.map _ (course.world.feed.queue.drop _) = course.queued
    rw [List.drop_length, List.map_nil, List.append_nil]
  refine ⟨hTracked, ?_, ?_, ?_, ?_, ?_, ?_, ?_⟩
  · show (change course.world).feed.closed = false
    rw [hFeed]
    exact hSound.opened
  · show (change course.world).feed.arrived = _
    rw [hFeed]
    exact hSound.arrived
  · show Stands _ (change course.world).clock _ _ (change course.world).feed.lineup
    rw [hFeed]
    exact hSound.stands.mono hLater
  · show ∀ ticket ∈ (change course.world).feed.lineup.head?, _
    rw [hFeed]
    exact hSound.front
  · rw [hQueued]
    exact hSound.console
  · rw [hQueued]
    exact hSound.others
  · show (change course.world).feed.printer = .absent → (change course.world).feed.queue = _
    rw [hFeed, hQueued]
    exact hSound.kept

/-- Something is put into the queue, and then the feed takes its course: messages that are settled
leave the line-up at their times. -/
theorem pumped (hSound : Sound course looks parts) {messages : List Message}
    {signals : List (Double × Arrival)} {items : List FeedItem} {change : World α → World α}
    {v quiet : World α} {more : List Look} (hChange : change course.world = v.pump)
    (hQuiet : change { course.world with feed := course.world.feed.abandon } = quiet.pump)
    (hFeed : quiet.feed = v.feed.abandon)
    (hPoised : Poised course more parts messages signals items v) :
    ∃ parts, Sound ({ course with messages := messages, signals := signals }.after change) more
      parts := by
  have hTracked := hPoised.tracked
  have hClock := hPoised.clock
  have hOpen := hPoised.opened
  have hQueue := hPoised.queue
  obtain ⟨added, hLeft, hPublished⟩ :=
    hPoised.stands.releases (hClock ▸ hTracked.plain.time) hPoised.ahead
  obtain ⟨queue, printer, hAfter, hAbsent, hKept⟩ := pump_open hOpen
  -- Nobody takes anything from the queue that is looked at, so what is put there stays.
  obtain ⟨left, _, hOther, -, hPuts⟩ := pump_open (w := quiet) (by rw [hFeed]; exact hOpen)
  have hPut : put change course.world =
      items ++ (v.feed.lineup.takeWhile isSettled).filterMap itemOf := by
    unfold put
    rw [hQuiet, hOther, (hPuts (by rw [hFeed]; exact nofun)).2, hFeed]
    show (v.feed.queue ++ _).drop _ = _
    rw [hQueue, List.append_assoc, List.drop_left]
    rfl
  have hReleased : ∀ item ∈ (v.feed.lineup.takeWhile isSettled).filterMap itemOf,
      isOfConsole (course.world.clock, item) = true := by
    intro item hMem
    obtain ⟨ticket, -, hItem⟩ := List.mem_filterMap.mp hMem
    exact isOfConsole_itemOf hItem _
  obtain ⟨hAll, hNone⟩ := filter_entries hReleased
  obtain ⟨hForeign, hOwn⟩ := filter_entries hPoised.items
  refine ⟨parts ++ added, ?_, ?_, ?_, ?_, ?_, ?_, ?_, ?_⟩
  · show Tracked more (change course.world)
    rw [hChange]
    exact hTracked.pump
  · show (change course.world).feed.closed = false
    rw [hChange, hAfter]
  · show (change course.world).feed.arrived = messages.length
    rw [hChange, hAfter]
    exact hPoised.arrived
  · show Stands messages (change course.world).clock more _ (change course.world).feed.lineup
    have hSame : (change course.world).clock = course.world.clock := by
      rw [hChange, ← hClock]
      exact congrArg Prod.fst (pump_agenda hTracked.plain)
    rw [hSame, hChange, hAfter]
    exact hLeft
  · show ∀ ticket ∈ (change course.world).feed.lineup.head?, _
    rw [hChange, hAfter]
    exact head?_dropWhile _
  · show (course.queued ++ _).filter isOfConsole = publications messages _
    rw [List.filter_append, hSound.console, hPut, List.map_append, List.filter_append, hForeign,
      hAll, hPublished, hPoised.console, if_pos rfl]
    rfl
  · show (course.queued ++ _).filter _ = reports signals
    rw [List.filter_append, hSound.others, hPut, List.map_append, List.filter_append, hOwn, hNone,
      if_pos rfl, List.append_nil, hPoised.signals]
    rfl
  · show (change course.world).feed.printer = .absent → (change course.world).feed.queue = _
    rw [hChange, hAfter]
    intro hStill
    have hWas := hAbsent hStill
    show queue = (course.queued ++ _).map Prod.snd
    rw [(hKept (by rw [hWas]; nofun)).2, hQueue, hSound.kept (hPoised.printer hWas), hPut,
      List.map_append, List.map_map, List.append_assoc]
    exact congrArg _ (List.map_id _).symm

/-! ### Signals -/

/-- A message is fired. -/
theorem message (hSound : Sound course looks parts) {message : Message}
    (hNow : message.fired = course.world.clock) :
    ∃ looks parts, Sound (course.fire message) looks parts := by
  have hFired : message.fired.IsTime := hNow ▸ hSound.tracked.plain.time
  have hAllows : lookupLimit.Allows := .within (.ofNat 5)
  obtain ⟨hTracked, hClock, hFeed⟩ := hSound.tracked.begins_message hAllows message
  have hIdle : Tracked looks ({ course.world with feed := course.world.feed.abandon } : World α) :=
    hSound.tracked.ofAgenda rfl
  obtain ⟨-, -, hQuiet⟩ := hIdle.begins_message hAllows message
  have hStands := hSound.stands.arrives course.world.started hFired hNow
  rw [← hSound.arrived] at hStands
  have hPoised : Poised course _ parts (course.messages ++ [message]) course.signals []
      (beginMessage lookupLimit message course.world) := {
    tracked := hTracked
    clock := hClock
    opened := by
      rw [hFeed]
      exact hSound.opened
    arrived := by
      rw [hFeed, List.length_append]
      exact congrArg (· + 1) hSound.arrived
    queue := by
      rw [hFeed, List.append_nil]
      rfl
    printer := by
      rw [hFeed]
      exact id
    stands := by
      rw [hFeed]
      exact hStands
    ahead := by
      intro k hLeft hMore
      rw [List.length_append, List.length_singleton] at hMore
      rcases Nat.lt_or_eq_of_le (Nat.le_of_lt_succ hMore) with hOld | rfl
      · rw [publishedAt_append hOld]
        exact (hSound.ahead hLeft hOld).1
      · -- The new message is not to be queued before it is fired.
        rw [← hNow]
        exact Double.le_trans (Message.fired_le_settledAt hFired)
          (hStands.settledAt_le_publishedAt List.getElem?_concat_length (Nat.le_refl _))
    console := publications_append hSound.stands.length_le _
    signals := (List.append_nil _).symm
    items := by simp }
  have hFire : ∀ w : World α, w.feed.closed = false →
      fireMessage message w = (beginMessage lookupLimit message w).pump := fun _ =>
    fireFeed_message lookupLimit
  refine ⟨_, hSound.pumped (hFire _ hSound.opened) (hFire _ hSound.opened) ?_
    hPoised⟩
  rw [hQuiet, hFeed]
  rfl

/-- Another signal is fired: what is to be reported of it is queued at once. -/
theorem signal (hSound : Sound course looks parts) {arrival : Arrival}
    (hOther : ∀ call, arrival.toFeed ≠ .console call) :
    ∃ parts, Sound (course.tell arrival) looks parts := by
  have hReports : reports (course.signals ++ [(course.world.clock, arrival)]) =
      reports course.signals ++ (reportsOf arrival).map fun item => (course.world.clock, item) := by
    unfold reports
    rw [List.flatMap_append, List.flatMap_singleton]
  rcases fireSignal_cases hOther with ⟨hNothing, hSame⟩ | hTaken
  · -- What cannot be put into words is not reported, and leaves the feed as it is.
    rw [hNothing, List.map_nil, List.append_nil] at hReports
    have hMore : Sound { course with
        signals := course.signals ++ [(course.world.clock, arrival)] } looks parts :=
      { hSound with others := hSound.others.trans hReports.symm }
    have hTime := hSound.tracked.plain.time
    refine ⟨parts, hMore.still ?_ ?_ ?_ ?_⟩ <;> rw [hSame]
    · exact hSound.tracked
    · exact hTime.le_refl
  · exact hSound.pumped (hTaken _ hSound.opened) (hTaken _ hSound.opened) rfl {
      tracked := hSound.tracked.ofAgenda rfl
      clock := rfl
      opened := hSound.opened
      arrived := hSound.arrived
      queue := rfl
      printer := id
      stands := hSound.stands
      ahead := fun k hLeft hMore => (hSound.ahead hLeft hMore).1
      console := rfl
      signals := hReports
      items := fun item hMem => isOfConsole_reportsOf hMem _ }

/-- The printer starts. -/
theorem start (hSound : Sound course looks parts) :
    ∃ parts, Sound (course.after startPrinter) looks parts := by
  have hStart : ∃ printer, course.world.feed.start =
      { course.world.feed with printer := printer } ∧
      (printer = .absent → course.world.feed.printer = .absent) := by
    unfold Feed.start
    split
    · exact ⟨_, rfl, nofun⟩
    · exact ⟨_, rfl, id⟩
  obtain ⟨printer, hFeed, hPrinter⟩ := hStart
  have hPoised : Poised course looks parts course.messages course.signals []
      { course.world with feed := { course.world.feed with printer := printer } } := {
    tracked := hSound.tracked.ofAgenda rfl
    clock := rfl
    opened := hSound.opened
    arrived := hSound.arrived
    queue := (List.append_nil _).symm
    printer := hPrinter
    stands := hSound.stands
    ahead := fun k hLeft hMore => (hSound.ahead hLeft hMore).1
    console := rfl
    signals := (List.append_nil _).symm
    items := by simp }
  refine hSound.pumped ?_ rfl ?_ hPoised
  · unfold startPrinter
    rw [hFeed]
  · rfl

/-! ### What comes by itself -/

/-- What comes next by itself keeps to the times. -/
theorem next (hSound : Sound course looks parts) :
    ∃ looks parts, Sound course.next looks parts := by
  have hTime := hSound.tracked.plain.time
  cases hTurns : course.world.turns with
  | nil =>
    have hQuiet : Tracked looks
        ({ course.world with feed := course.world.feed.abandon } : World α) :=
      hSound.tracked.ofAgenda rfl
    obtain ⟨hTracked, hLater, hFeed⟩ := hSound.tracked.next_settled hTurns
    exact ⟨looks, parts, hSound.still hFeed (hQuiet.next_settled hTurns).2.2 hTracked hLater⟩
  | cons turn rest =>
    have hNext : ∀ feed : Feed, World.next { course.world with feed := feed } =
        World.takeTurn { course.world with turns := rest, feed := feed } turn := fun feed =>
      next_turn (w := { course.world with feed := feed }) hTurns
    rcases hSound.tracked.takes hTurns with ⟨v, hTracked, hClock, -, hTakes⟩ |
      ⟨look, hMem, v, hTracked, hClock, -, hDue, hTakes⟩
    · have hSame : World.next course.world = { v with feed := course.world.feed } :=
        (hNext course.world.feed).trans (hTakes _)
      refine ⟨looks, parts, hSound.still ?_ ?_ ?_ ?_⟩
      · rw [hSame]
      · rw [hNext, hTakes]
      · rw [hSame]
        exact hTracked.ofAgenda rfl
      · rw [hSame]
        show course.world.clock.le v.clock = true
        rw [hClock]
        exact hTime.le_refl
    · have hSame : World.next course.world = World.pump { v with
          feed := course.world.feed.settle look.ticket look.slot look.outcome } :=
        (hNext course.world.feed).trans (hTakes _)
      refine ⟨_, hSound.pumped hSame ((hNext _).trans (hTakes _)) rfl {
        tracked := hTracked.ofAgenda rfl
        clock := hClock
        opened := hSound.opened
        arrived := hSound.arrived
        queue := (List.append_nil _).symm
        printer := id
        stands := ?_
        ahead := fun k hLeft hMore => (hSound.ahead hLeft hMore).1
        console := rfl
        signals := (List.append_nil _).symm
        items := by simp }⟩
      exact hSound.stands.settles
        (fun first hFirst second hSecond => hSound.tracked.unique hFirst hSecond) hMem hDue

/-- The clock moves while nothing is due. -/
theorem pass (hSound : Sound course looks parts) {time : Double}
    (hSettled : course.world.turns = []) (hLater : course.world.clock.lt time = true)
    (hBefore : ∀ timer ∈ course.world.timers, time.lt timer.due = true) :
    Sound { course with world := { course.world with clock := time } } looks parts := by
  have hMoves := World.Moves.to (course.world.timers.nil_append).symm hLater
    (fun _ hNever => by cases hNever) hBefore
  rw [List.map_nil, ← hSettled] at hMoves
  exact { hSound with
    tracked := hSound.tracked.moves hSettled hMoves
    stands := hSound.stands.mono (Double.le_of_lt hLater) }

/-- Nothing has happened yet. -/
theorem blank (scenario : Scenario) (peer : Peer) :
    Sound ({ world := { scenario := scenario, peer := peer } } : Course α) [] [] := by
  have hTime : (0 : Double).IsTime := .ofNat 0
  exact {
    tracked := .blank hTime rfl rfl rfl
    opened := rfl
    arrived := rfl
    stands := ⟨.nil, by simp, .nil, by simp, by simp, .nil⟩
    front := by simp
    console := rfl
    others := rfl
    kept := fun _ => rfl }

end Sound

/-- **Every course that is reached keeps to the times.** -/
theorem Course.Reached.sound {course : Course α} (hReached : course.Reached) :
    ∃ looks parts, Sound course looks parts := by
  induction hReached with
  | blank scenario peer => exact ⟨[], [], .blank scenario peer⟩
  | step _ hStep ih =>
    obtain ⟨looks, parts, hSound⟩ := ih
    cases hStep with
    | message hNow => exact hSound.message hNow
    | signal hOther => exact ⟨looks, hSound.signal hOther⟩
    | start => exact ⟨looks, hSound.start⟩
    | next => exact hSound.next
    | pass hSettled hLater hBefore => exact ⟨looks, parts, hSound.pass hSettled hLater hBefore⟩

/-! ## On time -/

namespace Sound

variable {course : Course α} {looks : List Look} {parts : List (List Value)}

/-- **A course that is left to itself comes to an end**, since whatever comes next leaves less to
do. -/
theorem ends (hSound : Sound course looks parts) :
    ∃ n looks parts, Sound (Course.next^[n] course) looks parts ∧
      (Course.next^[n] course).messages = course.messages ∧
      (Course.next^[n] course).world.turns = [] ∧ (Course.next^[n] course).world.timers = [] := by
  induction hLoad : load course.world using Nat.strongRecOn generalizing course looks parts with
  | _ m ih =>
    cases hOver : course.world.turns.isEmpty && course.world.timers.isEmpty with
    | true =>
      rw [Bool.and_eq_true, List.isEmpty_iff, List.isEmpty_iff] at hOver
      exact ⟨0, looks, parts, hSound, rfl, hOver⟩
    | false =>
      obtain ⟨_, _, hNext⟩ := hSound.next
      have hLess : load course.next.world < m := hLoad ▸ hSound.tracked.next_load hOver
      obtain ⟨n, looks, parts, hEnd⟩ := ih _ hLess hNext rfl
      exact ⟨n + 1, looks, parts, hEnd⟩

/-- Where nothing is left to do, every message has left the line-up. -/
theorem all_told (hSound : Sound course looks parts) (hTurns : course.world.turns = [])
    (hTimers : course.world.timers = []) : parts.length = course.messages.length := by
  refine Nat.le_antisymm hSound.stands.length_le (Nat.not_lt.mp fun hMore => ?_)
  obtain ⟨look, hMem, -⟩ := hSound.stands.held hSound.front (Nat.le_refl _) hMore
  have hMore := hSound.tracked.goes_on hMem
  rw [hTurns, hTimers] at hMore
  cases hMore

end Sound

/-- What has been put into the queue of a course, and when: the first of the messages, with their
arguments, at their times, and all other signals at once. -/
structure Timely (course : Course α) (parts : List (List Value)) : Prop where
  /-- The arguments are what the look-ups yield. -/
  told : List.Forall₂ Message.Reads (course.messages.take parts.length) parts
  console : course.queued.filter isOfConsole = publications course.messages parts
  /-- A message that can be put into words is queued at its time. -/
  published : ∀ k message values category location, course.messages[k]? = some message →
    parts[k]? = some values → Category.ofConsoleType message.type = .ok category →
    message.call.location = .ok location →
    (publishedAt course.messages k, .event ⟨category, values, some location⟩) ∈ course.queued
  /-- A message that has not been queued is not overdue, nor is it due where no turn is left. -/
  ahead : ∀ k, parts.length ≤ k → k < course.messages.length →
    course.world.clock.le (publishedAt course.messages k) = true ∧
      (course.world.turns = [] → course.world.clock.lt (publishedAt course.messages k) = true)
  /-- A message is due five seconds after it was fired at the latest. -/
  limit : ∀ k message, course.messages[k]? = some message →
    (publishedAt course.messages k).le (message.fired + 5) = true
  others : course.queued.filter (fun entry => !isOfConsole entry) = reports course.signals
  /-- Until a printer starts, all this stands in the queue. -/
  kept : course.world.feed.printer = .absent →
    course.world.feed.queue = course.queued.map Prod.snd

theorem Sound.timely {course : Course α} {looks : List Look} {parts : List (List Value)}
    (hSound : Sound course looks parts) : Timely course parts where
  told := hSound.stands.told
  console := hSound.console
  published k message values category location hMessage hValues hCategory hLocation := by
    have hMem := mem_publications hMessage hValues (Message.item?_eq values hCategory hLocation)
    rw [← hSound.console] at hMem
    exact List.mem_of_mem_filter hMem
  ahead k hLeft hMore := hSound.ahead hLeft hMore
  limit k message hMessage := hSound.stands.publishedAt_le hMessage
  others := hSound.others
  kept := hSound.kept

/-- **Console messages are queued on time.** In every course, however long look-ups take and
whatever comes of them, messages have been queued in the order in which they were fired, each
exactly when its own arguments and those of all before it were settled, which is at most five
seconds after it was fired; every other signal has been queued when it was fired; and a course that
is left to itself comes to where all messages have been queued. -/
theorem Course.Reached.published_on_time {course : Course α} (hReached : course.Reached) :
    (∃ parts, Timely course parts) ∧
      ∃ n, (Course.next^[n] course).messages = course.messages ∧
        ∃ parts, parts.length = course.messages.length ∧ Timely (Course.next^[n] course) parts := by
  obtain ⟨looks, parts, hSound⟩ := hReached.sound
  obtain ⟨n, _, all, hEnd, hSame, hTurns, hTimers⟩ := hSound.ends
  exact ⟨⟨parts, hSound.timely⟩, n, hSame, all, hSame ▸ hEnd.all_told hTurns hTimers, hEnd.timely⟩

/-- A message whose argument is never looked up to its end. -/
def unanswered : Message :=
  ⟨0, .str "log", some ⟨.str "", .int 0, .int 0⟩, [⟨.infinite false, .infinite, .ok .null⟩]⟩

/-- A message without arguments. -/
def bare : Message :=
  ⟨0, .str "log", some ⟨.str "", .int 0, .int 0⟩, []⟩

/-- A rehearsal in which nothing has happened. -/
def untouched : Course Unit :=
  { world := { scenario := {}, peer := {} } }

/-- The argument of the first message is given up after five seconds. Then both messages are
queued, while the loss of the connection was told at once. -/
theorem Course.Reached.published_on_time_held_up : ∃ course : Course Unit,
    course = Course.next^[4] (((untouched.fire unanswered).fire bare).tell .disconnected) ∧
      course.queued.map Prod.fst = [0, 5, 5] ∧ ∃ parts, Timely course parts := by
  have hBlank : untouched.Reached := .blank {} {}
  have hFirst : (untouched.fire unanswered).Reached := hBlank.step (.message (by decide +kernel))
  have hSecond : ((untouched.fire unanswered).fire bare).Reached :=
    hFirst.step (.message (by decide +kernel))
  have hLost : (((untouched.fire unanswered).fire bare).tell .disconnected).Reached :=
    hSecond.step (.signal nofun)
  have hEnd := (((hLost.step .next).step .next).step .next).step .next
  exact ⟨_, rfl, by decide +kernel, hEnd.published_on_time.1⟩

end LookupRun

end PageReporter
