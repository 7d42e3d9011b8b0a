import PageReporter.Proofs.FeedRun

/-!
# The feed keeps every signal, and keeps the order

Look-ups end in any order, signals arrive while others are on their way, and the feed may be
closed in the middle of it all. What the sink gets is nevertheless determined by the signals
alone: the console calls in the order in which they arrived, with what their look-ups ended with,
and all other signals in the order in which they arrived.

* `consoleEvents`, `otherEvents` — what the sink is to get, told from the signals;
* `Tracks` — how a feed relates to the signals at any time: those that have left the line-up are
  handed over or queued, the others are the line-up;
* `Phase` — how far the closing has come, and what that means for the queue;
* `handed_in_order` — at every time the sink has got a part from the front of both, and all of
  both once closing has returned, after which it gets nothing more.
-/

namespace PageReporter

/-! ## What the sink is to get -/

/-- The category of a console call. -/
def PageMessage.category (message : PageMessage) : Category :=
  match message.type with
  | .str name => .ofConsoleName name
  | _ => .consoleLog

/-- The event of a console call with the values of its arguments. -/
def PageMessage.report (message : PageMessage) (parts : List Value) : Event :=
  ⟨message.category, parts, some ⟨message.place.url.orElse (.str ""),
    message.place.line.orElse (.int 0), message.place.column.orElse (.int 0)⟩⟩

namespace FeedRun

variable {σ : Type}

/-- The console calls among signals, in order. -/
def messages (fired : List Arrival) : List PageMessage :=
  fired.filterMap fun
    | .page (.console message) => some message
    | _ => none

/-- The events of the other signals, in order. Some, such as answers that succeeded, have none. -/
def otherEvents (fired : List Arrival) : List Event :=
  fired.filterMap Stage.reportOf

/-- The value of a look-up: of a failed one, a value that says so. -/
def valueOf : Except Fault Value → Value
  | .ok v => v
  | .error _ => .unresolvable

/-- The values of the look-ups that have ended in a run, by call and argument. -/
def lookedUp (trace : List Act) (number slot : Nat) : Option Value :=
  trace.findSome? fun
    | .settle n s result => if n = number ∧ s = slot then some (valueOf result) else none
    | _ => none

/-- The event of the console call with a number, if all its look-ups have ended. -/
def consoleEvent? (found : Nat → Nat → Option Value) (number : Nat) (message : PageMessage) :
    Option Event :=
  ((List.range message.args.length).mapM (found number)).map message.report

/-- The events of the console calls, in order. -/
def consoleEvents (found : Nat → Nat → Option Value) (fired : List Arrival) :
    List (Option Event) :=
  (messages fired).mapIdx (consoleEvent? found)

/-! ## The relation between a feed and the signals -/

/-- The console call with a number as it stands in the line-up. -/
def ticketOf (found : Nat → Nat → Option Value) (number : Nat) (message : PageMessage) : Ticket :=
  ⟨number, ⟨message.type, some message.place, message.args.length⟩,
    (List.range message.args.length).map (found number)⟩

/-- The events that have left the line-up: those handed over and those in the queue. -/
def Stage.told (stage : Stage σ) : List Event :=
  stage.handed ++ stage.queued

/-- A feed whose first `released` console calls have left the line-up. -/
structure Tracks (found : Nat → Nat → Option Value) (released : Nat) (stage : Stage σ) :
    Prop where
  arrived : stage.feed.arrived = (messages stage.fired).length
  released_le : released ≤ (messages stage.fired).length
  lineup : stage.feed.lineup = ((messages stage.fired).mapIdx (ticketOf found)).drop released
  console : (stage.told.filter (·.category.isConsole)).map some =
    (consoleEvents found stage.fired).take released
  others : stage.told.filter (!·.category.isConsole) = otherEvents stage.fired
  /-- No look-up has ended for a call that has not arrived. -/
  fresh : ∀ number slot, (messages stage.fired).length ≤ number → found number slot = none
  typed : ∀ message ∈ messages stage.fired, ∃ name, message.type = .str name

/-- How far the closing of a feed has come. -/
inductive Phase (stage : Stage σ) : Prop
  /-- The feed is open, though somebody may be waiting for its line-up. -/
  | accepting (hOpen : stage.feed.closed = false) (hPrinter : stage.feed.printer ≠ .ended)
      (events : List Event) (hQueue : stage.feed.queue = events.map .event)
      (hClosing : stage.closing = none ∨ stage.closing = some Stage.drain)
  /-- The mark is in the queue, behind all events. -/
  | emptying (hClosed : stage.feed.closed = true) (hLineup : stage.feed.lineup = [])
      (hPrinter : stage.feed.printer = .running)
      (events : List Event) (hQueue : stage.feed.queue = events.map .event ++ [.stop])
      (hClosing : stage.closing = some Stage.awaitEnd)
  /-- The printer has met the mark. -/
  | emptied (hClosed : stage.feed.closed = true) (hLineup : stage.feed.lineup = [])
      (hPrinter : stage.feed.printer = .ended) (hQueue : stage.feed.queue = [])
      (hClosing : stage.closing = some Stage.awaitEnd)
  | returned (hClosed : stage.feed.closed = true) (hLineup : stage.feed.lineup = [])
      (hQueue : stage.feed.queue = []) (hClosing : stage.Returned)

/-- What holds after every run. -/
structure Ordered (trace : List Act) (stage : Stage σ) : Prop where
  tracks : ∃ released, Tracks (lookedUp trace) released stage
  phase : Phase stage

/-! ## Look-ups -/

/-- What an act adds to the look-ups that have ended. -/
theorem lookedUp_concat (trace : List Act) (act : Act) (number slot : Nat) :
    lookedUp (trace ++ [act]) number slot =
      (lookedUp trace number slot).or (lookedUp [act] number slot) := by
  unfold lookedUp
  rw [List.findSome?_append]

/-- An act that is not the end of a look-up leaves them as they are. -/
theorem lookedUp_quiet {trace : List Act} {act : Act}
    (hQuiet : ∀ number slot result, act ≠ .settle number slot result) :
    lookedUp (trace ++ [act]) = lookedUp trace := by
  funext number slot
  have hNone : lookedUp [act] number slot = none := by
    cases act with
    | settle n s result => exact absurd rfl (hQuiet n s result)
    | _ => rfl
  rw [lookedUp_concat, hNone, Option.or_none]

/-- The parts of a call are settled when all its look-ups have ended. -/
theorem parts?_map (f : Nat → Option Value) (slots : List Nat) :
    Ticket.parts? (slots.map f) = slots.mapM f := by
  induction slots with
  | nil => rfl
  | cons slot rest ih =>
    rw [List.map_cons, List.mapM_cons, ← ih]
    cases f slot with
    | none => rfl
    | some v =>
      rw [Ticket.parts?]
      cases Ticket.parts? (rest.map f) <;> rfl

/-- A settled call makes the event that is to be reported of it. -/
theorem event_ticketOf {message : PageMessage} (hTyped : ∃ name, message.type = .str name)
    (found : Nat → Nat → Option Value) (number : Nat) (parts : List Value) :
    (ticketOf found number message).call.event parts = .ok (message.report parts) := by
  obtain ⟨name, hName⟩ := hTyped
  simp only [ticketOf, ConsoleCall.event, ConsoleCall.location, PageMessage.report,
    PageMessage.category, hName]
  rfl

/-! ## Acts that only move events -/

/-- Only the line-up, the events told and the signals matter to the relation. -/
theorem Tracks.congr {found : Nat → Nat → Option Value} {released : Nat} {stage next : Stage σ}
    (hTracks : Tracks found released stage) (hArrived : next.feed.arrived = stage.feed.arrived)
    (hLineup : next.feed.lineup = stage.feed.lineup) (hTold : next.told = stage.told)
    (hFired : next.fired = stage.fired) : Tracks found released next where
  arrived := by rw [hArrived, hFired, hTracks.arrived]
  released_le := by rw [hFired]; exact hTracks.released_le
  lineup := by rw [hLineup, hFired, hTracks.lineup]
  console := by rw [hTold, hFired, hTracks.console]
  others := by rw [hTold, hFired, hTracks.others]
  fresh := by rw [hFired]; exact hTracks.fresh
  typed := by rw [hFired]; exact hTracks.typed

/-- With the line-up empty, the sink gets all that was signalled. -/
theorem Tracks.complete {found : Nat → Nat → Option Value} {released : Nat} {stage : Stage σ}
    (hTracks : Tracks found released stage) (hLineup : stage.feed.lineup = []) :
    (stage.told.filter (·.category.isConsole)).map some = consoleEvents found stage.fired := by
  -- The line-up is what is left when the released calls are dropped, so all were released.
  have hAll : (consoleEvents found stage.fired).length ≤ released := by
    have hDropped := hTracks.lineup.symm.trans hLineup
    rw [List.drop_eq_nil_iff, List.length_mapIdx] at hDropped
    rwa [consoleEvents, List.length_mapIdx]
  rw [hTracks.console, List.take_of_length_le hAll]

/-! ## Arrivals -/

theorem messages_append (fired more : List Arrival) :
    messages (fired ++ more) = messages fired ++ messages more :=
  List.filterMap_append

/-- Signals other than console calls and failures make no events about the console. -/
theorem event?_not_console {signal : FeedSignal} {event : Event}
    (hFailure : ∀ category text, signal = .failure category text → category.isConsole = false)
    (hEvent : signal.event? = .ok (some event)) : event.category.isConsole = false := by
  cases signal with
  | console call => cases hEvent
  | failure category text =>
    cases hEvent
    exact hFailure category text rfl
  | requestFailed url reason =>
    obtain ⟨urlText, -, hRest⟩ := Fault.of_bind_ok hEvent
    obtain ⟨reasonText, -, hDone⟩ := Fault.of_bind_ok hRest
    cases hDone
    rfl
  | response response =>
    simp only [FeedSignal.event?] at hEvent
    by_cases hOk : response.isOk = true
    · rw [if_pos hOk] at hEvent
      cases hEvent
    · rw [if_neg hOk] at hEvent
      obtain ⟨status, -, hRest⟩ := Fault.of_bind_ok hEvent
      obtain ⟨statusText, -, hRest⟩ := Fault.of_bind_ok hRest
      obtain ⟨url, -, hDone⟩ := Fault.of_bind_ok hRest
      cases hDone
      rfl
  | disconnected =>
    cases hEvent
    rfl

/-- What is reported of a signal other than a console call is not about the console. -/
theorem reportOf_not_console {arrival : Arrival} {event : Event}
    (hReport : Stage.reportOf arrival = some event) : event.category.isConsole = false := by
  have hEvent : arrival.toFeed.event? = .ok (some event) := by
    unfold Stage.reportOf at hReport
    split at hReport
    · next hOk => rw [hOk, hReport]
    · cases hReport
  refine event?_not_console ?_ hEvent
  -- The page's own failures are never told as calls of its console.
  intro category text hFailure
  cases arrival with
  | disconnected => cases hFailure
  | page signal => cases signal <;> cases hFailure <;> rfl

/-- A console call joins the line-up with none of its look-ups ended. -/
theorem Tracks.arrive_console {found : Nat → Nat → Option Value} {released : Nat}
    {stage : Stage σ} {message : PageMessage} (hTracks : Tracks found released stage)
    (hOpen : stage.feed.closed = false) (hTyped : ∃ name, message.type = .str name) :
    Tracks found released (stage.arrive (.page (.console message))) := by
  have hMessages : messages (stage.fired ++ [.page (.console message)]) =
      messages stage.fired ++ [message] := messages_append _ _
  -- No look-up has ended for a call that has only now arrived.
  have hSlots : (List.range message.args.length).map (found (messages stage.fired).length) =
      List.replicate message.args.length none := by
    rw [List.eq_replicate_iff]
    simp [hTracks.fresh _ _ (Nat.le_refl _)]
  have hSignal : (Arrival.page (.console message)).toFeed =
      .console ⟨message.type, some message.place, message.args.length⟩ := rfl
  rw [Stage.arrive_console hOpen hSignal]
  constructor
  · simp only [hMessages, List.length_append, List.length_singleton, hTracks.arrived]
  · simp only [hMessages, List.length_append]
    exact Nat.le_add_right_of_le hTracks.released_le
  · -- The new call stands behind all that are still in the line-up.
    simp only [hMessages, List.mapIdx_concat]
    rw [List.drop_append_of_le_length (by rw [List.length_mapIdx]; exact hTracks.released_le),
      ← hTracks.lineup, ticketOf, hSlots, hTracks.arrived]
  · -- It adds nothing to those that have left.
    simp only [consoleEvents, hMessages, List.mapIdx_concat]
    rw [List.take_append_of_le_length (by rw [List.length_mapIdx]; exact hTracks.released_le)]
    exact hTracks.console
  · have hNone : Stage.reportOf (.page (.console message)) = none := rfl
    simp only [otherEvents, List.filterMap_append, List.filterMap_cons, hNone, List.filterMap_nil,
      List.append_nil]
    exact hTracks.others
  · intro number slot hNumber
    rw [hMessages, List.length_append] at hNumber
    exact hTracks.fresh number slot (by omega)
  · intro other hOther
    rw [hMessages, List.mem_append, List.mem_singleton] at hOther
    rcases hOther with hOld | rfl
    · exact hTracks.typed other hOld
    · exact hTyped

/-- Every other signal is told at once. -/
theorem Tracks.arrive_other {found : Nat → Nat → Option Value} {released : Nat}
    {stage : Stage σ} {arrival : Arrival} (hTracks : Tracks found released stage)
    (hOpen : stage.feed.closed = false) (hSignal : ∀ call, arrival.toFeed ≠ .console call) :
    Tracks found released (stage.arrive arrival) := by
  have hMessages : messages (stage.fired ++ [arrival]) = messages stage.fired := by
    have hNone : messages [arrival] = [] := by
      cases arrival with
      | disconnected => rfl
      | page signal =>
        cases signal with
        | console message => exact absurd rfl (hSignal _)
        | _ => rfl
    rw [messages_append, hNone, List.append_nil]
  -- Its event, if there is one, counts among the others only.
  have hNone : (Stage.reportOf arrival).toList.filter (·.category.isConsole) = [] := by
    rw [List.filter_eq_nil_iff]
    intro event hEvent
    rw [reportOf_not_console (Option.mem_toList.mp hEvent)]
    exact Bool.false_ne_true
  have hAll : (Stage.reportOf arrival).toList.filter (!·.category.isConsole) =
      (Stage.reportOf arrival).toList := by
    rw [List.filter_eq_self]
    intro event hEvent
    rw [reportOf_not_console (Option.mem_toList.mp hEvent), Bool.not_false]
  have hTold : (stage.arrive arrival).told = stage.told ++ (Stage.reportOf arrival).toList := by
    rw [Stage.arrive_other hOpen hSignal]
    simp only [Stage.told, Stage.queued, Feed.withQueue, List.filterMap_append,
      List.filterMap_map, List.append_assoc]
    exact congrArg _ (congrArg _ List.filterMap_some)
  rw [Stage.arrive_other hOpen hSignal] at hTold ⊢
  constructor
  · simp only [hMessages]
    exact hTracks.arrived
  · simp only [hMessages]
    exact hTracks.released_le
  · simp only [hMessages]
    exact hTracks.lineup
  · rw [hTold, List.filter_append, hNone, List.append_nil]
    simp only [consoleEvents, hMessages]
    exact hTracks.console
  · rw [hTold, List.filter_append, hAll, hTracks.others]
    cases hReport : Stage.reportOf arrival <;> simp [otherEvents, hReport]
  · simp only [hMessages]
    exact hTracks.fresh
  · simp only [hMessages]
    exact hTracks.typed

/-! ## Ends of look-ups -/

/-- The look-ups with one more that has ended. -/
def enter (found : Nat → Nat → Option Value) (number slot : Nat) (v : Value) :
    Nat → Nat → Option Value :=
  fun n s => if n = number ∧ s = slot then some v else found n s

/-- A look-up that ends is entered, unless it had ended before. -/
theorem lookedUp_settle {trace : List Act} {number slot : Nat} (result : Except Fault Value)
    (hNew : lookedUp trace number slot = none) :
    lookedUp (trace ++ [.settle number slot result]) =
      enter (lookedUp trace) number slot (valueOf result) := by
  funext n s
  rw [lookedUp_concat, enter]
  -- Only the entry that is new could have been there before, and it was not.
  by_cases hSame : n = number ∧ s = slot
  · obtain ⟨rfl, rfl⟩ := hSame
    rw [hNew, Option.none_or, if_pos ⟨rfl, rfl⟩]
    simp [lookedUp]
  · have hNone : lookedUp [.settle number slot result] n s = none := by
      simpa [lookedUp] using fun hN hS => hSame ⟨hN.symm, hS.symm⟩
    rw [hNone, Option.or_none, if_neg hSame]

/-- Entering a look-up into the ticket of its call. -/
theorem ticketOf_enter (found : Nat → Nat → Option Value) (number slot : Nat) (v : Value)
    (k : Nat) (message : PageMessage) :
    (if (ticketOf found k message).number = number then
      ⟨(ticketOf found k message).number, (ticketOf found k message).call,
        (ticketOf found k message).slots.set slot (some v)⟩
      else ticketOf found k message) =
    ticketOf (enter found number slot v) k message := by
  by_cases hNumber : k = number
  · subst hNumber
    have hSlots : ((List.range message.args.length).map (found k)).set slot (some v) =
        (List.range message.args.length).map (enter found k slot v k) := by
      apply List.ext_getElem
      · simp
      · intro i hLeft hRight
        simp [List.getElem_set, enter, eq_comm]
    simp [ticketOf, hSlots]
  · have hFound : enter found number slot v k = found k := by
      funext s
      simp [enter, hNumber]
    simp [ticketOf, hNumber, hFound]

/-- A call whose argument is still being looked up has arrived and not left the line-up. -/
theorem Tracks.awaited {found : Nat → Nat → Option Value} {released number slot : Nat}
    {stage : Stage σ} (hTracks : Tracks found released stage)
    (hAwaited : Awaited stage.feed number slot) :
    released ≤ number ∧ number < (messages stage.fired).length ∧ found number slot = none := by
  obtain ⟨ticket, hMem, hNumber, hSlot⟩ := hAwaited
  -- Tickets carry the place of their call in the order of arrival as their number.
  rw [hTracks.lineup, List.mem_drop_iff_getElem] at hMem
  obtain ⟨i, hBound, hTicket⟩ := hMem
  rw [List.length_mapIdx] at hBound
  rw [List.getElem_mapIdx] at hTicket
  subst hTicket
  have hFound : found (released + i) slot = none := by
    simp only [ticketOf, List.getElem?_map, Option.map_eq_some_iff] at hSlot
    obtain ⟨s, hRange, hNone⟩ := hSlot
    obtain ⟨hWidth, hSame⟩ := List.getElem?_eq_some_iff.mp hRange
    rw [List.getElem_range] at hSame
    rw [hSame, hNone]
  subst hNumber
  exact ⟨Nat.le_add_right _ _, by simpa [ticketOf, Nat.add_comm] using hBound, hFound⟩

/-- The end of a look-up shows in the line-up and nowhere else. -/
theorem Tracks.settle {found : Nat → Nat → Option Value} {released number slot : Nat}
    {stage : Stage σ} (hTracks : Tracks found released stage)
    (hAwaited : Awaited stage.feed number slot) (result : Except Fault Value) :
    Tracks (enter found number slot (valueOf result)) released
      { stage with feed := stage.feed.settle number slot result } := by
  obtain ⟨hReleased, hArrived, -⟩ := hTracks.awaited hAwaited
  constructor
  · exact hTracks.arrived
  · exact hTracks.released_le
  · -- The feed fills the slot of one ticket, the relation enters the look-up for all calls.
    have hEntered : (messages stage.fired).mapIdx
        (ticketOf (enter found number slot (valueOf result))) =
        ((messages stage.fired).mapIdx (ticketOf found)).map fun ticket =>
          if ticket.number = number then
            ⟨ticket.number, ticket.call, ticket.slots.set slot (some (valueOf result))⟩
          else ticket := by
      rw [List.mapIdx_eq_iff]
      intro k
      simp only [List.getElem?_map, List.getElem?_mapIdx, Option.map_map, Function.comp_def,
        ticketOf_enter]
    rw [hEntered, ← List.map_drop, ← hTracks.lineup]
    cases result <;> rfl
  · -- The calls that have left the line-up had their look-ups ended before.
    have hSame : (consoleEvents (enter found number slot (valueOf result)) stage.fired).take
        released = (consoleEvents found stage.fired).take released := by
      apply List.ext_getElem?
      intro k
      rw [List.getElem?_take, List.getElem?_take]
      by_cases hBefore : k < released
      · have hFound : enter found number slot (valueOf result) k = found k := by
          funext s
          rw [enter, if_neg (by omega)]
        have hEvent : consoleEvent? (enter found number slot (valueOf result)) k =
            consoleEvent? found k := by
          funext message
          rw [consoleEvent?, consoleEvent?, hFound]
        rw [consoleEvents, consoleEvents, List.getElem?_mapIdx, List.getElem?_mapIdx, hEvent]
      · rw [if_neg hBefore, if_neg hBefore]
    exact hTracks.console.trans hSame.symm
  · exact hTracks.others
  · -- The call has arrived, so nothing is entered for one that has not.
    intro n s hNumber
    have hLater : ¬(n = number ∧ s = slot) := by
      have hBound : (messages stage.fired).length ≤ n := hNumber
      omega
    rw [enter, if_neg hLater]
    exact hTracks.fresh n s hNumber
  · exact hTracks.typed

/-! ## The line-up moves up -/

/-- The category of a console call is one of the console's. -/
theorem category_isConsole (message : PageMessage) : message.category.isConsole = true := by
  unfold PageMessage.category
  split
  · unfold Category.ofConsoleName
    split <;> rfl
  · rfl

/-- Either the line-up stays as it is, or the console call at its front, with all look-ups ended,
is queued. -/
theorem Tracks.release_cases {found : Nat → Nat → Option Value} {released : Nat}
    {stage : Stage σ} (hTracks : Tracks found released stage)
    (hOpen : stage.feed.closed = false) :
    stage.release = stage ∨
      ∃ message event, (messages stage.fired)[released]? = some message ∧
        consoleEvent? found released message = some event ∧
        stage.release =
          { stage with
            feed := ⟨((messages stage.fired).mapIdx (ticketOf found)).drop (released + 1),
              stage.feed.arrived, stage.feed.queue ++ [.event event], stage.feed.printer,
              stage.feed.closed⟩ } := by
  have hLineup := hTracks.lineup
  rcases Nat.lt_or_ge released (messages stage.fired).length with hMore | hNone
  · rw [List.drop_eq_getElem_cons (by rw [List.length_mapIdx]; exact hMore), List.getElem_mapIdx]
      at hLineup
    cases hParts : Ticket.parts?
        (ticketOf found released (messages stage.fired)[released]).slots with
    | none =>
      left
      apply Stage.release_waiting
      rw [hLineup]
      rintro ticket ⟨⟩
      exact hParts
    | some parts =>
      right
      -- A call whose type is a name always makes an event, so none is dropped.
      have hTyped := hTracks.typed _ (List.getElem_mem hMore)
      refine ⟨_, _, List.getElem?_eq_getElem hMore, ?_,
        Stage.release_settled hOpen hLineup hParts (event_ticketOf hTyped found released parts)⟩
      rw [ticketOf, parts?_map] at hParts
      rw [consoleEvent?, hParts, Option.map_some]
  · left
    rw [List.drop_eq_nil_of_le (by rw [List.length_mapIdx]; exact hNone)] at hLineup
    apply Stage.release_waiting
    rw [hLineup]
    rintro ticket ⟨⟩

/-- A console call that is queued is the next one in the order of arrival. -/
theorem Tracks.release {found : Nat → Nat → Option Value} {released : Nat} {stage : Stage σ}
    (hTracks : Tracks found released stage) (hOpen : stage.feed.closed = false) :
    ∃ next, Tracks found next stage.release := by
  rcases hTracks.release_cases hOpen with hStays | ⟨message, event, hNext, hEvent, hRelease⟩
  · rw [hStays]
    exact ⟨released, hTracks⟩
  · obtain ⟨hMore, rfl⟩ := List.getElem?_eq_some_iff.mp hNext
    have hConsole : event.category.isConsole = true := by
      rw [consoleEvent?, Option.map_eq_some_iff] at hEvent
      obtain ⟨parts, -, rfl⟩ := hEvent
      exact category_isConsole _
    have hTold : stage.release.told = stage.told ++ [event] := by
      rw [hRelease]
      simp [Stage.told, Stage.queued]
    -- One more call has left, and it is the one after those that had left before.
    refine ⟨released + 1, ?_⟩
    rw [hRelease] at hTold ⊢
    constructor
    · exact hTracks.arrived
    · exact hMore
    · rfl
    · have hBound : released < (consoleEvents found stage.fired).length := by
        rw [consoleEvents, List.length_mapIdx]
        exact hMore
      have hThis : (consoleEvents found stage.fired)[released] = some event := by
        simp only [consoleEvents, List.getElem_mapIdx, hEvent]
      show _ = (consoleEvents found stage.fired).take (released + 1)
      rw [hTold, List.take_succ_eq_append_getElem hBound, ← hTracks.console, hThis]
      simp [hConsole]
    · rw [hTold, List.filter_append]
      simp only [hConsole, List.filter_cons, Bool.not_true, Bool.false_eq_true, if_false,
        List.filter_nil, List.append_nil]
      exact hTracks.others
    · exact hTracks.fresh
    · exact hTracks.typed

/-! ## Every act keeps the order -/

theorem queued_events {stage : Stage σ} {events : List Event}
    (hQueue : stage.feed.queue = events.map .event) : stage.queued = events := by
  rw [Stage.queued, hQueue, List.filterMap_map]
  exact List.filterMap_some

/-- A feed with nothing in it has nothing left to tell. -/
theorem Ordered.start (sink : σ) : Ordered [] ({ sink := sink } : Stage σ) where
  tracks := ⟨0, rfl, Nat.le_refl 0, rfl, rfl, rfl, fun _ _ _ => rfl, by simp [messages]⟩
  phase := .accepting rfl (by simp) [] rfl (.inl rfl)

/-- An act that is not the end of a look-up keeps the order if it keeps both parts of it. -/
theorem Ordered.quietly {trace : List Act} {next : Stage σ} {act : Act} {released : Nat}
    (hQuiet : ∀ number slot result, act ≠ .settle number slot result)
    (hTracks : Tracks (lookedUp trace) released next) (hPhase : Phase next) :
    Ordered (trace ++ [act]) next where
  tracks := by rw [lookedUp_quiet hQuiet]; exact ⟨released, hTracks⟩
  phase := hPhase

/-- An act that is not the end of a look-up and changes nothing keeps the order. -/
theorem Ordered.stay {trace : List Act} {stage : Stage σ} {act : Act}
    (hOrdered : Ordered trace stage)
    (hQuiet : ∀ number slot result, act ≠ .settle number slot result) :
    Ordered (trace ++ [act]) stage := by
  obtain ⟨released, hTracks⟩ := hOrdered.tracks
  exact .quietly hQuiet hTracks hOrdered.phase

/-- Signals may arrive at any time. -/
theorem Ordered.arrive {trace : List Act} {stage : Stage σ} {arrival : Arrival}
    (hOrdered : Ordered trace stage)
    (hTyped : ∀ message, arrival = .page (.console message) → ∃ name, message.type = .str name) :
    Ordered (trace ++ [.arrive arrival]) (stage.arrive arrival) := by
  have hQuiet : ∀ number slot result, Act.arrive arrival ≠ .settle number slot result := nofun
  -- Once the feed is closed nothing is taken in; before that it is still accepting.
  cases hOrdered.phase with
  | emptying hClosed | emptied hClosed | returned hClosed =>
    rw [Stage.arrive_closed hClosed]
    exact hOrdered.stay hQuiet
  | accepting hOpen hPrinter events hQueue hClosing =>
    obtain ⟨released, hTracks⟩ := hOrdered.tracks
    by_cases hSignal : ∃ message, arrival = .page (.console message)
    · obtain ⟨message, rfl⟩ := hSignal
      have hJoins := hTracks.arrive_console hOpen (hTyped message rfl)
      refine .quietly hQuiet hJoins ?_
      -- A console call goes to the line-up, so the queue is the same.
      rw [Stage.arrive_console hOpen rfl]
      exact .accepting hOpen hPrinter events hQueue hClosing
    · have hOther : ∀ call, arrival.toFeed ≠ .console call := by
        intro call hCall
        cases arrival with
        | disconnected => cases hCall
        | page signal =>
          cases signal with
          | console message => exact hSignal ⟨message, rfl⟩
          | _ => cases hCall
      have hTold := hTracks.arrive_other hOpen hOther
      refine .quietly hQuiet hTold ?_
      -- Every other signal goes past the line-up to the end of the queue.
      rw [Stage.arrive_other hOpen hOther]
      refine .accepting hOpen hPrinter (events ++ (Stage.reportOf arrival).toList) ?_ hClosing
      simp [Feed.withQueue, hQueue]

/-- A look-up may end whenever it is waited for. -/
theorem Ordered.settle {trace : List Act} {stage : Stage σ} {number slot : Nat}
    (hOrdered : Ordered trace stage) (hAwaited : Awaited stage.feed number slot)
    (result : Except Fault Value) :
    Ordered (trace ++ [.settle number slot result])
      { stage with feed := stage.feed.settle number slot result } := by
  obtain ⟨released, hTracks⟩ := hOrdered.tracks
  obtain ⟨-, -, hNew⟩ := hTracks.awaited hAwaited
  constructor
  · rw [lookedUp_settle result hNew]
    exact ⟨released, hTracks.settle hAwaited result⟩
  · -- Whoever waits for a look-up waits in the line-up.
    have hLineup : stage.feed.lineup ≠ [] := by
      obtain ⟨ticket, hMem, -⟩ := hAwaited
      exact List.ne_nil_of_mem hMem
    cases hOrdered.phase with
    | accepting hOpen hPrinter events hQueue hClosing =>
      exact .accepting hOpen hPrinter events hQueue hClosing
    | emptying _ hEmpty | emptied _ hEmpty | returned _ hEmpty => exact absurd hEmpty hLineup

/-- The line-up may move up at any time. -/
theorem Ordered.release {trace : List Act} {stage : Stage σ} (hOrdered : Ordered trace stage) :
    Ordered (trace ++ [.release]) stage.release := by
  have hQuiet : ∀ number slot result, Act.release ≠ .settle number slot result := nofun
  cases hOrdered.phase with
  | emptying _ hEmpty | emptied _ hEmpty | returned _ hEmpty =>
    -- The feed is only closed when nobody is left in the line-up.
    have hStays : stage.release = stage := Stage.release_waiting (by simp [hEmpty])
    rw [hStays]
    exact hOrdered.stay hQuiet
  | accepting hOpen hPrinter events hQueue hClosing =>
    obtain ⟨released, hTracks⟩ := hOrdered.tracks
    obtain ⟨next, hNext⟩ := hTracks.release hOpen
    refine .quietly hQuiet hNext ?_
    rcases hTracks.release_cases hOpen with hStays | ⟨message, event, -, -, hRelease⟩
    · rw [hStays]
      exact hOrdered.phase
    · rw [hRelease]
      refine .accepting hOpen hPrinter (events ++ [event]) ?_ hClosing
      simp [hQueue]

/-- The printer may be started at any time, and more than once. -/
theorem Ordered.startPrinter {trace : List Act} {stage : Stage σ}
    (hOrdered : Ordered trace stage) :
    Ordered (trace ++ [.start]) { stage with feed := stage.feed.start } := by
  obtain ⟨released, hTracks⟩ := hOrdered.tracks
  have hQuiet : ∀ number slot result, Act.start ≠ .settle number slot result := nofun
  by_cases hAbsent : stage.feed.printer = .absent
  · have hStart : stage.feed.start =
        ⟨stage.feed.lineup, stage.feed.arrived, stage.feed.queue, .running, stage.feed.closed⟩ :=
      if_pos hAbsent
    rw [hStart]
    refine .quietly hQuiet (hTracks.congr rfl rfl rfl rfl) ?_
    cases hOrdered.phase with
    | accepting hOpen hPrinter events hQueue hClosing =>
      exact .accepting hOpen nofun events hQueue hClosing
    | emptying _ _ hPrinter | emptied _ _ hPrinter =>
      -- In these phases there has been a printer all along.
      rw [hAbsent] at hPrinter
      cases hPrinter
    | returned hClosed hEmpty hQueue hClosing => exact .returned hClosed hEmpty hQueue hClosing
  · have hStart : stage.feed.start = stage.feed := if_neg hAbsent
    rw [hStart]
    exact hOrdered.stay hQuiet

/-- What the printer hands over leaves the queue. -/
theorem told_printed {stage : Stage σ} {event : Event} {rest : List FeedItem} (s : σ)
    (hQueue : stage.feed.queue = .event event :: rest) :
    Stage.told
      { stage with
        feed := stage.feed.withQueue rest
        sink := s
        handed := stage.handed ++ [event] } = stage.told := by
  simp [Stage.told, Stage.queued, hQueue, Feed.withQueue]

/-- The printer may take what is first in the queue at any time. -/
theorem Ordered.print {trace : List Act} {stage : Stage σ} {sink : Sink σ}
    (hOrdered : Ordered trace stage) : Ordered (trace ++ [.print]) (stage.print sink) := by
  obtain ⟨released, hTracks⟩ := hOrdered.tracks
  have hQuiet : ∀ number slot result, Act.print ≠ .settle number slot result := nofun
  cases hOrdered.phase with
  | emptied _ _ _ hQueue | returned _ _ hQueue =>
    rw [Stage.print_idle (.inl hQueue)]
    exact hOrdered.stay hQuiet
  | accepting hOpen hPrinter events hQueue hClosing =>
    by_cases hRunning : stage.feed.printer = .running
    · cases events with
      | nil =>
        rw [Stage.print_idle (.inl hQueue)]
        exact hOrdered.stay hQuiet
      | cons event rest =>
        rw [Stage.print_event hQueue hRunning]
        exact .quietly hQuiet (hTracks.congr rfl rfl (told_printed _ hQueue) rfl)
          (.accepting hOpen hPrinter rest rfl hClosing)
    · rw [Stage.print_idle (.inr hRunning)]
      exact hOrdered.stay hQuiet
  | emptying hClosed hEmpty hPrinter events hQueue hClosing =>
    -- Only the mark is left, or an event stands before it.
    cases events with
    | nil =>
      rw [Stage.print_mark hQueue hPrinter]
      refine .quietly hQuiet (hTracks.congr rfl rfl ?_ rfl)
        (.emptied hClosed hEmpty rfl rfl hClosing)
      simp [Stage.told, Stage.queued, hQueue]
    | cons event rest =>
      rw [Stage.print_event hQueue hPrinter]
      exact .quietly hQuiet (hTracks.congr rfl rfl (told_printed _ hQueue) rfl)
        (.emptying hClosed hEmpty hPrinter rest rfl hClosing)

/-- Closing an open feed goes on as far as the line-up and the printer let it. -/
theorem Ordered.drain {trace : List Act} {stage : Stage σ} {sink : Sink σ} {act : Act}
    (hOrdered : Ordered trace stage)
    (hQuiet : ∀ number slot result, act ≠ .settle number slot result)
    (hOpen : stage.feed.closed = false) :
    Ordered (trace ++ [act]) (stage.proceed sink Stage.drain) := by
  obtain ⟨released, hTracks⟩ := hOrdered.tracks
  cases hOrdered.phase with
  | emptying hClosed | emptied hClosed | returned hClosed =>
    rw [hOpen] at hClosed
    cases hClosed
  | accepting _ hPrinter events hQueue hClosing =>
    have hTold : stage.told = stage.handed ++ events := by
      rw [Stage.told, queued_events hQueue]
    by_cases hEmpty : stage.feed.lineup = []
    · cases hState : stage.feed.printer with
      | ended => exact absurd hState hPrinter
      | running =>
        rw [Stage.proceed_drain_printer hEmpty hState]
        have hMarked : stage.feed.close.queue = events.map .event ++ [.stop] := by
          rw [← hQueue]
          rfl
        refine .quietly hQuiet (hTracks.congr rfl rfl ?_ rfl)
          (.emptying rfl hEmpty hState events hMarked rfl)
        simp [Stage.told, Stage.queued, Feed.close]
      | absent =>
        -- Without a printer, closing hands over all that is queued by itself.
        obtain ⟨s, hDone⟩ := Stage.proceed_drain_alone sink hEmpty hState hQueue
        rw [hDone]
        refine .quietly hQuiet (hTracks.congr rfl hEmpty.symm ?_ rfl) (.returned rfl rfl rfl rfl)
        rw [hTold]
        simp [Stage.told, Stage.queued]
    · rw [Stage.proceed_drain_waiting hEmpty]
      exact .quietly hQuiet (hTracks.congr rfl rfl rfl rfl)
        (.accepting hOpen hPrinter events hQueue (.inr rfl))

/-- The closing may begin at any time. -/
theorem Ordered.close {trace : List Act} {stage : Stage σ} {sink : Sink σ}
    (hOrdered : Ordered trace stage) (hFirst : stage.closing = none) :
    Ordered (trace ++ [.close]) (stage.proceed sink Session.closeFeed) := by
  cases hOrdered.phase with
  | accepting hOpen =>
    rw [Stage.proceed_closeFeed hOpen]
    exact hOrdered.drain nofun hOpen
  | emptying _ _ _ _ _ hClosing | emptied _ _ _ _ hClosing | returned _ _ _ hClosing =>
    exact absurd (hFirst.symm.trans hClosing) nofun

/-- Closing may look at any time whether it can go on. -/
theorem Ordered.resume {trace : List Act} {stage : Stage σ} {sink : Sink σ}
    {script : Script Host Unit} (hOrdered : Ordered trace stage)
    (hScript : stage.closing = some script) :
    Ordered (trace ++ [.resume]) (stage.proceed sink script) := by
  obtain ⟨released, hTracks⟩ := hOrdered.tracks
  have hQuiet : ∀ number slot result, Act.resume ≠ .settle number slot result := nofun
  have hSame : ∀ closing, Tracks (lookedUp trace) released { stage with closing := closing } :=
    fun _ => hTracks.congr rfl rfl rfl rfl
  -- What is left of the closing is told by the phase.
  cases hOrdered.phase with
  | accepting hOpen _ _ _ hClosing =>
    rcases hClosing with hNone | hDrain
    · rw [hScript] at hNone
      cases hNone
    · obtain rfl := Option.some.inj (hScript.symm.trans hDrain)
      exact hOrdered.drain hQuiet hOpen
  | emptying hClosed hEmpty hPrinter events hQueue hClosing =>
    obtain rfl := Option.some.inj (hScript.symm.trans hClosing)
    rw [Stage.proceed_awaitEnd_waiting (by rw [hPrinter]; nofun)]
    exact .quietly hQuiet (hSame _) (.emptying hClosed hEmpty hPrinter events hQueue rfl)
  | emptied hClosed hEmpty hPrinter hQueue hClosing =>
    obtain rfl := Option.some.inj (hScript.symm.trans hClosing)
    rw [Stage.proceed_awaitEnd_ended hPrinter]
    exact .quietly hQuiet (hSame _) (.returned hClosed hEmpty hQueue rfl)
  | returned hClosed hEmpty hQueue hClosing =>
    obtain rfl := Option.some.inj (hScript.symm.trans hClosing)
    exact .quietly hQuiet (hSame _) (.returned hClosed hEmpty hQueue rfl)

/-- One act keeps the order. -/
theorem Ordered.step {trace : List Act} {stage next : Stage σ} {sink : Sink σ} {act : Act}
    (hOrdered : Ordered trace stage) (hStep : Step sink act stage next)
    (hTyped : ∀ message, act = .arrive (.page (.console message)) →
      ∃ name, message.type = .str name) :
    Ordered (trace ++ [act]) next := by
  cases hStep with
  | arrive arrival =>
    exact hOrdered.arrive fun message hMessage => hTyped message (by rw [hMessage])
  | settle result hAwaited => exact hOrdered.settle hAwaited result
  | release => exact hOrdered.release
  | start => exact hOrdered.startPrinter
  | print => exact hOrdered.print
  | close hFirst => exact hOrdered.close hFirst
  | resume hScript => exact hOrdered.resume hScript

/-- Every run keeps the order. -/
theorem Ordered.steps {trace : List Act} {stage : Stage σ} {sink : Sink σ} {s : σ}
    (hSteps : Steps sink { sink := s } trace stage)
    (hTyped : ∀ message, .arrive (.page (.console message)) ∈ trace →
      ∃ name, message.type = .str name) :
    Ordered trace stage := by
  induction hSteps with
  | nil => exact .start s
  | snoc hSteps hStep ih =>
    have hBefore := ih fun message hMem => hTyped message (List.mem_append_left _ hMem)
    refine hBefore.step hStep fun message hAct => hTyped message ?_
    rw [hAct]
    exact List.mem_append_right _ (List.mem_singleton_self _)

/-! ## After the closing -/

/-- A feed that has been closed and emptied. -/
structure Stage.Over (stage : Stage σ) : Prop where
  closed : stage.feed.closed = true
  lineup : stage.feed.lineup = []
  queue : stage.feed.queue = []
  returned : stage.Returned

/-- When closing has returned, nothing is left in the feed. -/
theorem Ordered.over {trace : List Act} {stage : Stage σ} (hOrdered : Ordered trace stage)
    (hReturned : stage.Returned) : stage.Over := by
  -- In every other phase there is something left of the closing, or it has not begun.
  cases hOrdered.phase with
  | accepting _ _ _ _ hClosing =>
    rcases hClosing with hNone | hDrain
    · exact absurd (hNone.symm.trans hReturned) nofun
    · exact absurd (hDrain.symm.trans hReturned) nofun
  | emptying _ _ _ _ _ hClosing | emptied _ _ _ _ hClosing =>
    exact absurd (hClosing.symm.trans hReturned) nofun
  | returned hClosed hEmpty hQueue hClosing => exact ⟨hClosed, hEmpty, hQueue, hClosing⟩

/-- Nothing is handed over by a feed that has been closed and emptied. -/
theorem Stage.Over.step {stage next : Stage σ} {sink : Sink σ} {act : Act} (hOver : stage.Over)
    (hStep : Step sink act stage next) : next.Over ∧ next.handed = stage.handed := by
  cases hStep with
  | arrive arrival =>
    rw [Stage.arrive_closed hOver.closed]
    exact ⟨hOver, rfl⟩
  | settle result hAwaited =>
    obtain ⟨ticket, hMem, -⟩ := hAwaited
    rw [hOver.lineup] at hMem
    cases hMem
  | release =>
    rw [Stage.release_waiting (by simp [hOver.lineup])]
    exact ⟨hOver, rfl⟩
  | start =>
    refine ⟨?_, rfl⟩
    unfold Feed.start
    split
    · exact ⟨hOver.closed, hOver.lineup, hOver.queue, hOver.returned⟩
    · exact hOver
  | print =>
    rw [Stage.print_idle (.inl hOver.queue)]
    exact ⟨hOver, rfl⟩
  | close hFirst => exact absurd (hFirst.symm.trans hOver.returned) nofun
  | resume hScript =>
    obtain rfl := Option.some.inj (hScript.symm.trans hOver.returned)
    exact ⟨⟨hOver.closed, hOver.lineup, hOver.queue, rfl⟩, rfl⟩

/-- Nor by any run from there. -/
theorem Stage.Over.steps {stage after : Stage σ} {sink : Sink σ} {more : List Act}
    (hOver : stage.Over) (hSteps : Steps sink stage more after) :
    after.Over ∧ after.handed = stage.handed := by
  induction hSteps with
  | nil => exact ⟨hOver, rfl⟩
  | snoc _ hStep ih =>
    obtain ⟨hBefore, hSame⟩ := ih
    obtain ⟨hAfter, hNext⟩ := hBefore.step hStep
    exact ⟨hAfter, hNext.trans hSame⟩

/-! ## What the sink has got -/

/-- **Order and completeness.** At any time of any run, the sink has got a part from the front of
the console calls, and a part from the front of all other signals, as they arrived while the feed
was open. Once closing has returned it has got all of both, and it gets nothing more. -/
theorem handed_in_order {sink : Sink σ} {s : σ} {trace : List Act} {stage : Stage σ}
    (hSteps : Steps sink { sink := s } trace stage)
    (hTyped : ∀ message, .arrive (.page (.console message)) ∈ trace →
      ∃ name, message.type = .str name) :
    (stage.handed.filter (·.category.isConsole)).map some <+:
        consoleEvents (lookedUp trace) stage.fired ∧
      stage.handed.filter (!·.category.isConsole) <+: otherEvents stage.fired ∧
      (stage.Returned →
        (stage.handed.filter (·.category.isConsole)).map some =
            consoleEvents (lookedUp trace) stage.fired ∧
          stage.handed.filter (!·.category.isConsole) = otherEvents stage.fired ∧
          ∀ more after, Steps sink stage more after → after.handed = stage.handed) := by
  have hOrdered := Ordered.steps hSteps hTyped
  obtain ⟨released, hTracks⟩ := hOrdered.tracks
  -- What has been handed over is the front of what has left the line-up.
  have hFront : stage.handed <+: stage.told := List.prefix_append _ _
  refine ⟨?_, ?_, ?_⟩
  · have hConsole := (hFront.filter (·.category.isConsole)).map some
    rw [hTracks.console] at hConsole
    exact hConsole.trans (List.take_prefix _ _)
  · rw [← hTracks.others]
    exact hFront.filter _
  · intro hReturned
    have hOver := hOrdered.over hReturned
    have hQueued : stage.queued = [] := queued_events hOver.queue
    have hTold : stage.told = stage.handed := by rw [Stage.told, hQueued, List.append_nil]
    rw [← hTracks.complete hOver.lineup, ← hTracks.others, hTold]
    exact ⟨rfl, rfl, fun more after hMore => (hOver.steps hMore).2⟩

/-- Two console calls whose look-ups end the other way round, the second after closing has begun,
with a loss of the browser between them and a sink that fails at console calls. -/
theorem handed_in_order_late_lookup :
    ∃ (sink : Sink Unit) (trace : List Act) (stage : Stage Unit),
      Steps sink { sink := () } trace stage ∧ stage.Returned ∧
      (stage.handed.map Event.category = [.browserDisconnected, .consoleInfo, .consoleError]) ∧
      (stage.handed.filter (·.category.isConsole)).map some =
        consoleEvents (lookedUp trace) stage.fired := by
  let sink : Sink Unit :=
    ⟨fun event s => (s, if event.category.isConsole then some (.foreign "OSError" "") else none),
      fun _ s => s, by intro event s fault; dsimp; split <;> rintro ⟨⟩; rfl⟩
  let first : PageMessage := ⟨.str "info", ⟨.null, .null, .null⟩, [⟨.null, .null⟩], 0⟩
  let second : PageMessage := ⟨.str "assert", ⟨.null, .null, .null⟩, [⟨.null, .null⟩], 0⟩
  let signals : List Arrival := [.page (.console first), .disconnected, .page (.console second)]
  let lost : Event := ⟨.browserDisconnected, [.str "Browser was disconnected."], none⟩
  have hWaiting : Steps sink { sink := () } _
      ⟨⟨[ticketOf (fun _ _ => none) 0 first, ticketOf (fun _ _ => some (.int 7)) 1 second], 2,
        [.event lost], .running, false⟩, (), [], signals, some Stage.drain⟩ :=
    .snoc (.snoc (.snoc (.snoc (.snoc (.snoc .nil (.arrive (.page (.console first))))
      (.arrive .disconnected)) (.arrive (.page (.console second)))) .start)
      (.settle (.ok (.int 7)) (show Awaited _ 1 0 from
        ⟨_, List.mem_of_getElem? (i := 1) rfl, rfl, rfl⟩))) (.close rfl)
  have hQueued : Steps sink { sink := () } _
      ⟨⟨[], 2, [.event (first.report [.unresolvable]), .event (second.report [.int 7])], .running,
        false⟩, (), [lost], signals, some Stage.drain⟩ :=
    .snoc (.snoc (.snoc (.snoc hWaiting .print)
      (.settle (.error .cancelled) (show Awaited _ 0 0 from
        ⟨_, List.mem_of_getElem? (i := 0) rfl, rfl, rfl⟩))) .release) .release
  have hEmptied : Steps sink { sink := () } _
      ⟨⟨[], 2, [], .ended, true⟩, (),
        [lost, first.report [.unresolvable], second.report [.int 7]], signals,
        some Stage.awaitEnd⟩ :=
    .snoc (.snoc (.snoc (.snoc hQueued (.resume rfl)) .print) .print) .print
  have hRun := hEmptied.snoc (.resume rfl)
  refine ⟨sink, _, _, hRun, rfl, rfl, ((handed_in_order hRun ?_).2.2 rfl).1⟩
  intro message hMem
  simp only [List.nil_append, List.cons_append, List.mem_cons, List.not_mem_nil, or_false,
    reduceCtorEq, false_or, Act.arrive.injEq, Arrival.page.injEq, PageSignal.console.injEq]
    at hMem
  rcases hMem with rfl | rfl
  · exact ⟨_, rfl⟩
  · exact ⟨_, rfl⟩

end FeedRun

end PageReporter
