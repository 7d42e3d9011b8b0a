import PageReporter.Proofs.PublishTimes

/-!
# Arguments of one call

The arguments of a console call are looked up all at once, each within the same limit, and the call
waits in the line-up until the last of them is settled. With nothing else going on, each argument is
what comes of its own look-up, at its own place and whatever the others come to, and the call is
over when the slowest look-up is or when its time is.

* `Idle` — a rehearsal in which nothing goes on; `resolve` — a call is fired there;
* `AllBegun` — every look-up has a script of its own, and none has gone on yet;
* `Resolving` — what holds while look-ups are under way: `Resolving.next` is what one step makes of
  it, and `Resolving.ends` a whole run;
* `Resolves` — what the arguments are resolved to, and when;
* `Idle.resolves_each` — the look-ups are begun together, and resolved apart from each other.
-/

namespace PageReporter

/-- A limit whose seconds are a time is over at once, or allows something to begin. -/
theorem Limit.allows {limit : Limit} (hLimit : ∀ seconds, limit = .within seconds → seconds.IsTime)
    (hSome : limit ≠ .over) : limit.Allows := by
  match limit with
  | .unlimited => exact .unlimited
  | .over => exact absurd rfl hSome
  | .within seconds => exact .within (hLimit seconds rfl)

namespace LookupRun

open World

variable {α : Type}

/-! ## Calls -/

/-- Nothing goes on, and the feed is open and has nothing in its line-up. Nobody prints, so that
what is queued stays there. -/
structure Idle (w : World α) : Prop where
  time : w.clock.IsTime
  timers : w.timers = []
  turns : w.turns = []
  tasks : w.tasks = []
  opened : w.feed.closed = false
  lineup : w.feed.lineup = []
  silent : w.feed.printer = .absent

/-- A console message is fired, and its arguments are looked up within a limit. -/
def resolve (limit : Limit) (message : Message) (w : World α) : World α :=
  (w.fireFeed limit (.console message.call) (message.lookups.map Lookup.script)).1

namespace Message

/-- The arguments of a message, each as its look-up leaves it. -/
def parts (message : Message) (limit : Limit) : List Value :=
  message.lookups.map fun lookup => FeedRun.valueOf (lookup.outcome limit message.fired)

/-- When the last argument of a message is settled. -/
def resolvedAt (message : Message) (limit : Limit) : Double :=
  Double.latest (message.fired :: message.lookups.map fun lookup =>
    lookup.settledWithin limit message.fired)

/-- The look-ups of a message that is fired in a rehearsal. -/
def looks (message : Message) (limit : Limit) (w : World α) : List Look :=
  begun limit w.started w.feed.arrived 0 message.fired message.lookups

end Message

/-- Every look-up of a message runs as a script of its own whose turn has come, and none of them has
gone on yet. -/
structure AllBegun (message : Message) (w v : World α) : Prop where
  now : v.clock = w.clock
  tasks : v.tasks = message.lookups.mapIdx fun i lookup =>
    ⟨w.started + i, .fresh (argumentScript w.feed.arrived i lookup.script)⟩
  turns : ∀ i < message.lookups.length, .go (w.started + i) ∈ v.turns

/-- What has come of a message: it has left the line-up with its arguments when the last of them
was settled. -/
structure Resolved (limit : Limit) (message : Message) (w v : World α) : Prop where
  lineup : v.feed.lineup = []
  queue : v.feed.queue = w.feed.queue ++ (message.item? (message.parts limit)).toList
  now : v.clock = message.resolvedAt limit

/-- A run that goes on until nothing is left in the line-up. -/
def untilReleased (fuel : Nat) (w : World α) : World α :=
  World.runWithin (fun v => v.feed.lineup.isEmpty) fuel w

/-- The arguments of a message are resolved to values at a time: however many steps a run may take
beyond those that it needs, the message has then left the line-up, and its event stands in the queue
with these values. -/
def Resolves (limit : Limit) (message : Message) (w : World α) (values : List Value)
    (time : Double) : Prop :=
  ∃ n, ∀ fuel, n ≤ fuel →
    (untilReleased fuel (resolve limit message w)).feed.lineup = [] ∧
      (∃ category location, (untilReleased fuel (resolve limit message w)).feed.queue =
        w.feed.queue ++ [.event ⟨category, values, some location⟩]) ∧
      (untilReleased fuel (resolve limit message w)).clock = time

/-- Where a message stands while its look-ups are under way. -/
structure Resolving (limit : Limit) (message : Message) (w : World α) (looks : List Look)
    (slots : List (Option Value)) (v : World α) : Prop where
  tracked : Tracked looks v
  own : ∀ look ∈ looks, look ∈ message.looks limit w
  opened : v.feed.closed = false
  silent : v.feed.printer = .absent
  queue : v.feed.queue = w.feed.queue
  lineup : v.feed.lineup = [⟨w.feed.arrived, message.call, slots⟩]
  width : slots.length = message.lookups.length
  /-- An argument is being looked up, or was settled not before its time. -/
  each : ∀ look ∈ message.looks limit w,
    look ∈ looks ∧ slots[look.slot]? = some none ∨
      look ∉ looks ∧ look.settledAt.le v.clock = true ∧
        slots[look.slot]? = some (some (FeedRun.valueOf look.outcome))
  past : message.fired.le v.clock = true
  ahead : v.clock.le (message.resolvedAt limit) = true

variable {limit : Limit} {message : Message} {w v : World α} {looks : List Look}
  {slots : List (Option Value)}

/-! ### The look-ups of a message -/

namespace Message

theorem mem_looks {look : Look} : look ∈ message.looks limit w ↔
    ∃ i lookup, message.lookups[i]? = some lookup ∧
      look = ⟨w.started + i, w.feed.arrived, i, message.fired, limit, lookup⟩ := by
  unfold Message.looks
  rw [mem_begun]
  simp only [Nat.zero_add]

/-- Look-ups of a message are told apart by their places, and by their scripts. -/
theorem looks_unique {look other : Look} (hMem : look ∈ message.looks limit w)
    (hOther : other ∈ message.looks limit w) (hSame : look.slot = other.slot ∨ look.id = other.id) :
    look = other := by
  obtain ⟨i, lookup, hLookup, rfl⟩ := mem_looks.mp hMem
  obtain ⟨k, found, hFound, rfl⟩ := mem_looks.mp hOther
  obtain rfl : i = k := by
    rcases hSame with hSlot | hId
    · exact hSlot
    · exact Nat.add_left_cancel hId
  obtain rfl := Option.some.inj (hLookup.symm.trans hFound)
  rfl

/-- The times that the arguments of a message are settled at. -/
theorem isTime_resolved (hFired : message.fired.IsTime) (hAllows : limit.Allows) :
    ∀ time ∈ message.fired :: message.lookups.map fun lookup =>
      lookup.settledWithin limit message.fired, time.IsTime :=
  List.forall_mem_cons.mpr ⟨hFired, List.forall_mem_map.mpr fun lookup _ =>
    lookup.isTime_settledWithin hAllows hFired⟩

/-- No argument is settled after the last one. -/
theorem settledAt_le_resolvedAt (hFired : message.fired.IsTime) (hAllows : limit.Allows)
    {look : Look} (hMem : look ∈ message.looks limit w) :
    look.settledAt.le (message.resolvedAt limit) = true := by
  obtain ⟨i, lookup, hLookup, rfl⟩ := mem_looks.mp hMem
  exact Double.IsTime.le_latest (isTime_resolved hFired hAllows)
    (.tail _ (List.mem_map.mpr ⟨lookup, List.mem_of_getElem? hLookup, rfl⟩))

end Message

/-! ### The call in the line-up -/

/-- An argument of the only call in the line-up is settled. -/
theorem settle_alone {feed : Feed} {number : Nat} {call : ConsoleCall}
    (hLineup : feed.lineup = [⟨number, call, slots⟩]) (slot : Nat)
    (result : Except Fault Value) : feed.settle number slot result =
      feed.withLineup [⟨number, call, slots.set slot (some (FeedRun.valueOf result))⟩] := by
  unfold Feed.settle
  rw [hLineup]
  show feed.withLineup [if number = number then _ else _] = _
  rw [if_pos rfl]
  rfl

/-- A call whose arguments are all settled leaves the line-up with them. -/
theorem pump_resolved (hPlain : Plain v) (hOpen : v.feed.closed = false)
    (hSilent : v.feed.printer = .absent) (hQueue : v.feed.queue = w.feed.queue) {number : Nat}
    (hLineup : v.feed.lineup = [⟨number, message.call, (message.parts limit).map some⟩])
    (hNow : v.clock = message.resolvedAt limit) : Resolved limit message w v.pump := by
  obtain ⟨queue, printer, hAfter, -, hKept⟩ := pump_open hOpen
  obtain ⟨-, rfl⟩ := hKept (by rw [hSilent]; exact nofun)
  have hParts := parts?_settled (message.parts limit)
  have hClock : v.pump.clock = v.clock := congrArg Prod.fst (pump_agenda hPlain)
  have hLeaves : isSettled ⟨number, message.call, (message.parts limit).map some⟩ = true := by
    unfold isSettled
    rw [hParts]
    rfl
  have hItem : itemOf ⟨number, message.call, (message.parts limit).map some⟩ =
      message.item? (message.parts limit) := by
    unfold itemOf
    rw [hParts]
    rfl
  refine ⟨?_, ?_, hClock.trans hNow⟩
  · rw [hAfter, hLineup]
    exact List.dropWhile_cons_of_pos hLeaves
  · rw [hAfter, hLineup, hQueue, List.takeWhile_cons_of_pos hLeaves, List.takeWhile_nil]
    cases hThis : message.item? (message.parts limit) with
    | none =>
      rw [List.filterMap_cons_none (hItem.trans hThis)]
      rfl
    | some item =>
      rw [List.filterMap_cons_some (hItem.trans hThis)]
      rfl

/-! ### Runs -/

theorem untilReleased_over (hOver : v.feed.lineup = []) (fuel : Nat) :
    untilReleased fuel v = v := by
  unfold untilReleased
  cases fuel with
  | zero => rfl
  | succ fuel =>
    unfold World.runWithin
    rw [hOver]
    rfl

theorem untilReleased_succ (hWaits : v.feed.lineup.isEmpty = false)
    (hMore : (v.turns.isEmpty && v.timers.isEmpty) = false) (fuel : Nat) :
    untilReleased (fuel + 1) v = untilReleased fuel v.next := by
  unfold untilReleased World.next
  rw [World.runWithin, hWaits, if_neg Bool.false_ne_true]
  cases hTurns : v.turns with
  | cons turn rest => rfl
  | nil =>
    cases hTimers : v.timers with
    | nil => simp [hTurns, hTimers] at hMore
    | cons first rest =>
      unfold jump?
      rw [hTimers]
      rfl

namespace Resolving

/-- A change that leaves the feed as it is, and moves the clock no further than to the time of the
last argument. -/
theorem still (hResolving : Resolving limit message w looks slots v) {after : World α}
    (hTracked : Tracked looks after) (hFeed : after.feed = v.feed)
    (hLater : v.clock.le after.clock = true)
    (hAhead : after.clock.le (message.resolvedAt limit) = true) :
    Resolving limit message w looks slots after where
  tracked := hTracked
  own := hResolving.own
  opened := hFeed ▸ hResolving.opened
  silent := hFeed ▸ hResolving.silent
  queue := hFeed ▸ hResolving.queue
  lineup := hFeed ▸ hResolving.lineup
  width := hResolving.width
  each look hMem := (hResolving.each look hMem).imp_right fun ⟨hDone, hDue, hSlot⟩ =>
    ⟨hDone, Double.le_trans hDue hLater, hSlot⟩
  past := Double.le_trans hResolving.past hLater
  ahead := hAhead

/-- A change at the same instant that leaves the feed as it is. -/
theorem same (hResolving : Resolving limit message w looks slots v) {after : World α}
    (hTracked : Tracked looks after) (hFeed : after.feed = v.feed)
    (hClock : after.clock = v.clock) : Resolving limit message w looks slots after := by
  refine hResolving.still hTracked hFeed ?_ ?_
  · rw [hClock]
    exact hResolving.tracked.plain.time.le_refl
  · rw [hClock]
    exact hResolving.ahead

/-- Once no look-up is under way, every argument is settled. -/
theorem settled (hResolving : Resolving limit message w [] slots v) {i : Nat} {lookup : Lookup}
    (hLookup : message.lookups[i]? = some lookup) :
    (lookup.settledWithin limit message.fired).le v.clock = true ∧
      slots[i]? = some (some (FeedRun.valueOf (lookup.outcome limit message.fired))) := by
  rcases hResolving.each _ (Message.mem_looks.mpr ⟨i, lookup, hLookup, rfl⟩) with
    ⟨hNever, -⟩ | ⟨-, hSettled⟩
  · cases hNever
  · exact hSettled

theorem slots_eq (hResolving : Resolving limit message w [] slots v) :
    slots = (message.parts limit).map some := by
  refine List.ext_getElem? fun i => ?_
  unfold Message.parts
  rw [List.map_map, List.getElem?_map]
  cases hLookup : message.lookups[i]? with
  | none =>
    rw [Option.map_none, List.getElem?_eq_none_iff, hResolving.width, ← List.getElem?_eq_none_iff,
      hLookup]
  | some lookup => exact (hResolving.settled hLookup).2

/-- The last argument has just been settled. -/
theorem clock_eq (hResolving : Resolving limit message w [] slots v)
    (hFired : message.fired.IsTime) (hAllows : limit.Allows) :
    v.clock = message.resolvedAt limit := by
  have hTime := hResolving.tracked.plain.time
  refine hTime.le_antisymm (.latest (Message.isTime_resolved hFired hAllows)) hResolving.ahead
    (Double.latest_le hTime ?_)
  refine List.forall_mem_cons.mpr ⟨hResolving.past, List.forall_mem_map.mpr fun lookup hMem => ?_⟩
  obtain ⟨i, hLookup⟩ := List.getElem?_of_mem hMem
  exact (hResolving.settled hLookup).1

/-- The feed takes its course: the call stays in the line-up while a look-up is under way, and
leaves it afterwards. -/
theorem pumped (hResolving : Resolving limit message w looks slots v)
    (hFired : message.fired.IsTime) (hAllows : limit.Allows) :
    (looks ≠ [] ∧ Resolving limit message w looks slots v.pump) ∨
      Resolved limit message w v.pump := by
  have hPlain := hResolving.tracked.plain
  cases looks with
  | nil =>
    have hLineup := hResolving.lineup
    rw [hResolving.slots_eq] at hLineup
    exact .inr (pump_resolved hPlain hResolving.opened hResolving.silent hResolving.queue hLineup
      (hResolving.clock_eq hFired hAllows))
  | cons look rest =>
    left
    obtain ⟨queue, printer, hAfter, -, hKept⟩ := pump_open hResolving.opened
    obtain ⟨rfl, rfl⟩ := hKept (by rw [hResolving.silent]; exact nofun)
    -- One argument is still being looked up, so the call is not settled.
    have hWaits : ¬ isSettled ⟨w.feed.arrived, message.call, slots⟩ = true := by
      intro hSettled
      obtain ⟨values, hParts⟩ := Option.isSome_iff_exists.mp hSettled
      have hSlots : slots = values.map some := parts?_eq_some hParts
      rcases hResolving.each look (hResolving.own look (.head _)) with ⟨-, hSlot⟩ | ⟨hNot, -⟩
      · rw [hSlots, List.getElem?_map, Option.map_eq_some_iff] at hSlot
        obtain ⟨_, -, hNever⟩ := hSlot
        cases hNever
      · exact hNot (.head _)
    have hSame : v.pump.feed = v.feed := by
      rw [hResolving.lineup, List.dropWhile_cons_of_neg hWaits, List.takeWhile_cons_of_neg hWaits,
        List.filterMap_nil, List.append_nil, ← hResolving.lineup] at hAfter
      rw [hAfter, ← hResolving.opened]
    exact ⟨List.cons_ne_nil _ _, hResolving.same hResolving.tracked.pump hSame
      (congrArg Prod.fst (pump_agenda hPlain))⟩

/-- One argument is settled with what comes of its look-up. -/
theorem settles (hResolving : Resolving limit message w looks slots v) {look : Look}
    (hMem : look ∈ looks) (hDue : look.settledAt.le v.clock = true) {after : World α}
    (hTracked : Tracked (looks.filter fun other => other.id ≠ look.id) after)
    (hClock : after.clock = v.clock) :
    Resolving limit message w (looks.filter fun other => other.id ≠ look.id)
      (slots.set look.slot (some (FeedRun.valueOf look.outcome)))
      { after with feed := v.feed.settle look.ticket look.slot look.outcome } := by
  have hOwn := hResolving.own look hMem
  have hTicket : look.ticket = w.feed.arrived := by
    obtain ⟨i, lookup, -, rfl⟩ := Message.mem_looks.mp hOwn
    rfl
  have hSlot : slots[look.slot]? = some none := by
    rcases hResolving.each look hOwn with ⟨-, hSlot⟩ | ⟨hNot, -⟩
    · exact hSlot
    · exact absurd hMem hNot
  obtain ⟨hInside, -⟩ := List.getElem?_eq_some_iff.mp hSlot
  rw [hTicket, settle_alone hResolving.lineup]
  refine {
    tracked := hTracked.ofAgenda rfl
    own := fun other hOther => hResolving.own other (List.mem_of_mem_filter hOther)
    opened := hResolving.opened
    silent := hResolving.silent
    queue := hResolving.queue
    lineup := rfl
    width := by rw [List.length_set, hResolving.width]
    each := fun other hOther => ?_
    past := hClock ▸ hResolving.past
    ahead := hClock ▸ hResolving.ahead }
  rw [List.mem_filter, decide_eq_true_iff]
  show _ ∨ _ ∧ other.settledAt.le after.clock = true ∧ _
  rw [hClock]
  by_cases hSame : other = look
  · subst hSame
    exact .inr ⟨fun hBoth => hBoth.2 rfl, hDue, List.getElem?_set_self hInside⟩
  · have hElsewhere : other.slot ≠ look.slot := fun hThere =>
      hSame (Message.looks_unique hOther hOwn (.inl hThere))
    have hAnother : other.id ≠ look.id := fun hThere =>
      hSame (Message.looks_unique hOther hOwn (.inr hThere))
    rw [List.getElem?_set_ne hElsewhere.symm]
    exact (hResolving.each other hOther).imp (fun hBoth => ⟨⟨hBoth.1, hAnother⟩, hBoth.2⟩)
      fun hBoth => ⟨fun hStill => hBoth.1 hStill.1, hBoth.2⟩

/-- **One step of the run**: the call is still waiting for a look-up, or is over. -/
theorem next (hResolving : Resolving limit message w looks slots v) (hLeft : looks ≠ [])
    (hFired : message.fired.IsTime) (hAllows : limit.Allows) :
    (∃ looks slots, looks ≠ [] ∧ Resolving limit message w looks slots v.next) ∨
      Resolved limit message w v.next := by
  cases hTurns : v.turns with
  | nil =>
    -- The clock moves, to no later than any look-up that is under way is settled.
    obtain ⟨hTracked, hLater, hFeed⟩ := hResolving.tracked.next_settled hTurns
    obtain ⟨look, hMem⟩ := List.exists_mem_of_ne_nil looks hLeft
    have hAhead := Double.le_trans ((hTracked.underway look hMem).le_settledAt
      (hTracked.allows look hMem))
      (Message.settledAt_le_resolvedAt hFired hAllows (hResolving.own look hMem))
    exact .inl ⟨looks, slots, hLeft, hResolving.still hTracked hFeed hLater hAhead⟩
  | cons turn rest =>
    rw [next_turn hTurns]
    rcases hResolving.tracked.takes hTurns with ⟨after, hTracked, hClock, -, hTakes⟩ |
      ⟨look, hMem, after, hTracked, hClock, -, hDue, hTakes⟩
    · rw [hTakes v.feed]
      exact .inl ⟨looks, slots, hLeft, hResolving.same (hTracked.ofAgenda rfl) rfl hClock⟩
    · rw [hTakes v.feed]
      rcases (hResolving.settles hMem hDue hTracked hClock).pumped hFired hAllows with
        ⟨hMore, hStill⟩ | hOver
      · exact .inl ⟨_, _, hMore, hStill⟩
      · exact .inr hOver

/-- **Every run comes to its end**, since each step leaves less to do. -/
theorem ends (hResolving : Resolving limit message w looks slots v) (hLeft : looks ≠ [])
    (hFired : message.fired.IsTime) (hAllows : limit.Allows) :
    ∃ n, ∀ fuel, n ≤ fuel → Resolved limit message w (untilReleased fuel v) := by
  induction hLoad : load v using Nat.strongRecOn generalizing v looks slots with
  | _ m ih =>
    obtain ⟨look, hMem⟩ := List.exists_mem_of_ne_nil looks hLeft
    have hMore := hResolving.tracked.goes_on hMem
    have hWaits : v.feed.lineup.isEmpty = false := by rw [hResolving.lineup]; rfl
    -- The first step is taken, and then as many as there are from there.
    have hFirst : ∀ {n : Nat}, (∀ fuel, n ≤ fuel → Resolved limit message w
        (untilReleased fuel v.next)) → ∃ n, ∀ fuel, n ≤ fuel →
          Resolved limit message w (untilReleased fuel v) := by
      intro n hRest
      refine ⟨n + 1, fun fuel hEnough => ?_⟩
      obtain ⟨rest, rfl⟩ := Nat.exists_eq_add_of_le hEnough
      rw [Nat.add_right_comm, untilReleased_succ hWaits hMore]
      exact hRest _ (Nat.le_add_right n rest)
    rcases hResolving.next hLeft hFired hAllows with ⟨_, _, hStill, hNext⟩ | hOver
    · have hLess : load v.next < m := hLoad ▸ hResolving.tracked.next_load hMore
      obtain ⟨n, hRest⟩ := ih _ hLess hNext hStill rfl
      exact hFirst hRest
    · exact hFirst fun fuel (_ : 0 ≤ fuel) => by
        rw [untilReleased_over hOver.lineup]
        exact hOver

end Resolving

/-! ## From the beginning -/

/-- The look-ups join, each as a script of its own whose turn comes. -/
theorem beginLookups_tasks (hAllows : limit.Allows) (ticket slot : Nat) (lookups : List Lookup) :
    (World.beginLookups limit ticket slot (lookups.map Lookup.script) w).tasks =
        w.tasks ++ lookups.mapIdx (fun i lookup =>
          ⟨w.started + i, .fresh (argumentScript ticket (slot + i) lookup.script)⟩) ∧
      (∀ turn ∈ w.turns,
        turn ∈ (World.beginLookups limit ticket slot (lookups.map Lookup.script) w).turns) ∧
      ∀ i < lookups.length, .go (w.started + i) ∈
        (World.beginLookups limit ticket slot (lookups.map Lookup.script) w).turns := by
  induction lookups generalizing w slot with
  | nil => exact ⟨(List.append_nil _).symm, fun _ => id, nofun⟩
  | cons lookup rest ih =>
    obtain ⟨-, hStarted, -⟩ := Tracked.beginLookup_same hAllows w ticket slot lookup.script
    obtain ⟨hJoins, hComes⟩ : (w.beginLookup limit ticket slot lookup.script).tasks =
          w.tasks ++ [⟨w.started, .fresh (argumentScript ticket slot lookup.script)⟩] ∧
        ∀ turn ∈ w.turns ++ [.go w.started],
          turn ∈ (w.beginLookup limit ticket slot lookup.script).turns := by
      cases hAllows with
      | unlimited => exact ⟨rfl, fun _ => id⟩
      | within =>
        unfold World.beginLookup World.addTimer
        dsimp only
        split
        · exact ⟨rfl, fun _ => id⟩
        · exact ⟨rfl, fun _ => List.mem_append_left _⟩
    obtain ⟨hTasks, hKept, hTurns⟩ :=
      ih (w := w.beginLookup limit ticket slot lookup.script) (slot + 1)
    rw [hStarted] at hTasks hTurns
    refine ⟨?_, fun turn hMem => hKept _ (hComes _ (List.mem_append_left _ hMem)), ?_⟩
    · refine hTasks.trans ?_
      rw [hJoins, List.mapIdx_cons, List.append_assoc]
      simp only [Nat.add_assoc, Nat.add_comm 1, List.singleton_append, Nat.add_zero]
    · intro i hInside
      cases i with
      | zero => exact hKept _ (hComes _ (List.mem_append_right _ (.head _)))
      | succ i =>
        have hTurn := hTurns i (Nat.lt_of_succ_lt_succ hInside)
        rwa [Nat.add_assoc, Nat.add_comm 1] at hTurn

/-- Where the time is over at once, no argument is looked up. -/
theorem beginLookups_over (call : ConsoleCall) (ticket : Nat) (scripts : List (Script Host Value))
    (settled : List (Option Value)) (hLineup : w.feed.lineup =
      [⟨ticket, call, settled ++ List.replicate scripts.length none⟩]) :
    (World.beginLookups .over ticket settled.length scripts w).agenda = w.agenda ∧
      (World.beginLookups .over ticket settled.length scripts w).feed = w.feed.withLineup
        [⟨ticket, call, settled ++ List.replicate scripts.length (some .unresolvable)⟩] := by
  induction scripts generalizing w settled with
  | nil => exact ⟨rfl, congrArg w.feed.withLineup hLineup⟩
  | cons script rest ih =>
    have hSlots : (settled ++ List.replicate (rest.length + 1) none).set settled.length
        (some .unresolvable) =
          settled ++ [some .unresolvable] ++ List.replicate rest.length none := by
      simp [List.replicate_succ]
    have hFirst : (w.settleArgument ticket settled.length (.error .cancelled)).feed =
        w.feed.withLineup [⟨ticket, call, settled ++ [some .unresolvable] ++
          List.replicate rest.length none⟩] := by
      rw [← hSlots]
      exact settle_alone hLineup settled.length (.error .cancelled)
    obtain ⟨hAgenda, hFeed⟩ := ih (settled ++ [some .unresolvable]) (congrArg Feed.lineup hFirst)
    rw [List.length_append, List.length_singleton] at hAgenda hFeed
    rw [hFirst] at hFeed
    simp only [List.append_assoc] at hFeed
    exact ⟨hAgenda, hFeed⟩

namespace Idle

theorem tracked (hIdle : Idle w) : Tracked [] w :=
  .blank hIdle.time hIdle.timers hIdle.turns hIdle.tasks

theorem resolve_eq (hIdle : Idle w) (limit : Limit) (message : Message) :
    resolve limit message w = (beginMessage limit message w).pump :=
  fireFeed_message limit hIdle.opened

/-- The look-ups of a message are begun. -/
theorem begins (hIdle : Idle w) (hNow : message.fired = w.clock) (hAllows : limit.Allows) :
    Resolving limit message w (message.looks limit w)
      (List.replicate message.lookups.length none) (beginMessage limit message w) := by
  obtain ⟨hTracked, hClock, hFeed⟩ := hIdle.tracked.begins_message hAllows message
  have hFired : message.fired.IsTime := hNow ▸ hIdle.time
  rw [← hNow] at hTracked hClock
  refine {
    tracked := hTracked
    own := fun _ => id
    opened := by
      rw [hFeed]
      exact hIdle.opened
    silent := by
      rw [hFeed]
      exact hIdle.silent
    queue := by
      rw [hFeed]
      rfl
    lineup := by
      rw [hFeed]
      unfold Message.lined
      rw [hIdle.lineup]
      rfl
    width := List.length_replicate
    each := fun look hMem => .inl ⟨hMem, ?_⟩
    past := by
      rw [hClock]
      exact hFired.le_refl
    ahead := by
      rw [hClock]
      exact Double.IsTime.le_latest (Message.isTime_resolved hFired hAllows) (.head _) }
  obtain ⟨i, lookup, hLookup, rfl⟩ := Message.mem_looks.mp hMem
  obtain ⟨hInside, -⟩ := List.getElem?_eq_some_iff.mp hLookup
  rw [List.getElem?_replicate, if_pos hInside]

/-- The look-ups are begun together. -/
theorem begins_all (hIdle : Idle w) (hNow : message.fired = w.clock) (hAllows : limit.Allows) :
    AllBegun message w (resolve limit message w) := by
  have hBegun := hIdle.begins hNow hAllows
  have hAgenda := pump_agenda hBegun.tracked.plain
  simp only [World.agenda, Prod.mk.injEq] at hAgenda
  obtain ⟨hClock, -, hTurnsKept, hTasksKept, -⟩ := hAgenda
  have hSame := (hIdle.tracked.begins_message hAllows message).2.1
  obtain ⟨hTasks, -, hTurns⟩ := beginLookups_tasks (w := { w with feed := message.lined w.feed })
    hAllows w.feed.arrived 0 message.lookups
  rw [hIdle.resolve_eq]
  refine ⟨hClock.trans hSame, hTasksKept.trans (hTasks.trans ?_), fun i hInside => ?_⟩
  · show w.tasks ++ _ = _
    rw [hIdle.tasks, List.nil_append]
    simp only [Nat.zero_add]
  · rw [hTurnsKept]
    exact hTurns i hInside

/-- A message whose time is over at once is released at once. -/
theorem releases (hIdle : Idle w) (hNow : message.fired = w.clock) :
    Resolved .over message w (resolve .over message w) := by
  have hTime := hIdle.time
  have hLined : (message.lined w.feed).lineup = [⟨w.feed.arrived, message.call,
      [] ++ List.replicate (message.lookups.map Lookup.script).length none⟩] := by
    unfold Message.lined
    rw [hIdle.lineup, List.length_map]
    rfl
  obtain ⟨hAgenda, hFeed⟩ := beginLookups_over (w := { w with feed := message.lined w.feed })
    message.call w.feed.arrived (message.lookups.map Lookup.script) [] hLined
  have hTracked : Tracked [] (beginMessage .over message w) := hIdle.tracked.ofAgenda hAgenda
  have hParts : (message.parts .over).map some =
      List.replicate message.lookups.length (some .unresolvable) := by
    unfold Message.parts
    rw [List.map_map]
    show message.lookups.map (fun _ => some Value.unresolvable) = _
    rw [List.map_const']
  have hClock : w.clock = message.resolvedAt .over := by
    have hAll : ∀ time ∈ message.fired :: message.lookups.map fun lookup =>
        lookup.settledWithin .over message.fired, time = w.clock :=
      List.forall_mem_cons.mpr ⟨hNow, List.forall_mem_map.mpr fun _ _ => hNow⟩
    refine hTime.le_antisymm (.latest fun time hMem => hAll time hMem ▸ hTime) ?_ ?_
    · rw [← hNow]
      exact Double.IsTime.le_latest (fun time hMem => hAll time hMem ▸ hTime) (.head _)
    · exact Double.latest_le hTime fun time hMem => hAll time hMem ▸ hTime.le_refl
  have hStill : (beginMessage .over message w).clock = w.clock := congrArg Prod.fst hAgenda
  rw [List.nil_append, List.length_map, ← hParts] at hFeed
  have hBegun : (beginMessage .over message w).feed = (message.lined w.feed).withLineup
    [⟨w.feed.arrived, message.call, (message.parts .over).map some⟩] := hFeed
  rw [hIdle.resolve_eq]
  refine pump_resolved hTracked.plain ?_ ?_ ?_ (congrArg Feed.lineup hBegun) (hStill.trans hClock)
  · rw [hBegun]
    exact hIdle.opened
  · rw [hBegun]
    exact hIdle.silent
  · rw [hBegun]
    rfl

/-- However the look-ups end, the call is released in the end. -/
theorem resolved (hIdle : Idle w) (hNow : message.fired = w.clock)
    (hLimit : ∀ seconds, limit = .within seconds → seconds.IsTime) :
    ∃ n, ∀ fuel, n ≤ fuel →
      Resolved limit message w (untilReleased fuel (resolve limit message w)) := by
  have hFired : message.fired.IsTime := hNow ▸ hIdle.time
  have hReleased : Resolved limit message w (resolve limit message w) →
      ∃ n, ∀ fuel, n ≤ fuel →
        Resolved limit message w (untilReleased fuel (resolve limit message w)) := fun hOver =>
    ⟨0, fun fuel _ => by rwa [untilReleased_over hOver.lineup]⟩
  by_cases hOver : limit = .over
  · subst hOver
    exact hReleased (hIdle.releases hNow)
  · have hAllows := Limit.allows hLimit hOver
    have hBegun := hIdle.begins hNow hAllows
    rw [hIdle.resolve_eq] at hReleased ⊢
    rcases hBegun.pumped hFired hAllows with ⟨hLeft, hStill⟩ | hOver
    · exact hStill.ends hLeft hFired hAllows
    · exact hReleased hOver

/-- A call that can be put into words is resolved, once the time of the last argument has come. -/
theorem resolves (hIdle : Idle w) (hNow : message.fired = w.clock)
    (hLimit : ∀ seconds, limit = .within seconds → seconds.IsTime) {category : Category}
    {location : Location} (hCategory : Category.ofConsoleType message.type = .ok category)
    (hLocation : message.call.location = .ok location) :
    Resolves limit message w (message.parts limit) (message.resolvedAt limit) := by
  obtain ⟨n, hOver⟩ := hIdle.resolved hNow hLimit
  refine ⟨n, fun fuel hEnough => ?_⟩
  have hResolved := hOver fuel hEnough
  refine ⟨hResolved.lineup, ⟨category, location, ?_⟩, hResolved.now⟩
  rw [hResolved.queue, Message.item?_eq _ hCategory hLocation]
  rfl

/-- The arguments of a call are resolved to nothing else. -/
theorem eq_of_resolves (hIdle : Idle w) (hNow : message.fired = w.clock)
    (hLimit : ∀ seconds, limit = .within seconds → seconds.IsTime) {values : List Value}
    {time : Double} (hResolves : Resolves limit message w values time) :
    values = message.parts limit ∧ time = message.resolvedAt limit := by
  obtain ⟨n, hOver⟩ := hIdle.resolved hNow hLimit
  obtain ⟨m, hThen⟩ := hResolves
  have hResolved := hOver (n + m) (Nat.le_add_right n m)
  obtain ⟨-, ⟨category, location, hQueue⟩, hClock⟩ := hThen (n + m) (Nat.le_add_left m n)
  refine ⟨?_, hClock.symm.trans hResolved.now⟩
  have hItem := List.append_cancel_left (hResolved.queue.symm.trans hQueue)
  -- An event is made with the arguments that it is given.
  cases hEvent : message.call.event (message.parts limit) with
  | error e =>
    unfold Message.item? at hItem
    rw [hEvent] at hItem
    cases hItem
  | ok event =>
    unfold Message.item? at hItem
    rw [hEvent] at hItem
    obtain ⟨_, -, hRest⟩ := Fault.of_bind_ok hEvent
    obtain ⟨_, -, hMade⟩ := Fault.of_bind_ok hRest
    cases hMade
    cases hItem
    rfl

/-- **Arguments are resolved apart from each other.** A console message is fired where nothing else
goes on, with any look-ups, each of which takes as long as it does and comes to whatever it does.
Unless their time is over at once, all look-ups are begun before any of them comes to anything. The
message is resolved to as many values as it has look-ups, each of them at the place of its look-up:
what that comes to if it succeeds before its time is over, and otherwise a value that says that it
could not be fetched. It is resolved when the slowest look-up has ended or is out of time, where
infinity is never. No look-up has a bearing on the value of another: two messages with the same
look-up at one place are resolved to the same value there, whatever their other look-ups are. -/
theorem resolves_each (hIdle : Idle w) (hNow : message.fired = w.clock)
    (hLimit : ∀ seconds, limit = .within seconds → seconds.IsTime) {category : Category}
    {location : Location} (hCategory : Category.ofConsoleType message.type = .ok category)
    (hLocation : message.call.location = .ok location) :
    (limit ≠ .over → AllBegun message w (resolve limit message w)) ∧
      (∀ values time, Resolves limit message w values time ↔
        values = message.lookups.map (fun lookup =>
          FeedRun.valueOf (lookup.outcome limit message.fired)) ∧
        time = Double.latest (message.fired :: message.lookups.map fun lookup =>
          lookup.settledWithin limit message.fired)) ∧
      ∀ (other : Message) (values others : List Value) (first second : Double) (i : Nat),
        other.fired = w.clock → message.lookups[i]? = other.lookups[i]? →
        Resolves limit message w values first → Resolves limit other w others second →
        values[i]? = others[i]? := by
  refine ⟨fun hSome => hIdle.begins_all hNow (Limit.allows hLimit hSome), fun values time => ?_,
    fun other values others _ _ i hAlso hSame hOne hOther => ?_⟩
  · constructor
    · exact hIdle.eq_of_resolves hNow hLimit
    · rintro ⟨rfl, rfl⟩
      exact hIdle.resolves hNow hLimit hCategory hLocation
  · rw [(hIdle.eq_of_resolves hNow hLimit hOne).1, (hIdle.eq_of_resolves hAlso hLimit hOther).1]
    unfold Message.parts
    rw [List.getElem?_map, List.getElem?_map, hSame, hNow, hAlso]

/-- A look-up that takes a whole number of seconds. -/
def lasting (seconds : Nat) (result : Except Fault Value) : Lookup :=
  ⟨Double.ofInt seconds, .ofNat seconds, result⟩

/-- A message whose look-ups succeed, fail, never end, end when their time is over, and take no
time. -/
def mixed : Message :=
  ⟨0, .str "log", some ⟨.str "", .int 0, .int 0⟩,
    [lasting 1 (.ok (.int 1)), lasting 2 (.error (.foreign "RuntimeError" "too long")),
      ⟨.infinite false, .infinite, .ok (.int 3)⟩, lasting 5 (.ok (.int 4)),
      lasting 0 (.ok (.int 5))]⟩

theorem idle_untouched : Idle untouched.world := by
  have hTime : (0 : Double).IsTime := .ofNat 0
  exact ⟨hTime, rfl, rfl, rfl, rfl, rfl, rfl⟩

/-- The first and the last look-up succeed in time, and the call is over after five seconds. -/
theorem resolves_each_mixed :
    AllBegun mixed untouched.world (resolve lookupLimit mixed untouched.world) ∧
    Resolves lookupLimit mixed untouched.world
      [.int 1, .unresolvable, .unresolvable, .unresolvable, .int 5] 5 := by
  have hAllows : lookupLimit.Allows := .within (.ofNat 5)
  have hLimit : ∀ seconds, lookupLimit = .within seconds → seconds.IsTime := by
    intro seconds hSame
    rw [hSame] at hAllows
    cases hAllows
    assumption
  have hCategory : Category.ofConsoleType mixed.type = .ok .consoleLog := rfl
  have hLocation : mixed.call.location = .ok ⟨.str "", .int 0, .int 0⟩ := rfl
  have hNow : mixed.fired = untouched.world.clock := by decide +kernel
  obtain ⟨hBegun, hResolves, -⟩ := idle_untouched.resolves_each hNow hLimit hCategory hLocation
  have hInTime : mixed.lookups.map (fun lookup => lookup.isInTime lookupLimit mixed.fired) =
      [true, true, false, false, true] := by decide +kernel
  have hTime : (5 : Double) = Double.latest (mixed.fired :: mixed.lookups.map fun lookup =>
      lookup.settledWithin lookupLimit mixed.fired) := by decide +kernel
  have hValues : [.int 1, .unresolvable, .unresolvable, .unresolvable, .int 5] =
      mixed.lookups.map (fun lookup =>
        FeedRun.valueOf (lookup.outcome lookupLimit mixed.fired)) := by
    unfold mixed at hInTime ⊢
    simp only [List.map_cons, List.map_nil, List.cons.injEq] at hInTime
    obtain ⟨hFirst, hSecond, hThird, hFourth, hFifth, -⟩ := hInTime
    simp only [List.map_cons, List.map_nil, Lookup.outcome, hFirst, hSecond, hThird, hFourth,
      hFifth]
    rfl
  exact ⟨hBegun nofun, (hResolves _ _).mpr ⟨hValues, hTime⟩⟩

end Idle

end LookupRun

end PageReporter
