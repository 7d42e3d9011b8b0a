import PageReporter.Proofs.Reached
import PageReporter.Proofs.Times

/-!
# Look-ups of arguments

A look-up of an argument is a script that sleeps for as long as it takes, and that is called off
when its time is over, which is mostly after five seconds. What a rehearsal holds about it is seen
apart from everything else: its task, the timers and the turns that are about it, and the clock.
Whatever happens to one script leaves what there is about the others as it is, so that a look-up can
be followed by itself.

* `Lookup` — how long a look-up takes and what comes of it; `Look` — one that has been begun;
* `Lookup.settledWithin`, `Lookup.outcome` — when its argument is settled within a limit, and how;
* `view` — what a rehearsal holds about a script; `Only` — a change that concerns one script;
* `Underway` — where a look-up stands: it has not begun, or it sleeps and has been told so much;
* `Underway.le_settledAt`, `Underway.settledAt_le` — it is never late, and never early;
* `Underway.starts`, `Underway.told` — what its turns make of it; `Asleep.outcome_eq` — what comes
  of it in the end.
-/

namespace PageReporter

/-- A limit within which something can begin at all: none, or one after some time. -/
inductive Limit.Allows : Limit → Prop
  | unlimited : Allows .unlimited
  | within {seconds : Double} (hSeconds : seconds.IsTime) : Allows (.within seconds)

namespace LookupRun

open World

/-! ## Look-ups -/

/-- A look-up of an argument: how long it takes, which may be forever, and what comes of it. -/
structure Lookup where
  seconds : Double
  lasts : seconds.IsTime
  result : Except Fault Value

namespace Lookup

/-- A look-up as a script. One that takes no time does not wait. -/
def script (lookup : Lookup) : Script Host Value :=
  if lookup.seconds.le Double.zero then .done lookup.result
  else (Host.ask (.sleep (.double lookup.seconds))).bind fun _ => .done lookup.result

/-- When the argument is settled, if the look-up begins at a time and has a limit: when the look-up
ends, or else when its time is over. -/
def settledWithin (lookup : Lookup) (limit : Limit) (start : Double) : Double :=
  match limit with
  | .unlimited => start + lookup.seconds
  | .over => start
  | .within seconds => Double.sooner (start + seconds) (start + lookup.seconds)

/-- A look-up ends before its time is over. One that takes no time does whenever it has any. -/
def isInTime (lookup : Lookup) (limit : Limit) (start : Double) : Bool :=
  match limit with
  | .unlimited => true
  | .over => false
  | .within seconds =>
    lookup.seconds.le Double.zero || (start + lookup.seconds).lt (start + seconds)

/-- What the argument is settled with: what comes of the look-up, if that ends in time, and a
failure otherwise. -/
def outcome (lookup : Lookup) (limit : Limit) (start : Double) : Except Fault Value :=
  if lookup.isInTime limit start then lookup.result else .error .cancelled

/-- When the argument is settled: when the look-up ends, or else when its time is over. -/
def settledAt (lookup : Lookup) (fired : Double) : Double :=
  Double.sooner (fired + 5) (fired + lookup.seconds)

/-- What the argument is settled with: what comes of the look-up, if that ends in time, and a
failure otherwise. -/
def Yields (lookup : Lookup) (fired : Double) (result : Except Fault Value) : Prop :=
  (fired + lookup.seconds).le (fired + 5) = true ∧ result = lookup.result ∨
    (fired + 5).le (fired + lookup.seconds) = true ∧ ∃ fault, result = .error fault

theorem isTime_settledWithin (lookup : Lookup) {limit : Limit} (hAllows : limit.Allows)
    {start : Double} (hStart : start.IsTime) : (lookup.settledWithin limit start).IsTime := by
  have hEnds := hStart.add lookup.lasts
  cases hAllows with
  | unlimited => exact hEnds
  | within hSeconds => exact (hStart.add hSeconds).sooner hEnds

theorem yields_outcome (lookup : Lookup) {fired : Double} (hFired : fired.IsTime) :
    lookup.Yields fired (lookup.outcome lookupLimit fired) := by
  have hEnds := hFired.add lookup.lasts
  have hLimit : (fired + 5).IsTime := hFired.add (.ofNat 5)
  show lookup.Yields fired (if (lookup.seconds.le Double.zero ||
    (fired + lookup.seconds).lt (fired + 5)) = true then _ else _)
  split
  · next hInTime =>
    refine .inl ⟨?_, rfl⟩
    rcases Bool.or_eq_true_iff.mp hInTime with hNone | hBefore
    · have hZero := lookup.lasts.le_antisymm .zero hNone lookup.lasts.zero_le
      rw [hZero, hFired.add_zero]
      exact hFired.le_add (.ofNat 5)
    · exact Double.le_of_lt hBefore
  · next hLate =>
    rw [Bool.or_eq_true, not_or] at hLate
    exact .inr ⟨hEnds.le_of_not_lt hLimit (eq_false_of_ne_true hLate.2), _, rfl⟩

end Lookup

/-- A look-up that has been begun: the number of its script, the argument that it is for, when the
console message was fired, and how long it may take. -/
structure Look where
  id : Nat
  ticket : Nat
  slot : Nat
  fired : Double
  limit : Limit
  lookup : Lookup

namespace Look

/-- When the look-up ends by itself. -/
def ends (look : Look) : Double :=
  look.fired + look.lookup.seconds

/-- When its time is over, if it ever is. -/
def over? (look : Look) : Option Double :=
  match look.limit with
  | .within seconds => some (look.fired + seconds)
  | _ => none

def settledAt (look : Look) : Double :=
  look.lookup.settledWithin look.limit look.fired

def outcome (look : Look) : Except Fault Value :=
  look.lookup.outcome look.limit look.fired

variable {α : Type}

/-- The script of a look-up. -/
def script (look : Look) : Script Host (Ending α) :=
  argumentScript look.ticket look.slot look.lookup.script

/-- The script of a look-up while it waits. -/
def waiting (look : Look) (elapsed cancelled : Bool) : Waiting α :=
  ⟨.sleep (.double look.lookup.seconds), fun answer => argumentScript look.ticket look.slot
    ((Script.done answer).bind fun _ => .done look.lookup.result), 0, elapsed, cancelled⟩

end Look

/-- The look-ups of a console message, with the numbers of their scripts. -/
def begun (limit : Limit) (id ticket slot : Nat) (fired : Double) : List Lookup → List Look
  | [] => []
  | lookup :: rest =>
    ⟨id, ticket, slot, fired, limit, lookup⟩ :: begun limit (id + 1) ticket (slot + 1) fired rest

theorem mem_begun {limit : Limit} {id ticket slot : Nat} {fired : Double} {lookups : List Lookup}
    {look : Look} : look ∈ begun limit id ticket slot fired lookups ↔
      ∃ i lookup, lookups[i]? = some lookup ∧
        look = ⟨id + i, ticket, slot + i, fired, limit, lookup⟩ := by
  induction lookups generalizing id slot with
  | nil => simp [begun]
  | cons first rest ih =>
    rw [begun, List.mem_cons, ih]
    constructor
    · rintro (rfl | ⟨i, lookup, hLookup, rfl⟩)
      · exact ⟨0, first, rfl, rfl⟩
      · exact ⟨i + 1, lookup, hLookup, by simp only [Nat.add_assoc, Nat.add_comm 1]⟩
    · rintro ⟨i, lookup, hLookup, rfl⟩
      cases i with
      | zero =>
        obtain rfl := Option.some.inj hLookup
        exact .inl rfl
      | succ i => exact .inr ⟨i, lookup, hLookup, by simp only [Nat.add_assoc, Nat.add_comm 1]⟩

/-! ## What a rehearsal holds about a script -/

/-- A turn is about a script. -/
def isOf (id : Nat) : Turn → Bool
  | .go n => n = id
  | .elapse n => n = id
  | .callOff n => n = id
  | _ => false

/-- What there is about a script: whether it runs, and what is to come for it, in order. -/
structure View (α : Type) where
  clock : Double
  task : Option (Task α)
  timers : List Timer
  turns : List Turn

variable {α : Type} {w after : World α} {id : Nat}

/-- What a rehearsal holds about a script. -/
def view (w : World α) (id : Nat) : View α :=
  ⟨w.clock, w.task? id, w.timers.filter fun timer => isOf id timer.turn,
    w.turns.filter (isOf id)⟩

theorem isOf_cases {turn : Turn} (hOf : isOf id turn = true) :
    turn = .go id ∨ turn = .elapse id ∨ turn = .callOff id := by
  cases turn <;> simp [isOf] at hOf ⊢ <;> exact hOf

/-- A turn is about one script at most. -/
theorem not_isOf {turn : Turn} {n : Nat} (hOf : isOf id turn = true)
    (hOther : n ≠ id) : isOf n turn = false := by
  rcases isOf_cases hOf with rfl | rfl | rfl <;> simpa [isOf] using hOther.symm

theorem view_addTurn {turn : Turn} (hOf : isOf id turn = true) :
    view (w.addTurn turn) id = { view w id with turns := (view w id).turns ++ [turn] } := by
  unfold view World.addTurn
  simp only [List.filter_append, List.filter_cons, hOf, if_true, List.filter_nil]
  rfl

theorem view_setWaiting {task : Task α} (hTask : w.task? id = some task) (waiting : Waiting α) :
    view (w.setWaiting id waiting) id =
      { view w id with task := some ⟨id, .waiting waiting⟩ } := by
  show View.mk _ _ _ _ = View.mk _ _ _ _
  rw [task?_waits hTask waiting]
  rfl

/-- Something is to happen to a script: later, or now if the time for it is not to come. -/
theorem view_addTimer (due : Double) {turn : Turn} (hOf : isOf id turn = true) :
    w.clock.lt due = true ∧ (∃ timers,
        view (w.addTimer due turn) id = { view w id with timers := timers } ∧
        ∀ timer, timer ∈ timers ↔ timer = ⟨due, turn⟩ ∨ timer ∈ (view w id).timers) ∨
      w.clock.lt due = false ∧
        view (w.addTimer due turn) id =
          { view w id with turns := (view w id).turns ++ [turn] } := by
  by_cases hLater : w.clock.lt due = true
  · have hAfter : w.addTimer due turn =
        { w with timers := insertTimer ⟨due, turn⟩ w.timers } := if_pos hLater
    rw [hAfter]
    refine .inl ⟨hLater, _, rfl, fun timer => ?_⟩
    have hOld : timer ∈ (view w id).timers ↔ timer ∈ w.timers ∧ isOf id timer.turn = true := by
      unfold view
      exact List.mem_filter
    rw [List.mem_filter, Quiet.mem_insertTimer, or_and_right, hOld]
    refine or_congr_left ⟨And.left, ?_⟩
    rintro rfl
    exact ⟨rfl, hOf⟩
  · have hAfter : w.addTimer due turn = w.addTurn turn := if_neg hLater
    rw [hAfter]
    exact .inr ⟨eq_false_of_ne_true hLater, view_addTurn hOf⟩

theorem view_pop {turn : Turn} {rest : List Turn} (hTurns : w.turns = turn :: rest)
    (hOf : isOf id turn = true) :
    view w id = { view { w with turns := rest } id with
      turns := turn :: (view { w with turns := rest } id).turns } := by
  unfold view
  rw [hTurns, List.filter_cons_of_pos hOf]
  rfl

/-! ### Changes that concern one script -/

/-- What holds of a rehearsal in which nothing but look-ups goes on: what is due later is in order,
everything to come is about scripts that have joined, and those that wait sleep. -/
structure Plain (w : World α) : Prop where
  punctual : Punctual w
  time : w.clock.IsTime
  known : ∀ task ∈ w.tasks, task.id < w.started
  asleep : ∀ task ∈ w.tasks, ∀ waiting, task.state = .waiting waiting →
    ∃ seconds, waiting.op = .sleep seconds
  timers : ∀ timer ∈ w.timers, ∃ id < w.started, isOf id timer.turn = true
  turns : ∀ turn ∈ w.turns, ∃ id < w.started, isOf id turn = true

/-- A change of such a rehearsal that concerns one script only. -/
structure Only (id : Nat) (w after : World α) : Prop where
  plain : Plain after
  clock : after.clock = w.clock
  started : after.started = w.started
  others : ∀ n ≠ id, view after n = view w n
  tasks : ∀ task ∈ after.tasks, ∃ old ∈ w.tasks, old.id = task.id

namespace Only

theorem refl (hPlain : Plain w) : Only id w w :=
  ⟨hPlain, rfl, rfl, fun _ _ => rfl, fun task hMem => ⟨task, hMem, rfl⟩⟩

theorem trans {v : World α} (hFirst : Only id w v) (hSecond : Only id v after) :
    Only id w after where
  plain := hSecond.plain
  clock := hSecond.clock.trans hFirst.clock
  started := hSecond.started.trans hFirst.started
  others n hOther := (hSecond.others n hOther).trans (hFirst.others n hOther)
  tasks task hMem := by
    obtain ⟨old, hOld, hSame⟩ := hSecond.tasks task hMem
    rw [← hSame]
    exact hFirst.tasks old hOld

/-- The turn that comes first is taken off. -/
theorem pop {turn : Turn} {rest : List Turn} (hPlain : Plain w) (hTurns : w.turns = turn :: rest)
    (hOf : isOf id turn = true) : Only id w { w with turns := rest } := by
  refine ⟨{ hPlain with
    punctual := ⟨hPlain.punctual.sorted, hPlain.punctual.ahead⟩
    turns := fun other hMem => hPlain.turns other (hTurns ▸ .tail _ hMem) }, rfl, rfl,
    fun n hOther => ?_, fun task hMem => ⟨task, hMem, rfl⟩⟩
  have hNot : ¬ isOf n turn = true := by
    rw [not_isOf hOf hOther]
    exact Bool.false_ne_true
  unfold view
  rw [hTurns, List.filter_cons_of_neg hNot]
  rfl

/-- A turn of the script is to come after all others. -/
theorem addTurn {turn : Turn} (hPlain : Plain w) (hKnown : id < w.started)
    (hOf : isOf id turn = true) : Only id w (w.addTurn turn) := by
  refine ⟨{ hPlain with
    punctual := ⟨hPlain.punctual.sorted, hPlain.punctual.ahead⟩
    turns := fun other hMem => ?_ }, rfl, rfl, fun n hOther => ?_,
    fun task hMem => ⟨task, hMem, rfl⟩⟩
  · rcases List.mem_append.mp hMem with hOld | hNew
    · exact hPlain.turns other hOld
    · rw [List.mem_singleton.mp hNew]
      exact ⟨id, hKnown, hOf⟩
  · unfold view World.addTurn
    simp only [List.filter_append, List.filter_cons, not_isOf hOf hOther, Bool.false_eq_true,
      if_false, List.filter_nil, List.append_nil]
    rfl

end Only

/-- A timer of one script is none of another's. -/
theorem filter_insertTimer {n : Nat} {timer : Timer} (hNot : isOf n timer.turn = false)
    (timers : List Timer) :
    (insertTimer timer timers).filter (fun t => isOf n t.turn) =
      timers.filter fun t => isOf n t.turn := by
  induction timers with
  | nil => simp [insertTimer, hNot]
  | cons first rest ih =>
    unfold insertTimer
    split
    · rw [List.filter_cons_of_neg (by simp [hNot])]
    · rw [List.filter_cons, List.filter_cons, ih]

namespace Only

/-- Something is to happen to the script later, or now. -/
theorem addTimer (due : Double) {turn : Turn} (hPlain : Plain w) (hKnown : id < w.started)
    (hOf : isOf id turn = true) : Only id w (w.addTimer due turn) := by
  unfold World.addTimer
  split
  · next hLater =>
    refine ⟨{ hPlain with
      punctual := ⟨Quiet.sorted_insertTimer hPlain.punctual.sorted hPlain.punctual.ahead hLater,
        fun timer hMem => ?_⟩
      timers := fun timer hMem => ?_ }, rfl, rfl, fun n hOther => ?_,
      fun task hMem => ⟨task, hMem, rfl⟩⟩
    · rcases Quiet.mem_insertTimer.mp hMem with rfl | hOld
      · exact hLater
      · exact hPlain.punctual.ahead timer hOld
    · rcases Quiet.mem_insertTimer.mp hMem with rfl | hOld
      · exact ⟨id, hKnown, hOf⟩
      · exact hPlain.timers timer hOld
    · unfold view
      rw [filter_insertTimer (not_isOf hOf hOther)]
      rfl
  · exact addTurn hPlain hKnown hOf

/-- The script sleeps. -/
theorem setWaiting (id : Nat) {waiting : Waiting α} (hPlain : Plain w)
    (hSleep : ∃ seconds, waiting.op = .sleep seconds) : Only id w (w.setWaiting id waiting) := by
  have hTasks : ∀ task ∈ (w.setWaiting id waiting).tasks, ∃ old ∈ w.tasks, old.id = task.id ∧
      (task = ⟨id, .waiting waiting⟩ ∨ task = old) := by
    intro task hMem
    obtain ⟨old, hOld, rfl⟩ := List.mem_map.mp hMem
    split
    · next hSame => exact ⟨old, hOld, hSame, .inl rfl⟩
    · exact ⟨old, hOld, rfl, .inr rfl⟩
  refine ⟨{ hPlain with
    punctual := ⟨hPlain.punctual.sorted, hPlain.punctual.ahead⟩
    known := fun task hMem => ?_
    asleep := fun task hMem given hState => ?_ }, rfl, rfl, fun n hOther => ?_,
    fun task hMem => ?_⟩
  · obtain ⟨old, hOld, hSame, -⟩ := hTasks task hMem
    rw [← hSame]
    exact hPlain.known old hOld
  · obtain ⟨old, hOld, -, rfl | rfl⟩ := hTasks task hMem
    · cases hState
      exact hSleep
    · exact hPlain.asleep task hOld given hState
  · have hTask : (w.setWaiting id waiting).task? n = w.task? n := by
      rw [task?_setWaiting]
      cases hFound : w.task? n with
      | none => rfl
      | some task => rw [Option.map_some, if_neg (by rwa [id_of_task? hFound])]
    show View.mk _ _ _ _ = View.mk _ _ _ _
    rw [hTask]
    rfl
  · obtain ⟨old, hOld, hSame, -⟩ := hTasks task hMem
    exact ⟨old, hOld, hSame⟩

/-- The script is done. -/
theorem leave (id : Nat) (hPlain : Plain w) :
    Only id w { w with tasks := w.tasks.filter fun task => task.id ≠ id } := by
  have hTasks : ∀ task ∈ w.tasks.filter (fun task => task.id ≠ id), task ∈ w.tasks :=
    fun task hMem => List.mem_of_mem_filter hMem
  refine ⟨{ hPlain with
    punctual := ⟨hPlain.punctual.sorted, hPlain.punctual.ahead⟩
    known := fun task hMem => hPlain.known task (hTasks task hMem)
    asleep := fun task hMem => hPlain.asleep task (hTasks task hMem) }, rfl, rfl,
    fun n hOther => ?_, fun task hMem => ⟨task, hTasks task hMem, rfl⟩⟩
  show View.mk _ _ _ _ = View.mk _ _ _ _
  rw [task?_filter w hOther]

/-- The end of its wait no longer counts. -/
theorem dropTimers (id : Nat) (hPlain : Plain w) : Only id w (w.dropTimers id) := by
  have hKeep : ∀ n ≠ id, ∀ turn, isOf n turn = true → Turn.isElapseOf id turn = false := by
    intro n hOther turn hOf
    rcases isOf_cases hOf with rfl | rfl | rfl
    · rfl
    · simpa [Turn.isElapseOf] using hOther
    · rfl
  refine ⟨{ hPlain with
    punctual := ⟨hPlain.punctual.sorted.filter _,
      fun timer hMem => hPlain.punctual.ahead timer (List.mem_of_mem_filter hMem)⟩
    timers := fun timer hMem => hPlain.timers timer (List.mem_of_mem_filter hMem)
    turns := fun turn hMem => hPlain.turns turn (List.mem_of_mem_filter hMem) }, rfl, rfl,
    fun n hOther => ?_, fun task hMem => ⟨task, hMem, rfl⟩⟩
  unfold view World.dropTimers
  simp only [List.filter_filter]
  congr 1
  · refine List.filter_congr fun timer _ => ?_
    cases hOf : isOf n timer.turn with
    | false => rfl
    | true => rw [hKeep n hOther _ hOf]; rfl
  · refine List.filter_congr fun turn _ => ?_
    cases hOf : isOf n turn with
    | false => rfl
    | true => rw [hKeep n hOther _ hOf]; rfl

end Only

/-! ## Where a look-up stands -/

namespace Look

variable {look : Look}

/-- The time of a look-up is not over before it begins. -/
theorem over_isTime (hFired : look.fired.IsTime) (hAllows : look.limit.Allows) {time : Double}
    (hOver : look.over? = some time) : time.IsTime ∧ look.fired.le time = true := by
  unfold over? at hOver
  generalize look.limit = limit at hAllows hOver
  cases hAllows with
  | unlimited => cases hOver
  | within hSeconds =>
    rw [← Option.some.inj hOver]
    exact ⟨hFired.add hSeconds, hFired.le_add hSeconds⟩

/-- A look-up ends in time if it takes none, or if it ends before its time is over. -/
theorem isInTime_iff (hAllows : look.limit.Allows) :
    look.lookup.isInTime look.limit look.fired = true ↔
      look.lookup.seconds.le Double.zero = true ∨
        ∀ time, look.over? = some time → look.ends.lt time = true := by
  unfold over? Lookup.isInTime
  generalize look.limit = limit at hAllows ⊢
  cases hAllows with
  | unlimited => simp
  | within => simp [ends]

/-- The argument is settled when the look-up ends, unless its time is over sooner. -/
theorem settledAt_cases (hAllows : look.limit.Allows) :
    look.over? = none ∧ look.settledAt = look.ends ∨
      ∃ time, look.over? = some time ∧ look.settledAt = Double.sooner time look.ends := by
  unfold settledAt Lookup.settledWithin over?
  generalize look.limit = limit at hAllows ⊢
  cases hAllows with
  | unlimited => exact .inl ⟨rfl, rfl⟩
  | within => exact .inr ⟨_, rfl, rfl⟩

end Look

/-- A look-up that has not begun: its turn comes before anything else does, and its time runs. -/
structure Fresh (look : Look) (v : View α) : Prop where
  task : v.task = some ⟨look.id, .fresh look.script⟩
  now : v.clock = look.fired
  first : ∃ rest, v.turns = .go look.id :: rest ∧ .go look.id ∉ rest
  limited : ∀ time, look.over? = some time →
    ⟨time, .callOff look.id⟩ ∈ v.timers ∨ .callOff look.id ∈ v.turns

/-- A look-up is called off before its turn comes again. -/
def CalledOffFirst (look : Look) (turns : List Turn) : Prop :=
  ∃ before after, turns = before ++ .go look.id :: after ∧ .callOff look.id ∈ before ∧
    .go look.id ∉ before

namespace CalledOffFirst

variable {look : Look} {turn : Turn} {turns : List Turn}

/-- Its turn does not come at once. -/
theorem not_cons_go (hFirst : CalledOffFirst look (.go look.id :: turns)) : False := by
  obtain ⟨before, after, hTurns, hOff, hNot⟩ := hFirst
  cases before with
  | nil => cases hOff
  | cons first rest =>
    obtain ⟨rfl, -⟩ := List.cons.inj hTurns
    exact hNot (.head _)

theorem tail (hFirst : CalledOffFirst look (turn :: turns)) (hOther : .callOff look.id ≠ turn) :
    CalledOffFirst look turns := by
  obtain ⟨before, after, hTurns, hOff, hNot⟩ := hFirst
  cases before with
  | nil => cases hOff
  | cons first rest =>
    obtain ⟨rfl, rfl⟩ := List.cons.inj hTurns
    exact ⟨rest, after, rfl, (List.mem_cons.mp hOff).resolve_left hOther,
      fun hGo => hNot (.tail _ hGo)⟩

theorem append (hFirst : CalledOffFirst look turns) (more : List Turn) :
    CalledOffFirst look (turns ++ more) := by
  obtain ⟨before, after, rfl, hOff, hNot⟩ := hFirst
  exact ⟨before, after ++ more, by simp, hOff, hNot⟩

end CalledOffFirst

/-- A look-up that waits, with what it has been told: that it has come to its end, and that it is
called off. What it has not been told is still to come, and once it has been told its turn is. One
that comes to its end when its time is over is told that as well before its turn comes. -/
structure Asleep (look : Look) (elapsed cancelled : Bool) (v : View α) : Prop where
  task : v.task = some ⟨look.id, .waiting (look.waiting elapsed cancelled)⟩
  lasts : look.lookup.seconds.le Double.zero = false
  alarm : elapsed = false →
    ⟨look.ends, .elapse look.id⟩ ∈ v.timers ∨ .elapse look.id ∈ v.turns
  limited : cancelled = false → ∀ time, look.over? = some time →
    ⟨time, .callOff look.id⟩ ∈ v.timers ∨ .callOff look.id ∈ v.turns
  idle : elapsed = false → cancelled = false → .go look.id ∉ v.turns
  awake : elapsed = true → .go look.id ∈ v.turns ∧ look.ends.le v.clock = true
  off : cancelled = true → .go look.id ∈ v.turns ∧
    ∃ time, look.over? = some time ∧ time.le v.clock = true
  late : elapsed = true → cancelled = false →
    look.lookup.isInTime look.limit look.fired = true ∨ CalledOffFirst look v.turns

/-- A look-up that is under way. Neither its end nor its limit is past, and what is to come for it
comes when it should. -/
structure Underway (look : Look) (v : View α) : Prop where
  ends : v.clock.le look.ends = true
  limit : ∀ time, look.over? = some time → v.clock.le time = true
  timers : ∀ timer ∈ v.timers, timer = ⟨look.ends, .elapse look.id⟩ ∨
    ∃ time, look.over? = some time ∧ timer = ⟨time, .callOff look.id⟩
  turns : ∀ turn ∈ v.turns, turn = .go look.id ∨
    turn = .elapse look.id ∧ look.ends.le v.clock = true ∨
    turn = .callOff look.id ∧ ∃ time, look.over? = some time ∧ time.le v.clock = true
  state : Fresh look v ∨ ∃ elapsed cancelled, Asleep look elapsed cancelled v

namespace Underway

variable {look : Look} {v : View α} {elapsed cancelled : Bool}

/-- A look-up that is under way is not late. -/
theorem le_settledAt (hUnderway : Underway look v) (hAllows : look.limit.Allows) :
    v.clock.le look.settledAt = true := by
  obtain ⟨-, hEnds⟩ | ⟨time, hOver, hSooner⟩ := Look.settledAt_cases hAllows
  · rw [hEnds]
    exact hUnderway.ends
  · rw [hSooner]
    exact Double.le_sooner (hUnderway.limit time hOver) hUnderway.ends

/-- A look-up that goes on is in time. -/
theorem settledAt_le (hFired : look.fired.IsTime) (hAllows : look.limit.Allows)
    (hDue : look.ends.le v.clock = true ∨
      ∃ time, look.over? = some time ∧ time.le v.clock = true) :
    look.settledAt.le v.clock = true := by
  obtain ⟨hNone, hEnds⟩ | ⟨time, hOver, hSooner⟩ := Look.settledAt_cases hAllows
  · rw [hEnds]
    refine hDue.resolve_right ?_
    rintro ⟨time, hOver, -⟩
    cases hNone.symm.trans hOver
  · obtain ⟨hLimit, -⟩ := Look.over_isTime hFired hAllows hOver
    rw [hSooner]
    rcases hDue with hEnds | ⟨other, hOther, hPast⟩
    · exact Double.le_trans (hLimit.sooner_le_right (hFired.add look.lookup.lasts)) hEnds
    · obtain rfl := Option.some.inj (hOther.symm.trans hOver)
      exact Double.le_trans (hLimit.sooner_le_left _) hPast

/-- A look-up is told something, and its turn comes. -/
theorem told {turn : Turn} {ended off : Bool}
    (hUnderway : Underway look { v with turns := turn :: v.turns })
    (hAsleep : Asleep look elapsed cancelled { v with turns := turn :: v.turns })
    (hTold : (ended || off) = true)
    (hEnded : ended = true → look.ends.le v.clock = true)
    (hOff : off = true → ∃ time, look.over? = some time ∧ time.le v.clock = true)
    (hRuns : ended = false → elapsed = false ∧ .elapse look.id ≠ turn)
    (hKept : off = false → cancelled = false ∧ .callOff look.id ≠ turn)
    (hLate : ended = true → off = false → look.lookup.isInTime look.limit look.fired = true ∨
      CalledOffFirst look (v.turns ++ [.go look.id])) :
    Underway look ({ v with
      task := some ⟨look.id, .waiting (look.waiting ended off)⟩
      turns := v.turns ++ [.go look.id] } : View α) where
  ends := hUnderway.ends
  limit := hUnderway.limit
  timers := hUnderway.timers
  turns other hMem := by
    rcases List.mem_append.mp hMem with hOld | hNew
    · exact hUnderway.turns other (.tail _ hOld)
    · exact .inl (List.mem_singleton.mp hNew)
  state := by
    have hGo : Turn.go look.id ∈ v.turns ++ [.go look.id] := List.mem_append_right _ (.head _)
    have hOther : ∀ {other : Turn}, other ≠ turn → other ∈ turn :: v.turns →
        other ∈ v.turns ++ [.go look.id] :=
      fun hNot hMem => List.mem_append_left _ ((List.mem_cons.mp hMem).resolve_left hNot)
    exact .inr ⟨ended, off, {
      task := rfl
      lasts := hAsleep.lasts
      alarm := fun hTime => (hAsleep.alarm (hRuns hTime).1).imp_right (hOther (hRuns hTime).2)
      limited := fun hStill time hOver =>
        (hAsleep.limited (hKept hStill).1 time hOver).imp_right (hOther (hKept hStill).2)
      idle := fun hTime hStill => by simp [hTime, hStill] at hTold
      awake := fun hOver => ⟨hGo, hEnded hOver⟩
      off := fun hOver => ⟨hGo, hOff hOver⟩
      late := hLate }⟩

end Underway

/-- A look-up comes to its end. If its time is over by then, it has yet to be told so, and that
comes before its turn: all that is due at an instant becomes a turn at once. -/
theorem Asleep.elapses {look : Look} {v : View α} {elapsed cancelled : Bool}
    (hFired : look.fired.IsTime) (hAllows : look.limit.Allows)
    (hAhead : ∀ timer ∈ v.timers, v.clock.lt timer.due = true)
    (hAsleep : Asleep look elapsed cancelled { v with turns := .elapse look.id :: v.turns })
    (hDue : look.ends.le v.clock = true) (hKept : cancelled = false) :
    look.lookup.isInTime look.limit look.fired = true ∨
      CalledOffFirst look (v.turns ++ [.go look.id]) := by
  by_cases hInTime : look.lookup.isInTime look.limit look.fired = true
  · exact .inl hInTime
  refine .inr ?_
  cases elapsed with
  | true =>
    have hFirst := (hAsleep.late rfl hKept).resolve_left hInTime
    exact (hFirst.tail nofun).append _
  | false =>
    -- Its time is over no later than it ends, and what is due now is no timer.
    have hLate : ∃ time, look.over? = some time ∧ ¬ look.ends.lt time = true := by
      rw [Look.isInTime_iff hAllows, not_or] at hInTime
      simpa using hInTime.2
    obtain ⟨time, hOver, hNotBefore⟩ := hLate
    have hPast : time.le v.clock = true := Double.le_trans
      ((hFired.add look.lookup.lasts).le_of_not_lt (Look.over_isTime hFired hAllows hOver).1
        (eq_false_of_ne_true hNotBefore)) hDue
    have hTurn : .callOff look.id ∈ v.turns := by
      rcases hAsleep.limited hKept time hOver with hTimer | hTurn
      · have hLater := hAhead _ hTimer
        rw [Double.not_lt_of_le hPast] at hLater
        cases hLater
      · exact (List.mem_cons.mp hTurn).resolve_left nofun
    exact ⟨v.turns, [], rfl, hTurn, fun hGo => hAsleep.idle rfl hKept (.tail _ hGo)⟩

/-- What comes of a look-up whose turn it is. -/
theorem Asleep.outcome_eq {look : Look} {v : View α} {elapsed cancelled : Bool}
    (hAllows : look.limit.Allows)
    (hUnderway : Underway look { v with turns := .go look.id :: v.turns })
    (hAsleep : Asleep look elapsed cancelled { v with turns := .go look.id :: v.turns })
    (hTold : (elapsed || cancelled) = true) :
    (if cancelled then .error .cancelled else look.lookup.result) = look.outcome := by
  unfold Look.outcome Lookup.outcome
  cases cancelled with
  | true =>
    -- It has not ended before this instant, and its time is over by now.
    obtain ⟨-, time, hOver, hPast⟩ := hAsleep.off rfl
    have hLate : look.lookup.isInTime look.limit look.fired ≠ true := by
      rw [Ne, Look.isInTime_iff hAllows, hAsleep.lasts, not_or]
      refine ⟨Bool.false_ne_true, fun hBefore => ?_⟩
      have hEnds := hBefore time hOver
      rw [Double.not_lt_of_le (Double.le_trans hPast hUnderway.ends)] at hEnds
      cases hEnds
    rw [if_pos rfl, if_neg hLate]
  | false =>
    have hInTime := (hAsleep.late (by simpa using hTold) rfl).resolve_right fun hFirst =>
      hFirst.not_cons_go
    rw [if_neg Bool.false_ne_true, if_pos hInTime]

/-- A look-up whose turn it is falls asleep until it ends. -/
theorem Underway.starts {look : Look} {turn : Turn} (hFired : look.fired.IsTime)
    (hLasts : look.lookup.seconds.le Double.zero = false)
    (hUnderway : Underway look { view w look.id with turns := turn :: (view w look.id).turns })
    (hFresh : Fresh look { view w look.id with turns := turn :: (view w look.id).turns }) :
    Underway look (view ((w.addTimer look.ends (.elapse look.id)).setWaiting look.id
      (look.waiting false false)) look.id) := by
  have hTask : w.task? look.id = some ⟨look.id, .fresh look.script⟩ := hFresh.task
  have hClock : w.clock = look.fired := hFresh.now
  have hOf : isOf look.id (.elapse look.id) = true := by simp [isOf]
  have hTimersOf := hUnderway.timers
  have hTurnsOf : ∀ other ∈ (view w look.id).turns, _ := fun other hMem =>
    hUnderway.turns other (.tail _ hMem)
  -- Its own turn is first, so a turn that calls it off comes after that.
  obtain ⟨_, hFirst, hOnce⟩ := hFresh.first
  obtain ⟨rfl, rfl⟩ := List.cons.inj hFirst
  have hLimited : ∀ time, look.over? = some time →
      ⟨time, .callOff look.id⟩ ∈ (view w look.id).timers ∨
        .callOff look.id ∈ (view w look.id).turns := fun time hOver =>
    (hFresh.limited time hOver).imp_right fun hMem => (List.mem_cons.mp hMem).resolve_left (by simp)
  have hStill : (w.addTimer look.ends (.elapse look.id)).task? look.id =
      some ⟨look.id, .fresh look.script⟩ := by
    unfold World.addTimer
    split <;> exact hTask
  rw [view_setWaiting hStill]
  rcases view_addTimer (w := w) look.ends hOf with ⟨-, timers, hView, hTimers⟩ | ⟨hNow, hView⟩
  · rw [hView]
    refine ⟨hUnderway.ends, hUnderway.limit, fun timer hMem => ?_, hTurnsOf,
      .inr ⟨false, false, {
        task := rfl
        lasts := hLasts
        alarm := fun _ => .inl ((hTimers _).mpr (.inl rfl))
        limited := fun _ time hOver =>
          (hLimited time hOver).imp_left fun hMem => (hTimers _).mpr (.inr hMem)
        idle := fun _ _ => hOnce
        awake := nofun
        off := nofun
        late := nofun }⟩⟩
    exact ((hTimers timer).mp hMem).elim .inl (hTimersOf timer)
  · -- A look-up too short for the clock to show ends at once.
    have hDue : look.ends.le w.clock = true := by
      rw [hClock] at hNow ⊢
      exact hFired.le_of_not_lt (hFired.add look.lookup.lasts) hNow
    rw [hView]
    refine ⟨hUnderway.ends, hUnderway.limit, hTimersOf, fun other hMem => ?_,
      .inr ⟨false, false, {
        task := rfl
        lasts := hLasts
        alarm := fun _ => .inr (List.mem_append_right _ (.head _))
        limited := fun _ time hOver => (hLimited time hOver).imp_right (List.mem_append_left _)
        idle := fun _ _ hGo => (List.mem_append.mp hGo).elim hOnce (by simp)
        awake := nofun
        off := nofun
        late := nofun }⟩⟩
    rcases List.mem_append.mp hMem with hOld | hNew
    · exact hTurnsOf other hOld
    · exact .inr (.inl ⟨List.mem_singleton.mp hNew, hDue⟩)

end LookupRun

end PageReporter
