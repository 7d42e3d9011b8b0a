import Mathlib
import PageReporter.Proofs.Lookups

/-!
# Turns among look-ups

Where nothing but look-ups goes on, every turn is about a look-up that is under way or about one
that is over. A turn comes to nothing that can be seen, or it settles one argument, and then at the
very instant at which that is to be settled. The clock moves only when no turn is left, and never
past the end of a look-up. Each turn and each move of the clock leaves less to do, so that all
look-ups come to their ends.

* `Tracked` — the look-ups that are under way are all that runs;
* `Passes`, `Settles` — what a turn comes to; `Tracked.takes` — there is nothing else;
* `Tracked.moves` — the clock moves; `Tracked.begins_all` — the look-ups of a message are begun;
* `Tracked.pump` — the feed takes its course beside them;
* `load` — what is left to do; `Tracked.next_load` — whatever comes next leaves less.
-/

namespace PageReporter

namespace LookupRun

open World

variable {α : Type} {w after : World α} {id : Nat}

/-! ## All that are under way -/

/-- The look-ups that are under way are all that runs. -/
structure Tracked (looks : List Look) (w : World α) : Prop where
  plain : Plain w
  known : ∀ look ∈ looks, look.id < w.started
  fired : ∀ look ∈ looks, look.fired.IsTime
  allows : ∀ look ∈ looks, look.limit.Allows
  distinct : (looks.map Look.id).Nodup
  owned : ∀ task ∈ w.tasks, ∃ look ∈ looks, look.id = task.id
  underway : ∀ look ∈ looks, Underway look (view w look.id)

namespace Tracked

variable {looks : List Look}

/-- A change that concerns one script, and leaves it where it should be. -/
theorem only (hTracked : Tracked looks w) (hOnly : Only id w after)
    (hOwn : ∀ look ∈ looks, look.id = id → Underway look (view after look.id)) :
    Tracked looks after where
  plain := hOnly.plain
  known look hMem := hOnly.started ▸ hTracked.known look hMem
  fired := hTracked.fired
  allows := hTracked.allows
  distinct := hTracked.distinct
  owned task hMem := by
    obtain ⟨old, hOld, hSame⟩ := hOnly.tasks task hMem
    rw [← hSame]
    exact hTracked.owned old hOld
  underway look hMem := by
    by_cases hSame : look.id = id
    · exact hOwn look hMem hSame
    · rw [hOnly.others look.id hSame]
      exact hTracked.underway look hMem

/-- A change with which one script is done. -/
theorem gone (hTracked : Tracked looks w) (hOnly : Only id w after)
    (hGone : ∀ task ∈ after.tasks, task.id ≠ id) :
    Tracked (looks.filter fun look => look.id ≠ id) after where
  plain := hOnly.plain
  known look hMem := hOnly.started ▸ hTracked.known look (List.mem_of_mem_filter hMem)
  fired look hMem := hTracked.fired look (List.mem_of_mem_filter hMem)
  allows look hMem := hTracked.allows look (List.mem_of_mem_filter hMem)
  distinct := hTracked.distinct.sublist (List.filter_sublist.map _)
  owned task hMem := by
    obtain ⟨old, hOld, hSame⟩ := hOnly.tasks task hMem
    obtain ⟨look, hLook, hId⟩ := hTracked.owned old hOld
    refine ⟨look, List.mem_filter.mpr ⟨hLook, ?_⟩, hId.trans hSame⟩
    rw [hId, hSame]
    simpa using hGone task hMem
  underway look hMem := by
    obtain ⟨hMem, hOther⟩ := List.mem_filter.mp hMem
    rw [hOnly.others look.id (by simpa using hOther)]
    exact hTracked.underway look hMem

/-- A change of nothing that look-ups depend on. -/
theorem ofAgenda (hTracked : Tracked looks w) (hAgenda : after.agenda = w.agenda) :
    Tracked looks after := by
  simp only [World.agenda, Prod.mk.injEq] at hAgenda
  obtain ⟨hClock, hTimers, hTurns, hTasks, hStarted, -⟩ := hAgenda
  have hPlain := hTracked.plain
  have hView : ∀ id, view after id = view w id := by
    intro id
    unfold view World.task?
    rw [hClock, hTimers, hTurns, hTasks]
  refine ⟨⟨⟨?_, ?_⟩, ?_, ?_, ?_, ?_, ?_⟩, ?_, hTracked.fired, hTracked.allows,
    hTracked.distinct, ?_, ?_⟩
  · rw [hTimers]
    exact hPlain.punctual.sorted
  · rw [hTimers, hClock]
    exact hPlain.punctual.ahead
  · rw [hClock]
    exact hPlain.time
  · rw [hTasks, hStarted]
    exact hPlain.known
  · rw [hTasks]
    exact hPlain.asleep
  · rw [hTimers, hStarted]
    exact hPlain.timers
  · rw [hTurns, hStarted]
    exact hPlain.turns
  · rw [hStarted]
    exact hTracked.known
  · rw [hTasks]
    exact hTracked.owned
  · intro look hMem
    rw [hView]
    exact hTracked.underway look hMem

/-- Look-ups are told apart by their scripts. -/
theorem unique (hTracked : Tracked looks w) {look other : Look} (hMem : look ∈ looks)
    (hOther : other ∈ looks) (hSame : look.id = other.id) : look = other :=
  List.inj_on_of_nodup_map hTracked.distinct hMem hOther hSame

/-- Whoever runs is a look-up that is under way. -/
theorem look_of_task (hTracked : Tracked looks w) {task : Task α} (hTask : w.task? id = some task) :
    ∃ look ∈ looks, look.id = id ∧ Underway look (view w look.id) := by
  obtain ⟨look, hMem, hSame⟩ := hTracked.owned task (List.mem_of_find?_eq_some hTask)
  exact ⟨look, hMem, hSame.trans (id_of_task? hTask), hTracked.underway look hMem⟩

/-- A look-up that is under way runs. -/
theorem task_of_look (hTracked : Tracked looks w) {look : Look} (hMem : look ∈ looks) :
    w.task? look.id ≠ none := by
  have hUnderway := hTracked.underway look hMem
  have hTask : (view w look.id).task ≠ none := by
    rcases hUnderway.state with hFresh | ⟨_, _, hAsleep⟩
    · rw [hFresh.task]
      simp
    · rw [hAsleep.task]
      simp
  exact hTask

end Tracked

/-! ### How much is left to do -/

/-- A script that has not begun. -/
def isFresh (task : Task α) : Bool :=
  match task.state with
  | .fresh _ => true
  | .waiting _ => false

/-- How many turns a turn may still lead to, with itself. -/
def weight : Turn → Nat
  | .go _ => 1
  | _ => 2

theorem weight_le (turn : Turn) : weight turn ≤ 2 := by
  cases turn <;> simp [weight]

theorem sum_weight_le (turns : List Turn) : (turns.map weight).sum ≤ 2 * turns.length := by
  induction turns with
  | nil => exact Nat.le_refl _
  | cons turn rest ih =>
    have hFirst := weight_le turn
    simp only [List.map_cons, List.sum_cons, List.length_cons]
    omega

/-- What is left to do: a timer comes to a turn, and a script that begins may set a timer. -/
def load (w : World α) : Nat :=
  (w.turns.map weight).sum + 3 * w.timers.length + 5 * w.tasks.countP isFresh

theorem load_addTurn (turn : Turn) : load (w.addTurn turn) = load w + weight turn := by
  simp only [load, World.addTurn, List.map_append, List.sum_append, List.map_cons, List.map_nil,
    List.sum_cons, List.sum_nil]
  omega

theorem load_pop {turn : Turn} {rest : List Turn} (hTurns : w.turns = turn :: rest) :
    load w = load { w with turns := rest } + weight turn := by
  simp only [load, hTurns, List.map_cons, List.sum_cons]
  omega

theorem length_insertTimer (timer : Timer) (timers : List Timer) :
    (insertTimer timer timers).length = timers.length + 1 := by
  induction timers with
  | nil => rfl
  | cons first rest ih =>
    unfold insertTimer
    split
    · rfl
    · rw [List.length_cons, ih, List.length_cons]

theorem load_addTimer (w : World α) (due : Double) (turn : Turn) :
    load (w.addTimer due turn) ≤ load w + 3 := by
  have hWeight := weight_le turn
  unfold World.addTimer
  split
  · simp only [load, length_insertTimer]
    omega
  · rw [load_addTurn]
    omega

theorem sum_filter_le (p : Turn → Bool) (turns : List Turn) :
    ((turns.filter p).map weight).sum ≤ (turns.map weight).sum := by
  induction turns with
  | nil => exact Nat.le_refl _
  | cons turn rest ih =>
    rw [List.filter_cons]
    split <;> simp only [List.map_cons, List.sum_cons] <;> omega

theorem load_dropTimers (w : World α) (id : Nat) : load (w.dropTimers id) ≤ load w := by
  have hTurns := sum_filter_le (fun t => !Turn.isElapseOf id t) w.turns
  have hTimers := w.timers.length_filter_le fun t => !Turn.isElapseOf id t.turn
  simp only [load, World.dropTimers]
  omega

theorem load_leave (w : World α) (id : Nat) :
    load { w with tasks := w.tasks.filter fun t => t.id ≠ id } ≤ load w :=
  Nat.add_le_add_left (Nat.mul_le_mul_left 5 (List.filter_sublist.countP_le)) _

/-- A script that begins to sleep has begun. -/
theorem countP_sleeps (waiting : Waiting α) (tasks : List (Task α)) :
    (tasks.map fun t => if t.id = id then (⟨id, .waiting waiting⟩ : Task α) else t).countP isFresh ≤
        tasks.countP isFresh ∧
      ∀ task ∈ tasks, task.id = id → isFresh task = true →
        (tasks.map fun t => if t.id = id then (⟨id, .waiting waiting⟩ : Task α) else t).countP
          isFresh + 1 ≤ tasks.countP isFresh := by
  induction tasks with
  | nil => exact ⟨Nat.le_refl _, nofun⟩
  | cons first rest ih =>
    obtain ⟨hLe, hLess⟩ := ih
    rw [List.map_cons, List.countP_cons, List.countP_cons]
    by_cases hSame : first.id = id
    · rw [if_pos hSame, if_neg (by simp [isFresh])]
      refine ⟨by omega, fun task hMem hOwn hFresh => ?_⟩
      rcases List.mem_cons.mp hMem with rfl | hMem
      · rw [if_pos hFresh]
        omega
      · have hRest := hLess task hMem hOwn hFresh
        omega
    · rw [if_neg hSame]
      refine ⟨by omega, fun task hMem hOwn hFresh => ?_⟩
      rcases List.mem_cons.mp hMem with rfl | hMem
      · exact absurd hOwn hSame
      · have hRest := hLess task hMem hOwn hFresh
        omega

theorem load_setWaiting (w : World α) (id : Nat) (waiting : Waiting α) :
    load (w.setWaiting id waiting) ≤ load w :=
  Nat.add_le_add_left (Nat.mul_le_mul_left 5 (countP_sleeps waiting w.tasks).1) _

theorem load_starts (waiting : Waiting α) {task : Task α} (hTask : w.task? id = some task)
    (hFresh : isFresh task = true) : load (w.setWaiting id waiting) + 5 ≤ load w := by
  have hLess := (countP_sleeps waiting w.tasks).2 task (List.mem_of_find?_eq_some hTask)
    (id_of_task? hTask) hFresh
  simp only [load, World.setWaiting]
  omega

theorem load_agenda (hAgenda : after.agenda = w.agenda) : load after = load w := by
  simp only [World.agenda, Prod.mk.injEq] at hAgenda
  obtain ⟨-, hTimers, hTurns, hTasks, -⟩ := hAgenda
  unfold load
  rw [hTimers, hTurns, hTasks]

/-! ### Turns -/

/-- A look-up goes on: it falls asleep. -/
theorem proceed_starts {look : Look} (hSome : look.lookup.seconds.le Double.zero = false) :
    proceed look.id look.script w =
      (w.addTimer (w.clock + look.lookup.seconds) (.elapse look.id)).setWaiting look.id
        (look.waiting false false) := by
  have hLimit : Limit.ofValue (.double look.lookup.seconds) =
      .ok (.within look.lookup.seconds) := by
    unfold Limit.ofValue Limit.isOver Value.asDouble
    dsimp only [Value.isNull, Value.number?]
    rw [hSome]
    rfl
  have hBegin : w.begin look.id (.sleep (.double look.lookup.seconds)) =
      .waits (w.within look.id (.within look.lookup.seconds)) 0 := by
    unfold World.begin
    simp only [hLimit]
  have hScript : (look.script : Script Host (Ending α)) =
      .ask (.sleep (.double look.lookup.seconds)) fun answer =>
        argumentScript look.ticket look.slot
          ((Script.done answer).bind fun _ => .done look.lookup.result) := by
    unfold Look.script Lookup.script
    rw [hSome]
    rfl
  rw [hScript]
  unfold proceed
  rw [hBegin]
  rfl

/-- A look-up is done, and its argument is settled. -/
theorem proceed_settles {look : Look} (hNone : look.lookup.seconds.le Double.zero = true) :
    proceed look.id look.script w =
      pump (World.settleArgument { w with tasks := w.tasks.filter fun t => t.id ≠ look.id }
        look.ticket look.slot look.lookup.result) := by
  unfold Look.script Lookup.script
  rw [if_pos hNone]
  rfl

/-- The turn of a look-up that has been told something. -/
theorem go_settles {look : Look} {elapsed cancelled : Bool}
    (hTask : w.task? look.id = some ⟨look.id, .waiting (look.waiting elapsed cancelled)⟩)
    (hTold : (elapsed || cancelled) = true) :
    w.go look.id =
      pump (World.settleArgument
        { w.dropTimers look.id with tasks := w.tasks.filter fun t => t.id ≠ look.id }
        look.ticket look.slot (if cancelled then .error .cancelled else look.lookup.result)) := by
  unfold World.go
  rw [hTask]
  cases cancelled with
  | true => rfl
  | false =>
    rw [Bool.or_false] at hTold
    subst hTold
    rfl

/-- A turn, with what is left of the turns, comes to nothing but a change of what is under way. -/
def Passes (looks : List Look) (w : World α) (turn : Turn) (rest : List Turn) : Prop :=
  ∃ v : World α, Tracked looks v ∧ v.clock = w.clock ∧ load v < load w ∧
    ∀ feed, World.takeTurn { w with turns := rest, feed := feed } turn = { v with feed := feed }

/-- A turn settles an argument, at the instant at which it should be and with what it should. -/
def Settles (looks : List Look) (w : World α) (turn : Turn) (rest : List Turn) : Prop :=
  ∃ look ∈ looks, ∃ v : World α,
    Tracked (looks.filter fun other => other.id ≠ look.id) v ∧ v.clock = w.clock ∧
    load v < load w ∧ look.settledAt.le w.clock = true ∧
    ∀ feed, World.takeTurn { w with turns := rest, feed := feed } turn =
      pump { v with feed := feed.settle look.ticket look.slot look.outcome }

namespace Tracked

variable {looks : List Look} {turn : Turn} {rest : List Turn}

/-- A turn about a script that is done. -/
theorem turn_gone (hTracked : Tracked looks w) (hTurns : w.turns = turn :: rest)
    (hOf : isOf id turn = true) (hKnown : id < w.started) (hGone : w.task? id = none) :
    Passes looks w turn rest := by
  have hPop := Only.pop hTracked.plain hTurns hOf
  have hOther : ∀ look ∈ looks, look.id ≠ id := fun look hMem hSame =>
    hTracked.task_of_look hMem (hSame ▸ hGone)
  have hTracks : ∀ {v : World α}, Only id w v → Tracked looks v := fun hOnly =>
    hTracked.only hOnly fun look hMem hSame => absurd hSame (hOther look hMem)
  have hLoad := load_pop hTurns
  rcases isOf_cases hOf with rfl | rfl | rfl
  · refine ⟨{ w with turns := rest }, hTracks hPop, rfl, ?_, fun feed => ?_⟩
    · simp only [weight] at hLoad
      omega
    · show World.go _ id = _
      unfold World.go
      rw [show World.task? { w with turns := rest, feed := feed } id = none from hGone]
  · have hGo : isOf id (.go id) = true := by simp [isOf]
    refine ⟨World.addTurn { w with turns := rest } (.go id),
      hTracks (hPop.trans (.addTurn hPop.plain hKnown hGo)), rfl, ?_, fun feed => ?_⟩
    · rw [load_addTurn]
      simp only [weight] at hLoad ⊢
      omega
    · show World.addTurn (World.mark _ id _) _ = _
      unfold World.mark
      rw [show World.task? { w with turns := rest, feed := feed } id = none from hGone]
      rfl
  · refine ⟨{ w with turns := rest }, hTracks hPop, rfl, ?_, fun feed => ?_⟩
    · simp only [weight] at hLoad
      omega
    · show World.callOff _ id = _
      unfold World.callOff
      rw [show World.task? { w with turns := rest, feed := feed } id = none from hGone]

/-- The turn of a look-up that has not begun. -/
theorem turn_fresh (hTracked : Tracked looks w) (hTurns : w.turns = turn :: rest) {look : Look}
    (hMem : look ∈ looks) (hOf : isOf look.id turn = true) (hFresh : Fresh look (view w look.id)) :
    Passes looks w turn rest ∨ Settles looks w turn rest := by
  have hPop := Only.pop hTracked.plain hTurns hOf
  have hFired := hTracked.fired look hMem
  have hUnderway := hTracked.underway look hMem
  have hTask : w.task? look.id = some ⟨look.id, .fresh look.script⟩ := hFresh.task
  have hClock : w.clock = look.fired := hFresh.now
  have hLoad := load_pop hTurns
  -- The first turn about it is its own.
  rw [view_pop hTurns hOf] at hUnderway hFresh
  obtain ⟨_, hFirst, -⟩ := hFresh.first
  obtain ⟨rfl, -⟩ := List.cons.inj hFirst
  simp only [weight] at hLoad
  have hGo : ∀ feed : Feed, World.takeTurn { w with turns := rest, feed := feed } (.go look.id) =
      proceed look.id look.script { w with turns := rest, feed := feed } := by
    intro feed
    show World.go _ _ = _
    unfold World.go
    rw [show World.task? { w with turns := rest, feed := feed } look.id = _ from hTask]
  cases hNone : look.lookup.seconds.le Double.zero with
  | false =>
    left
    have hElapse : isOf look.id (.elapse look.id) = true := by simp [isOf]
    have hAlarm := Only.addTimer look.ends hPop.plain (hTracked.known look hMem) hElapse
    have hSleeps : Only look.id _ (World.setWaiting _ look.id (look.waiting false false)) :=
      .setWaiting look.id hAlarm.plain ⟨_, rfl⟩
    refine ⟨_, hTracked.only (hPop.trans (hAlarm.trans hSleeps)) fun other hOther hSame => ?_, ?_,
      ?_, fun feed => ?_⟩
    · rw [hTracked.unique hOther hMem hSame]
      exact Underway.starts hFired hNone hUnderway hFresh
    · exact hSleeps.clock.trans (hAlarm.clock.trans hPop.clock)
    · have hTimer := load_addTimer { w with turns := rest } look.ends (.elapse look.id)
      have hStill : World.task? (World.addTimer { w with turns := rest } look.ends
          (.elapse look.id)) look.id = some ⟨look.id, .fresh look.script⟩ := by
        unfold World.addTimer
        split <;> exact hTask
      have hStarts := load_starts (look.waiting false false) hStill rfl
      omega
    · rw [hGo, proceed_starts hNone]
      show World.setWaiting (World.addTimer _ (w.clock + _) _) _ _ = _
      rw [hClock]
      unfold World.addTimer
      split <;> split <;> first | rfl | contradiction
  | true =>
    right
    have hLeave := Only.leave look.id hPop.plain
    have hZero : look.lookup.seconds = Double.zero :=
      look.lookup.lasts.le_antisymm .zero hNone look.lookup.lasts.zero_le
    have hEnds : look.ends = look.fired := by
      rw [Look.ends, hZero, hFired.add_zero]
    have hInTime := (Look.isInTime_iff (hTracked.allows look hMem)).mpr (.inl hNone)
    have hOutcome : look.outcome = look.lookup.result := if_pos hInTime
    refine ⟨look, hMem, _, hTracked.gone (hPop.trans hLeave) fun task hTask => ?_, rfl, ?_, ?_,
      fun feed => ?_⟩
    · simpa using (List.mem_filter.mp hTask).2
    · have hLess := load_leave { w with turns := rest } look.id
      omega
    · have hDue : look.ends.le (view w look.id).clock = true := by
        show look.ends.le w.clock = true
        rw [hClock, hEnds]
        exact hFired.le_refl
      exact Underway.settledAt_le hFired (hTracked.allows look hMem) (.inl hDue)
    · rw [hGo, proceed_settles hNone, hOutcome]
      rfl

/-- The turn of a look-up that sleeps: it is told something, or goes on. -/
theorem turn_asleep (hTracked : Tracked looks w) (hTurns : w.turns = turn :: rest) {look : Look}
    (hMem : look ∈ looks) (hOf : isOf look.id turn = true) {elapsed cancelled : Bool}
    (hAsleep : Asleep look elapsed cancelled (view w look.id)) :
    Passes looks w turn rest ∨ Settles looks w turn rest := by
  have hPop := Only.pop hTracked.plain hTurns hOf
  have hUnderway := hTracked.underway look hMem
  have hTask : w.task? look.id = some ⟨look.id, .waiting (look.waiting elapsed cancelled)⟩ :=
    hAsleep.task
  have hLoad := load_pop hTurns
  have hOver := hAsleep.awake
  have hOff := hAsleep.off
  rw [view_pop hTurns hOf] at hUnderway hAsleep
  have hFired := hTracked.fired look hMem
  have hAllows := hTracked.allows look hMem
  have hTurn : turn = .go look.id ∨ turn = .elapse look.id ∧ look.ends.le w.clock = true ∨
      turn = .callOff look.id ∧ ∃ time, look.over? = some time ∧ time.le w.clock = true :=
    hUnderway.turns turn (.head _)
  have hAhead : ∀ timer ∈ (view { w with turns := rest } look.id).timers,
      (view { w with turns := rest } look.id).clock.lt timer.due = true := fun timer hTimer =>
    hTracked.plain.punctual.ahead timer (List.mem_of_mem_filter hTimer)
  -- What it is told only marks its wait, and its turn comes.
  have hTold : ∀ ended off : Bool, weight turn = 2 →
      (∀ feed : Feed, World.takeTurn { w with turns := rest, feed := feed } turn =
        World.addTurn (World.setWaiting { w with turns := rest, feed := feed } look.id
          (look.waiting ended off)) (.go look.id)) →
      Underway look ({ view { w with turns := rest } look.id with
        task := some ⟨look.id, .waiting (look.waiting ended off)⟩
        turns := (view { w with turns := rest } look.id).turns ++ [.go look.id] } : View α) →
      Passes looks w turn rest := by
    intro ended off hWeight hTakes hStill
    have hGo : isOf look.id (.go look.id) = true := by simp [isOf]
    have hMarked : Only look.id _ (World.setWaiting _ look.id (look.waiting ended off)) :=
      .setWaiting look.id hPop.plain ⟨_, rfl⟩
    have hQueued := Only.addTurn hMarked.plain (hTracked.known look hMem) hGo
    refine ⟨_, hTracked.only (hPop.trans (hMarked.trans hQueued)) fun other hOther hSame => ?_, rfl,
      ?_, fun feed => (hTakes feed).trans rfl⟩
    · rw [hTracked.unique hOther hMem hSame, view_addTurn hGo,
        view_setWaiting (w := { w with turns := rest }) hTask]
      exact hStill
    · have hLess := load_setWaiting { w with turns := rest } look.id (look.waiting ended off)
      rw [hWeight] at hLoad
      rw [load_addTurn]
      show _ + 1 < _
      omega
  rcases isOf_cases hOf with rfl | rfl | rfl
  · simp only [weight] at hLoad
    cases hTime : elapsed || cancelled with
    | false =>
      obtain ⟨rfl, rfl⟩ := Bool.or_eq_false_iff.mp hTime
      exact absurd (.head _) (hAsleep.idle rfl rfl)
    | true =>
      right
      have hDrop := Only.dropTimers look.id hPop.plain
      have hLeave := Only.leave look.id hDrop.plain
      refine ⟨look, hMem, _,
        hTracked.gone (hPop.trans (hDrop.trans hLeave)) fun task hTask => ?_, rfl, ?_, ?_,
        fun feed => ?_⟩
      · simpa using (List.mem_filter.mp hTask).2
      · have hLess := load_leave (World.dropTimers { w with turns := rest } look.id) look.id
        have hFewer := load_dropTimers { w with turns := rest } look.id
        omega
      · have hDue := (Bool.or_eq_true_iff.mp hTime).imp (fun hElapsed => (hOver hElapsed).2)
          fun hCancelled => (hOff hCancelled).2
        exact Underway.settledAt_le (v := view w look.id) hFired hAllows hDue
      · rw [← hAsleep.outcome_eq hAllows hUnderway hTime]
        exact go_settles (w := { w with turns := rest, feed := feed }) hTask hTime
  · have hDue : look.ends.le w.clock = true := by simpa using hTurn
    refine .inl (hTold true cancelled rfl (fun feed => ?_)
      (hUnderway.told hAsleep (Bool.true_or _) (fun _ => hDue) (fun hSet => (hOff hSet).2)
        (fun hSet => by cases hSet) (fun hKept => ⟨hKept, by simp⟩) fun _ hKept =>
        hAsleep.elapses hFired hAllows hAhead hDue hKept))
    show World.addTurn (World.mark _ _ _) _ = _
    rw [mark_waiting (w := { w with turns := rest, feed := feed }) hTask]
    rfl
  · have hDue : ∃ time, look.over? = some time ∧ time.le w.clock = true := by simpa using hTurn
    refine .inl (hTold elapsed true rfl (fun feed => ?_)
      (hUnderway.told hAsleep (Bool.or_true _) (fun hSet => (hOver hSet).2) (fun _ => hDue)
        (fun hTime => ⟨hTime, by simp⟩) (fun hSet => by cases hSet) fun _ hSet => by cases hSet))
    show World.callOff _ _ = _
    unfold World.callOff
    rw [show World.task? { w with turns := rest, feed := feed } look.id = _ from hTask]
    rfl

/-- **A turn comes to nothing, or settles an argument at the instant at which it should be.** -/
theorem takes (hTracked : Tracked looks w) (hTurns : w.turns = turn :: rest) :
    Passes looks w turn rest ∨ Settles looks w turn rest := by
  obtain ⟨id, hKnown, hOf⟩ := hTracked.plain.turns turn (hTurns ▸ .head rest)
  cases hTask : w.task? id with
  | none => exact .inl (hTracked.turn_gone hTurns hOf hKnown hTask)
  | some task =>
    obtain ⟨look, hMem, rfl, hUnderway⟩ := hTracked.look_of_task hTask
    rcases hUnderway.state with hFresh | ⟨elapsed, cancelled, hAsleep⟩
    · exact hTracked.turn_fresh hTurns hMem hOf hFresh
    · exact hTracked.turn_asleep hTurns hMem hOf hAsleep

/-- Where no turn is left, a look-up sleeps and has been told nothing. -/
theorem sleeps (hTracked : Tracked looks w) (hSettled : w.turns = []) {look : Look}
    (hMem : look ∈ looks) :
    (view w look.id).task = some ⟨look.id, .waiting (look.waiting false false)⟩ ∧
      look.lookup.seconds.le Double.zero = false ∧ ⟨look.ends, .elapse look.id⟩ ∈ w.timers ∧
      ∀ time, look.over? = some time → ⟨time, .callOff look.id⟩ ∈ w.timers := by
  have hNone : (view w look.id).turns = [] := by
    unfold view
    rw [hSettled]
    rfl
  rcases (hTracked.underway look hMem).state with hFresh | ⟨elapsed, cancelled, hAsleep⟩
  · obtain ⟨_, hFirst, -⟩ := hFresh.first
    rw [hNone] at hFirst
    cases hFirst
  · have hOver := hAsleep.awake
    have hOff := hAsleep.off
    have hAlarm := hAsleep.alarm
    have hLimited := hAsleep.limited
    rw [hNone] at hOver hOff hAlarm hLimited
    obtain rfl : elapsed = false := eq_false_of_ne_true fun hSet => by cases (hOver hSet).1
    obtain rfl : cancelled = false := eq_false_of_ne_true fun hSet => by cases (hOff hSet).1
    refine ⟨hAsleep.task, hAsleep.lasts, ?_, fun time hOver => ?_⟩
    · exact List.mem_of_mem_filter ((hAlarm rfl).resolve_right List.not_mem_nil)
    · exact List.mem_of_mem_filter ((hLimited rfl time hOver).resolve_right List.not_mem_nil)

/-- Where no turn is left, no argument was to be settled yet. -/
theorem lt_settledAt (hTracked : Tracked looks w) (hSettled : w.turns = []) {look : Look}
    (hMem : look ∈ looks) : w.clock.lt look.settledAt = true := by
  obtain ⟨-, -, hAlarm, hLimited⟩ := hTracked.sleeps hSettled hMem
  have hAhead := hTracked.plain.punctual.ahead
  obtain ⟨-, hEnds⟩ | ⟨time, hOver, hSooner⟩ := Look.settledAt_cases (hTracked.allows look hMem)
  · rw [hEnds]
    exact hAhead _ hAlarm
  · rw [hSooner, Double.sooner]
    split
    · exact hAhead _ hAlarm
    · exact hAhead _ (hLimited time hOver)

/-- The clock moves to no later than the end of any look-up, and what is due then comes. -/
theorem moves (hTracked : Tracked looks w) (hSettled : w.turns = []) (hMoves : w.Moves after) :
    Tracked looks after := by
  have hPlain := hTracked.plain
  obtain @⟨time, due, later, hTimers, hLater, hDue, hAhead⟩ := hMoves
  have hTime := hPlain.time.of_lt hLater
  have hSorted := hPlain.punctual.sorted
  have hKnown := hPlain.timers
  rw [hTimers] at hSorted hKnown
  refine {
    plain := { hPlain with
      punctual := ⟨(List.pairwise_append.mp hSorted).2.1, hAhead⟩
      time := hTime
      timers := fun timer hMem => hKnown timer (List.mem_append_right _ hMem)
      turns := fun turn hMem => ?_ }
    known := hTracked.known
    fired := hTracked.fired
    allows := hTracked.allows
    distinct := hTracked.distinct
    owned := hTracked.owned
    underway := fun look hMem => ?_ }
  · obtain ⟨timer, hTimer, rfl⟩ := List.mem_map.mp hMem
    exact hKnown timer (List.mem_append_left _ hTimer)
  · have hUnderway := hTracked.underway look hMem
    have hFired := hTracked.fired look hMem
    have hEnds : look.ends.IsTime := hFired.add look.lookup.lasts
    have hLimit : ∀ limit, look.over? = some limit → limit.IsTime := fun _ hOver =>
      (Look.over_isTime hFired (hTracked.allows look hMem) hOver).1
    obtain ⟨hTask, hLasts, hAlarm, hLimited⟩ := hTracked.sleeps hSettled hMem
    rw [hTimers] at hAlarm hLimited
    -- What is due becomes a turn, and the rest is still ahead.
    have hNow : ∀ timer ∈ due, timer.due.IsTime →
        time.le timer.due = true ∧ timer.due.le time = true := fun timer hMem hIs =>
      ⟨hIs.le_of_not_lt hTime (hDue timer hMem).2, hTime.le_of_not_lt hIs (hDue timer hMem).1⟩
    have hComes : ∀ timer ∈ due ++ later, timer.due.IsTime → isOf look.id timer.turn = true →
        time.le timer.due = true ∧ (timer ∈ later.filter (fun t => isOf look.id t.turn) ∨
          timer.turn ∈ (due.map Timer.turn).filter (isOf look.id)) := by
      intro timer hMem hIs hOf
      rcases List.mem_append.mp hMem with hTaken | hLeft
      · exact ⟨(hNow timer hTaken hIs).1,
          .inr (List.mem_filter.mpr ⟨List.mem_map.mpr ⟨timer, hTaken, rfl⟩, hOf⟩)⟩
      · exact ⟨Double.le_of_lt (hAhead timer hLeft), .inl (List.mem_filter.mpr ⟨hLeft, hOf⟩)⟩
    have hOwn : ∀ timer ∈ due ++ later, isOf look.id timer.turn = true →
        timer = ⟨look.ends, .elapse look.id⟩ ∨
          ∃ limit, look.over? = some limit ∧ timer = ⟨limit, .callOff look.id⟩ :=
      fun timer hMem hOf => hUnderway.timers timer (List.mem_filter.mpr ⟨hTimers ▸ hMem, hOf⟩)
    have hTurns : ∀ turn ∈ (due.map Timer.turn).filter (isOf look.id),
        turn = .elapse look.id ∧ look.ends.le time = true ∨
          turn = .callOff look.id ∧ ∃ limit, look.over? = some limit ∧ limit.le time = true := by
      intro turn hMem
      obtain ⟨hMem, hOf⟩ := List.mem_filter.mp hMem
      obtain ⟨timer, hTimer, rfl⟩ := List.mem_map.mp hMem
      rcases hOwn timer (List.mem_append_left later hTimer) hOf with rfl | ⟨limit, hOver, rfl⟩
      · exact .inl ⟨rfl, (hNow _ hTimer hEnds).2⟩
      · exact .inr ⟨rfl, limit, hOver, (hNow _ hTimer (hLimit limit hOver)).2⟩
    obtain ⟨hEarly, hElapse⟩ := hComes _ hAlarm hEnds (by simp [isOf])
    have hCallOff := fun limit hOver =>
      hComes _ (hLimited limit hOver) (hLimit limit hOver) (by simp [isOf])
    refine ⟨hEarly, fun limit hOver => (hCallOff limit hOver).1, fun timer hMem => ?_,
      fun turn hMem => .inr (hTurns turn hMem), .inr ⟨false, false, {
        task := hTask
        lasts := hLasts
        alarm := fun _ => hElapse
        limited := fun _ limit hOver => (hCallOff limit hOver).2
        idle := fun _ _ hGo => ?_
        awake := fun hSet => absurd hSet Bool.false_ne_true
        off := fun hSet => absurd hSet Bool.false_ne_true
        late := fun hSet => absurd hSet Bool.false_ne_true }⟩⟩
    · obtain ⟨hMem, hOf⟩ := List.mem_filter.mp hMem
      exact hOwn timer (List.mem_append_right _ hMem) hOf
    · rcases hTurns _ hGo with ⟨hNo, -⟩ | ⟨hNo, -⟩ <;> cases hNo

/-- Where no turn is left, the clock moves next, if anything is due later. -/
theorem next_settled (hTracked : Tracked looks w) (hSettled : w.turns = []) :
    Tracked looks w.next ∧ w.clock.le w.next.clock = true ∧ w.next.feed = w.feed := by
  unfold World.next
  rw [hSettled]
  cases hJump : w.jump? with
  | none => exact ⟨hTracked, hTracked.plain.time.le_refl, rfl⟩
  | some after =>
    have hMoves := jump_moves hTracked.plain.punctual hSettled hJump
    refine ⟨hTracked.moves hSettled hMoves, ?_⟩
    obtain ⟨-, hLater, -, -⟩ := hMoves
    exact ⟨Double.le_of_lt hLater, rfl⟩

/-- While a look-up is under way, something is to come. -/
theorem goes_on (hTracked : Tracked looks w) {look : Look} (hMem : look ∈ looks) :
    (w.turns.isEmpty && w.timers.isEmpty) = false := by
  refine eq_false_of_ne_true fun hOver => ?_
  rw [Bool.and_eq_true, List.isEmpty_iff, List.isEmpty_iff] at hOver
  obtain ⟨-, -, hAlarm, -⟩ := hTracked.sleeps hOver.1 hMem
  rw [hOver.2] at hAlarm
  cases hAlarm

/-- A script joins, about which there is nothing yet. -/
theorem view_spawn (hTracked : Tracked looks w) (script : Script Host (Ending α)) :
    Plain (w.spawn script).2 ∧ (∀ n < w.started, view (w.spawn script).2 n = view w n) ∧
      view (w.spawn script).2 w.started =
        ⟨w.clock, some ⟨w.started, .fresh script⟩, [], [.go w.started]⟩ := by
  have hPlain := hTracked.plain
  have hTasks : ∀ task ∈ (w.spawn script).2.tasks,
      task ∈ w.tasks ∨ task = ⟨w.started, .fresh script⟩ := fun task hMem =>
    (List.mem_append.mp hMem).imp_right List.mem_singleton.mp
  have hForeign : ∀ {turn : Turn}, (∃ id < w.started, isOf id turn = true) →
      isOf w.started turn = false := by
    rintro turn ⟨id, hKnown, hOf⟩
    exact not_isOf hOf (Nat.ne_of_gt hKnown)
  refine ⟨{ hPlain with
    punctual := ⟨hPlain.punctual.sorted, hPlain.punctual.ahead⟩
    known := fun task hMem => ?_
    asleep := fun task hMem waiting hState => ?_
    timers := fun timer hMem => ?_
    turns := fun turn hMem => ?_ }, fun n hKnown => ?_, ?_⟩
  · rcases hTasks task hMem with hOld | rfl
    · exact Nat.lt_succ_of_lt (hPlain.known task hOld)
    · exact Nat.lt_succ_self _
  · rcases hTasks task hMem with hOld | rfl
    · exact hPlain.asleep task hOld waiting hState
    · cases hState
  · obtain ⟨id, hKnown, hOf⟩ := hPlain.timers timer hMem
    exact ⟨id, Nat.lt_succ_of_lt hKnown, hOf⟩
  · rcases List.mem_append.mp hMem with hOld | hNew
    · obtain ⟨id, hKnown, hOf⟩ := hPlain.turns turn hOld
      exact ⟨id, Nat.lt_succ_of_lt hKnown, hOf⟩
    · rw [List.mem_singleton.mp hNew]
      exact ⟨w.started, Nat.lt_succ_self _, by simp [isOf]⟩
  · have hNot : isOf n (.go w.started) = false := by simpa [isOf] using Nat.ne_of_gt hKnown
    unfold view
    rw [Tidy.task?_spawn hKnown]
    show View.mk _ _ _ (List.filter _ (w.turns ++ [_])) = _
    rw [List.filter_append, List.filter_cons_of_neg (by simp [hNot]), List.filter_nil,
      List.append_nil]
    rfl
  · have hNone : w.tasks.find? (fun t => t.id = w.started) = none :=
      List.find?_eq_none.mpr fun task hMem => by
        simpa using Nat.ne_of_lt (hPlain.known task hMem)
    have hNoTimers : w.timers.filter (fun t => isOf w.started t.turn) = [] :=
      List.filter_eq_nil_iff.mpr fun timer hMem => by
        simp [hForeign (hPlain.timers timer hMem)]
    have hNoTurns : w.turns.filter (isOf w.started) = [] :=
      List.filter_eq_nil_iff.mpr fun turn hMem => by simp [hForeign (hPlain.turns turn hMem)]
    show View.mk _ (List.find? _ (w.tasks ++ [_])) (w.timers.filter _)
      (List.filter _ (w.turns ++ [_])) = _
    rw [List.find?_append, hNone, hNoTimers, List.filter_append, hNoTurns]
    simp [isOf]
    rfl

/-- A look-up is begun, which concerns its own script only. -/
theorem begins_own (hTracked : Tracked looks w) (ticket slot : Nat) {limit : Limit}
    (hAllows : limit.Allows) (lookup : Lookup) :
    Only w.started (w.spawn (argumentScript ticket slot lookup.script)).2
        (w.beginLookup limit ticket slot lookup.script) ∧
      Underway ⟨w.started, ticket, slot, w.clock, limit, lookup⟩
        (view (w.beginLookup limit ticket slot lookup.script) w.started) := by
  have hFired := hTracked.plain.time
  have hEnds : w.clock.le (w.clock + lookup.seconds) = true := hFired.le_add lookup.lasts
  obtain ⟨hPlain, -, hView⟩ :=
    hTracked.view_spawn (argumentScript ticket slot lookup.script : Script Host (Ending α))
  cases hAllows with
  | unlimited =>
    refine ⟨.refl hPlain, ?_⟩
    show Underway _ (view (w.spawn _).2 w.started)
    rw [hView]
    have hNever : ∀ {p : Double → Prop} (time : Double), none = some time → p time :=
      fun _ hOver => by cases hOver
    exact ⟨hEnds, hNever, fun timer hMem => absurd hMem List.not_mem_nil,
      fun turn hMem => .inl (List.mem_singleton.mp hMem),
      .inl ⟨rfl, rfl, ⟨[], rfl, List.not_mem_nil⟩, hNever⟩⟩
  | @within seconds hSeconds =>
    -- The script has joined, and its limit is set.
    have hUnder : ∀ time, some (w.clock + seconds) = some time → w.clock.le time = true := by
      rintro _ ⟨⟩
      exact hFired.le_add hSeconds
    have hOf : isOf w.started (.callOff w.started) = true := by simp [isOf]
    refine ⟨.addTimer _ hPlain (Nat.lt_succ_self w.started) hOf, ?_⟩
    show Underway _ (view ((w.spawn _).2.addTimer (w.clock + seconds) (.callOff w.started))
      w.started)
    rcases view_addTimer (w := (w.spawn _).2) (w.clock + seconds) hOf with
      ⟨-, timers, hAfter, hTimers⟩ | ⟨hNow, hAfter⟩
    · rw [hView] at hAfter hTimers
      rw [hAfter]
      refine ⟨hEnds, hUnder, fun timer hMem => .inr ⟨_, rfl, ?_⟩,
        fun turn hMem => .inl (List.mem_singleton.mp hMem),
        .inl ⟨rfl, rfl, ⟨[], rfl, List.not_mem_nil⟩, fun time hOver => .inl ?_⟩⟩
      · exact ((hTimers timer).mp hMem).resolve_right List.not_mem_nil
      · cases hOver
        exact (hTimers _).mpr (.inl rfl)
    · rw [hAfter, hView]
      have hDue : (w.clock + seconds).le w.clock = true :=
        hFired.le_of_not_lt (hFired.add hSeconds) hNow
      refine ⟨hEnds, hUnder, fun timer hMem => absurd hMem List.not_mem_nil, fun turn hMem => ?_,
        .inl ⟨rfl, rfl, ⟨[.callOff w.started], rfl, by simp⟩, fun _ _ => .inr (by simp)⟩⟩
      rcases List.mem_append.mp hMem with hGo | hCallOff
      · exact .inl (List.mem_singleton.mp hGo)
      · exact .inr (.inr ⟨List.mem_singleton.mp hCallOff, _, rfl, hDue⟩)

/-- A look-up is begun. -/
theorem begins (hTracked : Tracked looks w) (ticket slot : Nat) {limit : Limit}
    (hAllows : limit.Allows) (lookup : Lookup) :
    Tracked (looks ++ [⟨w.started, ticket, slot, w.clock, limit, lookup⟩])
      (w.beginLookup limit ticket slot lookup.script) := by
  obtain ⟨-, hOthers, -⟩ :=
    hTracked.view_spawn (argumentScript ticket slot lookup.script : Script Host (Ending α))
  obtain ⟨hOnly, hOwn⟩ := hTracked.begins_own ticket slot hAllows lookup
  generalize hLook : (⟨w.started, ticket, slot, w.clock, limit, lookup⟩ : Look) = look at hOwn
  have hId : look.id = w.started := by rw [← hLook]
  have hEach : ∀ {p : Look → Prop}, (∀ other ∈ looks, p other) → p look →
      ∀ other ∈ looks ++ [look], p other := fun hAll hThis =>
    List.forall_mem_append.mpr ⟨hAll, List.forall_mem_singleton.mpr hThis⟩
  refine ⟨hOnly.plain, hEach (fun other hMem => ?_) ?_, hEach hTracked.fired ?_,
    hEach hTracked.allows ?_, ?_, fun task hMem => ?_, hEach (fun other hMem => ?_) ?_⟩
  · rw [hOnly.started]
    exact Nat.lt_succ_of_lt (hTracked.known other hMem)
  · rw [hOnly.started, hId]
    exact Nat.lt_succ_self _
  · rw [← hLook]
    exact hTracked.plain.time
  · rw [← hLook]
    exact hAllows
  · rw [List.map_append, List.nodup_append]
    refine ⟨hTracked.distinct, List.nodup_singleton _, fun id hMem other hNew => ?_⟩
    obtain ⟨old, hOld, rfl⟩ := List.mem_map.mp hMem
    rw [List.mem_singleton.mp hNew, hId]
    exact Nat.ne_of_lt (hTracked.known old hOld)
  · obtain ⟨old, hOld, hSame⟩ := hOnly.tasks task hMem
    rcases List.mem_append.mp hOld with hBefore | hNew
    · obtain ⟨other, hOther, hIs⟩ := hTracked.owned old hBefore
      exact ⟨other, List.mem_append_left _ hOther, hIs.trans hSame⟩
    · rw [List.mem_singleton.mp hNew] at hSame
      exact ⟨look, List.mem_append_right _ (.head _), hId.trans hSame⟩
  · have hKnown := hTracked.known other hMem
    rw [hOnly.others other.id (Nat.ne_of_lt hKnown), hOthers other.id hKnown]
    exact hTracked.underway other hMem
  · rw [hId]
    exact hOwn

theorem beginLookup_same {limit : Limit} (hAllows : limit.Allows) (w : World α) (ticket slot : Nat)
    (script : Script Host Value) :
    (w.beginLookup limit ticket slot script).clock = w.clock ∧
      (w.beginLookup limit ticket slot script).started = w.started + 1 ∧
      (w.beginLookup limit ticket slot script).feed = w.feed := by
  cases hAllows with
  | unlimited => exact ⟨rfl, rfl, rfl⟩
  | within =>
    show (World.addTimer (w.spawn _).2 _ _).clock = _ ∧
      (World.addTimer (w.spawn _).2 _ _).started = _ ∧ (World.addTimer (w.spawn _).2 _ _).feed = _
    unfold World.addTimer
    split <;> exact ⟨rfl, rfl, rfl⟩

/-- The look-ups of a console message are begun. -/
theorem begins_all (hTracked : Tracked looks w) {limit : Limit} (hAllows : limit.Allows)
    (ticket slot : Nat) (lookups : List Lookup) :
    Tracked (looks ++ begun limit w.started ticket slot w.clock lookups)
        (World.beginLookups limit ticket slot (lookups.map Lookup.script) w) ∧
      (World.beginLookups limit ticket slot (lookups.map Lookup.script) w).clock = w.clock ∧
      (World.beginLookups limit ticket slot (lookups.map Lookup.script) w).feed = w.feed := by
  induction lookups generalizing w looks slot with
  | nil =>
    rw [begun, List.append_nil]
    exact ⟨hTracked, rfl, rfl⟩
  | cons lookup rest ih =>
    obtain ⟨hClock, hStarted, hFeed⟩ := beginLookup_same hAllows w ticket slot lookup.script
    obtain ⟨hRest, hSame, hLast⟩ := ih (hTracked.begins ticket slot hAllows lookup) (slot + 1)
    rw [hClock, hStarted, List.append_assoc] at hRest
    exact ⟨hRest, hSame.trans hClock, hLast.trans hFeed⟩

end Tracked

/-! ### The feed takes its course -/

/-- Nobody waits for the feed. -/
theorem wake_agenda {v : World α} (hPlain : Plain w) (hAgenda : v.agenda = w.agenda)
    {p : Host.Op → Nat → Bool} (hNobody : ∀ seconds n, p (.sleep seconds) n = false) :
    (v.wake p).agenda = w.agenda := by
  have hTasks : v.tasks = w.tasks := congrArg (fun agenda => agenda.2.2.2.1) hAgenda
  have hNone : v.tasks.filter (fun t => Task.waitsFor p t) = [] := by
    refine List.filter_eq_nil_iff.mpr fun task hMem => ?_
    rw [hTasks] at hMem
    unfold Task.waitsFor
    split
    · next waiting hState =>
      obtain ⟨seconds, hOp⟩ := hPlain.asleep task hMem waiting hState
      rw [hOp, hNobody]
      exact Bool.false_ne_true
    · exact Bool.false_ne_true
  rw [← hAgenda]
  unfold World.wake
  rw [hNone, List.map_nil, List.append_nil]

/-- The feed takes its course beside the look-ups. -/
theorem pump_agenda (hPlain : Plain w) : w.pump.agenda = w.agenda := by
  have hNotes : ∀ (notes : List Note) (v : World α),
      (notes.foldl World.note v).agenda = v.agenda := by
    intro notes
    induction notes with
    | nil => exact fun _ => rfl
    | cons note rest ih => exact fun v => (ih (v.note note)).trans rfl
  have hPrinted : ((w.feed.advance.1.print World.emit (fun n w => w.note n)
      (w.feed.advance.2.foldl World.note w)).2).agenda = w.agenda :=
    (congrArg Prod.fst (Changes.print_core _ _)).trans (hNotes _ w)
  unfold World.pump
  dsimp only
  split
  · split
    · exact wake_agenda hPlain (wake_agenda hPlain hPrinted fun _ _ => rfl) fun _ _ => rfl
    · exact wake_agenda hPlain hPrinted fun _ _ => rfl
  · split
    · exact wake_agenda hPlain hPrinted fun _ _ => rfl
    · exact hPrinted

/-- What becomes of the feed: the line-up moves up, and then the printer prints. -/
theorem pump_feed (w : World α) : ∃ v : World α,
    w.pump.feed = (w.feed.advance.1.print World.emit (fun n w => w.note n) v).1 := by
  refine ⟨w.feed.advance.2.foldl World.note w, ?_⟩
  unfold World.pump
  dsimp only
  split <;> split <;> rfl

namespace Tracked

variable {looks : List Look}

theorem pump (hTracked : Tracked looks w) : Tracked looks w.pump :=
  hTracked.ofAgenda (pump_agenda hTracked.plain)

/-- Nothing goes on yet. -/
theorem blank (hClock : w.clock.IsTime) (hTimers : w.timers = []) (hTurns : w.turns = [])
    (hTasks : w.tasks = []) : Tracked [] w := by
  have hNone : ∀ look : Look, look ∉ [] := fun _ => List.not_mem_nil
  refine ⟨⟨⟨?_, ?_⟩, hClock, ?_, ?_, ?_, ?_⟩, fun look hMem => absurd hMem (hNone look),
    fun look hMem => absurd hMem (hNone look), fun look hMem => absurd hMem (hNone look), .nil, ?_,
    fun look hMem => absurd hMem (hNone look)⟩
  · rw [hTimers]
    exact .nil
  · simp [hTimers]
  · simp [hTasks]
  · simp [hTasks]
  · simp [hTimers]
  · simp [hTurns]
  · simp [hTasks]

/-- **Whatever comes next by itself leaves less to do.** -/
theorem next_load (hTracked : Tracked looks w)
    (hMore : (w.turns.isEmpty && w.timers.isEmpty) = false) : load w.next < load w := by
  cases hTurns : w.turns with
  | cons turn rest =>
    rw [next_turn hTurns]
    rcases hTracked.takes hTurns with ⟨v, -, -, hLess, hTakes⟩ |
      ⟨look, -, v, hGone, -, hLess, -, hTakes⟩
    · rw [hTakes w.feed]
      exact hLess
    · rw [hTakes w.feed]
      let settled : World α := { v with feed := w.feed.settle look.ticket look.slot look.outcome }
      have hSettled : Tracked _ settled := hGone.ofAgenda rfl
      have hSame : load settled.pump = load settled := load_agenda (pump_agenda hSettled.plain)
      show load settled.pump < load w
      rw [hSame]
      exact hLess
  | nil =>
    cases hTimers : w.timers with
    | nil => simp [hTurns, hTimers] at hMore
    | cons first rest =>
      -- At least the first timer comes to a turn.
      have hFirst : (!first.due.lt first.due) = true := by rw [Double.lt_irrefl, Bool.not_false]
      have hSplit := List.takeWhile_append_dropWhile (p := fun t : Timer => !first.due.lt t.due)
        (l := rest)
      generalize hDue : rest.takeWhile (fun t => !first.due.lt t.due) = due at hSplit
      generalize hLater : rest.dropWhile (fun t => !first.due.lt t.due) = later at hSplit
      have hTimersLoad := congrArg List.length hSplit
      have hTurnsLoad := sum_weight_le ((first :: due).map Timer.turn)
      rw [List.length_append] at hTimersLoad
      rw [List.length_map, List.length_cons] at hTurnsLoad
      unfold World.next
      rw [hTurns]
      simp only [jump?, hTimers, List.span_eq_takeWhile_dropWhile, Option.getD_some,
        List.takeWhile_cons, List.dropWhile_cons, hFirst, if_true, hDue, hLater]
      simp only [load, hTurns, hTimers, List.nil_append, List.map_nil, List.sum_nil,
        List.length_cons]
      omega

end Tracked

end LookupRun

end PageReporter
