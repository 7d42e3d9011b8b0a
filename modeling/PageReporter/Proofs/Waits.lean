import Mathlib.Data.List.TakeDrop
import Mathlib.Data.List.TakeWhile
import PageReporter.Proofs.Bystanders
import PageReporter.Rehearsal.Running

/-!
# Waits within a limit

A script waits within a limit while all kinds of things happen in the rehearsal. Until it has
gone on, either its time is still to come, or its turn is.

* `World.Happens` — what happens in a rehearsal; `World.Moves` — the clock moves;
* `Waits` — a script waits until a deadline;
* `Waits.beside`, `Waits.moves`, `Waits.elapse` — it still waits, whatever happens but its turn;
* `Poised.waits` — a wait begins.
-/

namespace PageReporter

open World

variable {α : Type} {g : Errand} {w after : World α}

/-! ## What happens -/

/-- What happens in a rehearsal: a turn is taken; once none is left, the clock moves, to what is due
next or less far; and at any time frames come in, scripts join, and scripts are to be called off,
but not the one with the given number. -/
inductive World.Happens (id : Nat) : World α → World α → Prop
  | turn {w : World α} {turn : Turn} {rest : List Turn} (hTurns : w.turns = turn :: rest) :
      Happens id w ({ w with turns := rest }.takeTurn turn)
  | jump {w after : World α} (hSettled : w.turns = []) (hJump : w.jump? = some after) :
      Happens id w after
  | pass {w : World α} {time : Double} (hSettled : w.turns = []) (hLater : w.clock.lt time = true)
      (hBefore : ∀ timer ∈ w.timers, time.lt timer.due = true) :
      Happens id w { w with clock := time }
  | arrive {w : World α} (frames : List Inbound) : Happens id w (w.arrive frames)
  | join {w : World α} (script : Script Host (Ending α)) : Happens id w (w.spawn script).2
  | callOff {w : World α} (due : Double) {other : Nat} (hOther : other ≠ id) :
      Happens id w (w.addTimer due (.callOff other))

/-- What comes next by itself: the first turn, or once none is left the jump of the clock. -/
def World.next (w : World α) : World α :=
  match w.turns with
  | turn :: rest => { w with turns := rest }.takeTurn turn
  | [] => w.jump?.getD w

theorem World.next_turn {turn : Turn} {rest : List Turn} (hTurns : w.turns = turn :: rest) :
    w.next = { w with turns := rest }.takeTurn turn := by
  unfold World.next
  rw [hTurns]

theorem World.happens_next {id : Nat} (hMore : (w.turns.isEmpty && w.timers.isEmpty) = false) :
    w.Happens id w.next := by
  unfold World.next
  cases hTurns : w.turns with
  | cons turn rest => exact .turn hTurns
  | nil =>
    refine .jump hTurns ?_
    unfold jump?
    cases hTimers : w.timers with
    | nil => simp [hTurns, hTimers] at hMore
    | cons first rest => rfl

/-- The clock moves to a time, and the turn of what is due then comes. -/
inductive World.Moves (w : World α) : World α → Prop
  | to {time : Double} {due later : List Timer} (hTimers : w.timers = due ++ later)
      (hLater : w.clock.lt time = true)
      (hDue : ∀ timer ∈ due, time.lt timer.due = false ∧ timer.due.lt time = false)
      (hAhead : ∀ timer ∈ later, time.lt timer.due = true) :
      Moves w { w with clock := time, timers := later, turns := due.map Timer.turn }

/-- Once one timer is not due yet, nor are those behind it. -/
theorem ahead_dropWhile {time : Double} {timers : List Timer}
    (hSorted : timers.Pairwise fun first second => first.due.le second.due = true) :
    ∀ timer ∈ timers.dropWhile fun t => !time.lt t.due, time.lt timer.due = true := by
  induction timers with
  | nil => exact fun _ hMem => absurd hMem List.not_mem_nil
  | cons first rest ih =>
    obtain ⟨hFirst, hRest⟩ := List.pairwise_cons.mp hSorted
    rw [List.dropWhile_cons]
    split
    · exact ih hRest
    · next hStop =>
      have hLater : time.lt first.due = true := by
        simpa using hStop
      intro timer hMem
      rcases List.mem_cons.mp hMem with rfl | hMem
      · exact hLater
      · exact Double.lt_of_lt_of_le hLater (hFirst timer hMem)

/-- A jump moves the clock to what is due first. -/
theorem World.jump_moves (hPunctual : Punctual w) (hSettled : w.turns = [])
    (hJump : w.jump? = some after) : w.Moves after := by
  unfold jump? at hJump
  split at hJump
  · cases hJump
  · next first rest hTimers =>
    rw [List.span_eq_takeWhile_dropWhile, hSettled] at hJump
    obtain rfl := Option.some.inj hJump
    have hMem : first ∈ w.timers := hTimers ▸ .head rest
    refine .to List.takeWhile_append_dropWhile.symm (hPunctual.ahead first hMem) ?_
      (ahead_dropWhile hPunctual.sorted)
    intro timer hDue
    refine ⟨by simpa using List.mem_takeWhile_imp hDue, ?_⟩
    have hSorted := hPunctual.sorted
    rw [hTimers] at hSorted
    rcases List.mem_cons.mp (hTimers ▸ (List.takeWhile_subset _ hDue)) with rfl | hBehind
    · exact Double.lt_irrefl _
    · exact Double.not_lt_of_le ((List.pairwise_cons.mp hSorted).1 timer hBehind)

/-- Another's turn is taken. -/
theorem Beside.turn {turn : Turn} {rest : List Turn} (hTurns : w.turns = turn :: rest)
    (hOther : turn ≠ .go g.id) (hForeign : ¬ g.Owns turn) (hOrderly : Orderly g w) :
    Beside g w ({ w with turns := rest }.takeTurn turn) := by
  have hRest : ∀ own, own ≠ turn → (own ∈ rest ↔ own ∈ w.turns) := by
    intro own hNot
    rw [hTurns, List.mem_cons, or_iff_right hNot]
  have hBegun : Quiet g w { w with turns := rest } := by
    refine ⟨⟨⟨⟨hOrderly.punctual.sorted, hOrderly.punctual.ahead⟩, hOrderly.begun,
      hOrderly.numbered, hOrderly.sent, hOrderly.others⟩, rfl, rfl, rfl, fun _ _ => .rfl, ?_, ?_⟩,
      rfl, rfl⟩
    · intro own hOwn
      exact hRest own fun hSame => hForeign (hSame ▸ hOwn)
    · exact (hRest (.go g.id) hOther.symm).mpr
  exact hBegun.beside.trans (takeTurn hOther hForeign hBegun.orderly)

/-- Whatever happens is beside a script, or is the clock, or is a turn of the script's own. -/
theorem World.Happens.cases (hHappens : w.Happens g.id after) (hOrderly : Orderly g w) :
    Beside g w after ∨ w.turns = [] ∧ w.Moves after ∨
      ∃ turn rest, w.turns = turn :: rest ∧ (turn = .go g.id ∨ g.Owns turn) ∧
        after = { w with turns := rest }.takeTurn turn := by
  cases hHappens with
  | @turn turn rest hTurns =>
    by_cases hOwn : turn = .go g.id ∨ g.Owns turn
    · exact .inr (.inr ⟨turn, rest, hTurns, hOwn, rfl⟩)
    · rw [not_or] at hOwn
      exact .inl (Beside.turn hTurns hOwn.1 hOwn.2 hOrderly)
  | jump hSettled hJump =>
    exact .inr (.inl ⟨hSettled, jump_moves hOrderly.punctual hSettled hJump⟩)
  | pass hSettled hLater hBefore =>
    have hMoves := World.Moves.to (w.timers.nil_append).symm hLater (fun _ hNever => by cases hNever)
      hBefore
    rw [List.map_nil, ← hSettled] at hMoves
    exact .inr (.inl ⟨hSettled, hMoves⟩)
  | arrive frames => exact .inl (Beside.arrive frames hOrderly).beside
  | join script => exact .inl (Quiet.spawn script hOrderly).beside
  | callOff due hOther => exact .inl (Quiet.addTimer (by simpa using hOther) hOrderly).beside

/-! ## Waits -/

/-- A script waits, and its time is over at the deadline. It has either been told so, and its turn
comes, or there still is a timer for it. -/
structure Waits (g : Errand) (deadline : Double) (waiting : Waiting α) (w : World α) : Prop where
  orderly : Orderly g w
  task : w.task? g.id = some ⟨g.id, .waiting waiting⟩
  unfinished : w.result? g.id = none
  kept : waiting.cancelled = false
  clock : deadline.lt w.clock = false
  timers : ∀ timer ∈ w.timers, g.Owns timer.turn → timer = ⟨deadline, .elapse g.id⟩
  turns : ∀ turn ∈ w.turns, g.Owns turn → turn = .elapse g.id ∧ w.clock.lt deadline = false
  alarm : waiting.elapsed = false → ⟨deadline, .elapse g.id⟩ ∈ w.timers ∨ .elapse g.id ∈ w.turns
  late : waiting.elapsed = true → .go g.id ∈ w.turns ∧ w.clock.lt deadline = false

/-- A script does not wait, and nothing of its own is to come. -/
structure Poised (g : Errand) (w : World α) : Prop where
  orderly : Orderly g w
  task : ∃ task, w.task? g.id = some task
  unfinished : w.result? g.id = none
  timers : ∀ timer ∈ w.timers, ¬ g.Owns timer.turn
  turns : ∀ turn ∈ w.turns, ¬ g.Owns turn

theorem Orderly.withTurns (hOrderly : Orderly g w) (turns : List Turn) :
    Orderly g { w with turns := turns } :=
  ⟨⟨hOrderly.punctual.sorted, hOrderly.punctual.ahead⟩, hOrderly.begun, hOrderly.numbered,
    hOrderly.sent, hOrderly.others⟩

theorem Orderly.setWaiting (hOrderly : Orderly g w) (waiting : Waiting α) :
    Orderly g (w.setWaiting g.id waiting) := by
  refine ⟨⟨hOrderly.punctual.sorted, hOrderly.punctual.ahead⟩, hOrderly.begun, hOrderly.numbered,
    hOrderly.sent, fun task hMem hOther given hState => ?_⟩
  obtain ⟨t, hOld, rfl⟩ := List.mem_map.mp hMem
  by_cases hOwn : t.id = g.id
  · rw [if_pos hOwn] at hOther
    exact absurd rfl hOther
  · rw [if_neg hOwn] at hState hOther
    exact hOrderly.others t hOld hOther given hState

theorem task?_waits {id : Nat} {task : Task α} (hTask : w.task? id = some task)
    (waiting : Waiting α) : (w.setWaiting id waiting).task? id = some ⟨id, .waiting waiting⟩ := by
  rw [task?_setWaiting, hTask, Option.map_some, if_pos (id_of_task? hTask)]

namespace Waits

variable {deadline : Double} {waiting : Waiting α} {rest : List Turn}

/-- What goes on beside a wait leaves it as it is. -/
theorem apart (hWaits : Waits g deadline waiting w) (hApart : Apart g w after) :
    Waits g deadline waiting after where
  orderly := hApart.orderly
  task := hApart.task.trans hWaits.task
  unfinished := hApart.result.trans hWaits.unfinished
  kept := hWaits.kept
  clock := hApart.clock ▸ hWaits.clock
  timers timer hMem hOwn := hWaits.timers timer ((hApart.timers timer hOwn).mp hMem) hOwn
  turns turn hMem hOwn := by
    rw [hApart.clock]
    exact hWaits.turns turn ((hApart.turns turn hOwn).mp hMem) hOwn
  alarm hTime :=
    (hWaits.alarm hTime).imp (hApart.timers ⟨deadline, _⟩ (.inl rfl)).mpr
      (hApart.turns _ (.inl rfl)).mpr
  late hTime := by
    obtain ⟨hGo, hDue⟩ := hWaits.late hTime
    exact ⟨hApart.roused hGo, hApart.clock ▸ hDue⟩

/-- Something is always to come for a script that waits, at its deadline at the latest. -/
theorem stirs (hWaits : Waits g deadline waiting w) :
    .go g.id ∈ w.turns ∨ .elapse g.id ∈ w.turns ∨ ⟨deadline, .elapse g.id⟩ ∈ w.timers := by
  cases hTime : waiting.elapsed with
  | true => exact .inl (hWaits.late hTime).1
  | false => exact .inr (hWaits.alarm hTime).symm

/-- Where no turn is left, the deadline is still to come. -/
theorem alarm_mem (hWaits : Waits g deadline waiting w) (hSettled : w.turns = []) :
    waiting.elapsed = false ∧ ⟨deadline, .elapse g.id⟩ ∈ w.timers := by
  have hTime : waiting.elapsed = false := by
    by_contra hOver
    have hGo := (hWaits.late (by simpa using hOver)).1
    rw [hSettled] at hGo
    cases hGo
  refine ⟨hTime, (hWaits.alarm hTime).resolve_right fun hTurn => ?_⟩
  rw [hSettled] at hTurn
  cases hTurn

/-- The clock does not pass over the deadline of a wait. -/
theorem moves (hWaits : Waits g deadline waiting w) (hSettled : w.turns = [])
    (hMoves : w.Moves after) : Waits g deadline waiting after := by
  obtain ⟨hTime, hAlarm⟩ := hWaits.alarm_mem hSettled
  obtain ⟨hTimers, hLater, hDue, hAhead⟩ := hMoves
  have hOrderly := hWaits.orderly
  have hSorted := hOrderly.punctual.sorted
  have hOwn := hWaits.timers
  rw [hTimers] at hAlarm hSorted hOwn
  -- The timers that are due become turns, and the alarm is among them or still ahead.
  refine ⟨⟨⟨(List.pairwise_append.mp hSorted).2.1, hAhead⟩, hOrderly.begun, hOrderly.numbered,
    hOrderly.sent, hOrderly.others⟩, hWaits.task, hWaits.unfinished, hWaits.kept, ?_, ?_, ?_, ?_, ?_⟩
  · rcases List.mem_append.mp hAlarm with hNow | hStill
    · exact (hDue _ hNow).2
    · exact Double.not_lt_of_lt (hAhead _ hStill)
  · exact fun timer hMem => hOwn timer (List.mem_append_right _ hMem)
  · intro turn hMem hOwns
    obtain ⟨timer, hTimer, rfl⟩ := List.mem_map.mp hMem
    obtain rfl := hOwn timer (List.mem_append_left _ hTimer) hOwns
    exact ⟨rfl, (hDue _ hTimer).1⟩
  · intro _
    rcases List.mem_append.mp hAlarm with hNow | hStill
    · exact .inr (List.mem_map.mpr ⟨_, hNow, rfl⟩)
    · exact .inl hStill
  · intro hOver
    rw [hTime] at hOver
    cases hOver

/-- The time of the wait is over, and the script's turn comes. -/
theorem elapse (hWaits : Waits g deadline waiting w) (hTurns : w.turns = .elapse g.id :: rest) :
    Waits g deadline ⟨waiting.op, waiting.next, waiting.number, true, waiting.cancelled⟩
      ({ w with turns := rest }.takeTurn (.elapse g.id)) := by
  have hDue := (hWaits.turns (.elapse g.id) (hTurns ▸ .head rest) (.inl rfl)).2
  have hTask : { w with turns := rest }.task? g.id = some ⟨g.id, .waiting waiting⟩ := hWaits.task
  show Waits g deadline _ (World.addTurn (World.mark _ g.id _) (.go g.id))
  rw [mark_waiting hTask]
  refine ⟨((hWaits.orderly.withTurns rest).setWaiting _).withTurns _, task?_waits hTask _,
    hWaits.unfinished, hWaits.kept, hWaits.clock, hWaits.timers, ?_, ?_, ?_⟩
  · intro turn hMem hOwn
    rcases List.mem_append.mp hMem with hOld | hGo
    · exact hWaits.turns turn (hTurns ▸ .tail _ hOld) hOwn
    · obtain rfl := List.mem_singleton.mp hGo
      exact absurd hOwn (g.not_owns_go g.id)
  · exact fun hNever => by cases hNever
  · exact fun _ => ⟨List.mem_append_right _ (.head _), hDue⟩

/-- A turn of the script that finds nothing to go on with. -/
theorem stays (hWaits : Waits g deadline waiting w) (hTurns : w.turns = .go g.id :: rest)
    (hTime : waiting.elapsed = false) : Waits g deadline waiting { w with turns := rest } where
  orderly := hWaits.orderly.withTurns rest
  task := hWaits.task
  unfinished := hWaits.unfinished
  kept := hWaits.kept
  clock := hWaits.clock
  timers := hWaits.timers
  turns turn hMem := hWaits.turns turn (hTurns ▸ .tail _ hMem)
  alarm _ := by
    have hAlarm := hWaits.alarm hTime
    rw [hTurns, List.mem_cons, or_iff_right (a := Turn.elapse g.id = _) (by simp)] at hAlarm
    exact hAlarm
  late hOver := by
    rw [hTime] at hOver
    cases hOver

/-- A wait ends, and its time no longer counts. -/
theorem poised (hWaits : Waits g deadline waiting w) (hTurns : w.turns = .go g.id :: rest) :
    Poised g ({ w with turns := rest }.dropTimers g.id) := by
  have hPunctual := hWaits.orderly.punctual
  refine ⟨⟨⟨hPunctual.sorted.filter _, ?_⟩, hWaits.orderly.begun, hWaits.orderly.numbered,
    hWaits.orderly.sent, hWaits.orderly.others⟩, ⟨_, hWaits.task⟩, hWaits.unfinished, ?_, ?_⟩
  · exact fun timer hMem => hPunctual.ahead timer (List.mem_of_mem_filter hMem)
  · intro timer hMem hOwn
    obtain ⟨hTimer, hLeft⟩ := List.mem_filter.mp hMem
    rw [hWaits.timers timer hTimer hOwn] at hLeft
    simp [Turn.isElapseOf] at hLeft
  · intro turn hMem hOwn
    obtain ⟨hTurn, hLeft⟩ := List.mem_filter.mp hMem
    rw [(hWaits.turns turn (hTurns ▸ .tail _ hTurn) hOwn).1] at hLeft
    simp [Turn.isElapseOf] at hLeft

end Waits

namespace Poised

theorem apart (hPoised : Poised g w) (hApart : Apart g w after) : Poised g after where
  orderly := hApart.orderly
  task := hApart.task ▸ hPoised.task
  unfinished := hApart.result.trans hPoised.unfinished
  timers timer hMem hOwn := hPoised.timers timer ((hApart.timers timer hOwn).mp hMem) hOwn
  turns turn hMem hOwn := hPoised.turns turn ((hApart.turns turn hOwn).mp hMem) hOwn

/-- A wait within a limit begins. -/
theorem waits (hPoised : Poised g w) {seconds : Double} (hPositive : Double.zero.lt seconds = true)
    {waiting : Waiting α} (hTime : waiting.elapsed = false) (hKept : waiting.cancelled = false) :
    Waits g (w.clock + seconds) waiting
      ((w.within g.id (.within seconds)).setWaiting g.id waiting) := by
  obtain ⟨task, hTask⟩ := hPoised.task
  have hClock := Double.add_not_lt w.clock hPositive
  have hOver : ∀ {P : Prop}, waiting.elapsed = true → P := by
    intro P hOver
    rw [hTime] at hOver
    cases hOver
  show Waits g _ waiting ((w.addTimer (w.clock + seconds) (.elapse g.id)).setWaiting g.id waiting)
  unfold World.addTimer
  split
  · next hLater =>
    have hInserted := Quiet.insert_orderly (.elapse g.id) hLater hPoised.orderly
    refine ⟨hInserted.setWaiting _, task?_waits hTask _, hPoised.unfinished, hKept, hClock, ?_,
      fun turn hMem hOwn => absurd hOwn (hPoised.turns turn hMem), ?_, hOver⟩
    · intro timer hMem hOwn
      exact (Quiet.mem_insertTimer.mp hMem).resolve_right fun hOld => hPoised.timers timer hOld hOwn
    · exact fun _ => .inl (Quiet.mem_insertTimer.mpr (.inl rfl))
  · next hNow =>
    -- A limit too small to move the clock is over at once.
    have hDue : w.clock.lt (w.clock + seconds) = false := eq_false_of_ne_true hNow
    refine ⟨(hPoised.orderly.withTurns _).setWaiting _, task?_waits hTask _,
      hPoised.unfinished, hKept, hClock,
      fun timer hMem hOwn => absurd hOwn (hPoised.timers timer hMem), ?_, ?_, hOver⟩
    · intro turn hMem hOwn
      rcases List.mem_append.mp hMem with hOld | hNew
      · exact absurd hOwn (hPoised.turns turn hOld)
      · exact ⟨List.mem_singleton.mp hNew, hDue⟩
    · exact fun _ => .inr (List.mem_append_right _ (.head _))

end Poised

end PageReporter
