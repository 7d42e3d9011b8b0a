import PageReporter.Proofs.Waits

/-!
# What holds of every rehearsal

A rehearsal begins with nothing, and then scripts join, turns are taken, the clock moves, frames
come in, and scripts are to be called off. In everything that is reached in this way, whoever runs
has a number of its own and no result yet, no command has a number that is still to be given, and
nobody's time runs who has not begun.

* `World.Reached` — the rehearsals that are reached; `Tidy` — what holds of them;
* `Tidy.of_act` — every act keeps it; `Tidy.happens` — and so does whatever happens;
* `World.Reached.tidy` — it holds of all that is reached.
-/

namespace PageReporter

open World

variable {α : Type} {w v after : World α}

/-! ## Rehearsals -/

/-- A rehearsal in which nothing has happened yet, whatever its surroundings are to do. -/
def World.Blank (w : World α) : Prop :=
  w.core = World.core { scenario := w.scenario, peer := w.peer, clock := w.clock }

/-- What is reached from a blank rehearsal, whatever happens. -/
inductive World.Reached : World α → Prop
  | blank {w : World α} (hBlank : w.Blank) : Reached w
  | step {w after : World α} {id : Nat} (hReached : Reached w) (hHappens : w.Happens id after) :
      Reached after

/-- A script has joined, and has begun or is gone. -/
def World.HasBegun (w : World α) (id : Nat) : Prop :=
  id < w.started ∧ ∀ number script, w.task? id ≠ some ⟨number, .fresh script⟩

/-- What holds of every rehearsal: what is due later is in order, those who run have numbers of
their own and no results yet, commands and watches are numbered in order, and only the time of
scripts that have begun can be over. -/
structure Tidy (w : World α) : Prop where
  sorted : w.timers.Pairwise fun first second => first.due.le second.due = true
  ahead : ∀ timer ∈ w.timers, w.clock.lt timer.due = true
  known : ∀ task ∈ w.tasks, task.id < w.started
  unfinished : ∀ task ∈ w.tasks, w.result? task.id = none
  finished : ∀ id, w.result? id ≠ none → id < w.started
  calls : ∀ call ∈ w.connection.calls, call.number ≤ w.connection.lastNumber
  waits : ∀ task ∈ w.tasks, ∀ waiting, task.state = .waiting waiting →
    waiting.number ≤ w.connection.lastNumber
  watches : ∀ t ∈ w.tabs, Tab.Numbered t.tab.notices
  timers : ∀ id, ∀ timer ∈ w.timers, timer.turn = .elapse id → w.HasBegun id
  turns : ∀ id, .elapse id ∈ w.turns → w.HasBegun id

namespace Tidy

theorem punctual (hTidy : Tidy w) : Punctual w :=
  ⟨hTidy.sorted, hTidy.ahead⟩

/-! ## Changes -/

theorem core (hTidy : Tidy w) (hCore : after.core = w.core) : Tidy after := by
  rcases w with ⟨⟩
  rcases after with ⟨⟩
  simp only [World.core, World.agenda, Prod.mk.injEq] at hCore
  obtain ⟨⟨rfl, rfl, rfl, rfl, rfl, rfl⟩, rfl, rfl⟩ := hCore
  exact { hTidy with }

theorem addTurns (hTidy : Tidy w) {more : List Turn}
    (hMore : ∀ id, .elapse id ∈ more → w.HasBegun id) :
    Tidy { w with turns := w.turns ++ more } := by
  refine { hTidy with turns := fun id hMem => ?_ }
  rcases List.mem_append.mp hMem with hOld | hNew
  · exact hTidy.turns id hOld
  · exact hMore id hNew

theorem addTurn (hTidy : Tidy w) {turn : Turn} (hTurn : ∀ id, turn = .elapse id → w.HasBegun id) :
    Tidy (w.addTurn turn) :=
  hTidy.addTurns fun id hMem => hTurn id (List.mem_singleton.mp hMem).symm

theorem addTimer (hTidy : Tidy w) (due : Double) {turn : Turn}
    (hTurn : ∀ id, turn = .elapse id → w.HasBegun id) : Tidy (w.addTimer due turn) := by
  unfold World.addTimer
  split
  · next hLater =>
    refine { hTidy with
      sorted := Quiet.sorted_insertTimer hTidy.sorted hTidy.ahead hLater
      ahead := fun timer hMem => ?_
      timers := fun id timer hMem hElapse => ?_ }
    · rcases Quiet.mem_insertTimer.mp hMem with rfl | hOld
      · exact hLater
      · exact hTidy.ahead timer hOld
    · rcases Quiet.mem_insertTimer.mp hMem with rfl | hOld
      · exact hTurn id hElapse
      · exact hTidy.timers id timer hOld hElapse
  · exact hTidy.addTurn hTurn

theorem wake (hTidy : Tidy w) (p : Host.Op → Nat → Bool) : Tidy (w.wake p) := by
  refine hTidy.addTurns fun id hMem => ?_
  obtain ⟨task, -, hGo⟩ := List.mem_map.mp hMem
  cases hGo

/-- A script that has joined keeps its place when another joins. -/
theorem task?_spawn {id : Nat} (hKnown : id < w.started) (script : Script Host (Ending α)) :
    (w.spawn script).2.task? id = w.task? id := by
  show List.find? _ (w.tasks ++ [_]) = List.find? _ w.tasks
  rw [List.find?_append, List.find?_singleton, if_neg (by simpa using Nat.ne_of_gt hKnown),
    Option.or_none]

theorem spawn (hTidy : Tidy w) (script : Script Host (Ending α)) : Tidy (w.spawn script).2 := by
  have hBegun : ∀ id, w.HasBegun id → (w.spawn script).2.HasBegun id := by
    rintro id ⟨hKnown, hBegun⟩
    exact ⟨Nat.lt_succ_of_lt hKnown, by rwa [task?_spawn hKnown]⟩
  -- The script that joins is the last, and has not begun.
  have hTasks : ∀ task ∈ (w.spawn script).2.tasks,
      task ∈ w.tasks ∨ task = ⟨w.started, .fresh script⟩ := by
    intro task hMem
    rcases List.mem_append.mp hMem with hOld | hNew
    · exact .inl hOld
    · exact .inr (List.mem_singleton.mp hNew)
  refine { hTidy with
    known := fun task hMem => ?_
    unfinished := fun task hMem => ?_
    finished := fun id hResult => Nat.lt_succ_of_lt (hTidy.finished id hResult)
    waits := fun task hMem waiting hState => ?_
    timers := fun id timer hMem hElapse => hBegun id (hTidy.timers id timer hMem hElapse)
    turns := fun id hMem => ?_ }
  · rcases hTasks task hMem with hOld | rfl
    · exact Nat.lt_succ_of_lt (hTidy.known task hOld)
    · exact Nat.lt_succ_self _
  · rcases hTasks task hMem with hOld | rfl
    · exact hTidy.unfinished task hOld
    · -- A script that has a result has joined before.
      by_contra hResult
      exact Nat.lt_irrefl _ (hTidy.finished _ hResult)
  · rcases hTasks task hMem with hOld | rfl
    · exact hTidy.waits task hOld waiting hState
    · cases hState
  · rcases List.mem_append.mp hMem with hOld | hNew
    · exact hBegun id (hTidy.turns id hOld)
    · cases List.mem_singleton.mp hNew

theorem of_change (hTidy : Tidy w) (hChange : w.Change after) : Tidy after := by
  have hPlain : ∀ {w : World α} {turn : Turn}, Turn.isPlain turn = true →
      ∀ id, turn = .elapse id → w.HasBegun id := by
    rintro w turn hPlain id rfl
    cases hPlain
  cases hChange with
  | still hCore => exact hTidy.core hCore
  | rouse p => exact hTidy.wake p
  | join script => exact hTidy.spawn script
  | lookup script due => exact (hTidy.spawn script).addTimer due nofun
  | queue hTurn => exact hTidy.addTurn (hPlain hTurn)
  | later due hTurn => exact hTidy.addTimer due (hPlain hTurn)

theorem of_changes (hTidy : Tidy w) (hChanges : w.Changes after) : Tidy after := by
  induction hChanges with
  | refl => exact hTidy
  | tail _ hLast ih => exact ih.of_change hLast

/-! ## Acts -/

theorem connect (hTidy : Tidy w) {c : Connection}
    (hLast : w.connection.lastNumber ≤ c.lastNumber)
    (hCalls : ∀ call ∈ c.calls, call.number ≤ c.lastNumber) :
    Tidy { w with connection := c } :=
  { hTidy with
    calls := hCalls
    waits := fun task hMem waiting hState =>
      Nat.le_trans (hTidy.waits task hMem waiting hState) hLast }

theorem tabs (hTidy : Tidy w) {tabs : List TabRecord}
    (hTabs : ∀ t ∈ tabs, Tab.Numbered t.tab.notices) : Tidy { w with tabs := tabs } :=
  { hTidy with watches := hTabs }

/-- Scripts that stay or wait, and of which none begins anew. -/
theorem tasks (hTidy : Tidy w) {tasks : List (Task α)}
    (hTasks : ∀ task ∈ tasks, ∃ old ∈ w.tasks, old.id = task.id)
    (hWaits : ∀ task ∈ tasks, ∀ waiting, task.state = .waiting waiting →
      waiting.number ≤ w.connection.lastNumber)
    (hBegun : ∀ id, w.HasBegun id → { w with tasks := tasks }.HasBegun id) :
    Tidy { w with tasks := tasks } := by
  refine { hTidy with
    known := fun task hMem => ?_
    unfinished := fun task hMem => ?_
    waits := hWaits
    timers := fun id timer hMem hElapse => hBegun id (hTidy.timers id timer hMem hElapse)
    turns := fun id hMem => hBegun id (hTidy.turns id hMem) }
  · obtain ⟨old, hOld, hSame⟩ := hTasks task hMem
    exact hSame ▸ hTidy.known old hOld
  · obtain ⟨old, hOld, hSame⟩ := hTasks task hMem
    exact hSame ▸ hTidy.unfinished old hOld

variable {id : Nat}

/-- The number of the command that a script waits for has been given. -/
theorem waiting_le (hTidy : Tidy w) {number : Nat} {waiting : Waiting α}
    (hTask : w.task? id = some ⟨number, .waiting waiting⟩) :
    waiting.number ≤ w.connection.lastNumber :=
  hTidy.waits _ (List.mem_of_find?_eq_some hTask) waiting rfl

/-- A script that waits has begun. -/
theorem hasBegun_setWaiting (hKnown : id < w.started) (waiting : Waiting α) :
    (w.setWaiting id waiting).HasBegun id := by
  refine ⟨hKnown, fun number script hFresh => ?_⟩
  rw [task?_setWaiting] at hFresh
  obtain ⟨t, hTask, hSame⟩ := Option.map_eq_some_iff.mp hFresh
  rw [if_pos (id_of_task? hTask)] at hSame
  cases hSame

theorem setWaiting (hTidy : Tidy w) {waiting : Waiting α}
    (hNumber : waiting.number ≤ w.connection.lastNumber) : Tidy (w.setWaiting id waiting) := by
  refine hTidy.tasks ?_ ?_ ?_
  · intro task hMem
    obtain ⟨old, hOld, rfl⟩ := List.mem_map.mp hMem
    refine ⟨old, hOld, ?_⟩
    split
    · next hSame => exact hSame
    · rfl
  · intro task hMem given hState
    obtain ⟨old, hOld, rfl⟩ := List.mem_map.mp hMem
    split at hState
    · cases hState
      exact hNumber
    · exact hTidy.waits old hOld given hState
  · rintro n ⟨hKnown, hBegun⟩
    refine ⟨hKnown, fun number script hFresh => ?_⟩
    have hMapped := (task?_setWaiting w id waiting n).symm.trans hFresh
    obtain ⟨t, hTask, hSame⟩ := Option.map_eq_some_iff.mp hMapped
    split at hSame
    · cases hSame
    · exact hBegun number script (hSame ▸ hTask)

theorem mark (hTidy : Tidy w) {f : Waiting α → Waiting α}
    (hNumber : ∀ waiting, (f waiting).number = waiting.number) : Tidy (w.mark id f) := by
  unfold World.mark
  split
  · next number waiting hTask => exact hTidy.setWaiting (hNumber waiting ▸ hTidy.waiting_le hTask)
  · exact hTidy

theorem leave (hTidy : Tidy w) (id : Nat) :
    Tidy { w with tasks := w.tasks.filter fun t => t.id ≠ id } := by
  refine hTidy.tasks (fun task hMem => ⟨task, List.mem_of_mem_filter hMem, rfl⟩)
    (fun task hMem => hTidy.waits task (List.mem_of_mem_filter hMem)) ?_
  rintro n ⟨hKnown, hBegun⟩
  refine ⟨hKnown, fun number script hFresh => ?_⟩
  by_cases hOther : n = id
  · -- Nobody has that number any more.
    have hMem := List.mem_of_find?_eq_some hFresh
    have hSame : number = n := id_of_task? hFresh
    have hLeft := (List.mem_filter.mp hMem).2
    rw [decide_eq_true_iff] at hLeft
    exact hLeft (hSame.trans hOther)
  · exact hBegun number script ((task?_filter w hOther).symm.trans hFresh)

theorem finish (hTidy : Tidy w) (hKnown : id < w.started) (result : Except Fault α) :
    Tidy (w.finish id result) := by
  have hLeft := hTidy.leave id
  have hResult : ∀ n, n ≠ id → (w.finish id result).result? n = w.result? n := by
    intro n hOther
    show (w.finished ++ [(id, w.clock, result)]).lookup n = w.finished.lookup n
    rw [List.lookup_append, List.lookup_cons, beq_eq_false_iff_ne.mpr hOther]
    exact Option.or_none
  refine { hLeft with
    unfinished := fun task hMem => ?_
    finished := fun n hSome => ?_ }
  · have hOther := (List.mem_filter.mp hMem).2
    rw [decide_eq_true_iff] at hOther
    exact (hResult task.id hOther).trans (hLeft.unfinished task hMem)
  · by_cases hSame : n = id
    · exact hSame ▸ hKnown
    · exact hTidy.finished n (hResult n hSame ▸ hSome)

theorem dropTimers (hTidy : Tidy w) (id : Nat) : Tidy (w.dropTimers id) :=
  { hTidy with
    sorted := hTidy.sorted.filter _
    ahead := fun timer hMem => hTidy.ahead timer (List.mem_of_mem_filter hMem)
    timers := fun n timer hMem => hTidy.timers n timer (List.mem_of_mem_filter hMem)
    turns := fun n hMem => hTidy.turns n (List.mem_of_mem_filter hMem) }

theorem setWaiting_addTimer (w : World α) (due : Double) (turn : Turn) (waiting : Waiting α) :
    (w.addTimer due turn).setWaiting id waiting = (w.setWaiting id waiting).addTimer due turn := by
  unfold World.addTimer
  split
  · next hLater => exact (if_pos hLater).symm
  · next hNow => exact (if_neg hNow).symm

theorem numbered_of_keeps {f : TabRecord → TabRecord} (hKeeps : KeepsNotices f) {t : TabRecord}
    (hNumbered : Tab.Numbered t.tab.notices) : Tab.Numbered (f t).tab.notices := by
  rcases hKeeps t with hSame | hRoom
  · rwa [hSame]
  · rw [hRoom]
    exact Tab.numbered_room hNumbered

/-- **Every act keeps a rehearsal tidy.** -/
theorem of_act {script : Option Nat} {own : Nat → Prop} (hTidy : Tidy w)
    (hKnown : ∀ id, script = some id → id < w.started) (hAct : World.Act script own w after) :
    Tidy after := by
  have hNumber : ∀ {n : Nat} {P : Prop}, n = 0 ∨ P ∧ n ≤ w.connection.lastNumber →
      n ≤ w.connection.lastNumber := by
    rintro n P (rfl | ⟨-, hGiven⟩)
    · exact Nat.zero_le _
    · exact hGiven
  cases hAct with
  | change hChange => exact hTidy.of_change hChange
  | receive event payload hTab hTabs hTold =>
    subst hTabs
    refine Tidy.wake (Tidy.of_changes (hTidy.tabs fun t hMem => ?_) hTold) _
    rcases List.mem_or_eq_of_mem_set hMem with hOld | rfl
    · exact hTidy.watches t hOld
    · exact Tab.receive_numbered (hTidy.watches _ (List.mem_of_getElem? hTab)) _ _ _
  | hear hHears =>
    refine Tidy.of_changes (hTidy.connect (Nat.le_of_eq hHears.lastNumber.symm) ?_)
      (Changes.wakeSenders _ _)
    intro call hMem
    have hNumbers := List.mem_map_of_mem (f := Call.number) hMem
    rw [hHears.numbers] at hNumbers
    obtain ⟨old, hOld, hSame⟩ := List.mem_map.mp hNumbers
    rw [hHears.lastNumber, ← hSame]
    exact hTidy.calls old hOld
  | modifyTab number hKeeps =>
    refine hTidy.tabs fun t hMem => ?_
    obtain ⟨i, hTab⟩ := List.getElem?_of_mem hMem
    rw [List.getElem?_modify] at hTab
    obtain ⟨old, hOld, rfl⟩ := Option.map_eq_some_iff.mp hTab
    have hNumbered := hTidy.watches old (List.mem_of_getElem? hOld)
    split
    · exact numbered_of_keeps hKeeps hNumbered
    · exact hNumbered
  | openTab session =>
    refine hTidy.tabs fun t hMem => ?_
    rcases List.mem_append.mp hMem with hOld | hNew
    · exact hTidy.watches t hOld
    · obtain rfl := List.mem_singleton.mp hNew
      nofun
  | session hLast hCalls =>
    exact hTidy.connect (Nat.le_of_eq hLast.symm) (hCalls ▸ hLast ▸ hTidy.calls)
  | begin hLast hCalls =>
    refine hTidy.connect (by omega) fun call hMem => ?_
    rw [hCalls] at hMem
    rcases List.mem_append.mp hMem with hOld | hNew
    · have hGiven := hTidy.calls call hOld
      omega
    · obtain rfl := List.mem_singleton.mp hNew
      exact Nat.le_refl _
  | done hOwn =>
    exact hTidy.connect (Nat.le_refl _) fun call hMem =>
      hTidy.calls call (List.mem_of_mem_filter hMem)
  | wait hScript due hWaiting =>
    -- The alarm may as well be set after the wait has begun, when the script's time may run.
    rw [setWaiting_addTimer]
    refine (hTidy.setWaiting (hNumber hWaiting)).addTimer due ?_
    rintro n ⟨⟩
    exact hasBegun_setWaiting (hKnown _ hScript) _
  | await hScript hWaiting => exact hTidy.setWaiting (hNumber hWaiting)
  | mark hScript hSame => exact hTidy.mark hSame
  | dropTimers hScript => exact hTidy.dropTimers _
  | finish hScript result => exact hTidy.finish (hKnown _ hScript) result
  | leave hScript => exact hTidy.leave _

theorem of_acts {script : Option Nat} {own : Nat → Prop} (hTidy : Tidy w)
    (hKnown : ∀ id, script = some id → id < w.started) (hActs : World.Acts script own w after) :
    Tidy after ∧ w.started ≤ after.started := by
  induction hActs with
  | refl => exact ⟨hTidy, Nat.le_refl _⟩
  | tail _ hLast ih =>
    obtain ⟨hBefore, hMore⟩ := ih
    refine ⟨hBefore.of_act (fun id hScript => ?_) hLast, Nat.le_trans hMore (hLast.started_le)⟩
    exact Nat.lt_of_lt_of_le (hKnown id hScript) hMore

/-! ## Runs -/

theorem takeTurn (hTidy : Tidy w) (turn : Turn) : Tidy (w.takeTurn turn) := by
  refine (hTidy.of_acts ?_ (Acts.takeTurn w turn)).1
  intro id hScript
  obtain ⟨task, hRunner, rfl⟩ := Option.map_eq_some_iff.mp hScript
  exact hTidy.known task (Beside.runner_mem hRunner)

/-- The clock moves, and what is due then comes. -/
theorem moves (hTidy : Tidy w) (hMoves : w.Moves after) : Tidy after := by
  obtain ⟨hTimers, hLater, hDue, hAhead⟩ := hMoves
  have hSorted := hTidy.sorted
  have hBegun := hTidy.timers
  rw [hTimers] at hSorted hBegun
  refine { hTidy with
    sorted := (List.pairwise_append.mp hSorted).2.1
    ahead := hAhead
    timers := fun id timer hMem => hBegun id timer (List.mem_append_right _ hMem)
    turns := fun id hMem => ?_ }
  obtain ⟨timer, hTimer, hElapse⟩ := List.mem_map.mp hMem
  exact hBegun id timer (List.mem_append_left _ hTimer) hElapse

/-- **Whatever happens keeps a rehearsal tidy.** -/
theorem happens {id : Nat} (hTidy : Tidy w) (hHappens : w.Happens id after) : Tidy after := by
  cases hHappens with
  | @turn turn rest hTurns =>
    have hRest : Tidy { w with turns := rest } :=
      { hTidy with turns := fun n hMem => hTidy.turns n (hTurns ▸ .tail _ hMem) }
    exact hRest.takeTurn turn
  | jump hSettled hJump => exact hTidy.moves (jump_moves hTidy.punctual hSettled hJump)
  | pass hSettled hLater hBefore => exact { hTidy with ahead := hBefore }
  | arrive frames => exact hTidy.of_changes (Changes.arrive w frames)
  | join script => exact hTidy.spawn script
  | callOff due hOther => exact hTidy.addTimer due nofun

theorem blank (hBlank : w.Blank) : Tidy w := by
  refine Tidy.core ?_ hBlank
  exact ⟨.nil, nofun, nofun, nofun, nofun, nofun, nofun, nofun, nofun, nofun⟩

end Tidy

/-- **Every rehearsal that is reached is tidy.** -/
theorem World.Reached.tidy (hReached : w.Reached) : Tidy w := by
  induction hReached with
  | blank hBlank => exact .blank hBlank
  | step _ hHappens ih => exact ih.happens hHappens

end PageReporter
