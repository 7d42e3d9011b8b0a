import PageReporter.Proofs.Acts
import PageReporter.Proofs.Notices

/-!
# Bystanders

One script waits, and around it everything else goes on: other scripts, other commands, listeners,
the reader of the socket. None of this ends the wait, moves its time or takes away what has come
for it; and when something comes for it, its turn comes.

* `Errand` — what the waiting script goes by; `Errand.answer?`, `Errand.notices` — what has come;
* `Orderly` — what has to hold of the others and of the timers;
* `Quiet` — a change that brings the script nothing; `Beside` — one that may, and then rouses it;
* `Quiet.of_change`, `Beside.of_act` — what each kind of change and each act is;
* `Beside.takeTurn` — the turns of all others are beside the script.
-/

namespace PageReporter

open World

variable {α : Type}

/-! ## Errands -/

/-- What a script goes by that navigates: its own number, that of the tab, that of the watch for
which notices are kept, and that of its command. -/
structure Errand where
  id : Nat
  tab : Nat
  watch : Nat
  number : Nat

namespace Errand

/-- The answer to the command, once there is one. -/
def answer? (g : Errand) (w : World α) : Option (Except Fault Value) :=
  w.connection.answer? g.number

/-- The notices that have been kept so far. -/
def notices (g : Errand) (w : World α) : List Value :=
  match w.tabs[g.tab]? with
  | some t => t.tab.noticesOf g.watch
  | none => []

/-- A turn is about the time of the script, or calls it off. -/
def Owns (g : Errand) (turn : Turn) : Prop :=
  turn = .elapse g.id ∨ turn = .callOff g.id

/-- The script waits for the answer to its command. -/
def AwaitsAnswer (g : Errand) (w : World α) : Prop :=
  ∃ number waiting, w.task? g.id = some ⟨number, .waiting waiting⟩ ∧ waiting.number = g.number ∧
    ∃ key method params limit, waiting.op = .send key method params limit

/-- The script waits for a notice of the tab. -/
def AwaitsNotice (g : Errand) (w : World α) : Prop :=
  ∃ number waiting, w.task? g.id = some ⟨number, .waiting waiting⟩ ∧
    ∃ watch sought limit, waiting.op = .awaitMilestone g.tab watch sought limit

@[simp] theorem not_owns_go (g : Errand) (id : Nat) : ¬ g.Owns (.go id) := by
  simp [Owns]

@[simp] theorem owns_elapse (g : Errand) (id : Nat) : g.Owns (.elapse id) ↔ id = g.id := by
  simp [Owns]

@[simp] theorem owns_callOff (g : Errand) (id : Nat) : g.Owns (.callOff id) ↔ id = g.id := by
  simp [Owns]

theorem not_owns_of_isPlain {g : Errand} {turn : Turn} (hPlain : Turn.isPlain turn = true) : ¬ g.Owns turn := by
  rintro (rfl | rfl) <;> cases hPlain

end Errand

/-! ## Changes beside a script -/

/-- What is due later is in order. -/
structure Punctual (w : World α) : Prop where
  sorted : w.timers.Pairwise fun first second => first.due.le second.due = true
  ahead : ∀ timer ∈ w.timers, w.clock.lt timer.due = true

/-- The others have numbers of their own, and what is due later is in order. -/
structure Orderly (g : Errand) (w : World α) : Prop where
  punctual : Punctual w
  begun : g.id < w.started
  numbered : 0 < g.number
  sent : g.number ≤ w.connection.lastNumber
  others : ∀ task ∈ w.tasks, task.id ≠ g.id → ∀ waiting, task.state = .waiting waiting →
    waiting.number ≠ g.number

/-- A change that leaves the wait of the script as it is. -/
structure Apart (g : Errand) (w after : World α) : Prop where
  orderly : Orderly g after
  clock : after.clock = w.clock
  task : after.task? g.id = w.task? g.id
  result : after.result? g.id = w.result? g.id
  timers : ∀ timer, g.Owns timer.turn → (timer ∈ after.timers ↔ timer ∈ w.timers)
  turns : ∀ turn, g.Owns turn → (turn ∈ after.turns ↔ turn ∈ w.turns)
  roused : .go g.id ∈ w.turns → .go g.id ∈ after.turns

/-- A change that brings the script nothing. -/
structure Quiet (g : Errand) (w after : World α) : Prop extends Apart g w after where
  connection : after.connection = w.connection
  tabs : after.tabs = w.tabs

/-- A change that may bring the script an answer or notices, and then rouses it. An answer that is
no result is a fault of the conversation. -/
structure Beside (g : Errand) (w after : World α) : Prop extends Apart g w after where
  answer : g.answer? after = g.answer? w ∨
    g.answer? w = none ∧ (g.AwaitsAnswer w → .go g.id ∈ after.turns)
  spoken : ∀ e, g.answer? after = some (.error e) →
    g.answer? w = some (.error e) ∨ e.isProtocol = true
  notices : ∃ more, g.notices after = g.notices w ++ more ∧
    (more ≠ [] → g.AwaitsNotice w → .go g.id ∈ after.turns)

variable {g : Errand} {u v w after : World α}

/-! ### One change and then another -/

theorem Apart.refl (hOrderly : Orderly g w) : Apart g w w :=
  ⟨hOrderly, rfl, rfl, rfl, fun _ _ => .rfl, fun _ _ => .rfl, id⟩

theorem Apart.trans (hFirst : Apart g u v) (hSecond : Apart g v w) : Apart g u w where
  orderly := hSecond.orderly
  clock := hSecond.clock.trans hFirst.clock
  task := hSecond.task.trans hFirst.task
  result := hSecond.result.trans hFirst.result
  timers timer hOwn := (hSecond.timers timer hOwn).trans (hFirst.timers timer hOwn)
  turns turn hOwn := (hSecond.turns turn hOwn).trans (hFirst.turns turn hOwn)
  roused hGo := hSecond.roused (hFirst.roused hGo)

/-- A change that leaves all as they are, but for turns of others at the end. -/
theorem Apart.ofAgenda (more : List Turn) (hOrderly : Orderly g w)
    (hAgenda : after.agenda = World.agenda { w with turns := w.turns ++ more })
    (hLast : w.connection.lastNumber ≤ after.connection.lastNumber)
    (hMore : ∀ turn ∈ more, ¬ g.Owns turn) : Apart g w after := by
  simp only [World.agenda, Prod.mk.injEq] at hAgenda
  obtain ⟨hClock, hTimers, hTurns, hTasks, hStarted, hFinished⟩ := hAgenda
  refine ⟨⟨⟨?_, ?_⟩, ?_, hOrderly.numbered, Nat.le_trans hOrderly.sent hLast, ?_⟩, hClock, ?_, ?_, ?_,
    ?_, ?_⟩
  · rw [hTimers]
    exact hOrderly.punctual.sorted
  · rw [hTimers, hClock]
    exact hOrderly.punctual.ahead
  · rw [hStarted]
    exact hOrderly.begun
  · rw [hTasks]
    exact hOrderly.others
  · rw [World.task?, World.task?, hTasks]
  · rw [World.result?, World.result?, hFinished]
  · intro timer _
    rw [hTimers]
  · intro turn hOwn
    rw [hTurns, List.mem_append, or_iff_left fun hMem => hMore turn hMem hOwn]
  · intro hGo
    rw [hTurns]
    exact List.mem_append_left more hGo

theorem Apart.same (hOrderly : Orderly g w) (hAgenda : after.agenda = w.agenda)
    (hLast : w.connection.lastNumber ≤ after.connection.lastNumber) : Apart g w after := by
  refine .ofAgenda [] hOrderly ?_ hLast nofun
  rw [hAgenda, World.agenda, World.agenda, List.append_nil]

namespace Quiet

theorem refl (hOrderly : Orderly g w) : Quiet g w w :=
  ⟨.refl hOrderly, rfl, rfl⟩

theorem trans (hFirst : Quiet g u v) (hSecond : Quiet g v w) : Quiet g u w :=
  ⟨hFirst.toApart.trans hSecond.toApart, hSecond.connection.trans hFirst.connection,
    hSecond.tabs.trans hFirst.tabs⟩

theorem beside (hQuiet : Quiet g w after) : Beside g w after where
  toApart := hQuiet.toApart
  answer := .inl (by rw [Errand.answer?, Errand.answer?, hQuiet.connection])
  spoken e hError := by
    rw [Errand.answer?, hQuiet.connection] at hError
    exact .inl hError
  notices := ⟨[], by simp [Errand.notices, hQuiet.tabs], fun hNone => absurd rfl hNone⟩

/-- A change of nothing that the script depends on, but for turns of others at the end. -/
theorem ofCore (more : List Turn) (hOrderly : Orderly g w)
    (hCore : after.core = World.core { w with turns := w.turns ++ more })
    (hMore : ∀ turn ∈ more, ¬ g.Owns turn) : Quiet g w after := by
  obtain ⟨hAgenda, hOther⟩ := Prod.mk.inj hCore
  obtain ⟨hConnection, hTabs⟩ := Prod.mk.inj hOther
  exact ⟨.ofAgenda more hOrderly hAgenda (Nat.le_of_eq (congrArg Connection.lastNumber hConnection.symm))
    hMore, hConnection, hTabs⟩

/-- A change of nothing that the script depends on. -/
theorem still (hOrderly : Orderly g w) (hCore : after.core = w.core) : Quiet g w after := by
  refine ofCore [] hOrderly ?_ nofun
  rw [hCore, World.core, World.core, List.append_nil]

/-- Scripts whose turn comes are no matter of this one's time. -/
theorem wake (p : Host.Op → Nat → Bool) (hOrderly : Orderly g w) : Quiet g w (w.wake p) := by
  refine ofCore _ hOrderly rfl fun turn hMem => ?_
  obtain ⟨task, -, rfl⟩ := List.mem_map.mp hMem
  rintro (hNever | hNever) <;> cases hNever

theorem addTurn {turn : Turn} (hOther : ¬ g.Owns turn) (hOrderly : Orderly g w) :
    Quiet g w (w.addTurn turn) :=
  ofCore _ hOrderly rfl fun _ hMem => List.mem_singleton.mp hMem ▸ hOther

/-! ### Timers -/

theorem mem_insertTimer {timer other : Timer} {timers : List Timer} :
    other ∈ insertTimer timer timers ↔ other = timer ∨ other ∈ timers := by
  induction timers with
  | nil => simp [insertTimer]
  | cons first rest ih =>
    unfold insertTimer
    split
    · rw [List.mem_cons]
    · rw [List.mem_cons, ih, List.mem_cons]
      exact or_left_comm

/-- A timer finds its place among those that are in order. -/
theorem sorted_insertTimer {clock : Double} {timer : Timer} {timers : List Timer}
    (hSorted : timers.Pairwise fun first second => first.due.le second.due = true)
    (hAhead : ∀ other ∈ timers, clock.lt other.due = true) (hLater : clock.lt timer.due = true) :
    (insertTimer timer timers).Pairwise fun first second => first.due.le second.due = true := by
  induction timers with
  | nil => exact List.pairwise_singleton _ _
  | cons first rest ih =>
    obtain ⟨hFirst, hRest⟩ := List.pairwise_cons.mp hSorted
    unfold insertTimer
    split
    · next hBefore =>
      -- It is due before the first, and so before all.
      have hLe := Double.le_of_lt hBefore
      refine List.pairwise_cons.mpr ⟨fun other hMem => ?_, hSorted⟩
      rcases List.mem_cons.mp hMem with rfl | hMem
      · exact hLe
      · exact Double.le_trans hLe (hFirst other hMem)
    · next hBehind =>
      -- Both are numbers, as the clock is below them, so what is not due before is due behind.
      have hLe := Double.le_of_not_lt hLater (hAhead first (.head rest))
        (eq_false_of_ne_true hBehind)
      refine List.pairwise_cons.mpr ⟨fun other hMem => ?_, ih hRest fun other hMem =>
        hAhead other (.tail first hMem)⟩
      rcases mem_insertTimer.mp hMem with rfl | hMem
      · exact hLe
      · exact hFirst other hMem

/-- What is to happen later finds its place. -/
theorem insert_orderly {due : Double} (turn : Turn) (hLater : w.clock.lt due = true)
    (hOrderly : Orderly g w) : Orderly g { w with timers := insertTimer ⟨due, turn⟩ w.timers } := by
  have hPunctual := hOrderly.punctual
  refine ⟨⟨?_, ?_⟩, hOrderly.begun, hOrderly.numbered, hOrderly.sent, hOrderly.others⟩
  · exact sorted_insertTimer hPunctual.sorted hPunctual.ahead hLater
  · intro timer hMem
    rcases mem_insertTimer.mp hMem with rfl | hMem
    · exact hLater
    · exact hPunctual.ahead timer hMem

/-- Something is to happen later. -/
theorem addTimer {due : Double} {turn : Turn} (hOther : ¬ g.Owns turn)
    (hOrderly : Orderly g w) : Quiet g w (w.addTimer due turn) := by
  unfold World.addTimer
  split
  · next hLater =>
    refine ⟨⟨insert_orderly turn hLater hOrderly, rfl, rfl, rfl, ?_, fun _ _ => .rfl, id⟩, rfl, rfl⟩
    intro timer hOwn
    refine mem_insertTimer.trans (or_iff_right ?_)
    rintro rfl
    exact hOther hOwn
  · exact Quiet.addTurn hOther hOrderly

/-! ### Scripts that join -/

theorem spawn (script : Script Host (Ending α)) (hOrderly : Orderly g w) :
    Quiet g w (w.spawn script).2 := by
  have hFresh : ¬ w.started = g.id := fun hSame => Nat.lt_irrefl _ (hSame ▸ hOrderly.begun)
  refine ⟨⟨⟨⟨hOrderly.punctual.sorted, hOrderly.punctual.ahead⟩, ?_, hOrderly.numbered,
    hOrderly.sent, ?_⟩, rfl, ?_, rfl, fun _ _ => .rfl, ?_, ?_⟩, rfl, rfl⟩
  · exact Nat.lt_succ_of_lt hOrderly.begun
  · intro task hMem hOther waiting hState
    rcases List.mem_append.mp hMem with hOld | hNew
    · exact hOrderly.others task hOld hOther waiting hState
    · obtain rfl := List.mem_singleton.mp hNew
      cases hState
  · show List.find? _ (w.tasks ++ [_]) = List.find? _ w.tasks
    rw [List.find?_append, List.find?_singleton, if_neg (by simpa using hFresh), Option.or_none]
  · intro turn hOwn
    refine List.mem_append.trans (or_iff_left fun hMem => ?_)
    obtain rfl := List.mem_singleton.mp hMem
    rcases hOwn with hNever | hNever <;> cases hNever
  · exact fun hGo => List.mem_append_left _ hGo

/-- **What goes on beside the waits of scripts brings this one nothing.** -/
theorem of_change (hChange : w.Change after) (hOrderly : Orderly g w) : Quiet g w after := by
  cases hChange with
  | still hCore => exact still hOrderly hCore
  | rouse p => exact wake p hOrderly
  | join script => exact spawn script hOrderly
  | lookup script due =>
    have hSpawned := spawn script hOrderly
    refine hSpawned.trans (addTimer ?_ hSpawned.orderly)
    -- The script that may be called off is one that has just joined.
    rw [Errand.owns_callOff]
    exact fun hSame => Nat.lt_irrefl _ (hSame ▸ hOrderly.begun)
  | queue hPlain => exact addTurn (Errand.not_owns_of_isPlain hPlain) hOrderly
  | later due hPlain => exact addTimer (Errand.not_owns_of_isPlain hPlain) hOrderly

theorem of_changes (hChanges : w.Changes after) (hOrderly : Orderly g w) : Quiet g w after := by
  induction hChanges with
  | refl => exact .refl hOrderly
  | tail _ hLast ih => exact ih.trans (of_change hLast ih.orderly)

end Quiet

/-! ### Scripts among others -/

theorem Apart.tasks {tasks : List (Task α)} (hOrderly : Orderly g w)
    (hTask : (tasks.find? fun t => t.id = g.id) = w.task? g.id)
    (hOthers : ∀ task ∈ tasks, task.id ≠ g.id → ∀ waiting, task.state = .waiting waiting →
      waiting.number ≠ g.number) : Apart g w { w with tasks := tasks } where
  orderly := ⟨⟨hOrderly.punctual.sorted, hOrderly.punctual.ahead⟩, hOrderly.begun, hOrderly.numbered,
    hOrderly.sent, hOthers⟩
  clock := rfl
  task := hTask
  result := rfl
  timers _ _ := .rfl
  turns _ _ := .rfl
  roused := id

/-- A change of the scripts alone brings nothing. -/
theorem Quiet.tasks {tasks : List (Task α)} (hOrderly : Orderly g w)
    (hTask : (tasks.find? fun t => t.id = g.id) = w.task? g.id)
    (hOthers : ∀ task ∈ tasks, task.id ≠ g.id → ∀ waiting, task.state = .waiting waiting →
      waiting.number ≠ g.number) : Quiet g w { w with tasks := tasks } :=
  ⟨.tasks hOrderly hTask hOthers, rfl, rfl⟩

namespace Quiet

variable {id : Nat}

theorem setWaiting {waiting : Waiting α} (hOther : id ≠ g.id)
    (hNumber : waiting.number ≠ g.number) (hOrderly : Orderly g w) :
    Quiet g w (w.setWaiting id waiting) := by
  refine Quiet.tasks hOrderly ?_ ?_
  · refine (task?_setWaiting w id waiting g.id).trans ?_
    cases hFound : w.task? g.id with
    | none => rfl
    | some t =>
      rw [Option.map_some, if_neg fun hSame => hOther (hSame.symm.trans (id_of_task? hFound))]
  · intro task hMem hForeign given hState
    obtain ⟨t, hOld, rfl⟩ := List.mem_map.mp hMem
    by_cases hSame : t.id = id
    · rw [if_pos hSame] at hState
      cases hState
      exact hNumber
    · rw [if_neg hSame] at hState hForeign
      exact hOrderly.others t hOld hForeign given hState

/-- The wait of another script is marked. -/
theorem mark {f : Waiting α → Waiting α} (hOther : id ≠ g.id)
    (hSame : ∀ waiting, (f waiting).number = waiting.number) (hOrderly : Orderly g w) :
    Quiet g w (w.mark id f) := by
  unfold World.mark
  split
  · next number waiting hTask =>
    refine setWaiting hOther ?_ hOrderly
    rw [hSame]
    have hForeign : number ≠ g.id := by
      rw [← id_of_task? hTask] at hOther
      exact hOther
    exact hOrderly.others _ (List.mem_of_find?_eq_some hTask) hForeign waiting rfl
  · exact .refl hOrderly

theorem filterTasks (hOther : id ≠ g.id) (hOrderly : Orderly g w) :
    Quiet g w { w with tasks := w.tasks.filter fun t => t.id ≠ id } := by
  refine Quiet.tasks hOrderly ?_ ?_
  · exact task?_filter w hOther.symm
  · exact fun task hMem => hOrderly.others task (List.mem_of_mem_filter hMem)

theorem finish (result : Except Fault α) (hOther : id ≠ g.id) (hOrderly : Orderly g w) :
    Quiet g w (w.finish id result) := by
  have hLeft := filterTasks hOther hOrderly
  have hLookup : (w.finish id result).result? g.id = w.result? g.id := by
    show (w.finished ++ [(id, w.clock, result)]).lookup g.id = w.finished.lookup g.id
    rw [List.lookup_append, List.lookup_cons, beq_eq_false_iff_ne.mpr hOther.symm]
    exact Option.or_none
  have hPunctual := hOrderly.punctual
  exact ⟨⟨⟨⟨hPunctual.sorted, hPunctual.ahead⟩, hOrderly.begun, hOrderly.numbered, hOrderly.sent,
    hLeft.orderly.others⟩, rfl, hLeft.task, hLookup, fun _ _ => .rfl, fun _ _ => .rfl,
    fun hGo => hGo⟩, rfl, rfl⟩

theorem dropTimers (hOther : id ≠ g.id) (hOrderly : Orderly g w) :
    Quiet g w (w.dropTimers id) := by
  have hPunctual := hOrderly.punctual
  have hOwn : ∀ turn, g.Owns turn → (!Turn.isElapseOf id turn) = true := by
    rintro turn (rfl | rfl)
    · simpa [Turn.isElapseOf] using hOther.symm
    · rfl
  refine ⟨⟨⟨⟨?_, ?_⟩, hOrderly.begun, hOrderly.numbered, hOrderly.sent, hOrderly.others⟩, rfl, rfl,
    rfl, ?_, ?_, ?_⟩, rfl, rfl⟩
  · exact hPunctual.sorted.filter _
  · exact fun timer hMem => hPunctual.ahead timer (List.mem_of_mem_filter hMem)
  · intro timer hOwns
    exact List.mem_filter.trans (and_iff_left (hOwn _ hOwns))
  · intro turn hOwns
    exact List.mem_filter.trans (and_iff_left (hOwn _ hOwns))
  · exact fun hGo => List.mem_filter.mpr ⟨hGo, rfl⟩

end Quiet

/-! ## What comes for it -/

namespace Beside

theorem refl (hOrderly : Orderly g w) : Beside g w w :=
  (Quiet.refl hOrderly).beside

theorem trans (hFirst : Beside g u v) (hSecond : Beside g v w) : Beside g u w := by
  have hAnswer : g.AwaitsAnswer u → g.AwaitsAnswer v := by
    rintro ⟨number, waiting, hTask, hWaits⟩
    exact ⟨number, waiting, hFirst.task.trans hTask, hWaits⟩
  have hNotice : g.AwaitsNotice u → g.AwaitsNotice v := by
    rintro ⟨number, waiting, hTask, hWaits⟩
    exact ⟨number, waiting, hFirst.task.trans hTask, hWaits⟩
  refine ⟨hFirst.toApart.trans hSecond.toApart, ?_, ?_, ?_⟩
  · rcases hFirst.answer with hSame | ⟨hNone, hRoused⟩
    · rcases hSecond.answer with hStill | ⟨hNone, hRoused⟩
      · exact .inl (hStill.trans hSame)
      · exact .inr ⟨hSame.symm.trans hNone, fun hWaits => hRoused (hAnswer hWaits)⟩
    · exact .inr ⟨hNone, fun hWaits => hSecond.roused (hRoused hWaits)⟩
  · intro e hError
    exact (hSecond.spoken e hError).elim (hFirst.spoken e) .inr
  · obtain ⟨first, hKept, hRoused⟩ := hFirst.notices
    obtain ⟨second, hMore, hAgain⟩ := hSecond.notices
    refine ⟨first ++ second, by rw [hMore, hKept, List.append_assoc], fun hSome hWaits => ?_⟩
    -- Whichever of the two brought something roused the script.
    cases first with
    | nil => exact hAgain hSome (hNotice hWaits)
    | cons notice rest => exact hSecond.roused (hRoused nofun hWaits)

end Beside

/-- Whoever waits is roused. -/
theorem go_mem_wake {p : Host.Op → Nat → Bool} {number : Nat} {waiting : Waiting α}
    (hTask : w.task? g.id = some ⟨number, .waiting waiting⟩)
    (hWaits : p waiting.op waiting.number = true) : .go g.id ∈ (w.wake p).turns := by
  have hNumber : number = g.id := by
    simpa using List.find?_some hTask
  have hMem : ⟨number, .waiting waiting⟩ ∈ w.tasks.filter fun t => World.Task.waitsFor p t :=
    List.mem_filter.mpr ⟨List.mem_of_find?_eq_some hTask, hWaits⟩
  rw [← hNumber]
  exact List.mem_append_right _ (List.mem_map.mpr ⟨_, hMem, rfl⟩)

namespace Beside

/-- Something has come, and then nothing more while the script is roused. -/
theorem since (hChange : Apart g w v) (hQuiet : Quiet g v after)
    (hAnswer : g.answer? v = g.answer? w ∨
      g.answer? w = none ∧ (g.AwaitsAnswer v → .go g.id ∈ after.turns))
    (hSpoken : ∀ e, g.answer? v = some (.error e) →
      g.answer? w = some (.error e) ∨ e.isProtocol = true)
    (hNotices : ∃ more, g.notices v = g.notices w ++ more ∧
      (more ≠ [] → g.AwaitsNotice v → .go g.id ∈ after.turns)) : Beside g w after := by
  have hSame : g.answer? after = g.answer? v := by
    rw [Errand.answer?, Errand.answer?, hQuiet.connection]
  have hKept : g.notices after = g.notices v := by
    rw [Errand.notices, Errand.notices, hQuiet.tabs]
  refine ⟨hChange.trans hQuiet.toApart, ?_, hSame ▸ hSpoken, ?_⟩
  · rw [hSame]
    refine hAnswer.imp_right fun ⟨hNone, hRoused⟩ => ⟨hNone, ?_⟩
    rintro ⟨number, waiting, hTask, hWaits⟩
    exact hRoused ⟨number, waiting, hChange.task.trans hTask, hWaits⟩
  · obtain ⟨more, hMore, hRoused⟩ := hNotices
    refine ⟨more, hKept.trans hMore, ?_⟩
    rintro hSome ⟨number, waiting, hTask, hWaits⟩
    exact hRoused hSome ⟨number, waiting, hChange.task.trans hTask, hWaits⟩

/-- A tab that has received an event keeps the notices that it kept, and may keep more. -/
theorem notices_set {number : Nat} {t : TabRecord} {tabs : List TabRecord} (g : Errand)
    (wallClock : Double) (event : String) (payload : Value) (hTab : w.tabs[number]? = some t)
    (hTabs : tabs = w.tabs.set number
      ⟨t.session, (t.tab.receive wallClock event payload).tab, t.followers⟩) :
    ∃ more, g.notices { w with tabs := tabs } = g.notices w ++ more ∧
      (more ≠ [] → number = g.tab) := by
  have hBound : number < w.tabs.length := (List.getElem?_eq_some_iff.mp hTab).1
  subst hTabs
  by_cases hOwn : number = g.tab
  · subst hOwn
    refine ⟨if t.tab.Keeps g.watch then Tab.noticesIn event payload else [], ?_, fun _ => rfl⟩
    simp only [Errand.notices, List.getElem?_set_self hBound, hTab]
    exact Tab.receive_notices ..
  · refine ⟨[], ?_, fun hNone => absurd rfl hNone⟩
    simp only [Errand.notices, List.getElem?_set_ne hOwn, List.append_nil]

/-- An event of a tab may bring notices, and rouses those who wait for them. -/
theorem receive {number : Nat} {t : TabRecord} {tabs : List TabRecord} (event : String)
    (payload : Value) (hTab : w.tabs[number]? = some t)
    (hTabs : tabs = w.tabs.set number
      ⟨t.session, (t.tab.receive w.scenario.wallClock event payload).tab, t.followers⟩)
    (hTold : World.Changes { w with tabs := tabs } v) (hOrderly : Orderly g w) :
    Beside g w (v.wake fun op _ =>
      match op with
      | .awaitMilestone tab _ _ _ => tab = number
      | _ => false) := by
  obtain ⟨more, hMore, hOwn⟩ := notices_set g w.scenario.wallClock event payload hTab hTabs
  have hKept : Apart g w { w with tabs := tabs } := .same hOrderly rfl (Nat.le_refl _)
  have hQuiet := Quiet.of_changes hTold hKept.orderly
  refine .since hKept (hQuiet.trans (Quiet.wake _ hQuiet.orderly)) (.inl rfl) (fun _ => .inl)
    ⟨more, hMore, ?_⟩
  rintro hSome ⟨n, waiting, hTask, watch, sought, limit, hOp⟩
  refine go_mem_wake (hQuiet.task.trans hTask) ?_
  rw [hOp, hOwn hSome]
  exact decide_eq_true rfl

/-- Whoever waits for one of several answers is roused with the others. -/
theorem go_mem_wakeSenders {numbers : List Nat} (hOrderly : Orderly g w)
    (hWaits : g.AwaitsAnswer w) (hMem : g.number ∈ numbers) :
    .go g.id ∈ (numbers.foldl wakeSender w).turns := by
  obtain ⟨n, waiting, hTask, hNumber, key, method, params, limit, hOp⟩ := hWaits
  induction numbers generalizing w with
  | nil => cases hMem
  | cons first rest ih =>
    have hFirst : Quiet g w (w.wakeSender first) := Quiet.wake _ hOrderly
    rcases List.mem_cons.mp hMem with rfl | hLater
    · -- The script is among those roused first, and those roused later change nothing of that.
      have hGo : .go g.id ∈ (w.wakeSender g.number).turns := by
        refine go_mem_wake hTask ?_
        rw [hOp]
        exact decide_eq_true hNumber
      exact (Quiet.of_changes (Changes.wakeSenders rest _) hFirst.orderly).roused hGo
    · exact ih hFirst.orderly hLater (hFirst.task.trans hTask)

/-- The connection changes, and those whose answers have come are roused. -/
theorem connect {c : Connection} {numbers : List Nat} (hOrderly : Orderly g w)
    (hLast : w.connection.lastNumber ≤ c.lastNumber)
    (hAnswers : Connection.Answers g.number w.connection c numbers) :
    Beside g w (numbers.foldl wakeSender { w with connection := c }) := by
  have hChange : Apart g w { w with connection := c } := .same hOrderly rfl hLast
  have hRoused := Quiet.of_changes (Changes.wakeSenders numbers _) hChange.orderly
  refine since hChange hRoused ?_ ?_ ⟨[], (List.append_nil _).symm, fun hNone => absurd rfl hNone⟩
  · exact hAnswers.imp id fun ⟨hNone, hMem, _⟩ =>
      ⟨hNone, fun hWaits => go_mem_wakeSenders hChange.orderly hWaits hMem⟩
  · intro e hError
    rcases hAnswers with hSame | ⟨-, -, hSpoken⟩
    · exact .inl (hSame.symm.trans hError)
    · exact .inr (hSpoken e hError)

/-- A change of the connection that answers nothing. -/
theorem connection {c : Connection} (hOrderly : Orderly g w)
    (hLast : w.connection.lastNumber ≤ c.lastNumber)
    (hSame : c.answer? g.number = w.connection.answer? g.number) :
    Beside g w { w with connection := c } := by
  show Beside g w (([] : List Nat).foldl wakeSender { w with connection := c })
  exact connect hOrderly hLast (.inl hSame)

/-! ### Tabs -/

/-- A change of tabs that leaves the notices as they are. -/
theorem tabs {tabs : List TabRecord} (hOrderly : Orderly g w)
    (hSame : g.notices { w with tabs := tabs } = g.notices w) :
    Beside g w { w with tabs := tabs } :=
  ⟨.same hOrderly rfl (Nat.le_refl _), .inl rfl, fun _ => .inl,
    ⟨[], by rw [hSame, List.append_nil], fun hNone => absurd rfl hNone⟩⟩

theorem notices_modifyTab {f : TabRecord → TabRecord} (g : Errand) (w : World α) (number : Nat)
    (hSame : ∀ t, (f t).tab.noticesOf g.watch = t.tab.noticesOf g.watch) :
    g.notices { w with tabs := w.tabs.modify number f } = g.notices w := by
  simp only [Errand.notices, List.getElem?_modify]
  cases w.tabs[g.tab]? with
  | none => rfl
  | some t =>
    by_cases hOwn : number = g.tab
    · simp [hOwn, hSame]
    · simp [hOwn]

theorem modifyTab {f : TabRecord → TabRecord} (number : Nat)
    (hSame : ∀ t, (f t).tab.noticesOf g.watch = t.tab.noticesOf g.watch) (hOrderly : Orderly g w) :
    Beside g w { w with tabs := w.tabs.modify number f } :=
  tabs hOrderly (notices_modifyTab g w number hSame)

/-- A tab that is opened now has kept nothing. -/
theorem openTab (session : Nat) (hOrderly : Orderly g w) :
    Beside g w { w with tabs := w.tabs ++ [⟨session, {}, {}⟩] } := by
  refine tabs hOrderly ?_
  simp only [Errand.notices]
  rcases Nat.lt_or_ge g.tab w.tabs.length with hOld | hNew
  · rw [List.getElem?_append_left hOld]
  · rw [List.getElem?_append_right hNew, List.getElem?_eq_none hNew]
    cases g.tab - w.tabs.length <;> rfl

theorem noticesOf_same {f : TabRecord → TabRecord} (hKeeps : KeepsNotices f) (t : TabRecord)
    (watch : Nat) : (f t).tab.noticesOf watch = t.tab.noticesOf watch := by
  unfold Tab.noticesOf
  rcases hKeeps t with hSame | hRoom
  · rw [hSame]
  · rw [hRoom]
    exact Tab.lookup_room ..

/-! ### Commands -/

theorem answer?_append {c : Connection} {number : Nat} (calls : List Call) (n : Nat)
    (hCalls : c.calls = calls ++ [⟨n, none⟩]) :
    c.answer? number = (calls.find? fun call => call.number = number).bind Call.answer := by
  rw [Connection.answer?, hCalls, List.find?_append]
  cases calls.find? fun call => call.number = number with
  | some call => rfl
  | none =>
    rw [Option.none_or, List.find?_singleton]
    split <;> rfl

/-- The sender of another command is done with it. -/
theorem done {number : Nat} (hOther : number ≠ g.number) (hOrderly : Orderly g w) :
    Beside g w (w.done number) := by
  refine connection hOrderly (Nat.le_refl _) ?_
  unfold Connection.finish Connection.answer?
  rw [List.find?_filter]
  congr 2
  funext call
  by_cases hOwn : call.number = g.number
  · simp [hOwn, hOther.symm]
  · simp [hOwn]

/-! ## Acts -/

variable {script : Option Nat} {own : Nat → Prop} {id : Nat}

/-- **What another script's turn can do is beside this one.** -/
theorem of_act (hAct : World.Act script own w after) (hOther : ∀ id, script = some id → id ≠ g.id)
    (hForeign : ∀ n, own n → n ≠ g.number) (hOrderly : Orderly g w) : Beside g w after := by
  -- A wait that is for nothing or for a command of its own is not for this one's.
  have hNumber : ∀ {n : Nat} {P : Prop}, n = 0 ∨ own n ∧ P → n ≠ g.number := by
    rintro n P (rfl | ⟨hOwn, -⟩)
    · exact Nat.ne_of_lt hOrderly.numbered
    · exact hForeign n hOwn
  cases hAct with
  | change hChange => exact (Quiet.of_change hChange hOrderly).beside
  | receive event payload hTab hTabs hTold =>
    exact receive event payload hTab hTabs hTold hOrderly
  | hear hHears =>
    exact connect hOrderly (Nat.le_of_eq hHears.lastNumber.symm) (hHears.answers g.number)
  | modifyTab number hKeeps =>
    exact modifyTab number (fun t => noticesOf_same hKeeps t g.watch) hOrderly
  | openTab session => exact openTab session hOrderly
  | session hLast hCalls =>
    exact connection hOrderly (Nat.le_of_eq hLast.symm)
      (by rw [Connection.answer?, Connection.answer?, hCalls])
  | begin hLast hCalls =>
    exact connection hOrderly (by omega) (answer?_append _ _ hCalls)
  | done hOwn => exact done (hForeign _ hOwn) hOrderly
  | wait hScript due hWaiting =>
    have hLater : Quiet g w (w.addTimer due (.elapse _)) :=
      Quiet.addTimer (by simpa using hOther _ hScript) hOrderly
    exact (hLater.trans (Quiet.setWaiting (hOther _ hScript) (hNumber hWaiting) hLater.orderly)).beside
  | await hScript hWaiting =>
    exact (Quiet.setWaiting (hOther _ hScript) (hNumber hWaiting) hOrderly).beside
  | mark hScript hSame => exact (Quiet.mark (hOther _ hScript) hSame hOrderly).beside
  | dropTimers hScript => exact (Quiet.dropTimers (hOther _ hScript) hOrderly).beside
  | finish hScript result => exact (Quiet.finish result (hOther _ hScript) hOrderly).beside
  | leave hScript => exact (Quiet.filterTasks (hOther _ hScript) hOrderly).beside

theorem of_acts (hActs : World.Acts script own w after)
    (hOther : ∀ id, script = some id → id ≠ g.id) (hForeign : ∀ n, own n → n ≠ g.number)
    (hOrderly : Orderly g w) : Beside g w after := by
  induction hActs with
  | refl => exact .refl hOrderly
  | tail _ hLast ih => exact ih.trans (of_act hLast hOther hForeign ih.orderly)

/-- A turn that is not the script's own is another's or nobody's. -/
theorem runner_ne {turn : Turn} {task : Task α} (hOther : turn ≠ .go g.id)
    (hForeign : ¬ g.Owns turn) (hRunner : w.runner? turn = some task) : task.id ≠ g.id := by
  cases turn with
  | go id =>
    rw [id_of_task? hRunner]
    exact fun hSame => hOther (by rw [hSame])
  | elapse id =>
    rw [id_of_task? hRunner]
    simpa using hForeign
  | callOff id =>
    rw [id_of_task? hRunner]
    simpa using hForeign
  | _ => cases hRunner

theorem runner_mem {turn : Turn} {task : Task α} (hRunner : w.runner? turn = some task) :
    task ∈ w.tasks := by
  cases turn with
  | go id => exact List.mem_of_find?_eq_some hRunner
  | elapse id => exact List.mem_of_find?_eq_some hRunner
  | callOff id => exact List.mem_of_find?_eq_some hRunner
  | _ => cases hRunner

/-- **The turns of others are beside the script.** They may bring it what it waits for, and then
its turn comes, but they do not end its wait, nor change its time. -/
theorem takeTurn {turn : Turn} (hOther : turn ≠ .go g.id) (hForeign : ¬ g.Owns turn)
    (hOrderly : Orderly g w) : Beside g w (w.takeTurn turn) := by
  refine of_acts (Acts.takeTurn w turn) ?_ ?_ hOrderly
  · intro id hId
    obtain ⟨task, hRunner, rfl⟩ := Option.map_eq_some_iff.mp hId
    exact runner_ne hOther hForeign hRunner
  · rintro n (hLater | ⟨id, waiting, hRunner, rfl⟩)
    · exact Nat.ne_of_gt (Nat.lt_of_le_of_lt hOrderly.sent hLater)
    · exact hOrderly.others _ (runner_mem hRunner) (runner_ne hOther hForeign hRunner) waiting rfl

/-- Frames have come in, which the reader has still to read. -/
theorem arrive (frames : List Inbound) (hOrderly : Orderly g w) : Quiet g w (w.arrive frames) :=
  Quiet.of_changes (Changes.arrive w frames) hOrderly

end Beside

end PageReporter
