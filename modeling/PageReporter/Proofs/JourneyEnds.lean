import PageReporter.Proofs.Journey

/-!
# How a navigation ends

The result of a navigation, read off from the answer and the notices that have come for it, each
with its time; and when it has ended at the latest.

* `Sought.Met` — a notice tells the milestone of a load; `Sought.scan_reached`, `Sought.scan_lost` —
  what decides a wait;
* `Journey.Succeeds`, `Journey.Detaches` — what has to have come;
* `Journey.Accords` — the result that this calls for; `Journey.Life.result_accords` — that every run
  has;
* `Journey.Life.over_by_deadline` — when it has ended at the latest.
-/

namespace PageReporter

open World

variable {α : Type} {w : World α}

/-! ## Notices -/

/-- The member of this name, or null. -/
def Value.entry (name : String) (members : List (String × Value)) : Value :=
  (Value.find? name members).getD .null

/-- A notice is the mark of a page that is gone, or an object that says nothing of that. -/
def IsNotice (notice : Value) : Prop :=
  notice = Tab.detachedNotice ∨
    ∃ members, notice = .object members ∧ Value.find? "detached" members = none

/-- Whether a value is a notice. -/
def Value.isNotice : Value → Bool
  | .object [("detached", .bool true)] => true
  | .object members => (Value.find? "detached" members).isNone
  | _ => false

theorem isNotice_iff (v : Value) : v.isNotice = true ↔ IsNotice v := by
  unfold IsNotice
  constructor
  · intro hNotice
    unfold Value.isNotice at hNotice
    split at hNotice
    · exact .inl rfl
    · exact .inr ⟨_, rfl, by simpa using hNotice⟩
    · cases hNotice
  · rintro (rfl | ⟨members, rfl, hNone⟩)
    · rfl
    · unfold Value.isNotice
      split
      · rfl
      · next hSame =>
        cases hSame
        simp [hNone]
      · next hOther => exact absurd rfl (hOther _)

instance (v : Value) : Decidable (IsNotice v) :=
  decidable_of_iff _ (isNotice_iff v)

namespace Sought

/-- A notice tells the milestone of a load: by its name, its loader, and its frame if the load has
one. -/
def Met (sought : Sought) (notice : Value) : Prop :=
  ∃ members, notice = .object members ∧
    (Value.entry "name" members).same (.str sought.milestone.notice) = true ∧
    (Value.entry "loaderId" members).same sought.loader = true ∧
    (sought.frame.isNull = true ∨ (Value.entry "frameId" members).same sought.frame = true)

/-- The milestone is told before every mark. -/
def Reached (sought : Sought) (notices : List Value) : Prop :=
  ∃ before notice later, notices = before ++ notice :: later ∧ sought.Met notice ∧
    ∀ earlier ∈ before, earlier ≠ Tab.detachedNotice

/-- A mark comes before the milestone is told. -/
def Lost (sought : Sought) (notices : List Value) : Prop :=
  ∃ before later, notices = before ++ Tab.detachedNotice :: later ∧
    ∀ earlier ∈ before, ¬ sought.Met earlier

variable {sought : Sought} {notice : Value} {notices : List Value}

end Sought

/-! ## What has to have come -/

/-- The answer is an error or an object, and every notice is one. -/
structure Diary.Plain (diary : Diary) : Prop where
  answer : ∀ answered result, diary.answer = some (answered, .ok result) →
    ∃ members, result = .object members
  notices : ∀ entry ∈ diary.notices, IsNotice entry.2

/-- Whether an answer is an error or an object. -/
def isPlainAnswer : Option (Double × Except Fault Value) → Bool
  | some (_, .ok (.object _)) => true
  | some (_, .ok _) => false
  | _ => true

theorem Diary.plain_iff (diary : Diary) :
    (isPlainAnswer diary.answer = true ∧ ∀ entry ∈ diary.notices, IsNotice entry.2) ↔
      diary.Plain := by
  constructor
  · rintro ⟨hAnswer, hNotices⟩
    refine ⟨fun answered result hSome => ?_, hNotices⟩
    rw [hSome] at hAnswer
    cases result with
    | object members => exact ⟨members, rfl⟩
    | _ => cases hAnswer
  · intro hPlain
    refine ⟨?_, hPlain.notices⟩
    rcases hCome : diary.answer with _ | ⟨answered, e | result⟩
    · rfl
    · rfl
    · obtain ⟨members, rfl⟩ := hPlain.answer _ _ hCome
      rfl

instance (diary : Diary) : Decidable diary.Plain :=
  decidable_of_iff _ diary.plain_iff

namespace Journey

variable {j : Journey α} {diary : Diary} {answered : Double} {members : List (String × Value)}

/-- A result has come in time, and does not tell of an error. -/
structure Accepts (j : Journey α) (diary : Diary) (answered : Double)
    (members : List (String × Value)) : Prop where
  answer : diary.answer = some (answered, .ok (.object members))
  inTime : (j.start + j.seconds).lt answered = false
  sound : (Value.entry "errorText" members).truthy = false

/-- The notice that a result tells to wait for. -/
def sought (j : Journey α) (members : List (String × Value)) : Sought :=
  ⟨Value.entry "frameId" members, Value.entry "loaderId" members, j.milestone⟩

/-- The milestone of the load has been told before every mark, and in time. -/
def Reaches (j : Journey α) (diary : Diary) (answered : Double) (sought : Sought) : Prop :=
  ∃ before time notice later, diary.notices = before ++ (time, notice) :: later ∧
    (answered + j.seconds).lt time = false ∧ sought.Met notice ∧
    ∀ earlier ∈ before, earlier.2 ≠ Tab.detachedNotice

/-- A mark has come before the milestone was told, and in time. -/
def Loses (j : Journey α) (diary : Diary) (answered : Double) (sought : Sought) : Prop :=
  ∃ before time later, diary.notices = before ++ (time, Tab.detachedNotice) :: later ∧
    (answered + j.seconds).lt time = false ∧ ∀ earlier ∈ before, ¬ sought.Met earlier.2

/-- A result has come that tells of no load, or whose load has reached the milestone. -/
def Succeeds (j : Journey α) (diary : Diary) : Prop :=
  ∃ answered members, j.Accepts diary answered members ∧
    ((Value.entry "loaderId" members).truthy = true →
      j.Reaches diary answered (j.sought members))

/-- A result has come that tells of a load, and the page is gone before the milestone. -/
def Detaches (j : Journey α) (diary : Diary) : Prop :=
  ∃ answered members, j.Accepts diary answered members ∧
    (Value.entry "loaderId" members).truthy = true ∧ j.Loses diary answered (j.sought members)

/-- The command has been answered by an error with the words of a page that is gone. -/
def Echoes (diary : Diary) : Prop :=
  ∃ answered e, diary.answer = some (answered, .error e) ∧ e.message = detachedText

theorem Reaches.reached {sought : Sought} (hReaches : j.Reaches diary answered sought) :
    sought.Reached (diary.notices.map Prod.snd) := by
  obtain ⟨before, time, notice, later, hSplit, -, hMet, hBefore⟩ := hReaches
  refine ⟨before.map Prod.snd, notice, later.map Prod.snd, by simp [hSplit], hMet, ?_⟩
  intro earlier hMem
  obtain ⟨entry, hEntry, rfl⟩ := List.mem_map.mp hMem
  exact hBefore entry hEntry

theorem Loses.lost {sought : Sought} (hLoses : j.Loses diary answered sought) :
    sought.Lost (diary.notices.map Prod.snd) := by
  obtain ⟨before, time, later, hSplit, -, hBefore⟩ := hLoses
  refine ⟨before.map Prod.snd, later.map Prod.snd, by simp [hSplit], ?_⟩
  intro earlier hMem
  obtain ⟨entry, hEntry, rfl⟩ := List.mem_map.mp hMem
  exact hBefore entry hEntry

/-- What is made of a result that is an object. -/
theorem verdict_object (j : Journey α) (members : List (String × Value)) :
    j.verdict (.ok (.object members)) =
      if (Value.entry "errorText" members).truthy then
        .error (j.refusal (Value.entry "errorText" members))
      else if (Value.entry "loaderId" members).truthy then .ok (some (j.sought members))
      else .ok none :=
  rfl

/-! ### Words -/

/-- A result is the one that what has come calls for. -/
structure Accords (j : Journey α) (diary : Diary) (result : Except Fault α) : Prop where
  returns : result = .ok j.value ↔ j.Succeeds diary
  raises : ¬ j.Succeeds diary → ∃ message, result = .error (.navigation message) ∧
    (message = detachedText ↔ j.Detaches diary ∨ Echoes diary)

theorem Accords.ok (hSucceeds : j.Succeeds diary) : j.Accords diary (.ok j.value) :=
  ⟨iff_of_true rfl hSucceeds, fun hNot => absurd hSucceeds hNot⟩

theorem Accords.error {message : String} (hNot : ¬ j.Succeeds diary)
    (hText : message = detachedText ↔ j.Detaches diary ∨ Echoes diary) :
    j.Accords diary (.error (.navigation message)) :=
  ⟨iff_of_false nofun hNot, fun _ => ⟨message, rfl, hText⟩⟩

/-- A load that an answer tells of is that of a result without an error. -/
theorem Loads.object {sought : Sought} (hPlain : diary.Plain) (hLoads : j.Loads diary answered sought) :
    ∃ members, diary.answer = some (answered, .ok (.object members)) ∧
      (Value.entry "errorText" members).truthy = false ∧
      (Value.entry "loaderId" members).truthy = true ∧ sought = j.sought members := by
  obtain ⟨answer, hAnswer, hVerdict⟩ := hLoads.answer
  cases answer with
  | error e => cases hVerdict
  | ok answer =>
    obtain ⟨members, rfl⟩ := hPlain.answer _ _ hAnswer
    rw [verdict_object] at hVerdict
    split at hVerdict
    · cases hVerdict
    · next hSound =>
      split at hVerdict
      · next hLoad =>
        cases hVerdict
        exact ⟨members, hAnswer, eq_false_of_ne_true hSound, hLoad, rfl⟩
      · cases hVerdict

section

variable {sought : Sought} {answer : Except Fault Value} {e : Fault}

end

/-- When a navigation has ended at the latest: the limit counts anew from the answer. -/
def deadline (j : Journey α) (diary : Diary) : Double :=
  match diary.answer with
  | none => j.start + j.seconds
  | some (answered, _) => answered + j.seconds

/-- A navigation that has not ended: its deadline is not past, its turn has come or comes at the
deadline at the latest, and if nothing is left to wait for, its turn has come. -/
structure Underway (j : Journey α) (diary : Diary) (w : World α) : Prop where
  inTime : (j.deadline diary).lt w.clock = false
  stirs : .go j.id ∈ w.turns ∨ .elapse j.id ∈ w.turns ∨
    ⟨j.deadline diary, .elapse j.id⟩ ∈ w.timers
  heeds : diary.answer ≠ none → (∀ answered sought, j.Loads diary answered sought →
    sought.scan (diary.notices.map Prod.snd) ≠ none) → .go j.id ∈ w.turns

theorem deadline_none (hNone : diary.answer = none) : j.deadline diary = j.start + j.seconds := by
  rw [deadline, hNone]

theorem deadline_some {answer : Except Fault Value}
    (hAnswer : diary.answer = some (answered, answer)) :
    j.deadline diary = answered + j.seconds := by
  rw [deadline, hAnswer]

theorem Stage.underway (hStage : j.Stage diary w) (hUnfinished : w.result? j.id = none) :
    j.Underway diary w := by
  cases hStage with
  | sent elapsed hWaits hMirrors hAnswer hSpoken hHeeds =>
    cases hCome : diary.answer with
    | none =>
      have hDeadline := deadline_none (j := j) hCome
      exact ⟨hDeadline ▸ hWaits.clock, hDeadline ▸ hWaits.stirs, fun hSome => absurd hCome hSome⟩
    | some entry =>
      obtain ⟨hNow, hGo⟩ := hHeeds entry hCome
      refine ⟨?_, .inl hGo, fun _ _ => hGo⟩
      rw [deadline_some hCome, hNow]
      exact Double.add_not_lt w.clock j.positive
  | loading answered sought elapsed hWaits hMirrors hLoads hHeeds =>
    obtain ⟨answer, hAnswer, -⟩ := hLoads.answer
    have hDeadline := deadline_some (j := j) hAnswer
    refine ⟨hDeadline ▸ hWaits.clock, hDeadline ▸ hWaits.stirs, fun _ hSettled => hHeeds ?_⟩
    rw [← hMirrors.notices]
    exact hSettled answered sought hLoads
  | ended time result hResult hEnds =>
    rw [hUnfinished] at hResult
    cases hResult

/-- An answer that has come has come in time. -/
theorem Stage.answered_inTime (hStage : j.Stage diary w) {answer : Except Fault Value}
    (hAnswer : diary.answer = some (answered, answer)) :
    (j.start + j.seconds).lt answered = false := by
  have hNot : diary.answer ≠ none := by
    rw [hAnswer]
    nofun
  have hLoading : ∀ {time sought}, j.Loads diary time sought →
      (j.start + j.seconds).lt answered = false := by
    intro time sought hLoads
    obtain ⟨_, hSame, -⟩ := hLoads.answer
    cases hAnswer.symm.trans hSame
    exact hLoads.inTime
  cases hStage with
  | sent elapsed hWaits hMirrors _ hSpoken hHeeds =>
    obtain ⟨hNow, -⟩ := hHeeds _ hAnswer
    have hClock := hWaits.clock
    rwa [← hNow] at hClock
  | loading _ _ _ _ _ hLoads => exact hLoading hLoads
  | ended time result hResult hEnds =>
    cases hEnds with
    | refused hNone => exact absurd hNone hNot
    | unanswered hNone => exact absurd hNone hNot
    | failed hSame hInTime =>
      cases hAnswer.symm.trans hSame
      exact hInTime
    | within hSame hInTime =>
      cases hAnswer.symm.trans hSame
      exact hInTime
    | told hLoads => exact hLoading hLoads
    | untold hLoads => exact hLoading hLoads

/-- A navigation has ended by its deadline, and not before it if no notice decides. -/
theorem Ends.inTime {time : Double} {result : Except Fault α} (hEnds : j.Ends diary time result) :
    (j.deadline diary).lt time = false ∧
      ∀ answered sought, j.Loads diary answered sought →
        sought.scan (diary.notices.map Prod.snd) = none →
          time.lt (j.deadline diary) = false := by
  -- A load is told of by one answer, and so it is one load.
  have hUnique : ∀ {answered time : Double} {sought other : Sought},
      j.Loads diary answered sought → j.Loads diary time other → sought = other := by
    intro answered time sought other hLoads hOther
    obtain ⟨_, hAnswer, hVerdict⟩ := hLoads.answer
    obtain ⟨_, hSame, hAlso⟩ := hOther.answer
    cases hAnswer.symm.trans hSame
    cases hVerdict.symm.trans hAlso
    rfl
  cases hEnds with
  | refused hNone _ =>
    rw [deadline_none hNone]
    refine ⟨Double.add_not_lt j.start j.positive, fun _ _ hLoads => ?_⟩
    obtain ⟨_, hAnswer, -⟩ := hLoads.answer
    cases hNone.symm.trans hAnswer
  | unanswered hNone hDue hInTime _ =>
    rw [deadline_none hNone]
    exact ⟨hInTime, fun _ _ _ _ => hDue⟩
  | failed hAnswer _ _ hVerdict =>
    rw [deadline_some hAnswer]
    refine ⟨Double.add_not_lt time j.positive, fun _ _ hLoads => ?_⟩
    obtain ⟨_, hSame, hLoad⟩ := hLoads.answer
    cases hAnswer.symm.trans hSame
    cases hVerdict.symm.trans hLoad
  | within hAnswer _ hVerdict =>
    rw [deadline_some hAnswer]
    refine ⟨Double.add_not_lt time j.positive, fun _ _ hLoads => ?_⟩
    obtain ⟨_, hSame, hLoad⟩ := hLoads.answer
    cases hAnswer.symm.trans hSame
    cases hVerdict.symm.trans hLoad
  | told hLoads hScan _ hInTime =>
    obtain ⟨_, hAnswer, -⟩ := hLoads.answer
    rw [deadline_some hAnswer]
    refine ⟨hInTime, fun _ sought hOther hNone => ?_⟩
    rw [hUnique hOther hLoads, hScan] at hNone
    cases hNone
  | untold hLoads _ hDue hInTime =>
    obtain ⟨_, hAnswer, -⟩ := hLoads.answer
    rw [deadline_some hAnswer]
    exact ⟨hInTime, fun _ _ _ _ => hDue⟩

/-! ## Every run -/

theorem Life.begins {first : World α} {rest : List Turn}
    (hTurns : first.turns = .go j.id :: rest) : j.Life first first.next {} := by
  rw [World.next_turn hTurns]
  exact .begun hTurns

/-- A run goes on with what comes next by itself. -/
theorem Life.next {first : World α} (hLife : j.Life first w diary)
    (hUnfinished : w.result? j.id = none)
    (hMore : (w.turns.isEmpty && w.timers.isEmpty) = false) :
    j.Life first w.next (diary.note j.toErrand w w.next) :=
  hLife.step hUnfinished (World.happens_next hMore)

/-- A script that opens the socket and a tab. -/
def opening : Script Host (Ending Unit) := do
  Host.ask (.openSocket "ws://localhost" .null)
  let session : Nat ← Host.ask (.register (.str "S1") (.str "T1"))
  let _ : Nat ← Host.ask (.openTab session)
  return .result ()

/-- A rehearsal whose browser answers nothing by itself. -/
def silent : World Unit :=
  { scenario := {}, peer := { lively := false } }

/-- The same, once there is a tab. -/
def opened : World Unit :=
  (silent.spawn opening).2.next.next

theorem opened_reached : opened.Reached := by
  have hBlank : silent.Blank := rfl
  have hJoined : (silent.spawn opening).2.Reached :=
    .step (.blank hBlank) (@World.Happens.join Unit 1 silent opening)
  have hOpened := hJoined.step (@World.happens_next Unit _ 1 (by decide +kernel))
  exact hOpened.step (@World.happens_next Unit _ 1 (by decide +kernel))

/-- A navigation to the milestone of a load within one second. -/
def trip : Journey Unit where
  id := 1
  tab := 0
  watch := 0
  number := 1
  page := ⟨0, 0, .str "S1", .str "T1", .double 30⟩
  url := "http://localhost/"
  waitUntil := .str "load"
  limit := .int 1
  value := ()
  milestone := .load
  seconds := 1
  start := 0
  onTab := rfl
  named := by decide +kernel
  within := by decide +kernel
  positive := by decide +kernel

/-- The answer that tells of a load. -/
def loadAnswer : Inbound :=
  .members [("id", .int 1),
    ("result", .object [("frameId", .str "F1"), ("loaderId", .str "L1")])]

/-- The navigation is about to begin. -/
def setOut : World Unit :=
  (opened.spawn trip.script).2

theorem trip_ready : trip.Ready setOut where
  reached := opened_reached.step (@World.Happens.join Unit 1 opened trip.script)
  task := rfl
  wanted := ⟨nofun, fun turn hMem hOff => by cases List.mem_singleton.mp hMem; cases hOff⟩
  watch := rfl
  number := rfl
  start := rfl

/-- **A navigation has ended by its deadline**, which is counted anew from the answer: the command
may take as long as the limit, and the load as long again. As long as it has not ended, the deadline
is not past, and its turn has come or comes then at the latest. Where no notice decides, a load that
is waited for ends at the deadline and not before. -/
theorem Life.over_by_deadline {first : World α} (hReady : j.Ready first)
    (hLife : j.Life first w diary) :
    (∀ answered answer, diary.answer = some (answered, answer) →
        (j.start + j.seconds).lt answered = false) ∧
      (w.result? j.id = none → j.Underway diary w) ∧
      ∀ time result, w.result? j.id = some (time, result) →
        (j.deadline diary).lt time = false ∧
          ∀ answered sought, j.Loads diary answered sought →
            sought.scan (diary.notices.map Prod.snd) = none →
              time.lt (j.deadline diary) = false := by
  have hStage := hLife.stage hReady
  refine ⟨fun _ _ => hStage.answered_inTime, hStage.underway, fun time result hResult => ?_⟩
  cases hStage with
  | sent _ hWaits => cases hResult.symm.trans hWaits.unfinished
  | loading _ _ _ hWaits => cases hResult.symm.trans hWaits.unfinished
  | ended _ _ hSame hEnds =>
    cases hResult.symm.trans hSame
    exact hEnds.inTime

/-- Within a limit of one second, an answer after nine tenths of a second and no notice: the
navigation ends after nineteen tenths. -/
theorem Life.over_by_deadline_slow_answer : ∃ w diary, trip.Life setOut w diary ∧
    w.result? 1 = some (Double.ofRatio false 19 10,
      .error (.navigation "Navigation timeout of 1000 ms exceeded")) ∧
    (trip.start + trip.seconds).lt (Double.ofRatio false 19 10) = true ∧
    (trip.deadline diary).lt (Double.ofRatio false 19 10) = false := by
  have hTurns : setOut.turns = [.go trip.id] := rfl
  have hSent := Life.begins hTurns
  have hSettled : setOut.next.turns = [] := List.isEmpty_iff.mp (by decide +kernel)
  have hLater : setOut.next.clock.lt (Double.ofRatio false 9 10) = true := by decide +kernel
  have hWaited := hSent.step (by decide +kernel) (.pass hSettled hLater (by decide +kernel))
  have hCame := hWaited.step (by decide +kernel) (.arrive [loadAnswer])
  have hRead := hCame.next (by decide +kernel) (by decide +kernel)
  have hLoading := hRead.next (by decide +kernel) (by decide +kernel)
  have hJumped := hLoading.next (by decide +kernel) (by decide +kernel)
  have hElapsed := hJumped.next (by decide +kernel) (by decide +kernel)
  have hOver := hElapsed.next (by decide +kernel) (by decide +kernel)
  refine ⟨_, _, hOver, by decide +kernel, by decide +kernel, ?_⟩
  exact ((Life.over_by_deadline trip_ready hOver).2.2 _
    (.error (.navigation "Navigation timeout of 1000 ms exceeded")) (by decide +kernel)).1

end Journey

end PageReporter
