import PageReporter.Proofs.Reached

/-!
# A navigation among all that happens

One script navigates: it sends its command and waits for the answer, and if that tells of a load it
waits for a notice of the load's milestone. Meanwhile everything else goes on. How it ends is read
off from what came for it and when, in whatever order that was.

* `Journey` — what a navigation is asked to do; `Journey.script` — the navigation as a script;
* `Diary` — what has come for it; `Journey.Life` — a run in which it takes part;
* `Journey.Ends` — the ways in which it ends;
* `Journey.Life.stage` — where it is after any run.
-/

namespace PageReporter

open World

variable {α : Type} {g : Errand} {w after : World α}

/-! ## What it does -/

/-- What a navigation is asked to do, with what it goes by in the rehearsal: the milestone and the
seconds that its wishes stand for, and the time at which it starts. -/
structure Journey (α : Type) extends Errand where
  page : Page
  url : String
  waitUntil : Value
  limit : Value
  value : α
  milestone : Milestone
  seconds : Double
  start : Double
  onTab : page.tab = tab
  named : Milestone.ofValue? waitUntil = .ok (some milestone)
  within : Limit.ofValue (if limit.isNull then page.timeout else limit) = .ok (.within seconds)
  positive : Double.zero.lt seconds = true

namespace Journey

/-- The limit that counts. -/
def bound (j : Journey α) : Value :=
  if j.limit.isNull then j.page.timeout else j.limit

/-- The navigation as a script of a rehearsal. -/
def script (j : Journey α) : Script Host (Ending α) :=
  (j.page.goto j.url j.waitUntil j.limit).bind fun _ => .done (.ok (.result j.value))

/-- What an error text in the answer makes of the navigation. -/
def refusal (j : Journey α) (errorText : Value) : Fault :=
  .navigation s!"{errorText.plain} at {j.url}"

/-- What is made of an answer that is a result: the end of the navigation, or a notice to wait
for. -/
def reading (j : Journey α) (answer : Value) : Except Fault (Option Sought) := do
  let errorText ← answer.get "errorText"
  if errorText.truthy then .error (j.refusal errorText)
  else do
    let loader ← answer.get "loaderId"
    if loader.truthy then do
      let frame ← answer.get "frameId"
      pure (some ⟨frame, loader, j.milestone⟩)
    else pure none

/-- What is made of an answer. -/
def verdict (j : Journey α) : Except Fault Value → Except Fault (Option Sought)
  | .ok answer => j.reading answer
  | .error e => .error (if e.isProtocol then .navigation e.message else e)

/-- What is made of the end of the wait for a notice. -/
def outcome (j : Journey α) : Except Fault Unit → Except Fault Unit
  | .ok () => .ok ()
  | .error e =>
    if e.isTimeLimit then do
      let milliseconds ← limitMilliseconds j.bound
      throw (.navigation s!"Navigation timeout of {milliseconds} ms exceeded")
    else .error e

/-- The end of the navigation. -/
def close (j : Journey α) (result : Except Fault Unit) : Script Host (Ending α) :=
  .ask (.endWatch j.page.tab) fun
    | .ok _ => .done (result.map fun _ => .result j.value)
    | .error e => .done (.error e)

/-- How it goes on after the verdict. -/
def follow (j : Journey α) (watch : Nat) : Except Fault (Option Sought) → Script Host (Ending α)
  | .error e => j.close (.error e)
  | .ok none => j.close (.ok ())
  | .ok (some sought) =>
    .ask (.awaitMilestone j.page.tab watch sought j.bound) fun answer => j.close (j.outcome answer)

/-! ### The script of a page -/

/-- A part of the navigation and the end of it. -/
def closing (j : Journey α) (part : Script Host Unit) : Script Host (Ending α) :=
  (part.andFinally (Host.ask (.endWatch j.page.tab))).bind fun _ => .done (.ok (.result j.value))

theorem closing_done (j : Journey α) (result : Except Fault Unit) :
    j.closing (.done result) = j.close result := by
  show Script.ask (S := Host) (.endWatch j.page.tab) _ = _
  unfold close
  congr 1
  funext ended
  cases ended with
  | error e => rfl
  | ok _ => cases result <;> rfl

theorem closing_awaitMilestone (j : Journey α) (watch : Nat) (sought : Sought) :
    j.closing (j.page.awaitMilestone watch sought j.bound) = j.follow watch (.ok (some sought)) := by
  show Script.ask (S := Host) (.awaitMilestone ..) _ = Script.ask (S := Host) (.awaitMilestone ..) _
  congr 1
  funext answer
  rw [← closing_done]
  show j.closing (Script.rescue _ _) = _
  cases answer with
  | ok _ => rfl
  | error e =>
    show j.closing (if e.isTimeLimit = true then _ else _) =
      j.closing (.done (if e.isTimeLimit = true then _ else _))
    split
    · show j.closing (Script.bind (.done (limitMilliseconds j.bound)) _) =
        j.closing (.done ((limitMilliseconds j.bound).bind _))
      cases limitMilliseconds j.bound <;> rfl
    · rfl

variable {β : Type}

/-- A fault on the way is the end. -/
theorem closing_bind {j : Journey α} {watch : Nat} {x : Except Fault β} {f : β → Script Host Unit}
    {k : β → Except Fault (Option Sought)} (hRest : ∀ b, j.closing (f b) = j.follow watch (k b)) :
    j.closing (Script.bind (.done x) f) = j.follow watch (x.bind k) := by
  cases x with
  | error e => exact j.closing_done _
  | ok b => exact hRest b

theorem closing_ite {j : Journey α} {watch : Nat} {c : Prop} [Decidable c]
    {first second : Script Host Unit} {x y : Except Fault (Option Sought)}
    (hFirst : j.closing first = j.follow watch x) (hSecond : j.closing second = j.follow watch y) :
    j.closing (if c then first else second) = j.follow watch (if c then x else y) := by
  split
  · exact hFirst
  · exact hSecond

/-- What is done with an answer that is a result. -/
def reach (j : Journey α) (watch : Nat) (answer : Value) : Script Host Unit := do
  let errorText ← Script.ofExcept (answer.get "errorText")
  if errorText.truthy then throw (j.refusal errorText)
  let loader ← Script.ofExcept (answer.get "loaderId")
  if loader.truthy then
    let frame ← Script.ofExcept (answer.get "frameId")
    j.page.awaitMilestone watch ⟨frame, loader, j.milestone⟩ j.bound

theorem closing_reach (j : Journey α) (watch : Nat) (answer : Value) :
    j.closing (j.reach watch answer) = j.follow watch (j.reading answer) := by
  refine closing_bind fun errorText => closing_ite (j.closing_done _) ?_
  refine closing_bind fun loader => closing_ite ?_ (j.closing_done _)
  exact closing_bind fun frame => j.closing_awaitMilestone watch _

/-- What is wrong with the conversation is wrong with the navigation. -/
def retell (e : Fault) : Script Host Value :=
  if e.isProtocol then throw (.navigation e.message) else throw e

theorem closing_answer (j : Journey α) (watch : Nat) (answer : Except Fault Value) :
    j.closing ((Script.rescue (.done answer) retell).bind (j.reach watch)) =
      j.follow watch (j.verdict answer) := by
  cases answer with
  | ok answer => exact j.closing_reach watch answer
  | error e =>
    show j.closing ((retell e).bind _) = j.close (.error (if e.isProtocol = true then _ else _))
    unfold retell
    split <;> exact j.closing_done _

/-- The navigation, question by question. -/
theorem script_eq (j : Journey α) : j.script = .ask (.beginWatch j.page.tab) fun
    | .error e => .done (.error e)
    | .ok (watch : Nat) => .ask (.isDetached j.page.session) fun
      | .error e => j.follow watch (j.verdict (.error e))
      | .ok (true : Bool) =>
        j.follow watch (j.verdict (.error (.protocol "Page.navigate: target closed")))
      | .ok false =>
        .ask (.send j.page.key "Page.navigate" (.object [("url", .str j.url)]) j.bound)
          fun answer => j.follow watch (j.verdict answer) := by
  unfold script Page.goto
  rw [j.named]
  show Script.ask (S := Host) (.beginWatch j.page.tab) _ = _
  congr 1
  funext watch
  cases watch with
  | error e => rfl
  | ok watch =>
    show Script.ask (S := Host) (.isDetached j.page.session) _ = Script.ask (S := Host) _ _
    congr 1
    funext detached
    cases detached with
    | error e => exact j.closing_answer watch (.error e)
    | ok detached =>
      cases detached with
      | true => exact j.closing_answer watch (.error (.protocol "Page.navigate: target closed"))
      | false =>
        show Script.ask (S := Host) (.send ..) _ = Script.ask (S := Host) (.send ..) _
        congr 1
        funext answer
        exact j.closing_answer watch answer

/-! ### Its two waits -/

/-- It waits for the answer to its command. -/
def sending (j : Journey α) (elapsed : Bool) : Waiting α :=
  ⟨.send j.page.key "Page.navigate" (.object [("url", .str j.url)]) j.bound,
    fun answer => j.follow j.watch (j.verdict answer), j.number, elapsed, false⟩

/-- It waits for a notice. -/
def loading (j : Journey α) (sought : Sought) (elapsed : Bool) : Waiting α :=
  ⟨.awaitMilestone j.page.tab j.watch sought j.bound, fun answer => j.close (j.outcome answer), 0,
    elapsed, false⟩

end Journey

/-! ## What comes for it -/

/-- What has come for a script, each thing with its time: the answer to its command, and the
notices in order. -/
structure Diary where
  answer : Option (Double × Except Fault Value) := none
  notices : List (Double × Value) := []

/-- The diary after something has happened, which may have brought the answer and more notices. -/
def Diary.note (g : Errand) (diary : Diary) (w after : World α) : Diary where
  answer := diary.answer.or ((g.answer? after).map fun answer => (after.clock, answer))
  notices := diary.notices ++
    ((g.notices after).drop (g.notices w).length).map fun notice => (after.clock, notice)

/-- A run from the first turn of a navigation to its end or to any time before, and what has come
for it in the run. -/
inductive Journey.Life (j : Journey α) (first : World α) : World α → Diary → Prop
  | begun {rest : List Turn} (hTurns : first.turns = .go j.id :: rest) :
      Life j first ({ first with turns := rest }.takeTurn (.go j.id)) {}
  | step {w after : World α} {diary : Diary} (hLife : Life j first w diary)
      (hUnfinished : w.result? j.id = none) (hHappens : w.Happens j.id after) :
      Life j first after (diary.note j.toErrand w after)

/-- A rehearsal in which the navigation has still to take its first turn, and is not to be called
off. It goes by the number of the next command and of the next watch on its tab. -/
structure Journey.Ready (j : Journey α) (w : World α) : Prop where
  reached : w.Reached
  task : w.task? j.id = some ⟨j.id, .fresh j.script⟩
  wanted : (∀ timer ∈ w.timers, timer.turn ≠ .callOff j.id) ∧ ∀ turn ∈ w.turns, turn ≠ .callOff j.id
  watch : j.watch = (w.beginWatch j.tab).1
  number : j.number = w.connection.lastNumber + 1
  start : j.start = w.clock

namespace Journey.Ready

variable {j : Journey α}

theorem mem (hReady : j.Ready w) : ⟨j.id, .fresh j.script⟩ ∈ w.tasks :=
  List.mem_of_find?_eq_some hReady.task

theorem unfinished (hReady : j.Ready w) : w.result? j.id = none :=
  hReady.reached.tidy.unfinished _ hReady.mem

/-- Nobody's time runs who has not begun. -/
theorem not_hasBegun (hReady : j.Ready w) : ¬ w.HasBegun j.id :=
  fun ⟨_, hBegun⟩ => hBegun _ _ hReady.task

theorem timers (hReady : j.Ready w) : ∀ timer ∈ w.timers, ¬ j.Owns timer.turn := by
  rintro timer hMem (hElapse | hOff)
  · exact hReady.not_hasBegun (hReady.reached.tidy.timers j.id timer hMem hElapse)
  · exact hReady.wanted.1 timer hMem hOff

theorem turns (hReady : j.Ready w) : ∀ turn ∈ w.turns, ¬ j.Owns turn := by
  rintro turn hMem (rfl | hOff)
  · exact hReady.not_hasBegun (hReady.reached.tidy.turns j.id hMem)
  · exact hReady.wanted.2 turn hMem hOff

end Journey.Ready

/-! ## How it ends -/

/-- The words of a page that is gone. -/
def detachedText : String :=
  "Navigating frame was detached"

namespace Journey

/-- The answer has come in time, and tells of a load. -/
structure Loads (j : Journey α) (diary : Diary) (answered : Double) (sought : Sought) : Prop where
  answer : ∃ answer, diary.answer = some (answered, answer) ∧ j.verdict answer = .ok (some sought)
  inTime : (j.start + j.seconds).lt answered = false

/-- The ways in which a navigation ends, with its time and result: the command cannot be sent, the
answer does not come in time or is the end, or a notice ends it, or none does in time. -/
inductive Ends (j : Journey α) (diary : Diary) : Double → Except Fault α → Prop
  | refused {message : String} (hNone : diary.answer = none) (hText : message ≠ detachedText) :
      Ends j diary j.start (.error (.navigation message))
  | unanswered {time : Double} {e : Fault} (hNone : diary.answer = none)
      (hDue : time.lt (j.start + j.seconds) = false)
      (hInTime : (j.start + j.seconds).lt time = false)
      (hLate : j.verdict (timedOut "Page.navigate" j.bound) = .error e) : Ends j diary time (.error e)
  | failed {answered : Double} {answer : Except Fault Value} {e : Fault}
      (hAnswer : diary.answer = some (answered, answer))
      (hInTime : (j.start + j.seconds).lt answered = false)
      (hSpoken : ∀ e, answer = .error e → e.isProtocol = true)
      (hVerdict : j.verdict answer = .error e) : Ends j diary answered (.error e)
  | within {answered : Double} {answer : Except Fault Value}
      (hAnswer : diary.answer = some (answered, answer))
      (hInTime : (j.start + j.seconds).lt answered = false)
      (hVerdict : j.verdict answer = .ok none) : Ends j diary answered (.ok j.value)
  | told {time answered : Double} {sought : Sought} {result : Except Fault Unit}
      (hLoads : j.Loads diary answered sought)
      (hScan : sought.scan (diary.notices.map Prod.snd) = some result)
      (hNotices : ∀ entry ∈ diary.notices, (answered + j.seconds).lt entry.1 = false)
      (hInTime : (answered + j.seconds).lt time = false) :
      Ends j diary time ((j.outcome result).map fun _ => j.value)
  | untold {time answered : Double} {sought : Sought} (hLoads : j.Loads diary answered sought)
      (hScan : sought.scan (diary.notices.map Prod.snd) = none)
      (hDue : time.lt (answered + j.seconds) = false)
      (hInTime : (answered + j.seconds).lt time = false) :
      Ends j diary time ((j.outcome (.error (.system .timeLimit ""))).map fun _ => j.value)

end Journey

/-! ## Where it is -/

/-- The notices of a diary are those that have been kept, and none is of a time to come or after a
deadline. -/
structure Diary.Mirrors (g : Errand) (deadline : Double) (diary : Diary) (w : World α) : Prop where
  notices : diary.notices.map Prod.snd = g.notices w
  past : ∀ entry ∈ diary.notices, w.clock.lt entry.1 = false ∧ deadline.lt entry.1 = false

/-- Where a navigation is: it waits for the answer or for a notice, and if that has come its turn
comes; or it has ended. -/
inductive Journey.Stage (j : Journey α) (diary : Diary) (w : World α) : Prop
  | sent (elapsed : Bool) (hWaits : Waits j.toErrand (j.start + j.seconds) (j.sending elapsed) w)
      (hMirrors : diary.Mirrors j.toErrand (j.start + j.seconds) w)
      (hAnswer : diary.answer.map Prod.snd = j.answer? w)
      (hSpoken : ∀ e, j.answer? w = some (.error e) → e.isProtocol = true)
      (hHeeds : ∀ entry, diary.answer = some entry → entry.1 = w.clock ∧ .go j.id ∈ w.turns)
  | loading (answered : Double) (sought : Sought) (elapsed : Bool)
      (hWaits : Waits j.toErrand (answered + j.seconds) (j.loading sought elapsed) w)
      (hMirrors : diary.Mirrors j.toErrand (answered + j.seconds) w)
      (hLoads : j.Loads diary answered sought)
      (hHeeds : sought.scan (j.notices w) ≠ none → .go j.id ∈ w.turns)
  | ended (time : Double) (result : Except Fault α) (hResult : w.result? j.id = some (time, result))
      (hEnds : j.Ends diary time result)

/-! ### Nothing comes -/

/-- A change that brings nothing: the notices stay, and at most the command is done with. -/
structure Errand.Silent (g : Errand) (w after : World α) : Prop where
  notices : g.notices after = g.notices w
  answer : g.answer? after = g.answer? w ∨ g.answer? after = none

namespace Errand.Silent

variable {u v : World α}

theorem of_same (hConnection : after.connection = w.connection) (hTabs : after.tabs = w.tabs) :
    g.Silent w after :=
  ⟨by rw [Errand.notices, Errand.notices, hTabs],
    .inl (by rw [Errand.answer?, Errand.answer?, hConnection])⟩

theorem trans (hFirst : g.Silent u v) (hSecond : g.Silent v w) : g.Silent u w := by
  refine ⟨hSecond.notices.trans hFirst.notices, ?_⟩
  rcases hSecond.answer with hSame | hNone
  · rw [hSame]
    exact hFirst.answer
  · exact .inr hNone

theorem done (g : Errand) (w : World α) : g.Silent w (w.done g.number) := by
  refine ⟨rfl, .inr ?_⟩
  unfold Errand.answer? World.done Connection.finish Connection.answer?
  rw [List.find?_filter, List.find?_eq_none.mpr (by simp), Option.bind_none]

theorem note {diary : Diary} (hSilent : g.Silent w after)
    (hKnown : g.answer? w = none ∨ diary.answer ≠ none) : diary.note g w after = diary := by
  obtain ⟨answer, notices⟩ := diary
  have hAnswer : answer.or ((g.answer? after).map fun a => (after.clock, a)) = answer := by
    rcases hKnown with hNone | hSome
    · have hAfter : g.answer? after = none := hSilent.answer.elim (·.trans hNone) fun hAfter => hAfter
      rw [hAfter, Option.map_none, Option.or_none]
    · obtain ⟨entry, rfl⟩ := Option.ne_none_iff_exists'.mp hSome
      rfl
  unfold Diary.note
  rw [hAnswer, hSilent.notices, List.drop_length, List.map_nil, List.append_nil]

end Errand.Silent

namespace Diary.Mirrors

variable {deadline : Double} {diary : Diary}

theorem same (hMirrors : diary.Mirrors g deadline w) (hClock : after.clock = w.clock)
    (hNotices : g.notices after = g.notices w) : diary.Mirrors g deadline after := by
  refine ⟨hNotices ▸ hMirrors.notices, ?_⟩
  rw [hClock]
  exact hMirrors.past

/-- The notices that come are written down with the time. -/
theorem note (hMirrors : diary.Mirrors g deadline w) (hClock : after.clock = w.clock)
    (hInTime : deadline.lt w.clock = false) {more : List Value}
    (hMore : g.notices after = g.notices w ++ more) :
    (diary.note g w after).Mirrors g deadline after := by
  refine ⟨?_, ?_⟩
  · simp [Diary.note, hMore, hMirrors.notices, Function.comp_def]
  · intro entry hMem
    rcases List.mem_append.mp hMem with hOld | hNow
    · rw [hClock]
      exact hMirrors.past entry hOld
    · obtain ⟨notice, -, rfl⟩ := List.mem_map.mp hNow
      exact ⟨Double.lt_irrefl _, hClock ▸ hInTime⟩

/-- What is past stays past when the clock moves. -/
theorem moves (hMirrors : diary.Mirrors g deadline w) (hMoves : w.Moves after) :
    diary.Mirrors g deadline after := by
  obtain ⟨-, hLater, -, -⟩ := hMoves
  refine ⟨hMirrors.notices, fun entry hMem => ⟨?_, (hMirrors.past entry hMem).2⟩⟩
  by_contra hAhead
  have hBefore := Double.lt_trans hLater (by simpa using hAhead)
  rw [(hMirrors.past entry hMem).1] at hBefore
  cases hBefore

end Diary.Mirrors

/-! ### Beside it -/

namespace Journey

variable {j : Journey α} {diary : Diary}

/-- What goes on beside a navigation brings it further only by what it brings, and then its turn
comes. -/
theorem Stage.beside (hStage : j.Stage diary w) (hUnfinished : w.result? j.id = none)
    (hBeside : Beside j.toErrand w after) : j.Stage (diary.note j.toErrand w after) after := by
  obtain ⟨more, hMore, hRoused⟩ := hBeside.notices
  have hClock := hBeside.clock
  cases hStage with
  | sent elapsed hWaits hMirrors hAnswer hSpoken hHeeds =>
    have hAwaits : j.AwaitsAnswer w :=
      ⟨_, _, hWaits.task, rfl, _, _, _, _, rfl⟩
    refine .sent elapsed (hWaits.apart hBeside.toApart) (hMirrors.note hClock hWaits.clock hMore)
      ?_ ?_ ?_
    · show (diary.answer.or _).map Prod.snd = _
      cases hOld : diary.answer with
      | none => simp [Function.comp_def]
      | some entry =>
        rw [hOld] at hAnswer
        rcases hBeside.answer with hSame | ⟨hNone, -⟩
        · exact hAnswer.trans hSame.symm
        · rw [hNone] at hAnswer
          cases hAnswer
    · intro e hError
      exact (hBeside.spoken e hError).elim (hSpoken e) fun hProtocol => hProtocol
    · intro entry hEntry
      cases hOld : diary.answer with
      | some old =>
        obtain ⟨hNow, hGo⟩ := hHeeds old hOld
        have hSame : old = entry := by simpa [Diary.note, hOld] using hEntry
        exact ⟨by rw [← hSame, hNow, hClock], hBeside.roused hGo⟩
      | none =>
        -- The answer has come just now.
        rw [hOld] at hAnswer
        obtain ⟨answer, hCome, rfl⟩ : ∃ answer, j.answer? after = some answer ∧
            (after.clock, answer) = entry := by
          simpa [Diary.note, hOld] using hEntry
        rcases hBeside.answer with hSame | ⟨-, hTurn⟩
        · rw [hSame, ← hAnswer] at hCome
          cases hCome
        · exact ⟨rfl, hTurn hAwaits⟩
  | loading answered sought elapsed hWaits hMirrors hLoads hHeeds =>
    have hAwaits : j.AwaitsNotice w :=
      ⟨_, _, hWaits.task, _, _, _, by rw [← j.onTab]; rfl⟩
    obtain ⟨⟨answer, hAnswer, hVerdict⟩, hInTime⟩ := hLoads
    refine .loading answered sought elapsed (hWaits.apart hBeside.toApart)
      (hMirrors.note hClock hWaits.clock hMore)
      ⟨⟨answer, by simp [Diary.note, hAnswer], hVerdict⟩, hInTime⟩ ?_
    intro hFound
    cases more with
    | nil =>
      rw [hMore, List.append_nil] at hFound
      exact hBeside.roused (hHeeds hFound)
    | cons notice rest => exact hRoused (by simp) hAwaits
  | ended time result hResult hEnds =>
    rw [hUnfinished] at hResult
    cases hResult

/-- Nothing comes while the clock moves. -/
theorem Stage.moves (hStage : j.Stage diary w) (hUnfinished : w.result? j.id = none)
    (hSettled : w.turns = []) (hMoves : w.Moves after) : j.Stage diary after := by
  have hNoGo : .go j.id ∉ w.turns := by
    rw [hSettled]
    exact List.not_mem_nil
  have hSilent : j.Silent w after := by
    cases hMoves
    exact .of_same rfl rfl
  have hSame : j.answer? after = j.answer? w := by
    cases hMoves
    rfl
  cases hStage with
  | sent elapsed hWaits hMirrors hAnswer hSpoken hHeeds =>
    refine .sent elapsed (hWaits.moves hSettled hMoves) (hMirrors.moves hMoves)
      (hAnswer.trans hSame.symm) (fun e hError => hSpoken e (hSame.symm.trans hError)) ?_
    exact fun entry hEntry => absurd (hHeeds entry hEntry).2 hNoGo
  | loading answered sought elapsed hWaits hMirrors hLoads hHeeds =>
    refine .loading answered sought elapsed (hWaits.moves hSettled hMoves) (hMirrors.moves hMoves)
      hLoads fun hFound => absurd (hHeeds ?_) hNoGo
    rwa [hSilent.notices] at hFound
  | ended time result hResult hEnds =>
    rw [hUnfinished] at hResult
    cases hResult

/-! ### Its own turns -/

theorem scanWatch_eq (g : Errand) (w : World α) (sought : Sought) :
    w.scanWatch g.tab g.watch sought = sought.scan (g.notices w) := by
  unfold World.scanWatch Errand.notices
  cases w.tabs[g.tab]? <;> rfl

theorem begin_awaitMilestone (id tab watch : Nat) (sought : Sought) {limit : Value}
    {seconds : Double} (hLimit : Limit.ofValue limit = .ok (.within seconds)) :
    w.begin id (.awaitMilestone tab watch sought limit) =
      match w.scanWatch tab watch sought with
      | some result => .answered w result
      | none => .waits (w.within id (.within seconds)) 0 := by
  cases hScan : w.scanWatch tab watch sought <;> simp only [World.begin, hLimit, hScan]

theorem within_same (w : World α) (id : Nat) (limit : Limit) :
    (w.within id limit).connection = w.connection ∧ (w.within id limit).tabs = w.tabs ∧
      (w.within id limit).clock = w.clock := by
  unfold World.within
  split
  · unfold World.addTimer
    split <;> exact ⟨rfl, rfl, rfl⟩
  · exact ⟨rfl, rfl, rfl⟩

theorem go_waiting {id number : Nat} {waiting : Waiting α}
    (hTask : w.task? id = some ⟨number, .waiting waiting⟩) :
    w.go id = match w.poll waiting waiting.op with
      | none => w
      | some (v, answer) => proceed id (waiting.next answer) (v.dropTimers id) := by
  cases hPoll : w.poll waiting waiting.op <;> simp only [World.go, hTask, hPoll]

/-- The end of the navigation brings nothing more. -/
theorem proceed_close (j : Journey α) (hUnfinished : w.result? j.id = none)
    (result : Except Fault Unit) :
    (proceed j.id (j.close result) w).result? j.id =
        some (w.clock, result.map fun _ => j.value) ∧
      j.Silent w (proceed j.id (j.close result) w) := by
  have hClosed : proceed j.id (j.close result) w =
      (w.modifyTab j.page.tab Tab.endWatch).finish j.id (result.map fun _ => j.value) := by
    cases result <;> rfl
  rw [hClosed]
  refine ⟨?_, Beside.notices_modifyTab _ w _ fun _ => rfl, .inl rfl⟩
  have hNone : w.finished.lookup j.id = none := hUnfinished
  show (w.finished ++ [(j.id, w.clock, _)]).lookup j.id = _
  rw [List.lookup_append, hNone, Option.none_or, List.lookup_cons, beq_self_eq_true]

/-- What follows on an answer that has come. -/
theorem Stage.follows {answer : Except Fault Value} (hPoised : Poised j.toErrand w)
    (hAnswer : diary.answer = some (w.clock, answer))
    (hInTime : (j.start + j.seconds).lt w.clock = false)
    (hSpoken : ∀ e, answer = .error e → e.isProtocol = true)
    (hNotices : diary.notices.map Prod.snd = j.notices w)
    (hPast : ∀ entry ∈ diary.notices, w.clock.lt entry.1 = false) :
    j.Stage diary (proceed j.id (j.follow j.watch (j.verdict answer)) w) ∧
      j.Silent w (proceed j.id (j.follow j.watch (j.verdict answer)) w) := by
  cases hVerdict : j.verdict answer with
  | error e =>
    obtain ⟨hResult, hSilent⟩ := j.proceed_close hPoised.unfinished (.error e)
    exact ⟨.ended _ _ hResult (.failed hAnswer hInTime hSpoken hVerdict), hSilent⟩
  | ok load =>
    cases load with
    | none =>
      obtain ⟨hResult, hSilent⟩ := j.proceed_close hPoised.unfinished (.ok ())
      exact ⟨.ended _ _ hResult (.within hAnswer hInTime hVerdict), hSilent⟩
    | some sought =>
      have hLoads : j.Loads diary w.clock sought := ⟨⟨answer, hAnswer, hVerdict⟩, hInTime⟩
      have hBehind : ∀ entry ∈ diary.notices, (w.clock + j.seconds).lt entry.1 = false :=
        fun entry hMem => Double.add_not_lt_past (hPast entry hMem) j.positive
      -- The notices that came before the answer count as well.
      have hScan : w.scanWatch j.page.tab j.watch sought = sought.scan (j.notices w) := by
        rw [j.onTab, scanWatch_eq]
      have hBegun := begin_awaitMilestone (w := w) j.id j.page.tab j.watch sought j.within
      rw [hScan] at hBegun
      show j.Stage diary (proceed j.id (.ask _ _) w) ∧ j.Silent w (proceed j.id (.ask _ _) w)
      unfold World.proceed
      rw [bound, hBegun]
      cases hFound : sought.scan (j.notices w) with
      | some result =>
        obtain ⟨hResult, hSilent⟩ := j.proceed_close hPoised.unfinished (j.outcome result)
        exact ⟨.ended _ _ hResult (.told hLoads (hNotices ▸ hFound) hBehind
          (Double.add_not_lt w.clock j.positive)), hSilent⟩
      | none =>
        -- The limit begins anew, with the time of the answer.
        have hWaits : Waits j.toErrand (w.clock + j.seconds) (j.loading sought false)
            ((w.within j.id (.within j.seconds)).setWaiting j.id (j.loading sought false)) :=
          hPoised.waits j.positive rfl rfl
        obtain ⟨hConnection, hTabs, hClock⟩ := within_same w j.id (.within j.seconds)
        have hSilent : j.Silent w
            ((w.within j.id (.within j.seconds)).setWaiting j.id (j.loading sought false)) :=
          .of_same hConnection hTabs
        have hMirrors : diary.Mirrors j.toErrand (w.clock + j.seconds) w :=
          ⟨hNotices, fun entry hMem => ⟨hPast entry hMem, hBehind entry hMem⟩⟩
        have hStill : sought.scan (j.notices
            ((w.within j.id (.within j.seconds)).setWaiting j.id (j.loading sought false))) =
              none := by
          rw [hSilent.notices]
          exact hFound
        exact ⟨.loading w.clock sought false hWaits (hMirrors.same hClock hSilent.notices) hLoads
          fun hSome => absurd hStill hSome, hSilent⟩

theorem limitOf_bound (j : Journey α) (w : World α) : w.limitOf j.bound = j.bound := by
  have hGiven : ¬ j.bound.isNull = true := by
    intro hNull
    have hWithin : Limit.ofValue j.bound = _ := j.within
    unfold Limit.ofValue at hWithin
    rw [if_pos hNull] at hWithin
    cases hWithin
  rw [World.limitOf, if_neg hGiven]

theorem go_sending {elapsed : Bool}
    (hTask : w.task? j.id = some ⟨j.id, .waiting (j.sending elapsed)⟩) :
    w.go j.id = match j.answer? w with
      | some answer => proceed j.id (j.follow j.watch (j.verdict answer))
          ((w.done j.number).dropTimers j.id)
      | none =>
        if elapsed then proceed j.id (j.follow j.watch (j.verdict (timedOut "Page.navigate" j.bound)))
          ((w.done j.number).dropTimers j.id)
        else w := by
  rw [go_waiting hTask]
  unfold World.poll sending Errand.answer?
  dsimp only
  cases w.connection.answer? j.number with
  | some answer => rfl
  | none =>
    rw [limitOf_bound]
    cases elapsed <;> rfl

/-- Its turn, while it waits for the answer. -/
theorem Stage.go_sent {elapsed : Bool} {rest : List Turn} (hTurns : w.turns = .go j.id :: rest)
    (hWaits : Waits j.toErrand (j.start + j.seconds) (j.sending elapsed) w)
    (hMirrors : diary.Mirrors j.toErrand (j.start + j.seconds) w)
    (hAnswer : diary.answer.map Prod.snd = j.answer? w)
    (hSpoken : ∀ e, j.answer? w = some (.error e) → e.isProtocol = true)
    (hHeeds : ∀ entry, diary.answer = some entry → entry.1 = w.clock ∧ .go j.id ∈ w.turns) :
    j.Stage diary ({ w with turns := rest }.go j.id) ∧
      j.Silent w ({ w with turns := rest }.go j.id) := by
  have hTask : { w with turns := rest }.task? j.id = some ⟨j.id, .waiting (j.sending elapsed)⟩ :=
    hWaits.task
  have hBegun : j.Silent w { w with turns := rest } := .of_same rfl rfl
  have hPoised := hWaits.poised hTurns
  -- The command is done with, and its time no longer counts.
  have hDone : Poised j.toErrand (({ w with turns := rest }.done j.number).dropTimers j.id) :=
    hPoised.apart (.same hPoised.orderly rfl (Nat.le_refl _))
  have hReleased : j.Silent w (({ w with turns := rest }.done j.number).dropTimers j.id) :=
    (hBegun.trans (.done j.toErrand _)).trans (.of_same rfl rfl)
  have hWas : j.answer? { w with turns := rest } = j.answer? w := rfl
  rw [go_sending hTask, hWas]
  cases hCome : j.answer? w with
  | some answer =>
    rw [hCome, Option.map_eq_some_iff] at hAnswer
    obtain ⟨⟨answered, answer⟩, hEntry, rfl⟩ := hAnswer
    obtain ⟨hNow, -⟩ := hHeeds _ hEntry
    have hFollows := Stage.follows hDone (hNow ▸ hEntry) hWaits.clock
      (fun e hError => hSpoken e (hError ▸ hCome)) hMirrors.notices
      fun entry hMem => (hMirrors.past entry hMem).1
    exact ⟨hFollows.1, hReleased.trans hFollows.2⟩
  | none =>
    have hNone : diary.answer = none := by
      rw [hCome] at hAnswer
      exact Option.map_eq_none_iff.mp hAnswer
    cases elapsed with
    | false =>
      have hStays := hWaits.stays hTurns rfl
      refine ⟨.sent false hStays (hMirrors.same rfl rfl) hAnswer hSpoken ?_, hBegun⟩
      intro entry hEntry
      rw [hNone] at hEntry
      cases hEntry
    | true =>
      -- No answer has come although the time is over.
      obtain ⟨e, hError⟩ := CallRun.timedOut_error "Page.navigate" j.bound
      obtain ⟨hResult, hSilent⟩ :=
        j.proceed_close hDone.unfinished (.error (if e.isProtocol then .navigation e.message else e))
      rw [if_pos rfl, hError]
      refine ⟨.ended _ _ hResult (.unanswered hNone (hWaits.late rfl).2 hWaits.clock ?_),
        hReleased.trans hSilent⟩
      rw [hError]
      rfl

theorem go_loading {sought : Sought} {elapsed : Bool}
    (hTask : w.task? j.id = some ⟨j.id, .waiting (j.loading sought elapsed)⟩) :
    w.go j.id = match sought.scan (j.notices w) with
      | some result => proceed j.id (j.close (j.outcome result)) (w.dropTimers j.id)
      | none =>
        if elapsed then
          proceed j.id (j.close (j.outcome (.error (.system .timeLimit "")))) (w.dropTimers j.id)
        else w := by
  have hScan : w.scanWatch j.page.tab j.watch sought = sought.scan (j.notices w) := by
    rw [j.onTab, scanWatch_eq]
  rw [go_waiting hTask]
  unfold World.poll Journey.loading
  dsimp only
  rw [hScan]
  cases sought.scan (j.notices w) with
  | some result => rfl
  | none => cases elapsed <;> rfl

/-- Its turn, while it waits for a notice. -/
theorem Stage.go_loading {answered : Double} {sought : Sought} {elapsed : Bool} {rest : List Turn}
    (hTurns : w.turns = .go j.id :: rest)
    (hWaits : Waits j.toErrand (answered + j.seconds) (j.loading sought elapsed) w)
    (hMirrors : diary.Mirrors j.toErrand (answered + j.seconds) w)
    (hLoads : j.Loads diary answered sought) :
    j.Stage diary ({ w with turns := rest }.go j.id) ∧
      j.Silent w ({ w with turns := rest }.go j.id) := by
  have hTask : { w with turns := rest }.task? j.id =
      some ⟨j.id, .waiting (j.loading sought elapsed)⟩ := hWaits.task
  have hBegun : j.Silent w { w with turns := rest } := .of_same rfl rfl
  have hReleased : j.Silent w ({ w with turns := rest }.dropTimers j.id) := .of_same rfl rfl
  have hPoised := hWaits.poised hTurns
  have hWas : j.notices { w with turns := rest } = j.notices w := rfl
  rw [Journey.go_loading hTask, hWas]
  cases hScan : sought.scan (j.notices w) with
  | some result =>
    obtain ⟨hResult, hSilent⟩ := j.proceed_close hPoised.unfinished (j.outcome result)
    exact ⟨.ended _ _ hResult (.told hLoads (hMirrors.notices ▸ hScan)
      (fun entry hMem => (hMirrors.past entry hMem).2) hWaits.clock), hReleased.trans hSilent⟩
  | none =>
    cases elapsed with
    | false =>
      refine ⟨.loading answered sought false (hWaits.stays hTurns rfl) (hMirrors.same rfl rfl)
        hLoads ?_, hBegun⟩
      exact fun hSome => absurd (hWas ▸ hScan) hSome
    | true =>
      obtain ⟨hResult, hSilent⟩ :=
        j.proceed_close hPoised.unfinished (j.outcome (.error (.system .timeLimit "")))
      rw [if_pos rfl]
      exact ⟨.ended _ _ hResult (.untold hLoads (hMirrors.notices ▸ hScan) (hWaits.late rfl).2
        hWaits.clock), hReleased.trans hSilent⟩

theorem mark_same (w : World α) (id : Nat) (f : Waiting α → Waiting α) :
    (w.mark id f).connection = w.connection ∧ (w.mark id f).tabs = w.tabs ∧
      (w.mark id f).clock = w.clock := by
  unfold World.mark
  split <;> exact ⟨rfl, rfl, rfl⟩

/-- Its time is over, which its next turn will find. -/
theorem Stage.elapse (hStage : j.Stage diary w) (hUnfinished : w.result? j.id = none)
    {rest : List Turn} (hTurns : w.turns = .elapse j.id :: rest) :
    j.Stage diary ({ w with turns := rest }.takeTurn (.elapse j.id)) ∧
      j.Silent w ({ w with turns := rest }.takeTurn (.elapse j.id)) := by
  obtain ⟨hConnection, hTabs, hClock⟩ := mark_same { w with turns := rest } j.id
    fun v => ⟨v.op, v.next, v.number, true, v.cancelled⟩
  have hSilent : j.Silent w ({ w with turns := rest }.takeTurn (.elapse j.id)) :=
    .of_same hConnection hTabs
  have hAnswered : j.answer? ({ w with turns := rest }.takeTurn (.elapse j.id)) = j.answer? w :=
    congrArg (Connection.answer? · j.number) hConnection
  have hNow : ({ w with turns := rest }.takeTurn (.elapse j.id)).clock = w.clock := hClock
  have hGo : .go j.id ∈ ({ w with turns := rest }.takeTurn (.elapse j.id)).turns :=
    List.mem_append_right _ (.head _)
  refine ⟨?_, hSilent⟩
  cases hStage with
  | sent elapsed hWaits hMirrors hAnswer hSpoken hHeeds =>
    refine .sent true (hWaits.elapse hTurns) (hMirrors.same hNow hSilent.notices)
      (hAnswer.trans hAnswered.symm) (fun e hError => hSpoken e (hAnswered.symm.trans hError)) ?_
    exact fun entry hEntry => ⟨(hHeeds entry hEntry).1.trans hNow.symm, hGo⟩
  | loading answered sought elapsed hWaits hMirrors hLoads hHeeds =>
    exact .loading answered sought true (hWaits.elapse hTurns) (hMirrors.same hNow hSilent.notices)
      hLoads fun _ => hGo
  | ended time result hResult hEnds =>
    rw [hUnfinished] at hResult
    cases hResult

/-! ### Its first turn -/

/-- A watch that begins has a number of its own, and nothing has been kept for it. -/
theorem Ready.watching (hReady : j.Ready w) (turns : List Turn) : ∃ tabs,
    { w with turns := turns }.beginWatch j.page.tab =
        (j.watch, { w with turns := turns, tabs := tabs }) ∧
      j.notices { w with turns := turns, tabs := tabs } = [] := by
  have hWatch := hReady.watch
  unfold World.beginWatch at hWatch ⊢
  rw [j.onTab]
  cases hTab : w.tabs[j.tab]? with
  | none =>
    simp only [hTab] at hWatch
    refine ⟨w.tabs, by rw [hWatch], ?_⟩
    simp [Errand.notices, hTab]
  | some t =>
    simp only [hTab] at hWatch
    refine ⟨_, by rw [hWatch]; rfl, ?_⟩
    -- Watches are numbered by their count, so none has the number that comes next.
    have hFresh : t.tab.notices.lookup t.tab.notices.length = none := by
      refine List.lookup_eq_none_iff.mpr fun entry hMem => ?_
      have hBefore := hReady.reached.tidy.watches t (List.mem_of_getElem? hTab) entry hMem
      rw [bne_iff_ne]
      omega
    have hKept : (t.tab.beginWatch.2).noticesOf j.watch = [] := by
      rw [hWatch]
      show ((t.tab.notices ++ [(t.tab.notices.length, [])]).lookup t.tab.notices.length).getD [] = []
      rw [List.lookup_append, hFresh, Option.none_or, List.lookup_cons, beq_self_eq_true]
      rfl
    simp [Errand.notices, hTab, hKept]

/-- A navigation whose command cannot be sent. -/
theorem Stage.refuse {message : String} (hText : message ≠ detachedText)
    (hUnfinished : w.result? j.id = none) (hStart : j.start = w.clock) :
    j.Stage {} (proceed j.id (j.follow j.watch (j.verdict (.error (.protocol message)))) w) := by
  obtain ⟨hResult, -⟩ := j.proceed_close hUnfinished (.error (.navigation message))
  rw [← hStart] at hResult
  exact .ended _ _ hResult (.refused rfl hText)

/-- A command that begins when the rehearsal is ready has a number that no other waits for. -/
theorem Ready.poised (hReady : j.Ready w) {rest : List Turn} (hTurns : w.turns = .go j.id :: rest)
    (tabs : List TabRecord) {c : Connection} (hLast : c.lastNumber = j.number) :
    Poised j.toErrand { w with turns := rest, tabs := tabs, connection := c } := by
  have hTidy := hReady.reached.tidy
  have hNumber := hReady.number
  refine ⟨⟨⟨hTidy.sorted, hTidy.ahead⟩, hTidy.known _ hReady.mem, by omega,
    Nat.le_of_eq hLast.symm, ?_⟩, ⟨_, hReady.task⟩, hReady.unfinished, hReady.timers, ?_⟩
  · intro task hMem _ waiting hState
    have hBefore := hTidy.waits task hMem waiting hState
    omega
  · exact fun turn hMem => hReady.turns turn (hTurns ▸ .tail _ hMem)

/-- The command has been sent, and the wait for its answer begins. -/
theorem Stage.await {v : World α} (hPoised : Poised j.toErrand v) (hNotices : j.notices v = [])
    (hAnswer : j.answer? v = none) (hStart : j.start = v.clock) :
    j.Stage {} ((v.within j.id (.within j.seconds)).setWaiting j.id (j.sending false)) := by
  obtain ⟨hConnection, hTabs, hClock⟩ := within_same v j.id (.within j.seconds)
  have hSilent : j.Silent v
      ((v.within j.id (.within j.seconds)).setWaiting j.id (j.sending false)) :=
    .of_same hConnection hTabs
  have hStill : j.answer? ((v.within j.id (.within j.seconds)).setWaiting j.id (j.sending false)) =
      none := hSilent.answer.elim (·.trans hAnswer) id
  refine .sent false ?_ ⟨(hSilent.notices.trans hNotices).symm, nofun⟩ hStill.symm ?_ nofun
  · rw [hStart]
    exact hPoised.waits j.positive rfl rfl
  · intro e hError
    rw [hStill] at hError
    cases hError

/-- What comes of the command. -/
theorem Stage.send (hReady : j.Ready w) {rest : List Turn} (hTurns : w.turns = .go j.id :: rest)
    {tabs : List TabRecord} (hNone : j.notices { w with turns := rest, tabs := tabs } = []) :
    j.Stage {} (proceed j.id (.ask (.send j.page.key "Page.navigate" (.object [("url", .str j.url)])
      j.bound) fun answer => j.follow j.watch (j.verdict answer))
      { w with turns := rest, tabs := tabs }) := by
  unfold World.proceed World.begin
  dsimp only
  unfold World.beginSend
  cases hBegin : w.connection.begin "Page.navigate" with
  | error e =>
    obtain rfl : e = .protocol "Page.navigate: connection closed" := by
      unfold Connection.begin at hBegin
      split at hBegin <;> cases hBegin
      rfl
    exact Stage.refuse (by decide) hReady.unfinished hReady.start
  | ok begun =>
    obtain ⟨number, c⟩ := begun
    obtain ⟨hNumber, hLast, hCalls⟩ : number = j.number ∧ c.lastNumber = j.number ∧
        c.calls = w.connection.calls ++ [⟨number, none⟩] := by
      rw [hReady.number]
      unfold Connection.begin at hBegin
      split at hBegin <;> cases hBegin
      exact ⟨rfl, rfl, rfl⟩
    subst hNumber
    have hPoised := hReady.poised hTurns tabs hLast
    -- No command has had the number before, so nothing can have been answered to it.
    have hUnanswered : c.answer? j.number = none := by
      rw [Beside.answer?_append _ _ hCalls, List.find?_eq_none.mpr, Option.bind_none]
      intro call hMem
      have hBefore := hReady.reached.tidy.calls call hMem
      have hNumber := hReady.number
      rw [decide_eq_true_iff]
      omega
    have hSent := Quiet.of_changes (Changes.transmit _ j.number "Page.navigate"
      (.object [("url", .str j.url)]) j.page.key) hPoised.orderly
    have hWaiting := Stage.await (hPoised.apart hSent.toApart)
      (by rw [Errand.notices, hSent.tabs]; exact hNone)
      (by rw [Errand.answer?, hSent.connection]; exact hUnanswered)
      (hReady.start.trans hSent.clock.symm)
    -- The socket may have closed although the conversation has not been told.
    dsimp only
    by_cases hUnsent : (!w.sendable) = true
    · rw [if_pos hUnsent]
      have hText : "Page.navigate: connection closed" ≠ detachedText := by decide
      exact Stage.refuse hText hReady.unfinished hReady.start
    · rw [if_neg hUnsent, limitOf_bound]
      unfold bound
      rw [j.within]
      exact hWaiting

/-- The first turn of a navigation sends its command, unless that cannot be sent. -/
theorem Ready.stage (hReady : j.Ready w) {rest : List Turn} (hTurns : w.turns = .go j.id :: rest) :
    j.Stage {} ({ w with turns := rest }.takeTurn (.go j.id)) := by
  obtain ⟨tabs, hWatching, hNone⟩ := hReady.watching rest
  have hFresh : { w with turns := rest }.task? j.id = some ⟨j.id, .fresh j.script⟩ := hReady.task
  show j.Stage {} (World.go _ j.id)
  rw [World.go, hFresh]
  show j.Stage {} (proceed j.id j.script { w with turns := rest })
  rw [j.script_eq]
  unfold World.proceed World.begin
  dsimp only
  rw [hWatching]
  dsimp only
  unfold World.proceed World.begin
  dsimp only
  cases w.connection.isDetached j.page.session with
  | true => exact Stage.refuse (by decide) hReady.unfinished hReady.start
  | false => exact Stage.send hReady hTurns hNone

/-! ### Any run -/

/-- One step of the rehearsal. -/
theorem Stage.happens (hStage : j.Stage diary w) (hUnfinished : w.result? j.id = none)
    (hHappens : w.Happens j.id after) : j.Stage (diary.note j.toErrand w after) after := by
  have hWaits : ∃ deadline waiting, Waits j.toErrand deadline waiting w := by
    cases hStage with
    | sent _ hWaits => exact ⟨_, _, hWaits⟩
    | loading _ _ _ hWaits => exact ⟨_, _, hWaits⟩
    | ended time result hResult =>
      rw [hUnfinished] at hResult
      cases hResult
  obtain ⟨deadline, waiting, hWaits⟩ := hWaits
  -- What it has not written down has not come.
  have hKnown : j.answer? w = none ∨ diary.answer ≠ none := by
    cases hStage with
    | sent elapsed _ _ hAnswer =>
      rw [← hAnswer]
      cases diary.answer with
      | none => exact .inl rfl
      | some entry => exact .inr nofun
    | loading _ _ _ _ _ hLoads =>
      obtain ⟨answer, hAnswer, -⟩ := hLoads.answer
      exact .inr (by simp [hAnswer])
    | ended time result hResult =>
      rw [hUnfinished] at hResult
      cases hResult
  -- What happens is beside it, or the clock moves, or it is a turn of its own.
  rcases hHappens.cases hWaits.orderly with
    hBeside | ⟨hSettled, hMoves⟩ | ⟨turn, rest, hTurns, hOwn, rfl⟩
  · exact hStage.beside hUnfinished hBeside
  · have hSilent : j.Silent w after := by
      cases hMoves
      exact .of_same rfl rfl
    rw [hSilent.note hKnown]
    exact hStage.moves hUnfinished hSettled hMoves
  · have hTurn : turn = .go j.id ∨ turn = .elapse j.id := by
      refine hOwn.imp_right fun hOwns => ?_
      exact (hWaits.turns turn (hTurns ▸ .head rest) hOwns).1
    rcases hTurn with rfl | rfl
    · have hGoes : j.Stage diary ({ w with turns := rest }.go j.id) ∧
          j.Silent w ({ w with turns := rest }.go j.id) := by
        cases hStage with
        | sent elapsed hWaits hMirrors hAnswer hSpoken hHeeds =>
          exact Stage.go_sent hTurns hWaits hMirrors hAnswer hSpoken hHeeds
        | loading answered sought elapsed hWaits hMirrors hLoads hHeeds =>
          exact Stage.go_loading hTurns hWaits hMirrors hLoads
        | ended time result hResult =>
          rw [hUnfinished] at hResult
          cases hResult
      show j.Stage (diary.note j.toErrand w ({ w with turns := rest }.go j.id)) _
      rw [hGoes.2.note hKnown]
      exact hGoes.1
    · have hElapses := hStage.elapse hUnfinished hTurns
      rw [hElapses.2.note hKnown]
      exact hElapses.1

/-- **Where a navigation is after any run.** -/
theorem Life.stage {first : World α} (hReady : j.Ready first) (hLife : j.Life first w diary) :
    j.Stage diary w := by
  induction hLife with
  | begun hTurns => exact hReady.stage hTurns
  | step hLife hUnfinished hHappens ih => exact ih.happens hUnfinished hHappens

end Journey

end PageReporter
