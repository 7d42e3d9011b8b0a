import Mathlib.Logic.Relation
import PageReporter.Proofs.FeedPhases
import PageReporter.Proofs.Instants
import PageReporter.Proofs.Questions

/-!
# What a session leaves behind

A session that has started a browser lets go of it however its visit ends. The browser is asked to
quit and its connection is closed, either of which may fail in any way; then its process is ended,
by force if it has to be, its profile is removed, and the feed is printed to its end. Meanwhile
time passes, the process may end by itself, and signals still arrive at the feed.

* `Session.Estate` — what a session holds; `Session.Meanwhile` — what goes on by itself;
* `Session.Answers` — what the questions of a session are answered;
* `Session.Signalled` — the signals that a process was sent until it ended;
* `Session.discard_runs`, `Session.closeFeed_runs` — the two ends of the clean-up;
* `Session.run_lets_go` — what is left when a session has ended.
-/

namespace PageReporter.Session

open Script (Runs Asks Answered)
open FeedRun (Stage Step Steps Act Alone Accepting Emptying)

/-! ## What a session holds -/

/-- The process of a browser. -/
inductive Process
  | absent
  | running
  | ended (time : Double)

/-- What a session holds, at a time: its feed, its process, the profile, and the signals that the
process has been sent. The flag of a signal says whether it was to kill. -/
structure Estate (σ : Type) where
  stage : Stage σ
  clock : Double
  process : Process := .absent
  profile : Bool := false
  signals : List (Double × Bool) := []

variable {σ : Type} {sink : Sink σ} {estate after : Estate σ}

/-- The process is sent a signal. -/
def Estate.signal (estate : Estate σ) (kill : Bool) : Estate σ :=
  { estate with signals := estate.signals ++ [(estate.clock, kill)] }

/-- One thing that goes on by itself. -/
inductive Passes (sink : Sink σ) : Estate σ → Estate σ → Prop
  | feed {estate : Estate σ} {act : Act} {stage : Stage σ} (hAlone : act.isAlone = true)
      (hStep : Step sink act estate.stage stage) : Passes sink estate { estate with stage := stage }
  | time {estate : Estate σ} {time : Double} (hLater : estate.clock.lt time = true) :
      Passes sink estate { estate with clock := time }
  | exit {estate : Estate σ} (hRunning : estate.process = .running) :
      Passes sink estate { estate with process := .ended estate.clock }

/-- What goes on by itself while a question is not answered yet. -/
abbrev Meanwhile (sink : Sink σ) : Estate σ → Estate σ → Prop :=
  Relation.ReflTransGen (Passes sink)

/-! ## What questions are answered -/

/-- A question that has to do with neither process nor feed. -/
def IsPlain : Host.Op → Prop
  | .makeProfile | .removeProfile | .spawn _ | .exitCode | .terminate | .kill | .awaitExit _
  | .adopt _ | .followBrowser | .startPrinter | .isFeedClosed | .awaitLineup | .stopFeed
  | .awaitPrinter => False
  | _ => True

/-- A question that changes nothing about the process, and nothing about the feed. -/
def IsIdle (op : Host.Op) : Prop :=
  IsPlain op ∨ op = .exitCode

/-- A question that is not the feed's. -/
def IsElsewhere : Host.Op → Prop
  | .startPrinter | .isFeedClosed | .awaitLineup | .stopFeed | .awaitPrinter => False
  | _ => True

/-- What a question of a session is answered, and what it holds then. A question that has to do with
neither process nor feed may be answered anything, after any time. A signal may find no process. The
wait for its end is over when it has ended, or when the time is over and it had not ended before; and
everything that waits may be called off. -/
inductive Answers (sink : Sink σ) :
    Estate σ → (op : Host.Op) → Except Fault (Host.Answer op) → Estate σ → Prop
  | plain {estate after : Estate σ} {op : Host.Op} (hPlain : IsPlain op)
      (hMeanwhile : Meanwhile sink estate after) (answer : Except Fault (Host.Answer op)) :
      Answers sink estate op answer after
  | made {estate : Estate σ} (name : String) :
      Answers sink estate .makeProfile (.ok name) { estate with profile := true }
  | notMade {estate : Estate σ} (e : Fault) : Answers sink estate .makeProfile (.error e) estate
  | removed {estate : Estate σ} :
      Answers sink estate .removeProfile (.ok ()) { estate with profile := false }
  | spawned {estate : Estate σ} (command : List String) :
      Answers sink estate (.spawn command) (.ok ()) { estate with process := .running }
  | notSpawned {estate : Estate σ} (command : List String) (e : Fault) :
      Answers sink estate (.spawn command) (.error e) estate
  | running {estate : Estate σ} (hRunning : estate.process = .running) :
      Answers sink estate .exitCode (.ok none) estate
  | ended {estate : Estate σ} {time : Double} (hEnded : estate.process = .ended time) (code : Int) :
      Answers sink estate .exitCode (.ok (some code)) estate
  | asked {estate : Estate σ} {answer : Except Fault Unit}
      (hNone : ∀ e, answer = .error e → e.isNoProcess = true) :
      Answers sink estate .terminate answer (estate.signal false)
  | killed {estate : Estate σ} {answer : Except Fault Unit}
      (hNone : ∀ e, answer = .error e → e.isNoProcess = true) :
      Answers sink estate .kill answer (estate.signal true)
  | exited {estate after : Estate σ} {time : Double} (limit : Limit)
      (hMeanwhile : Meanwhile sink estate after) (hEnded : after.process = .ended time) :
      Answers sink estate (.awaitExit limit) (.ok ()) after
  | late {estate after : Estate σ} {seconds : Double} {e : Fault} (hTime : e.isTimeLimit = true)
      (hMeanwhile : Meanwhile sink estate after)
      (hLate : after.clock.lt (estate.clock + seconds) = false)
      (hStill : ∀ time, after.process = .ended time →
        time.lt (estate.clock + seconds) = false) :
      Answers sink estate (.awaitExit (.within seconds)) (.error e) after
  | adopted {estate : Estate σ} (launched : Bool) :
      Answers sink estate (.adopt launched) (.ok ()) estate
  | followed {estate : Estate σ} : Answers sink estate .followBrowser (.ok ()) estate
  | started {estate : Estate σ} :
      Answers sink estate .startPrinter (.ok ())
        { estate with stage := { estate.stage with feed := estate.stage.feed.start } }
  | feed {estate mid : Estate σ} {op : Host.Op} {stage : Stage σ}
      {answer : Except Fault (Host.Answer op)} (hMeanwhile : Meanwhile sink estate mid)
      (hAtOnce : op = .stopFeed → mid = estate)
      (hAnswer : mid.stage.answer sink op = some (stage, answer)) :
      Answers sink estate op answer { mid with stage := stage }
  | calledOff {estate after : Estate σ} {op : Host.Op} (hWaits : (∃ limit, op = .awaitExit limit) ∨
      op = .awaitLineup) (hMeanwhile : Meanwhile sink estate after) :
      Answers sink estate op (.error .cancelled) after
  | abandoned {estate after : Estate σ} (hMeanwhile : Meanwhile sink estate after) :
      Answers sink estate .awaitPrinter (.error .cancelled)
        { after with stage := { after.stage with feed := after.stage.feed.abandon } }

/-! ## What goes on by itself -/

/-- Neither the profile nor the signals change, and a process that has ended stays so. -/
structure Stays (estate after : Estate σ) : Prop where
  profile : after.profile = estate.profile
  signals : after.signals = estate.signals
  ended : ∀ time, estate.process = .ended time → after.process = .ended time

theorem Stays.refl (estate : Estate σ) : Stays estate estate :=
  ⟨rfl, rfl, fun _ => id⟩

theorem Stays.trans {mid : Estate σ} (hFirst : Stays estate mid) (hSecond : Stays mid after) :
    Stays estate after :=
  ⟨hSecond.profile.trans hFirst.profile, hSecond.signals.trans hFirst.signals,
    fun time hEnded => hSecond.ended time (hFirst.ended time hEnded)⟩

namespace Meanwhile

theorem stays (hMeanwhile : Meanwhile sink estate after) : Stays estate after := by
  induction hMeanwhile with
  | refl => exact .refl _
  | tail _ hLast ih =>
    refine ih.trans ?_
    cases hLast with
    | feed | time => exact ⟨rfl, rfl, fun _ => id⟩
    | exit hRunning =>
      refine ⟨rfl, rfl, fun time hEnded => ?_⟩
      cases hRunning.symm.trans hEnded

theorem feed (hMeanwhile : Meanwhile sink estate after) :
    Alone sink estate.stage after.stage := by
  induction hMeanwhile with
  | refl => exact .refl _
  | tail _ hLast ih =>
    cases hLast with
    | feed hAlone hStep => exact ih.trans (.step hAlone hStep)
    | time | exit => exact ih

end Meanwhile

/-- A time has come, and the process has not ended before it. -/
structure Outlasts (time : Double) (estate : Estate σ) : Prop where
  clock : estate.clock.lt time = false
  process : ∀ ended, estate.process = .ended ended → ended.lt time = false

theorem Outlasts.now (hRunning : estate.process = .running) : Outlasts estate.clock estate := by
  refine ⟨Double.lt_irrefl _, fun ended hEnded => ?_⟩
  cases hRunning.symm.trans hEnded

/-- It stays so, whatever goes on. -/
theorem Outlasts.meanwhile {time : Double} (hOutlasts : Outlasts time estate)
    (hMeanwhile : Meanwhile sink estate after) : Outlasts time after := by
  induction hMeanwhile with
  | refl => exact hOutlasts
  | @tail before last _ hLast ih =>
    cases hLast with
    | feed => exact ⟨ih.clock, ih.process⟩
    | @time later hLater =>
      refine ⟨eq_false_of_ne_true fun hEarly => ?_, ih.process⟩
      have hBefore := Double.lt_trans hLater hEarly
      rw [ih.clock] at hBefore
      cases hBefore
    | exit => exact ⟨ih.clock, fun ended hEnded => Process.ended.inj hEnded ▸ ih.clock⟩

/-! ## Answers -/

namespace Answers

theorem exitCode {answer : Except Fault (Option Int)}
    (hAnswer : Answers sink estate .exitCode answer after) :
    after = estate ∧ ((answer = .ok none ∧ estate.process = .running) ∨
      ∃ code time, answer = .ok (some code) ∧ estate.process = .ended time) := by
  cases hAnswer with
  | plain hNever => exact hNever.elim
  | running hRunning => exact ⟨rfl, .inl ⟨rfl, hRunning⟩⟩
  | ended hEnded code => exact ⟨rfl, .inr ⟨code, _, rfl, hEnded⟩⟩
  | feed _ _ hNever => cases hNever
  | calledOff hNever => simp at hNever

theorem terminate {answer : Except Fault Unit}
    (hAnswer : Answers sink estate .terminate answer after) :
    after = estate.signal false ∧ ∀ e, answer = .error e → e.isNoProcess = true := by
  cases hAnswer with
  | plain hNever => exact hNever.elim
  | asked hNone => exact ⟨rfl, hNone⟩
  | feed _ _ hNever => cases hNever
  | calledOff hNever => simp at hNever

theorem kill {answer : Except Fault Unit} (hAnswer : Answers sink estate .kill answer after) :
    after = estate.signal true ∧ ∀ e, answer = .error e → e.isNoProcess = true := by
  cases hAnswer with
  | plain hNever => exact hNever.elim
  | killed hNone => exact ⟨rfl, hNone⟩
  | feed _ _ hNever => cases hNever
  | calledOff hNever => simp at hNever

/-- The wait for the end of the process: it has ended, or it has not for as long as the limit says,
or the wait has been called off. -/
theorem awaitExit {limit : Limit} {answer : Except Fault Unit}
    (hAnswer : Answers sink estate (.awaitExit limit) answer after) :
    Meanwhile sink estate after ∧
      ((answer = .ok () ∧ ∃ time, after.process = .ended time) ∨
        (∃ seconds e, limit = .within seconds ∧ answer = .error e ∧ e.isTimeLimit = true ∧
          Outlasts (estate.clock + seconds) after) ∨
        answer = .error .cancelled) := by
  cases hAnswer with
  | plain hNever => exact hNever.elim
  | exited _ hMeanwhile hEnded => exact ⟨hMeanwhile, .inl ⟨rfl, _, hEnded⟩⟩
  | late hTime hMeanwhile hLate hStill =>
    exact ⟨hMeanwhile, .inr (.inl ⟨_, _, rfl, rfl, hTime, hLate, hStill⟩)⟩
  | feed _ _ hNever => cases hNever
  | calledOff _ hMeanwhile => exact ⟨hMeanwhile, .inr (.inr rfl)⟩

theorem removeProfile {answer : Except Fault Unit}
    (hAnswer : Answers sink estate .removeProfile answer after) :
    answer = .ok () ∧ after = { estate with profile := false } := by
  cases hAnswer with
  | plain hNever => exact hNever.elim
  | removed => exact ⟨rfl, rfl⟩
  | feed _ _ hNever => cases hNever
  | calledOff hNever => simp at hNever

/-- Such a question leaves everything to itself. -/
theorem meanwhile {op : Host.Op} {answer : Except Fault (Host.Answer op)} (hIdle : IsIdle op)
    (hAnswer : Answers sink estate op answer after) : Meanwhile sink estate after := by
  rcases hIdle with hPlain | rfl
  · cases hAnswer with
    | plain _ hMeanwhile => exact hMeanwhile
    | feed hMeanwhile _ hAnswered =>
      cases op <;> first | exact hPlain.elim | cases hAnswered
    | calledOff _ hMeanwhile => exact hMeanwhile
    | _ => exact hPlain.elim
  · obtain ⟨rfl, -⟩ := hAnswer.exitCode
    exact .refl

/-- A question that is not the feed's leaves the feed to itself. -/
theorem alone {op : Host.Op} {answer : Except Fault (Host.Answer op)} (hElsewhere : IsElsewhere op)
    (hAnswer : Answers sink estate op answer after) : Alone sink estate.stage after.stage := by
  cases hAnswer with
  | plain _ hMeanwhile => exact hMeanwhile.feed
  | exited _ hMeanwhile | late _ hMeanwhile => exact hMeanwhile.feed
  | calledOff _ hMeanwhile => exact hMeanwhile.feed
  | feed hMeanwhile _ hAnswered =>
    cases op <;> first | exact hElsewhere.elim | cases hAnswered
  | started | abandoned => exact hElsewhere.elim
  | _ => exact .refl _

/-- A question that is the feed's leaves everything else to itself. -/
theorem stays {op : Host.Op} {answer : Except Fault (Host.Answer op)} (hFeeds : ¬ IsElsewhere op)
    (hAnswer : Answers sink estate op answer after) : Stays estate after := by
  cases hAnswer with
  | feed hMeanwhile => exact ⟨hMeanwhile.stays.profile, hMeanwhile.stays.signals, hMeanwhile.stays.ended⟩
  | calledOff _ hMeanwhile => exact hMeanwhile.stays
  | abandoned hMeanwhile =>
    exact ⟨hMeanwhile.stays.profile, hMeanwhile.stays.signals, hMeanwhile.stays.ended⟩
  | started => exact ⟨rfl, rfl, fun _ => id⟩
  | plain _ hMeanwhile => exact hMeanwhile.stays
  | _ => exact absurd trivial hFeeds

end Answers

/-- A script of idle questions leaves everything to itself. -/
theorem idle_runs {α : Type} {script : Script Host α} {trace : List Host.Exchange}
    {result : Except Fault α} (hAsks : script.Asks IsIdle)
    (hRuns : Runs (Answers sink) script estate trace result after) :
    Meanwhile sink estate after := by
  have hAnswers : ∀ estate op answer after, IsIdle op → Answers sink estate op answer after →
      Meanwhile sink estate after := fun _ _ _ _ hIdle hAnswer => hAnswer.meanwhile hIdle
  exact hRuns.keeps (fun _ => .refl) (fun _ _ _ => .trans) hAnswers hAsks

/-- A script that asks only the feed leaves everything else to itself. -/
theorem feeding_runs {α : Type} {script : Script Host α} {trace : List Host.Exchange}
    {result : Except Fault α} (hAsks : script.Asks (¬ IsElsewhere ·))
    (hRuns : Runs (Answers sink) script estate trace result after) : Stays estate after := by
  have hAnswers : ∀ estate op answer after, ¬ IsElsewhere op → Answers sink estate op answer after →
      Stays estate after := fun _ _ _ _ hFeeds hAnswer => hAnswer.stays hFeeds
  exact hRuns.keeps Stays.refl (fun _ _ _ => .trans) hAnswers hAsks

/-- A script that asks nothing of the feed leaves the feed to itself. -/
theorem elsewhere_runs {α : Type} {script : Script Host α} {trace : List Host.Exchange}
    {result : Except Fault α} (hAsks : script.Asks IsElsewhere)
    (hRuns : Runs (Answers sink) script estate trace result after) :
    Alone sink estate.stage after.stage := by
  have hAnswers : ∀ estate op answer after, IsElsewhere op → Answers sink estate op answer after →
      Alone sink estate.stage after.stage :=
    fun _ _ _ _ hElsewhere hAnswer => hAnswer.alone hElsewhere
  exact hRuns.keeps (fun _ => .refl _) (fun _ _ _ => .trans) hAnswers hAsks

/-! ## Ending the process -/

/-- Nothing has been called off. -/
def Holds (trace : List Host.Exchange) : Prop :=
  ∀ op, (⟨op, .error .cancelled⟩ : Host.Exchange) ∉ trace

theorem Holds.append {first rest : List Host.Exchange} (hHolds : Holds (first ++ rest)) :
    Holds first ∧ Holds rest :=
  ⟨fun op hMem => hHolds op (List.mem_append_left _ hMem),
    fun op hMem => hHolds op (List.mem_append_right _ hMem)⟩

/-- The signals to a process that ended at a time, by what it was when they began: none if it had
ended. Otherwise it was asked to end while it was running, and killed only if it had not ended
within five seconds. -/
inductive Signalled (time : Double) : Process → List (Double × Bool) → Prop
  | spared : Signalled time (.ended time) []
  | asked {asked : Double} (hRunning : time.lt asked = false) :
      Signalled time .running [(asked, false)]
  | killed {asked killed : Double} (hRunning : time.lt asked = false)
      (hWaited : killed.lt (asked + 5) = false) (hStill : time.lt (asked + 5) = false) :
      Signalled time .running [(asked, false), (killed, true)]

variable {trace : List Host.Exchange} {result : Except Fault Unit}

/-- A signal that finds no process is no fault. -/
theorem signal_runs {signal : Script Host Unit} {signalled : Estate σ}
    (hSignal : ∀ {trace result after}, Runs (Answers sink) signal estate trace result after →
      after = signalled ∧ ∀ e, result = .error e → e.isNoProcess = true)
    (hRuns : Runs (Answers sink) (signal.ignoring Fault.isNoProcess) estate trace result after) :
    result = .ok () ∧ after = signalled := by
  rcases hRuns.ignoring with ⟨hSent, hOther⟩ | ⟨e, -, rfl, hSent⟩
  · obtain ⟨rfl, hNone⟩ := hSignal hSent
    cases result with
    | ok _ => exact ⟨rfl, rfl⟩
    | error e => cases (hNone e rfl).symm.trans (hOther e rfl)
  · exact ⟨rfl, (hSignal hSent).1⟩

theorem kill_runs
    (hRuns : Runs (Answers sink) ((Host.ask .kill).ignoring Fault.isNoProcess) estate trace result
      after) : result = .ok () ∧ after = estate.signal true :=
  signal_runs (fun hKill => (Runs.perform hKill).2.kill) hRuns

theorem ask_runs
    (hRuns : Runs (Answers sink) ((Host.ask .terminate).ignoring Fault.isNoProcess) estate trace
      result after) : result = .ok () ∧ after = estate.signal false :=
  signal_runs (fun hAsk => (Runs.perform hAsk).2.terminate) hRuns

/-- The end of a process that has been asked to end is waited for, and it is killed if it takes too
long. -/
theorem awaitEnd_runs {asked : Double} (hAsked : estate.clock = asked)
    (hRuns : Runs (Answers sink) Browser.awaitEnd estate trace result after)
    (hHolds : Holds trace) (hRunning : estate.process = .running) :
    result = .ok () ∧ after.profile = estate.profile ∧
      ∃ time signals, after.process = .ended time ∧ after.signals = estate.signals ++ signals ∧
        Signalled time .running ((asked, false) :: signals) := by
  have hNow : Outlasts asked estate := hAsked ▸ .now hRunning
  rcases Runs.rescue hRuns with ⟨_, rfl, hAwaited⟩ | ⟨first, rest, e, mid, rfl, hTired, hForce⟩
  · obtain ⟨-, hAnswer⟩ := Runs.perform hAwaited
    obtain ⟨hMeanwhile, ⟨-, time, hEnded⟩ | ⟨_, _, -, hNever, -⟩ | hNever⟩ := hAnswer.awaitExit
    · obtain ⟨hProfile, hSignals, -⟩ := hMeanwhile.stays
      have hLater := (hNow.meanwhile hMeanwhile).process time hEnded
      exact ⟨rfl, hProfile, time, [], hEnded, by rw [hSignals, List.append_nil], .asked hLater⟩
    · cases hNever
    · cases hNever
  · obtain ⟨rfl, hAnswer⟩ := Runs.perform hTired
    obtain ⟨hMeanwhile, ⟨hNever, -⟩ | ⟨seconds, _, hLimit, hError, hTime, hStill⟩ | hOff⟩ :=
      hAnswer.awaitExit
    · cases hNever
    · obtain rfl : (5 : Double) = seconds := Limit.within.inj hLimit
      cases hError
      rw [if_pos hTime] at hForce
      have hSince := hNow.meanwhile hMeanwhile
      have hFive : Outlasts (asked + 5) mid := hAsked ▸ hStill
      obtain ⟨hProfile, hSignals, -⟩ := hMeanwhile.stays
      rcases Runs.bind hForce with ⟨kill, wait, _, killed, rfl, hKill, hWait⟩ | ⟨_, -, hKill⟩
      · obtain ⟨-, rfl⟩ := kill_runs hKill
        obtain ⟨rfl, hAnswer⟩ := Runs.perform hWait
        obtain ⟨hRest, ⟨rfl, time, hEnded⟩ | ⟨_, _, hNever, -⟩ | rfl⟩ := hAnswer.awaitExit
        · -- What held before the signal holds after it, since it only adds to the signals.
          have hKilled : ∀ {time}, Outlasts time mid → Outlasts time (mid.signal true) :=
            fun hOutlasts => ⟨hOutlasts.clock, hOutlasts.process⟩
          obtain ⟨hProfile', hSignals', -⟩ := hRest.stays
          refine ⟨rfl, hProfile'.trans hProfile, time, [(mid.clock, true)], hEnded, ?_, ?_⟩
          · rw [hSignals', ← hSignals]
            rfl
          · exact .killed (((hKilled hSince).meanwhile hRest).process time hEnded) hFive.clock
              (((hKilled hFive).meanwhile hRest).process time hEnded)
        · cases hNever
        · exact absurd (List.mem_append_right _ (List.mem_append_right _ (.head _))) (hHolds _)
      · cases (kill_runs hKill).1
    · cases hOff
      exact absurd (List.mem_append_left _ (.head _)) (hHolds _)

/-- A process that is running is asked to end. -/
theorem terminate_runs
    (hRuns : Runs (Answers sink) Browser.terminate estate trace result after)
    (hHolds : Holds trace) :
    result = .ok () ∧ after.profile = estate.profile ∧
      ∃ time signals, after.process = .ended time ∧ after.signals = estate.signals ++ signals ∧
        Signalled time estate.process signals := by
  obtain ⟨answer, mid, rest, rfl, hAnswer, hRest⟩ := Runs.asked hRuns
  obtain ⟨rfl, ⟨rfl, hRunning⟩ | ⟨code, time, rfl, hEnded⟩⟩ := hAnswer.exitCode
  · have hGoesOn : Runs (Answers sink)
        (((Host.ask .terminate).ignoring Fault.isNoProcess).bind fun _ => Browser.awaitEnd)
        mid rest result after := hRest
    rcases hGoesOn.bind with ⟨ask, wait, _, asked, rfl, hAsk, hWait⟩ | ⟨_, -, hAsk⟩
    · obtain ⟨-, rfl⟩ := ask_runs hAsk
      have hLater : Holds wait := fun op hMem =>
        hHolds op (.tail _ (List.mem_append_right _ hMem))
      obtain ⟨rfl, hProfile, time, signals, hEnded, hSignals, hSignalled⟩ :=
        awaitEnd_runs rfl hWait hLater hRunning
      refine ⟨rfl, hProfile, time, (mid.clock, false) :: signals, hEnded, ?_, hRunning ▸ hSignalled⟩
      rw [hSignals]
      exact List.append_assoc ..
    · cases (ask_runs hAsk).1
  · obtain ⟨rfl, rfl, rfl⟩ := Runs.ofDone hRest
    refine ⟨rfl, rfl, time, [], hEnded, (List.append_nil _).symm, ?_⟩
    rw [hEnded]
    exact .spared

/-- **Throwing everything away.** The process has ended and the profile is gone, with no more
signals than the process made necessary. -/
theorem discard_runs (hRuns : Runs (Answers sink) Browser.discard estate trace result after)
    (hHolds : Holds trace) :
    result = .ok () ∧ after.profile = false ∧
      ∃ time signals, after.process = .ended time ∧ after.signals = estate.signals ++ signals ∧
        Signalled time estate.process signals := by
  rcases Runs.bind hRuns with ⟨first, rest, _, mid, rfl, hEnd, hRemove⟩ | ⟨_, rfl, hEnd⟩
  · obtain ⟨-, -, hSignalled⟩ := terminate_runs hEnd hHolds.append.1
    obtain ⟨-, hAnswer⟩ := Runs.perform hRemove
    obtain ⟨rfl, rfl⟩ := hAnswer.removeProfile
    exact ⟨rfl, rfl, hSignalled⟩
  · cases (terminate_runs hEnd hHolds).1

/-! ## Emptying the feed -/

/-- Nothing is left in the feed, and its printer has ended. -/
structure Drained (stage : Stage σ) : Prop where
  closed : stage.feed.closed = true
  lineup : stage.feed.lineup = []
  queue : stage.feed.queue = []
  printer : stage.feed.printer = .ended

theorem Answers.isFeedClosed {answer : Except Fault Bool}
    (hAnswer : Answers sink estate .isFeedClosed answer after) :
    Meanwhile sink estate after ∧ answer = .ok after.stage.feed.closed := by
  cases hAnswer with
  | plain hNever => exact hNever.elim
  | feed hMeanwhile _ hAnswered =>
    cases hAnswered
    exact ⟨hMeanwhile, rfl⟩
  | calledOff hNever => simp at hNever

theorem Answers.awaitLineup {answer : Except Fault Unit}
    (hAnswer : Answers sink estate .awaitLineup answer after) :
    Meanwhile sink estate after ∧
      (answer = .ok () ∧ after.stage.feed.lineup = [] ∨ answer = .error .cancelled) := by
  cases hAnswer with
  | plain hNever => exact hNever.elim
  | feed hMeanwhile _ hAnswered =>
    simp only [Stage.answer] at hAnswered
    split at hAnswered
    · next hEmpty =>
      cases hAnswered
      exact ⟨hMeanwhile, .inl ⟨rfl, List.isEmpty_iff.mp hEmpty⟩⟩
    · cases hAnswered
  | calledOff _ hMeanwhile => exact ⟨hMeanwhile, .inr rfl⟩

/-- The feed is closed at once, and its printer is left to print what is queued. -/
theorem Answers.stopFeed {answer : Except Fault Bool}
    (hAnswer : Answers sink estate .stopFeed answer after)
    (hRunning : estate.stage.feed.printer = .running) : answer = .ok true ∧
      after = { estate with stage := { estate.stage with feed := estate.stage.feed.close } } := by
  have hStops : estate.stage.answer sink .stopFeed =
      some ({ estate.stage with feed := estate.stage.feed.close }, .ok true) := by
    simp [Stage.answer, Feed.stop, Feed.close, hRunning]
  cases hAnswer with
  | plain hNever => exact hNever.elim
  | feed _ hAtOnce hAnswered =>
    obtain rfl := hAtOnce rfl
    rw [hStops] at hAnswered
    cases hAnswered
    exact ⟨rfl, rfl⟩
  | calledOff hNever => simp at hNever

theorem Answers.awaitPrinter {answer : Except Fault Unit}
    (hAnswer : Answers sink estate .awaitPrinter answer after) :
    (answer = .ok () ∧ Meanwhile sink estate after ∧ after.stage.feed.printer = .ended) ∨
      answer = .error .cancelled := by
  cases hAnswer with
  | plain hNever => exact hNever.elim
  | feed hMeanwhile _ hAnswered =>
    simp only [Stage.answer] at hAnswered
    split at hAnswered
    · next hEnded =>
      cases hAnswered
      exact .inl ⟨rfl, hMeanwhile, hEnded⟩
    · cases hAnswered
  | calledOff hNever => simp at hNever
  | abandoned => exact .inr rfl

theorem drained_of_ended {stage : Stage σ} (hEmptying : Emptying stage)
    (hEnded : stage.feed.printer = .ended) : Drained stage := by
  cases hEmptying with
  | printing _ _ hRunning => cases hRunning.symm.trans hEnded
  | printed hClosed hLineup _ hQueue => exact ⟨hClosed, hLineup, hQueue, hEnded⟩

/-- **Emptying the feed.** While its printer is running, nothing is left in the feed at the end, and
what it went through is a run of the feed with its closing. -/
theorem closeFeed_runs (hRuns : Runs (Answers sink) closeFeed estate trace result after)
    (hHolds : Holds trace) (hAccepting : Accepting .running estate.stage)
    (hFirst : estate.stage.closing = none) :
    result = .ok () ∧ Drained after.stage ∧ ∃ acts, Steps sink estate.stage acts
      { after.stage with closing := some (.done (.ok ())) } := by
  obtain ⟨_, seen, rest, rfl, hAnswer, hRest⟩ := Runs.asked hRuns
  obtain ⟨hMeanwhile, rfl⟩ := hAnswer.isFeedClosed
  have hSeen := hAccepting.alone hMeanwhile.feed
  have hDrain : Runs (Answers sink) Stage.drain seen rest result after := by
    rw [hSeen.closed] at hRest
    exact hRest
  obtain ⟨answer, empty, rest, rfl, hAnswer, hRest⟩ := Runs.asked hDrain
  obtain ⟨hWaiting, ⟨rfl, hLineup⟩ | rfl⟩ := hAnswer.awaitLineup
  · have hOpen := hSeen.alone hWaiting.feed
    obtain ⟨answer, stopped, rest, rfl, hAnswer, hRest⟩ := Runs.asked hRest
    obtain ⟨rfl, rfl⟩ := hAnswer.stopFeed hOpen.printer
    have hEnd : Runs (Answers sink) Stage.awaitEnd _ rest result after := hRest
    obtain ⟨rfl, hAnswer⟩ := Runs.perform hEnd
    rcases hAnswer.awaitPrinter with ⟨rfl, hPrinting, hEnded⟩ | rfl
    · refine ⟨rfl, drained_of_ended ((hOpen.close hLineup).alone hPrinting.feed) hEnded, ?_⟩
      -- The closing may as well have begun once the line-up was empty.
      have hUntil := hMeanwhile.feed.trans hWaiting.feed
      have hClose : Step sink .close empty.stage
          { empty.stage with feed := empty.stage.feed.close, closing := some Stage.awaitEnd } := by
        rw [← Stage.proceed_drain_printer hLineup hOpen.printer,
          ← Stage.proceed_closeFeed hOpen.closed]
        exact .close (hUntil.closing.trans hFirst)
      have hResume : Step sink .resume { after.stage with closing := some Stage.awaitEnd }
          { after.stage with closing := some (.done (.ok ())) } := by
        have hProceeds : Stage.proceed sink Stage.awaitEnd
            { after.stage with closing := some Stage.awaitEnd } = _ :=
          Stage.proceed_awaitEnd_ended hEnded
        rw [← hProceeds]
        exact .resume rfl
      obtain ⟨before, -, hBefore⟩ := hUntil
      obtain ⟨printing, -, hPrinted⟩ := hPrinting.feed.withClosing (some Stage.awaitEnd)
      exact ⟨_, ((hBefore.snoc hClose).trans hPrinted).snoc hResume⟩
    · exact absurd (.tail _ (.tail _ (.tail _ (.head _)))) (hHolds _)
  · exact absurd (.tail _ (.head _)) (hHolds _)

/-! ## Asking to quit -/

/-- The command that asks a browser to quit. -/
def isQuit : Host.Op → Bool
  | .send _ method _ _ => method = "Browser.close"
  | _ => false

/-- What is asked from the command to quit on. -/
def cleanUp (trace : List Host.Exchange) : List Host.Exchange :=
  trace.dropWhile fun exchange => !isQuit exchange.1

/-- How often a browser is asked to quit. -/
def quits (trace : List Host.Exchange) : Nat :=
  trace.countP fun exchange => isQuit exchange.1

theorem quits_append (first rest : List Host.Exchange) :
    quits (first ++ rest) = quits first + quits rest :=
  List.countP_append

theorem quits_eq_zero {α : Type} {script : Script Host α} {trace : List Host.Exchange}
    {result : Except Fault α} (hAsks : script.Asks fun op => isQuit op = false)
    (hRuns : Runs (Answers sink) script estate trace result after) : quits trace = 0 := by
  refine List.countP_eq_zero.mpr fun exchange hMem => ?_
  rw [hRuns.kinds hAsks exchange hMem]
  exact Bool.false_ne_true

/-- The clean-up begins where a browser is asked to quit for the first time. -/
theorem cleanUp_append {visit rest : List Host.Exchange} (hVisit : quits visit = 0)
    (hRest : cleanUp rest = rest) : cleanUp (visit ++ rest) = rest := by
  have hOthers : ∀ exchange ∈ visit, (!isQuit exchange.1) = true := by
    intro exchange hMem
    simpa using List.countP_eq_zero.mp hVisit exchange hMem
  unfold cleanUp
  rw [List.dropWhile_append_of_pos hOthers]
  exact hRest

/-- Asking to quit comes first, and is not done again. It leaves everything to itself. -/
theorem quit_runs (hRuns : Runs (Answers sink) Browser.quit estate trace result after) :
    quits trace = 1 ∧ Meanwhile sink estate after := by
  have hIdle : Browser.quit.Asks IsIdle := by
    refine .bind (.rescue (.bind (.perform (.inl trivial)) fun _ => trivial) fun e => ?_)
      fun _ => .perform (.inl trivial)
    split <;> trivial
  have hMeanwhile := idle_runs hIdle hRuns
  obtain ⟨answer, mid, more, rfl, -, hMore⟩ := Runs.asked hRuns
  have hLater : quits more = 0 := by
    refine quits_eq_zero ?_ hMore
    cases answer with
    | ok value => exact .perform rfl
    | error e =>
      refine .bind ?_ fun _ => .perform rfl
      show (ite (e.isProtocol = true) _ _ : Script Host Unit).Asks _
      split <;> trivial
  refine ⟨?_, hMeanwhile⟩
  unfold quits
  rw [List.countP_cons_of_pos rfl]
  exact congrArg (· + 1) hLater

/-! ## Starting -/

/-- No question but those that send a signal adds one. -/
theorem Answers.signals {op : Host.Op} {answer : Except Fault (Host.Answer op)}
    (hAnswer : Answers sink estate op answer after) (hOther : op ≠ .terminate ∧ op ≠ .kill) :
    after.signals = estate.signals := by
  cases hAnswer with
  | plain _ hMeanwhile | exited _ hMeanwhile | late _ hMeanwhile => exact hMeanwhile.stays.signals
  | feed hMeanwhile | calledOff _ hMeanwhile | abandoned hMeanwhile => exact hMeanwhile.stays.signals
  | asked => exact absurd rfl hOther.1
  | killed => exact absurd rfl hOther.2
  | _ => rfl

theorem unsignalled_runs {α : Type} {script : Script Host α} {result : Except Fault α}
    (hAsks : script.Asks fun op => op ≠ Host.Op.terminate ∧ op ≠ Host.Op.kill)
    (hRuns : Runs (Answers sink) script estate trace result after) :
    after.signals = estate.signals := by
  have hAnswers : ∀ (estate : Estate σ) op answer after,
      (op ≠ Host.Op.terminate ∧ op ≠ Host.Op.kill) → Answers sink estate op answer after →
      after.signals = estate.signals := fun _ _ _ _ hOther hAnswer => hAnswer.signals hOther
  have hTrans : ∀ estate mid after : Estate σ, mid.signals = estate.signals →
      after.signals = mid.signals → after.signals = estate.signals :=
    fun _ _ _ hFirst hSecond => hSecond.trans hFirst
  exact hRuns.keeps (fun _ => by exact rfl) hTrans hAnswers hAsks

/-- A start that succeeds has not sent any signals to its process. -/
theorem launch_runs {options : LaunchOptions} {browser : Browser}
    (hRuns : Runs (Answers sink) (Browser.launch options) estate trace (.ok browser) after) :
    browser.launched = true ∧ after.signals = estate.signals := by
  have hLook : ∀ op, Browser.IsLook op → op ≠ Host.Op.terminate ∧ op ≠ Host.Op.kill := by
    intro op hLook
    constructor <;> (rintro rfl; exact hLook)
  have hSpawn : ∀ command, (Browser.spawn command).Asks
      fun op => op ≠ Host.Op.terminate ∧ op ≠ Host.Op.kill := by
    intro command
    refine .rescue (.perform ⟨nofun, nofun⟩) fun e => ?_
    split
    · exact .bind (.perform ⟨nofun, nofun⟩) fun _ => trivial
    · trivial
  have hReach : ∀ {estate trace after},
      Runs (Answers sink) (Browser.reach options) estate trace (.ok ()) after →
        after.signals = estate.signals := by
    intro estate trace after hReach
    rcases Runs.rescue hReach with ⟨_, -, hDone⟩ | ⟨_, _, e, mid, -, -, hHandled⟩
    · exact unsignalled_runs ((Browser.connect_looks options).mono hLook) hDone
    · -- Whatever fails here is told on, so this is no success.
      obtain ⟨_, _, _, _, -, -, hThrow⟩ := Runs.bind_ok hHandled
      cases (Runs.ofDone hThrow).2.1
  obtain ⟨_, _, found, looked, -, hBinary, hRest⟩ := Runs.bind_ok hRuns
  obtain ⟨_, _, profile, made, -, hMake, hRest⟩ := Runs.bind_ok hRest
  obtain ⟨_, _, command, worded, -, hCommand, hRest⟩ := Runs.bind_ok hRest
  obtain ⟨_, _, _, spawned, -, hStart, hRest⟩ := Runs.bind_ok hRest
  obtain ⟨_, _, _, reached, -, hConnect, hRest⟩ := Runs.bind_ok hRest
  obtain ⟨_, _, _, adopted, -, hAdopt, hDone⟩ := Runs.bind_ok hRest
  obtain ⟨-, hBrowser, rfl⟩ := Runs.ofDone hDone
  have hLooked := unsignalled_runs ((Browser.binary_looks _).mono hLook) hBinary
  have hMade := unsignalled_runs (.perform (by exact ⟨nofun, nofun⟩)) hMake
  have hWorded := unsignalled_runs (Asks.ofExcept _) hCommand
  have hSpawned := unsignalled_runs (hSpawn command) hStart
  have hAdopted := unsignalled_runs (.perform (by exact ⟨nofun, nofun⟩)) hAdopt
  refine ⟨by rw [Except.ok.inj hBrowser], ?_⟩
  rw [hAdopted, hReach hConnect, hSpawned, hWorded, hMade, hLooked]

theorem Answers.followBrowser {answer : Except Fault Unit}
    (hAnswer : Answers sink estate .followBrowser answer after) : answer = .ok () ∧ after = estate := by
  cases hAnswer with
  | plain hNever => exact hNever.elim
  | followed => exact ⟨rfl, rfl⟩
  | feed _ _ hNever => cases hNever
  | calledOff hNever => simp at hNever

theorem Answers.startPrinter {answer : Except Fault Unit}
    (hAnswer : Answers sink estate .startPrinter answer after) : answer = .ok () ∧
      after = { estate with stage := { estate.stage with feed := estate.stage.feed.start } } := by
  cases hAnswer with
  | plain hNever => exact hNever.elim
  | started => exact ⟨rfl, rfl⟩
  | feed _ _ hNever => cases hNever
  | calledOff hNever => simp at hNever

/-- Neither has the end of a process. -/
theorem ending_apart {op : Host.Op} (hEnding : Browser.IsEnding op) :
    isQuit op = false ∧ IsElsewhere op := by
  cases op <;> first | exact ⟨rfl, trivial⟩ | exact hEnding.elim

/-- Emptying the feed asks for nothing else. -/
theorem closeFeed_feeds : closeFeed.Asks (¬ IsElsewhere ·) := by
  refine .bind (.perform id) fun closed => ?_
  split
  · trivial
  · refine .bind (.perform id) fun _ => .bind (.perform id) fun printer => ?_
    split
    · exact .perform id
    · trivial

theorem feeding_apart {op : Host.Op} (hFeeds : ¬ IsElsewhere op) : isQuit op = false := by
  cases op <;> first | rfl | exact absurd trivial hFeeds

/-- A start has nothing to do with the feed, and is over before anybody quits. -/
theorem launch_apart {op : Host.Op} (hLaunch : Browser.IsLaunch op) :
    op ≠ .followBrowser ∧ isQuit op = false ∧ IsElsewhere op := by
  cases op with
  | followBrowser => rcases hLaunch with hNever | hNever | hNever <;> exact hNever.elim
  | _ =>
    first
    | exact ⟨nofun, rfl, trivial⟩
    | rcases hLaunch with hNever | hNever | hNever <;> exact hNever.elim

/-- A visit asks for nothing that changes process or feed, and does not quit. -/
theorem visit_apart {op : Host.Op} (hVisit : Page.IsVisit op) : isQuit op = false ∧ IsIdle op := by
  cases op with
  | send key method params limit => exact ⟨decide_eq_false hVisit, .inl trivial⟩
  | _ => first | exact ⟨rfl, .inl trivial⟩ | exact hVisit.elim

/-! ## The whole session -/

variable {url : String} {commands : Option String} {settings : Settings}

/-- A session up to where its browser has been started and its printer runs. -/
theorem started_runs {result : Except Fault (List Outcome)}
    (hOwn : settings.cdpUrl.truthy = false)
    (hRuns : Runs (Answers sink) (run url commands settings) estate trace result after)
    (hLaunched : (⟨.followBrowser, .ok ()⟩ : Host.Exchange) ∈ trace) :
    ∃ browser starting rest began, trace = starting ++ rest ∧ browser.launched = true ∧
      quits starting = 0 ∧ Answered (Answers sink) estate starting began ∧
      began.signals = estate.signals ∧
      (∃ stage, Alone sink estate.stage stage ∧
        began.stage = { stage with feed := stage.feed.start }) ∧
      Runs (Answers sink) ((stay browser url commands settings).andFinally
        (browser.close.andFinally closeFeed)) began rest result after := by
  -- Where the session ends before its browser is started, nobody follows it.
  have hEarly : ∀ {α : Type} {script : Script Host α} {estate after : Estate σ} {trace result},
      Runs (Answers sink) script estate trace result after →
      script.Asks (· ≠ Host.Op.followBrowser) →
      (⟨.followBrowser, .ok ()⟩ : Host.Exchange) ∉ trace :=
    fun hRuns hAsks hMem => hRuns.kinds hAsks _ hMem rfl
  rcases Runs.bind hRuns with ⟨announcing, _, _, announced, rfl, hPrint, hOpen⟩ | ⟨_, -, hPrint⟩
  · have hStarts : openBrowser settings = Browser.launch _ := if_neg (by rw [hOwn]; nofun)
    rw [hStarts] at hOpen
    have hAsks := Browser.launch_launches
      ⟨settings.chromePath, settings.headless, settings.extraArgs, settings.launchTimeout,
        settings.protocolTimeout⟩
    rcases Runs.bind hOpen with ⟨launching, _, browser, up, rfl, hLaunch, hFollow⟩ | ⟨_, -, hFails⟩
    · obtain ⟨_, _, _, rfl, hFollowed, hStart⟩ := Runs.asked hFollow
      obtain ⟨rfl, rfl⟩ := hFollowed.followBrowser
      obtain ⟨_, began, rest, rfl, hStarted, hRest⟩ := Runs.asked hStart
      obtain ⟨rfl, hBegan⟩ := hStarted.startPrinter
      have hAnnounced := idle_runs (.perform (by exact .inl trivial)) hPrint
      obtain ⟨hLaunched, hSignals⟩ := launch_runs hLaunch
      have hFeed := elsewhere_runs (hAsks.mono fun _ hOp => (launch_apart hOp).2.2) hLaunch
      have hNone : quits (announcing ++ launching) = 0 := by
        rw [quits_append, quits_eq_zero (.perform rfl) hPrint,
          quits_eq_zero (hAsks.mono fun _ hOp => (launch_apart hOp).2.1) hLaunch]
      refine ⟨browser, announcing ++ launching ++ [⟨.followBrowser, .ok ()⟩, ⟨.startPrinter, .ok ()⟩],
        rest, began, by simp, hLaunched, ?_, ?_, ?_, ?_, hRest⟩
      · rw [quits_append, hNone]
        rfl
      · exact (hPrint.answered.append hLaunch.answered).append
          (.cons hFollowed (.cons hStarted .nil))
      · rw [hBegan]
        exact hSignals.trans hAnnounced.stays.signals
      · rw [hBegan]
        exact ⟨_, hAnnounced.feed.trans hFeed, rfl⟩
    · rcases List.mem_append.mp hLaunched with hMem | hMem
      · exact absurd hMem (hEarly hPrint (.perform nofun))
      · exact absurd hMem (hEarly hFails (hAsks.mono fun _ hOp => (launch_apart hOp).1))
  · exact absurd hLaunched (hEarly hPrint (.perform nofun))

/-- What has been let go of: the browser was asked to quit once; its process has ended, with no more
signals than it made necessary after it had been asked to quit and the connection had been closed;
the profile is gone; and the feed is empty, after a run of the feed with its closing. -/
structure LetGo (sink : Sink σ) (begun : Estate σ) (trace : List Host.Exchange) (after : Estate σ) :
    Prop where
  once : quits trace = 1
  process : ∃ visit closing ending visited outcome hung time signals,
    trace = visit ++ (closing ++ ending) ∧
    Answered (Answers sink) begun visit visited ∧
    Runs (Answers sink) Browser.quit visited closing outcome hung ∧
    Answered (Answers sink) hung ending after ∧
    hung.signals = begun.signals ∧ after.signals = begun.signals ++ signals ∧
    after.process = .ended time ∧ Signalled time hung.process signals
  profile : after.profile = false
  drained : Drained after.stage
  printed : ∃ acts, Steps sink begun.stage acts { after.stage with closing := some (.done (.ok ())) }

/-- What is asked before may be anything, but to quit and for signals. -/
theorem LetGo.after_visit {visited : Estate σ} {visit : List Host.Exchange} {acts : List Act}
    (hLetGo : LetGo sink visited trace after) (hAnswered : Answered (Answers sink) estate visit visited)
    (hQuits : quits visit = 0) (hSignals : visited.signals = estate.signals)
    (hSteps : Steps sink estate.stage acts visited.stage) :
    LetGo sink estate (visit ++ trace) after := by
  obtain ⟨hOnce, ⟨more, closing, ending, left, outcome, hung, time, signals, rfl, hMore, hQuit, hEnding,
    hHung, hSent, hEnded, hSignalled⟩, hProfile, hDrained, later, hPrinted⟩ := hLetGo
  refine ⟨?_, ?_, hProfile, hDrained, acts ++ later, hSteps.trans hPrinted⟩
  · rw [quits_append, hQuits, hOnce]
  · rw [hSignals] at hHung hSent
    exact ⟨visit ++ more, closing, ending, left, outcome, hung, time, signals,
      (List.append_assoc ..).symm, hAnswered.append hMore, hQuit, hEnding, hHung, hSent, hEnded,
      hSignalled⟩

/-- The end of a session begins with asking the browser to quit. -/
theorem leave_first {browser : Browser} (hBrowser : browser.launched = true)
    (hRuns : Runs (Answers sink) (browser.close.andFinally closeFeed) estate trace result after) :
    cleanUp trace = trace := by
  unfold Browser.close at hRuns
  rw [if_pos hBrowser] at hRuns
  obtain ⟨answer, mid, rest, rfl, -⟩ := Runs.asked hRuns
  rfl

/-- The end of a session, from where it lets go of its browser on. -/
theorem leave_runs {browser : Browser} (hBrowser : browser.launched = true)
    (hRuns : Runs (Answers sink) (browser.close.andFinally closeFeed) estate trace result after)
    (hHolds : Holds trace) (hOpen : Accepting .running estate.stage)
    (hUnclosed : estate.stage.closing = none) : LetGo sink estate trace after := by
  obtain ⟨_, emptying, _, dropped, _, rfl, hClose, hEmpty, -⟩ := hRuns.andFinally
  unfold Browser.close at hClose
  rw [if_pos hBrowser] at hClose
  obtain ⟨closing, discarding, outcome, hung, _, rfl, hQuit, hDiscard, -⟩ := hClose.andFinally
  obtain ⟨hDiscards, hEmpties⟩ := hHolds.append
  obtain ⟨hOne, hHung⟩ := quit_runs hQuit
  -- The process has ended before the feed is emptied, and stays so.
  obtain ⟨-, hProfile, time, signals, hEnded, hSent, hSignalled⟩ :=
    discard_runs hDiscard hDiscards.append.2
  have hSettled := feeding_runs closeFeed_feeds hEmpty
  rw [hHung.stays.signals] at hSent
  -- The feed is left to itself until it is emptied.
  have hEnds := Browser.discard_ends.mono fun _ hOp => (ending_apart hOp).2
  have hAlone : Alone sink estate.stage dropped.stage :=
    hHung.feed.trans (elsewhere_runs hEnds hDiscard)
  obtain ⟨-, hDrained, acts, hPrinted⟩ := closeFeed_runs hEmpty hEmpties (hOpen.alone hAlone)
    (hAlone.closing.trans hUnclosed)
  obtain ⟨before, -, hBefore⟩ := hAlone
  refine ⟨?_, ?_, hSettled.profile.trans hProfile, hDrained, before ++ acts, hBefore.trans hPrinted⟩
  · rw [quits_append, quits_append, hOne,
      quits_eq_zero (Browser.discard_ends.mono fun _ hOp => (ending_apart hOp).1) hDiscard,
      quits_eq_zero (closeFeed_feeds.mono fun _ hOp => feeding_apart hOp) hEmpty]
  · exact ⟨[], closing, discarding ++ emptying, estate, outcome, hung, time, signals,
      List.append_assoc .., .nil, hQuit, hDiscard.answered.append hEmpty.answered,
      hHung.stays.signals, hSettled.signals.trans hSent, hSettled.ended time hEnded, hSignalled⟩

/-- **Letting go.** However the visit of a session ends that has started a browser, the session lets
go of everything, unless its clean-up is called off. -/
theorem run_lets_go {result : Except Fault (List Outcome)} {s : σ} {clock : Double}
    (hOwn : settings.cdpUrl.truthy = false)
    (hRuns : Runs (Answers sink) (run url commands settings) { stage := { sink := s }, clock := clock }
      trace result after)
    (hLaunched : (⟨.followBrowser, .ok ()⟩ : Host.Exchange) ∈ trace)
    (hHolds : Holds (cleanUp trace)) :
    LetGo sink { stage := { sink := s }, clock := clock } trace after := by
  obtain ⟨browser, starting, _, began, rfl, hBrowser, hStart, hStarted, hNone, ⟨stage, hEarly, hBegan⟩,
    hRest⟩ := started_runs hOwn hRuns hLaunched
  obtain ⟨staying, leaving, _, visited, _, rfl, hStay, hLeave, -⟩ := hRest.andFinally
  have hAsks := stay_visits browser url commands settings
  have hStayed := idle_runs (hAsks.mono fun _ hOp => (visit_apart hOp).2) hStay
  have hVisit : quits (starting ++ staying) = 0 := by
    rw [quits_append, hStart, quits_eq_zero (hAsks.mono fun _ hOp => (visit_apart hOp).1) hStay]
  rw [← List.append_assoc] at hHolds ⊢
  rw [cleanUp_append hVisit (leave_first hBrowser hLeave)] at hHolds
  -- Until here, the feed has been left to itself but for the start of its printer.
  have hFirst : Accepting .absent ({ sink := s } : Stage σ) := ⟨rfl, rfl, [], rfl⟩
  have hOpen : Accepting .running began.stage := by
    rw [hBegan]
    exact (hFirst.alone hEarly).start
  have hUnclosed : began.stage.closing = none := by
    rw [hBegan]
    exact hEarly.closing
  obtain ⟨before, -, hBefore⟩ := hEarly
  obtain ⟨between, -, hBetween⟩ := hStayed.feed
  have hUntil : Steps sink { sink := s } (before ++ [.start] ++ between) visited.stage := by
    refine Steps.trans ?_ hBetween
    rw [hBegan]
    exact hBefore.snoc .start
  have hLeft := leave_runs hBrowser hLeave hHolds (hOpen.alone hStayed.feed)
    (hStayed.feed.closing.trans hUnclosed)
  exact hLeft.after_visit (hStarted.append hStay.answered) hVisit (hStayed.stays.signals.trans hNone)
    hUntil

/-- A session whose page is refused, and whose browser neither answers nor ends until it is killed.
The end of the connection is still printed. -/
theorem run_lets_go_killed :
    ∃ (settings : Settings) (sink : Sink Unit) (trace : List Host.Exchange) (after : Estate Unit),
      settings.cdpUrl.truthy = false ∧
      Runs (Answers sink) (run "http://localhost" none settings)
        { stage := { sink := () }, clock := .zero } trace (.ok []) after ∧
      (⟨.followBrowser, .ok ()⟩ : Host.Exchange) ∈ trace ∧ Holds (cleanUp trace) ∧
      after.signals = [(.zero, false), (6, true)] ∧
      LetGo sink { stage := { sink := () }, clock := .zero } trace after := by
  let sink : Sink Unit := ⟨fun _ s => (s, none), fun _ s => s, nofun⟩
  let settings : Settings := { chromePath := .str "chromium" }
  let lost : Event := ⟨.browserDisconnected, [.str "Browser was disconnected."], none⟩
  let launching : List Host.Exchange := [⟨.makeProfile, .ok "profile"⟩,
    ⟨.spawn (["chromium", "--remote-debugging-port=0", "--user-data-dir=profile"] ++
      Browser.switches ++ ["--headless=new", "about:blank"]), .ok ()⟩,
    ⟨.now, .ok Double.zero⟩, ⟨.now, .ok Double.zero⟩, ⟨.exitCode, .ok none⟩,
    ⟨.portFile, .ok (some "9222\n/devtools\n".toUTF8)⟩,
    ⟨.openSocket "ws://127.0.0.1:9222/devtools" (.double 30), .ok ()⟩, ⟨.adopt true, .ok ()⟩]
  let staying : List Host.Exchange := [⟨.followBrowser, .ok ()⟩, ⟨.startPrinter, .ok ()⟩,
    ⟨.send .null "Target.createTarget" (.object [("url", .str "about:blank")]) .null,
      .error (.protocol "refused")⟩,
    ⟨.print (.err, "Failed to navigate to http://localhost: refused"), .ok ()⟩,
    ⟨.sleep settings.gracePeriod, .ok ()⟩]
  let leaving : List Host.Exchange := [
    ⟨.send .null "Browser.close" .null (.double 5), .error (.protocol "late")⟩, ⟨.hangUp, .ok ()⟩,
    ⟨.exitCode, .ok none⟩, ⟨.terminate, .ok ()⟩,
    ⟨.awaitExit (.seconds 5), .error (.system .timeLimit "")⟩, ⟨.kill, .ok ()⟩,
    ⟨.awaitExit .unlimited, .ok ()⟩, ⟨.removeProfile, .ok ()⟩, ⟨.isFeedClosed, .ok false⟩,
    ⟨.awaitLineup, .ok ()⟩, ⟨.stopFeed, .ok true⟩, ⟨.awaitPrinter, .ok ()⟩]
  let before : Estate Unit :=
    ⟨{ feed := ⟨[], 0, [], .running, false⟩, sink := () }, .zero, .running, true, []⟩
  let after : Estate Unit := ⟨⟨⟨[], 0, [], .ended, true⟩, (), [lost], [.disconnected], none⟩, 6,
    .ended 6, false, [(.zero, false), (6, true)]⟩
  have hLaunch : ∀ x : Double, Double.zero.lt (Double.zero + x) = true → Runs (Answers sink)
      (Browser.launch { chromePath := settings.chromePath, timeout := .double x })
      { stage := { sink := () }, clock := .zero } launching (.ok ⟨true, .double 30⟩)
      ⟨{ sink := () }, .zero, .running, true, []⟩ := by
    intro x hTime
    refine .ask (.made _) (.ask (.spawned _) ?_)
    refine .ask (.plain (by trivial) .refl _) (.ask (.plain (by trivial) .refl _) ?_)
    show Runs _ ((((if !Double.zero.lt (Double.zero + x) then _ else _ :
      Script Host String).bind _).rescue _).bind _) _ _ _ _
    rw [hTime]
    refine .ask (.running rfl) (.ask (.plain (by trivial) .refl _) ?_)
    exact .ask (.plain (by trivial) .refl _) (.ask (.adopted true) .done)
  have hLater : Double.zero.lt 6 = true := by decide +kernel
  have hLeave : Runs (Answers sink) ((Browser.mk true (.double 30)).close.andFinally closeFeed)
      before leaving (.ok ()) after := by
    refine .ask (.plain (by trivial) .refl _) ?_
    refine .ask (.plain (by trivial) (.single (.feed rfl (.arrive .disconnected))) _) ?_
    refine .ask (.running rfl) (.ask (.asked nofun) ?_)
    refine .ask (.late rfl (.single (.time hLater)) (by decide +kernel) nofun) ?_
    refine .ask (.killed nofun) (.ask (.exited .unlimited (.single (.exit rfl)) rfl) ?_)
    refine .ask .removed (.ask (.feed .refl nofun rfl) (.ask (.feed .refl nofun rfl) ?_))
    refine .ask (.feed .refl (fun _ => rfl) rfl) ?_
    exact .ask (.feed (.tail (.single (.feed rfl .print)) (.feed rfl .print)) nofun rfl) .done
  let trace : List Host.Exchange := [⟨.print (.out, "Navigating to http://localhost..."), .ok ()⟩] ++
    (launching ++ (staying ++ (leaving ++ [])))
  have hRuns : Runs (Answers sink) (run "http://localhost" none settings)
      { stage := { sink := () }, clock := .zero } trace (.ok []) after := by
    refine Runs.andThen (.ask (.plain (by trivial) .refl _) .done) ?_
    refine Runs.andThen (hLaunch 30 (by decide +kernel)) (.ask .followed (.ask .started ?_))
    iterate 3 refine .ask (.plain (by trivial) .refl _) ?_
    exact hLeave.andThen .done
  have hHolds : Holds (leaving ++ []) := by
    simp only [Holds, leaving, List.append_nil, List.mem_cons, Sigma.mk.injEq, not_or, not_and,
      List.not_mem_nil, not_false_eq_true, and_true]
    intro op
    and_intros <;> (rintro rfl; simp)
  have hLaunched : (⟨.followBrowser, .ok ()⟩ : Host.Exchange) ∈ trace :=
    List.mem_append_right _ (List.mem_append_right _ (.head _))
  exact ⟨settings, sink, trace, after, rfl, hRuns, hLaunched, hHolds, rfl,
    run_lets_go rfl hRuns hLaunched hHolds⟩

end PageReporter.Session
