import PageReporter.Proofs.Acts
import PageReporter.Proofs.Contacts

/-!
# How often a session tells that its browser is lost

A connection ends once, and the feed is told of it as long as the browser has not been muted. So a
session that started its browser prints one line about its end: such a browser is never muted, and
letting go of it closes the connection while the feed still listens. A browser that had been running
before is muted before the session hangs up. A frame that bears the name under which connections
tell their end is heard like that end, and costs a line of its own each time.

* `Session.Contact.quit_closes` — whoever asked a browser to quit leaves a connection that has
  closed, whatever else came of it;
* `Session.Contact.close_again`, `Session.Contact.GoesOn` — letting go once more changes nothing;
* `Session.Contact.openBrowser_opens`, `Session.Contact.begun_runs` — how a session begins;
* `Session.Contact.Unhung` — nobody was heard to hang up;
* `Session.Contact.ToldOnce`, `Session.Contact.ToldAtMostOnce` — what was printed in the end;
* `Session.Contact.run_tells_loss` — how often a session tells that its browser is lost.
-/

namespace PageReporter

/-- A limit that is a double makes sense. -/
theorem Limit.ofValue_double (x : Double) : ∃ limit, Limit.ofValue (.double x) = .ok limit := by
  unfold Limit.ofValue Limit.isOver Value.asDouble
  dsimp only [Value.isNull, Value.number?]
  cases x.le Double.zero with
  | true => exact ⟨.over, rfl⟩
  | false => exact ⟨.within x, rfl⟩

/-- However a connection closes, it has closed then. -/
theorem Connection.isClosed_close (c : Connection) : c.close.1.closed = true := by
  cases hClosed : c.closed with
  | true => rw [Connection.close_closed hClosed, hClosed]
  | false => exact (Connection.close_calls hClosed).2.2

namespace Session

open Script (Runs Asks Answered)
open FeedRun (Stage Step Steps Act Alone Accepting Emptying)

namespace Contact

variable {σ : Type} {sink : Sink σ} {contact after : Contact σ} {trace : List Host.Exchange}

/-! ## Runs -/

/-- A run of a session in contact is a run of the session. -/
theorem runs_estate {α : Type} {script : Script Host α} {result : Except Fault α}
    (hRuns : Runs (Answers sink) script contact trace result after) :
    Runs (Session.Answers sink) script contact.estate trace result after.estate :=
  hRuns.map Contact.estate fun _ _ _ _ hAnswer => hAnswer.estate

theorem runs_sound {α : Type} {script : Script Host α} {result : Except Fault α}
    (hRuns : Runs (Answers sink) script contact trace result after) (hSound : Sound contact) :
    Sound after := by
  induction hRuns with
  | done => exact hSound
  | ask hAnswer _ ih => exact ih (hAnswer.sound hSound)

theorem runs_grows {α : Type} {script : Script Host α} {result : Except Fault α}
    (hAsks : script.Asks (¬ IsOpening ·))
    (hRuns : Runs (Answers sink) script contact trace result after) : Grows contact after :=
  hRuns.keeps Grows.refl (fun _ _ _ => .trans) (fun _ _ _ _ hOther hAnswer => hAnswer.grows hOther)
    hAsks

/-! ## Asking to quit -/

/-- The command to quit fails with a fault of the conversation only, unless it is called off. -/
theorem quit_fails {e : Fault} (hSound : Sound contact)
    (hAnswer : Answers sink contact (.send .null "Browser.close" .null (.double 5)) (.error e)
      after) : e.isProtocol = true ∨ e = .cancelled := by
  have hAfter := hAnswer.sound hSound
  cases hAnswer with
  | refused _ _ _ hRefused =>
    unfold Connection.begin at hRefused
    split at hRefused
    · cases hRefused
      exact .inl rfl
    · cases hRefused
  | sent _ _ _ _ _ _ hEnded =>
    cases hAfter.settled.timely _ _ hEnded with
    | failed text => exact .inl rfl
    | calledOff hOwn => exact .inr rfl
    | replied _ _ hReply =>
      obtain ⟨members, -, hReply⟩ := Option.bind_eq_some_iff.mp hReply
      unfold Connection.replyTo? at hReply
      split at hReply
      · split at hReply
        · exact .inl (Connection.reply_isProtocol (Option.some.inj hReply))
        · cases hReply
      · cases hReply
  | senseless _ _ _ _ hLimit =>
    -- The limit of this command makes sense, and is its own.
    rcases hLimit with hNull | ⟨_, hSenseless⟩
    · cases hNull
    · obtain ⟨limit, hLimit⟩ := Limit.ofValue_double 5
      cases hLimit.symm.trans hSenseless
  | changed hChange => exact hChange.elim
  | waited hApart => exact absurd trivial hApart.2

/-- Whoever has hung up leaves a connection that has closed. -/
theorem hangUp_closes {answer : Except Fault Unit}
    (hAnswer : Answers sink contact .hangUp answer after) (hHolds : answer ≠ .error .cancelled) :
    after.connection.closed = true := by
  cases hAnswer with
  | hungUp _ hMeanwhile =>
    rw [close_connection]
    exact Connection.isClosed_close _
  | notHungUp => exact absurd rfl hHolds
  | changed hChange => exact hChange.elim
  | waited hApart => exact absurd trivial hApart.2

/-- Once a browser has been asked to quit, the connection has closed. -/
theorem quit_closes {result : Except Fault Unit} (hSound : Sound contact)
    (hRuns : Runs (Answers sink) Browser.quit contact trace result after) (hHolds : Holds trace) :
    after.connection.closed = true := by
  rcases Runs.bind hRuns with ⟨asking, leaving, _, asked, rfl, -, hLeave⟩ | ⟨e, -, hAsk⟩
  · obtain ⟨rfl, hAnswer⟩ := Runs.perform hLeave
    refine hangUp_closes hAnswer fun hOff => ?_
    subst hOff
    exact hHolds.append.2 _ (.head _)
  · -- Where nobody hangs up, the command to quit has failed in a way that cannot be.
    rcases hAsk.ignoring with ⟨hFails, hOther⟩ | ⟨_, -, hNever, -⟩
    · rcases Runs.bind hFails with ⟨_, _, _, _, -, -, hDone⟩ | ⟨f, hSame, hSend⟩
      · cases hDone.ofDone.2.1
      · cases hSame
        obtain ⟨rfl, hAnswer⟩ := Runs.perform hSend
        rcases quit_fails hSound hAnswer with hProtocol | rfl
        · cases (hOther e rfl).symm.trans hProtocol
        · exact absurd (.head _) (hHolds _)
    · cases hNever

/-! ## Letting go once more -/

/-- What letting go of a launched browser asks for once its process is over. -/
def IsFurther : Host.Op → Prop
  | .send .. | .hangUp | .exitCode | .removeProfile => True
  | _ => False

theorem further_apart {op : Host.Op} (hFurther : IsFurther op) :
    IsElsewhere op ∧ ¬ IsOpening op ∧ op ≠ .followBrowser ∧ op ≠ .mute := by
  cases op <;> first | exact hFurther.elim | exact ⟨trivial, id, by nofun, by nofun⟩

theorem quit_further : Browser.quit.Asks IsFurther := by
  refine .bind (.rescue (.bind (.perform trivial) fun _ => trivial) fun e => ?_)
    fun _ => .perform trivial
  split <;> trivial

/-- Whoever asks for such after everything has ended changes nothing. -/
theorem Answers.rests {op : Host.Op} {answer : Except Fault (Host.Answer op)}
    (hAnswer : Answers sink contact op answer after) (hFurther : IsFurther op) :
    Rests contact after := by
  cases hAnswer with
  | refused => exact .refl contact
  | sent _ _ _ hNumber =>
    intro hGone
    cases (if_pos hGone.closed).symm.trans hNumber
  | senseless _ _ _ _ _ hMeanwhile => exact Meanwhile.rests hMeanwhile
  | hungUp _ hMeanwhile => exact (Meanwhile.rests hMeanwhile).trans (close_rests .hungUp _)
  | notHungUp hMeanwhile => exact Meanwhile.rests hMeanwhile
  | waited _ hMeanwhile => exact Meanwhile.rests hMeanwhile
  | changed hChange hAnswer =>
    cases op with
    | removeProfile =>
      obtain ⟨-, rfl⟩ := hAnswer.removeProfile
      exact fun hGone => ⟨⟨hGone.closed, hGone.drained, hGone.ended⟩, rfl, rfl, rfl, rfl, rfl⟩
    | _ => first | exact hChange.elim | exact hFurther.elim
  | _ => exact hFurther.elim

/-- A process that is over is sent no signals. -/
theorem terminate_rests {result : Except Fault Unit}
    (hRuns : Runs (Answers sink) Browser.terminate contact trace result after) :
    Rests contact after := by
  intro hGone
  obtain ⟨time, hEnded⟩ := hGone.ended
  obtain ⟨answer, seen, rest, rfl, hAnswer, hRest⟩ := Runs.asked hRuns
  have hSeen := hAnswer.rests trivial hGone
  obtain ⟨-, ⟨-, hRunning⟩ | ⟨code, _, rfl, -⟩⟩ := hAnswer.estate.exitCode
  · cases hRunning.symm.trans hEnded
  · obtain ⟨-, -, rfl⟩ := Runs.ofDone hRest
    exact hSeen

/-- **Letting go once more.** After everything has ended no command is begun, nothing is told and
no signal is sent. -/
theorem close_again {limit : Value} {result : Except Fault Unit}
    (hRuns : Runs (Answers sink) (Browser.close ⟨true, limit⟩) contact trace result after) :
    Rests contact after := by
  obtain ⟨closing, discarding, _, hung, _, rfl, hClose, hDiscard, -⟩ := Runs.andFinally hRuns
  have hHung : Rests contact hung := hClose.keeps Rests.refl (fun _ _ _ => .trans)
    (fun _ _ _ _ hFurther hAnswer => hAnswer.rests hFurther) quit_further
  rcases Runs.bind hDiscard with ⟨_, _, _, ended, -, hEnd, hRemove⟩ | ⟨_, -, hEnd⟩
  · have hRemoved := (Runs.perform hRemove).2.rests trivial
    exact hHung.trans ((terminate_rests hEnd).trans hRemoved)
  · exact hHung.trans (terminate_rests hEnd)

/-- What may go on after a session that had started its browser: what goes on by itself, and
further calls that let go of the browser. -/
inductive GoesOn (sink : Sink σ) : Contact σ → Contact σ → Prop
  | passes {contact after : Contact σ} (hPasses : Passes sink contact after) :
      GoesOn sink contact after
  | closes {contact after : Contact σ} {limit : Value} {trace : List Host.Exchange}
      {result : Except Fault Unit}
      (hRuns : Runs (Answers sink) (Browser.close ⟨true, limit⟩) contact trace result after) :
      GoesOn sink contact after

theorem Gone.goesOn (hGone : Gone contact)
    (hGoesOn : Relation.ReflTransGen (GoesOn sink) contact after) : Still contact after := by
  have hRests : Rests contact after := by
    induction hGoesOn with
    | refl => exact .refl contact
    | tail _ hLast ih =>
      refine ih.trans ?_
      cases hLast with
      | passes hPasses => exact hPasses.rests
      | closes hRuns => exact close_again hRuns
  exact (hRests hGone).2

/-! ## Opening -/

/-- Who listens is the same as before. -/
def SameEars (contact after : Contact σ) : Prop :=
  after.followed = contact.followed ∧ after.muted = contact.muted

theorem SameEars.trans {mid : Contact σ} (hFirst : SameEars contact mid)
    (hSecond : SameEars mid after) : SameEars contact after :=
  ⟨hSecond.1.trans hFirst.1, hSecond.2.trans hFirst.2⟩

theorem Alike.sameEars (hAlike : Alike contact after) : SameEars contact after :=
  ⟨hAlike.followed, hAlike.muted⟩

theorem close_sameEars (loss : Loss) (contact : Contact σ) :
    SameEars contact (contact.close loss) :=
  (hear_alike loss _ { contact with line := contact.line.close }).sameEars

theorem Meanwhile.sameEars (hMeanwhile : Meanwhile sink contact after) :
    SameEars contact after := by
  induction hMeanwhile with
  | refl => exact ⟨rfl, rfl⟩
  | tail _ hLast ih =>
    refine ih.trans ?_
    cases hLast with
    | act | apart => exact ⟨rfl, rfl⟩
    | frame text => exact ((hear_alike .named _ _).trans (hear_alike ..)).sameEars
    | drop => exact close_sameEars .dropped _

theorem Answers.sameEars {op : Host.Op} {answer : Except Fault (Host.Answer op)}
    (hAnswer : Answers sink contact op answer after) (hOther : op ≠ .followBrowser ∧ op ≠ .mute) :
    SameEars contact after := by
  cases hAnswer with
  | followed => exact absurd rfl hOther.1
  | muted => exact absurd rfl hOther.2
  | opened _ _ hMeanwhile | sent _ _ _ _ _ hMeanwhile | abandoned hMeanwhile =>
    have hMid := Meanwhile.sameEars hMeanwhile
    exact ⟨hMid.1, hMid.2⟩
  | notOpened _ _ _ hMeanwhile | notHungUp hMeanwhile => exact Meanwhile.sameEars hMeanwhile
  | senseless _ _ _ _ _ hMeanwhile => exact Meanwhile.sameEars hMeanwhile
  | hungUp _ hMeanwhile => exact (Meanwhile.sameEars hMeanwhile).trans (close_sameEars ..)
  | waited _ hMeanwhile => exact Meanwhile.sameEars hMeanwhile
  | _ => exact ⟨rfl, rfl⟩

theorem runs_sameEars {α : Type} {script : Script Host α} {result : Except Fault α}
    (hAsks : script.Asks fun op => op ≠ Host.Op.followBrowser ∧ op ≠ Host.Op.mute)
    (hRuns : Runs (Answers sink) script contact trace result after) : SameEars contact after :=
  hRuns.keeps (fun _ => ⟨rfl, rfl⟩) (fun _ _ _ => .trans)
    (fun _ _ _ _ hOther hAnswer => hAnswer.sameEars hOther) hAsks

/-- A socket that has been opened makes a connection of which nobody has made use. -/
theorem Answers.openSocket {address : String} {limit : Value}
    (hAnswer : Answers sink contact (.openSocket address limit) (.ok ()) after) :
    after.line = {} := by
  cases hAnswer with
  | opened => rfl
  | changed hChange => exact hChange.elim
  | waited hApart => exact absurd trivial hApart.2

theorem Answers.adopt {launched : Bool} {answer : Except Fault Unit}
    (hAnswer : Answers sink contact (.adopt launched) answer after) : after = contact := by
  cases hAnswer with
  | adopted => rfl
  | changed hChange => exact hChange.elim
  | waited hApart => exact absurd trivial hApart.2

theorem Answers.followBrowser {answer : Except Fault Unit}
    (hAnswer : Answers sink contact .followBrowser answer after) :
    answer = .ok () ∧ after = { contact with followed := true } := by
  cases hAnswer with
  | followed => exact ⟨rfl, rfl⟩
  | changed hChange => exact hChange.elim
  | waited hApart => exact absurd trivial hApart.2

theorem Answers.startPrinter {answer : Except Fault Unit}
    (hAnswer : Answers sink contact .startPrinter answer after) : answer = .ok () ∧
      after = { contact with estate.stage.feed := contact.estate.stage.feed.start } := by
  cases hAnswer with
  | changed _ hAnswer =>
    obtain ⟨rfl, rfl⟩ := hAnswer.startPrinter
    exact ⟨rfl, rfl⟩
  | waited hApart => exact absurd trivial hApart.1

theorem Answers.mute {answer : Except Fault Unit}
    (hAnswer : Answers sink contact .mute answer after) :
    after = { contact with muted := true } := by
  cases hAnswer with
  | muted => rfl
  | changed hChange => exact hChange.elim
  | waited hApart => exact absurd trivial hApart.2

/-- A browser that has been opened has such a connection. -/
theorem openBrowser_opens {settings : Settings} {browser : Browser}
    (hRuns : Runs (Answers sink) (openBrowser settings) contact trace (.ok browser) after) :
    browser.launched = !settings.cdpUrl.truthy ∧ after.line = {} := by
  unfold openBrowser at hRuns
  cases hAttached : settings.cdpUrl.truthy with
  | true =>
    rw [if_pos hAttached] at hRuns
    obtain ⟨_, _, address, _, -, -, hRest⟩ := Runs.bind_ok hRuns
    obtain ⟨_, _, description, _, -, -, hRest⟩ := Runs.bind_ok hRest
    obtain ⟨_, _, socket, _, -, -, hRest⟩ := Runs.bind_ok hRest
    obtain ⟨_, _, _, opened, -, hOpen, hRest⟩ := Runs.bind_ok hRest
    obtain ⟨_, _, _, adopted, -, hAdopt, hDone⟩ := Runs.bind_ok hRest
    obtain ⟨-, hBrowser, rfl⟩ := Runs.ofDone hDone
    obtain rfl := (Runs.perform hAdopt).2.adopt
    exact ⟨by rw [Except.ok.inj hBrowser]; rfl, (Runs.perform hOpen).2.openSocket⟩
  | false =>
    rw [if_neg (by simp [hAttached])] at hRuns
    obtain ⟨_, _, binary, _, -, -, hRest⟩ := Runs.bind_ok hRuns
    obtain ⟨_, _, profile, _, -, -, hRest⟩ := Runs.bind_ok hRest
    obtain ⟨_, _, command, _, -, -, hRest⟩ := Runs.bind_ok hRest
    obtain ⟨_, _, _, _, -, -, hRest⟩ := Runs.bind_ok hRest
    obtain ⟨_, _, _, reached, -, hReach, hRest⟩ := Runs.bind_ok hRest
    obtain ⟨_, _, _, adopted, -, hAdopt, hDone⟩ := Runs.bind_ok hRest
    obtain ⟨-, hBrowser, rfl⟩ := Runs.ofDone hDone
    obtain rfl := (Runs.perform hAdopt).2.adopt
    refine ⟨by rw [Except.ok.inj hBrowser]; rfl, ?_⟩
    rcases Runs.rescue hReach with ⟨_, -, hConnect⟩ | ⟨_, _, e, _, -, -, hHandled⟩
    · obtain ⟨_, _, address, _, -, -, hOpen⟩ := Runs.bind_ok hConnect
      exact (Runs.perform hOpen).2.openSocket
    · -- Whatever fails here is told on.
      obtain ⟨_, _, _, _, -, -, hThrow⟩ := Runs.bind_ok hHandled
      cases (Runs.ofDone hThrow).2.1

/-! ## Before the parting -/

/-- What a session asks for first when it lets go of its browser: a launched one is asked to quit,
of the other the pages are looked through. -/
def isParting : Host.Op → Bool
  | .keptPage _ => true
  | op => isQuit op

/-- What is asked from the parting on. -/
def parting (trace : List Host.Exchange) : List Host.Exchange :=
  trace.dropWhile fun exchange => !isParting exchange.1

/-- A question of a session before it lets go of its browser that is not the feed's, and does not
change who listens. -/
def IsEarly (op : Host.Op) : Prop :=
  isParting op = false ∧ op ≠ .followBrowser ∧ op ≠ .mute ∧ IsElsewhere op

theorem launch_early {op : Host.Op} (hLaunch : Browser.IsLaunch op) : IsEarly op := by
  cases op with
  | followBrowser | mute | keptPage =>
    rcases hLaunch with hNever | hNever | hNever <;> exact hNever.elim
  | _ =>
    first
    | exact ⟨rfl, nofun, nofun, trivial⟩
    | rcases hLaunch with hNever | hNever | hNever <;> exact hNever.elim

theorem visit_early {op : Host.Op} (hVisit : Page.IsVisit op) : IsEarly op ∧ ¬ IsOpening op := by
  cases op with
  | followBrowser | mute | keptPage => exact hVisit.elim
  | send key method params limit => exact ⟨⟨decide_eq_false hVisit, nofun, nofun, trivial⟩, id⟩
  | _ => first | exact ⟨⟨rfl, nofun, nofun, trivial⟩, id⟩ | exact hVisit.elim

theorem openBrowser_early (settings : Settings) : (openBrowser settings).Asks IsEarly := by
  have hFetch : ∀ address, IsEarly (.fetch address) := fun _ => ⟨rfl, nofun, nofun, trivial⟩
  have hOpen : ∀ address limit, IsEarly (.openSocket address limit) :=
    fun _ _ => ⟨rfl, nofun, nofun, trivial⟩
  have hAdopt : IsEarly (.adopt false) := ⟨rfl, nofun, nofun, trivial⟩
  unfold openBrowser
  split
  · refine .bind (Asks.ofExcept _) fun address => .bind (.rescue ?_ fun e => ?_) ?_
    · exact .bind (.perform (hFetch _)) fun _ => Asks.ofExcept _
    · split <;> trivial
    · exact fun _ => .bind (Asks.ofExcept _) fun _ => .bind (.perform (hOpen _ _)) fun _ =>
        .bind (.perform hAdopt) fun _ => trivial
  · exact (Browser.launch_launches _).mono fun _ => launch_early

/-- The session has begun: the browser has been opened, the feed listens, and its printer runs. -/
structure Begun (contact : Contact σ) : Prop where
  sound : Sound contact
  line : contact.line = {}
  losses : contact.losses = []
  followed : contact.followed = true
  muted : contact.muted = false
  accepting : Accepting .running contact.estate.stage
  unclosed : contact.estate.stage.closing = none

variable {url : String} {commands : Option String} {settings : Settings}

/-- A session up to where its browser has been opened and its printer runs. -/
theorem begun_runs {result : Except Fault (List Outcome)} {s : σ} {clock : Double}
    (hRuns : Runs (Answers sink) (run url commands settings)
      { estate := { stage := { sink := s }, clock := clock } } trace result after)
    (hOpened : (⟨.followBrowser, .ok ()⟩ : Host.Exchange) ∈ trace) :
    ∃ browser opening rest begun, trace = opening ++ rest ∧
      browser.launched = !settings.cdpUrl.truthy ∧
      (∀ exchange ∈ opening, isParting exchange.1 = false) ∧ Begun begun ∧
      Runs (Answers sink) ((stay browser url commands settings).andFinally
        (browser.close.andFinally closeFeed)) begun rest result after := by
  -- Where the session ends before its browser has been opened, nobody follows it.
  have hEarly : ∀ {α : Type} {script : Script Host α} {contact after : Contact σ} {trace result},
      script.Asks IsEarly → Runs (Answers sink) script contact trace result after →
      (⟨.followBrowser, .ok ()⟩ : Host.Exchange) ∉ trace :=
    fun hAsks hRuns hMem => (hRuns.kinds hAsks _ hMem).2.1 rfl
  have hSounds : Sound ({ estate := { stage := { sink := s }, clock := clock } } : Contact σ) :=
    ⟨.start, rfl, rfl, fun _ => rfl⟩
  have hPrints : IsEarly (.print (.out, s!"Navigating to {url}...")) :=
    ⟨rfl, nofun, nofun, trivial⟩
  have hAsks : (Host.print .out s!"Navigating to {url}...").Asks IsEarly := .perform hPrints
  have hBrowser := openBrowser_early settings
  rcases Runs.bind hRuns with ⟨announcing, _, _, announced, rfl, hPrint, hRest⟩ | ⟨_, -, hPrint⟩
  · rcases Runs.bind hRest with ⟨opening, _, browser, opened, rfl, hOpen, hRest⟩ | ⟨_, -, hFails⟩
    · obtain ⟨_, _, _, rfl, hFollow, hStart⟩ := Runs.asked hRest
      obtain ⟨rfl, rfl⟩ := hFollow.followBrowser
      obtain ⟨_, _, rest, rfl, hStarted, hRest⟩ := Runs.asked hStart
      obtain ⟨rfl, rfl⟩ := hStarted.startPrinter
      obtain ⟨hLaunched, hLine⟩ := openBrowser_opens hOpen
      -- Until here the feed has been left to itself, and told of no loss.
      have hFirst : Accepting .absent ({ sink := s } : Stage σ) := ⟨rfl, rfl, [], rfl⟩
      have hAlone := (elsewhere_runs (hAsks.mono fun _ hOp => hOp.2.2.2) (runs_estate hPrint)).trans
        (elsewhere_runs (hBrowser.mono fun _ hOp => hOp.2.2.2) (runs_estate hOpen))
      have hSound := runs_sound hOpen (runs_sound hPrint hSounds)
      obtain ⟨hDeaf, hUnmuted⟩ := (runs_sameEars (hAsks.mono fun _ hOp => ⟨hOp.2.1, hOp.2.2.1⟩)
        hPrint).trans (runs_sameEars (hBrowser.mono fun _ hOp => ⟨hOp.2.1, hOp.2.2.1⟩) hOpen)
      refine ⟨browser, announcing ++ opening ++ [⟨.followBrowser, .ok ()⟩, ⟨.startPrinter, .ok ()⟩],
        rest, _, by simp, hLaunched, ?_, ⟨hStarted.sound (hFollow.sound hSound), hLine,
          hSound.informed.quiet hDeaf, rfl, hUnmuted, (hFirst.alone hAlone).start,
          hAlone.closing⟩, hRest⟩
      simp only [List.forall_mem_append]
      refine ⟨⟨fun exchange hMem => (hPrint.kinds hAsks exchange hMem).1,
        fun exchange hMem => (hOpen.kinds hBrowser exchange hMem).1⟩, ?_⟩
      simp [isParting, isQuit]
    · rcases List.mem_append.mp hOpened with hMem | hMem
      · exact absurd hMem (hEarly hAsks hPrint)
      · exact absurd hMem (hEarly hBrowser hFails)
  · exact absurd hOpened (hEarly hAsks hPrint)

/-! ## Hanging up unheard -/

/-- Nobody was heard to hang up. -/
def Unhung (contact : Contact σ) : Prop :=
  .hungUp ∉ contact.losses

theorem Unhung.hear (loss : Loss) (hUnhung : Unhung contact) (deliveries : List Delivery)
    (hUnheard : loss = .hungUp → contact.isHeard = false) :
    Unhung (contact.hear loss deliveries) := by
  intro hMem
  rw [hear_losses] at hMem
  rcases List.mem_append.mp hMem with hBefore | hNew
  · exact hUnhung hBefore
  · split at hNew
    · next hHeard =>
      obtain ⟨-, hLoss⟩ := List.mem_replicate.mp hNew
      cases hHeard.symm.trans (hUnheard hLoss.symm)
    · cases hNew

theorem Unhung.close (loss : Loss) (hUnhung : Unhung contact)
    (hUnheard : loss = .hungUp → contact.isHeard = false) : Unhung (contact.close loss) := by
  have hClosed : Unhung { contact with line := contact.line.close } := hUnhung
  exact hClosed.hear loss _ hUnheard

theorem Unhung.read (hUnhung : Unhung contact) (text : String) : Unhung (contact.read text) := by
  have hRead : Unhung { contact with line := contact.line.receive text } := hUnhung
  have hNamed := hRead.hear .named (contact.connection.dispatchText text).deliveries nofun
  exact hNamed.hear .baffled _ nofun

theorem Meanwhile.unhung (hMeanwhile : Meanwhile sink contact after) (hUnhung : Unhung contact) :
    Unhung after := by
  induction hMeanwhile with
  | refl => exact hUnhung
  | tail _ hLast ih =>
    cases hLast with
    | act | apart => exact ih
    | frame text => exact ih.read text
    | drop => exact ih.close .dropped nofun

/-- Whoever hangs up is not heard where the browser is muted. -/
theorem Answers.unhung {op : Host.Op} {answer : Except Fault (Host.Answer op)}
    (hAnswer : Answers sink contact op answer after) (hUnhung : Unhung contact)
    (hMuted : op = .hangUp → contact.muted = true) : Unhung after := by
  cases hAnswer with
  | opened _ _ hMeanwhile | notOpened _ _ _ hMeanwhile | sent _ _ _ _ _ hMeanwhile
  | senseless _ _ _ _ _ hMeanwhile | notHungUp hMeanwhile | waited _ hMeanwhile
  | abandoned hMeanwhile =>
    have hMid := Meanwhile.unhung hMeanwhile hUnhung
    exact hMid
  | hungUp _ hMeanwhile =>
    have hStill := (Meanwhile.sameEars hMeanwhile).2.trans (hMuted rfl)
    refine (Meanwhile.unhung hMeanwhile hUnhung).close .hungUp fun _ => ?_
    simp [isHeard, hStill]
  | _ => exact hUnhung

theorem runs_unhung {α : Type} {script : Script Host α} {result : Except Fault α}
    (hAsks : script.Asks (· ≠ Host.Op.hangUp))
    (hRuns : Runs (Answers sink) script contact trace result after) (hUnhung : Unhung contact) :
    Unhung after := by
  induction hRuns with
  | done => exact hUnhung
  | ask hAnswer _ ih => exact ih (hAsks.2 _) (hAnswer.unhung hUnhung fun hOp => absurd hOp hAsks.1)

/-- What closing the pages of a browser asks for. -/
def IsPaging : Host.Op → Prop
  | .keptPage _ | .send .. => True
  | _ => False

theorem closePages_pages : Browser.closePages.Asks IsPaging := by
  have hFrom : ∀ fuel number, (Browser.closePagesFrom fuel number).Asks IsPaging := by
    intro fuel
    induction fuel with
    | zero => exact fun _ => trivial
    | succ fuel ih =>
      intro number
      refine .bind (.perform trivial) fun page? => ?_
      cases page? with
      | none => trivial
      | some page =>
        refine .bind (.rescue (.bind (.perform trivial) fun _ => trivial) fun e => ?_)
          fun _ => ih (number + 1)
        split <;> trivial
  exact hFrom _ 0

/-- Where a browser is left that had been running before, nobody is heard to hang up. -/
theorem leave_unhung {result : Except Fault Unit}
    (hRuns : Runs (Answers sink) Browser.leave contact trace result after)
    (hUnhung : Unhung contact) : Unhung after := by
  have hPages : Browser.closePages.Asks (· ≠ Host.Op.hangUp) :=
    closePages_pages.mono fun _ hPaging hOp => by
      subst hOp
      exact hPaging
  rcases Runs.bind hRuns with ⟨_, _, _, closed, -, hClose, hRest⟩ | ⟨_, -, hClose⟩
  · have hClosed := runs_unhung hPages hClose hUnhung
    rcases Runs.bind hRest with ⟨_, _, _, muted, -, hMute, hHang⟩ | ⟨_, -, hMute⟩
    · have hMuted := (Runs.perform hMute).2
      refine (Runs.perform hHang).2.unhung (hMuted.unhung hClosed nofun) fun _ => ?_
      rw [hMuted.mute]
    · exact (Runs.perform hMute).2.unhung hClosed nofun
  · exact runs_unhung hPages hClose hUnhung

/-! ## What was told in the end -/

/-- What was printed of the loss of a browser that had been started: one line, and one more for
every frame that bore the name of the connection's end. Whoever lets go of the browser again begins
no command, sends no signal, and lets nothing be told or printed. -/
structure ToldOnce (sink : Sink σ) (contact : Contact σ) : Prop where
  printed : contact.estate.stage.handed.countP Event.isLoss = 1 + contact.losses.count .named
  still : ∀ later, Relation.ReflTransGen (GoesOn sink) contact later → Still contact later

/-- What was printed of the loss of a browser that had been running before: a line for every loss
that was told before the session hung up. At most one of them was an end of the connection. -/
structure ToldAtMostOnce (contact : Contact σ) : Prop where
  printed : contact.estate.stage.handed.countP Event.isLoss = contact.losses.length
  once : contact.losses.countP Loss.isEnd ≤ 1
  unhung : .hungUp ∉ contact.losses

/-- The parting comes first. -/
theorem close_parts {browser : Browser} {result : Except Fault Unit}
    (hRuns : Runs (Answers sink) (browser.close.andFinally closeFeed) contact trace result after) :
    parting trace = trace := by
  unfold Browser.close at hRuns
  split at hRuns
  · obtain ⟨answer, mid, rest, rfl, -⟩ := Runs.asked hRuns
    rfl
  · have hFirst : Browser.closePages = Browser.closePagesFrom (0xFFFFFFFF + 1) 0 := rfl
    unfold Browser.leave at hRuns
    rw [hFirst] at hRuns
    obtain ⟨answer, mid, rest, rfl, -⟩ := Runs.asked hRuns
    rfl

theorem parting_append {visit rest : List Host.Exchange}
    (hVisit : ∀ exchange ∈ visit, isParting exchange.1 = false) (hRest : parting rest = rest) :
    parting (visit ++ rest) = rest := by
  unfold parting
  rw [List.dropWhile_append_of_pos fun exchange hMem => by simp [hVisit exchange hMem]]
  exact hRest

/-- From where a session has begun, the feed is open until it is emptied. -/
theorem Accepting.runs {α : Type} {script : Script Host α} {result : Except Fault α}
    (hAccepting : Accepting .running contact.estate.stage)
    (hAsks : script.Asks IsElsewhere)
    (hRuns : Runs (Answers sink) script contact trace result after) :
    Accepting .running after.estate.stage ∧
      after.estate.stage.closing = contact.estate.stage.closing := by
  have hAlone := elsewhere_runs hAsks (runs_estate hRuns)
  exact ⟨hAccepting.alone hAlone, hAlone.closing⟩

/-- Letting go of a browser asks nothing of the feed, and opens nothing. -/
theorem close_asks (browser : Browser) :
    browser.close.Asks fun op => IsElsewhere op ∧ ¬ IsOpening op := by
  unfold Browser.close
  split
  · refine .andFinally (quit_further.mono fun op hFurther => ?_)
      (Browser.discard_ends.mono fun op hEnding => ⟨(ending_apart hEnding).2, ?_⟩)
    · exact ⟨(further_apart hFurther).1, (further_apart hFurther).2.1⟩
    · cases op <;> first | exact id | exact hEnding.elim
  · refine .bind (closePages_pages.mono fun op hPaging => ?_) fun _ =>
      .bind (.perform ⟨trivial, id⟩) fun _ => .perform ⟨trivial, id⟩
    cases op <;> first | exact ⟨trivial, id⟩ | exact hPaging.elim

/-- A loss that is told is an end, or a name. -/
theorem length_losses (losses : List Loss) :
    losses.length = losses.countP Loss.isEnd + losses.count .named := by
  induction losses with
  | nil => rfl
  | cons loss rest ih =>
    rw [List.length_cons, List.countP_cons, List.count_cons, ih]
    cases loss <;> simp [Loss.isEnd] <;> omega

/-- Everything that was told has been printed in the end. -/
theorem Sound.printed (hSound : Sound contact) (hDrained : Drained contact.estate.stage) :
    contact.estate.stage.handed.countP Event.isLoss = contact.losses.length := by
  have hTold : contact.estate.stage.told = contact.estate.stage.handed := by
    rw [Stage.told, Stage.queued, hDrained.queue]
    exact List.append_nil _
  rw [← hSound.informed.heard, ← hSound.informed.counted, hTold]

theorem stay_grows {browser : Browser} {begun visited : Contact σ}
    {result : Except Fault (List Outcome)} (hStay : Runs (Answers sink)
      (stay browser url commands settings) begun trace result visited) : Grows begun visited :=
  runs_grows ((stay_visits ..).mono fun _ hOp => (visit_early hOp).2) hStay

theorem closeFeed_grows {result : Except Fault Unit}
    (hRuns : Runs (Answers sink) closeFeed contact trace result after) : Grows contact after :=
  runs_grows (closeFeed_feeds.mono fun op hFeeds hOpening => by
    cases op <;> first | exact hOpening | exact hFeeds trivial) hRuns

variable {browser : Browser} {begun visited closed : Contact σ}
  {staying closing emptying : List Host.Exchange} {given : Except Fault (List Outcome)}
  {outcome last : Except Fault Unit}

/-- The end of a launched browser's connection is told while the feed listens, and nothing is left
of the browser then. -/
theorem Begun.launched (hBegun : Begun begun) (hBrowser : browser.launched = true)
    (hStay : Runs (Answers sink) (stay browser url commands settings) begun staying given visited)
    (hClose : Runs (Answers sink) browser.close visited closing outcome closed)
    (hEmpty : Runs (Answers sink) closeFeed closed emptying last after)
    (hHolds : Holds closing) (hDrained : Drained after.estate.stage) :
    after.losses.countP Loss.isEnd = 1 ∧ Gone after := by
  have hVisits := stay_visits browser url commands settings
  have hVisited := (Accepting.runs hBegun.accepting
    (hVisits.mono fun _ hOp => (visit_early hOp).1.2.2.2) hStay).1
  unfold Browser.close at hClose
  rw [if_pos hBrowser] at hClose
  obtain ⟨quitting, discarding, _, hung, _, rfl, hQuit, hDiscard, -⟩ := Runs.andFinally hClose
  have hHung := quit_closes (runs_sound hStay hBegun.sound) hQuit hHolds.append.1
  -- Until the session has hung up the feed listens, so it is told of the end.
  have hEars := (runs_sameEars (hVisits.mono fun _ hOp =>
    ⟨(visit_early hOp).1.2.1, (visit_early hOp).1.2.2.1⟩) hStay).trans
      (runs_sameEars (quit_further.mono fun _ hOp => (further_apart hOp).2.2) hQuit)
  have hListens := (Accepting.runs hVisited (quit_further.mono fun _ hOp => (further_apart hOp).1)
    hQuit).1
  have hOne := ((stay_grows hStay).trans (runs_grows (quit_further.mono fun _ hOp =>
    (further_apart hOp).2.1) hQuit)).all hBegun.followed (hEars.2.trans hBegun.muted)
      hListens.closed
  have hStart : begun.connection.losses = 0 := by
    rw [Contact.connection, hBegun.line]
    rfl
  have hEnd : hung.connection.losses = 1 := by
    rw [Connection.losses, hHung]
    rfl
  rw [hBegun.losses, hStart, hEnd, List.countP_nil] at hOne
  -- After that no end is told, as there is none.
  have hRest : Grows hung after := (runs_grows (Browser.discard_ends.mono fun op hEnding => by
    cases op <;> first | exact id | exact hEnding.elim) hDiscard).trans (closeFeed_grows hEmpty)
  have hFew := hRest.few
  have hMore : hung.losses.countP Loss.isEnd ≤ after.losses.countP Loss.isEnd :=
    hRest.losses.sublist.countP_le
  have hAtMost : after.connection.losses ≤ 1 := Bool.toNat_le _
  obtain ⟨-, -, time, -, hEnded, -⟩ := discard_runs (runs_estate hDiscard) hHolds.append.2
  have hStays := feeding_runs closeFeed_feeds (runs_estate hEmpty)
  exact ⟨by omega, hRest.closed hHung, hDrained, time, hStays.ended time hEnded⟩

/-- The end of another browser's connection is told at most once, and not where the session hung
up. -/
theorem Begun.attached (hBegun : Begun begun) (hBrowser : browser.launched = false)
    (hStay : Runs (Answers sink) (stay browser url commands settings) begun staying given visited)
    (hClose : Runs (Answers sink) browser.close visited closing outcome closed)
    (hEmpty : Runs (Answers sink) closeFeed closed emptying last after) :
    after.losses.countP Loss.isEnd ≤ 1 ∧ .hungUp ∉ after.losses := by
  have hVisits := stay_visits browser url commands settings
  have hFew := ((stay_grows hStay).trans ((runs_grows ((close_asks browser).mono fun _ hOp => hOp.2)
    hClose).trans (closeFeed_grows hEmpty))).few
  have hAtMost : after.connection.losses ≤ 1 := Bool.toNat_le _
  rw [hBegun.losses, List.countP_nil] at hFew
  refine ⟨by omega, ?_⟩
  unfold Browser.close at hClose
  rw [if_neg (by simp [hBrowser])] at hClose
  have hFirst : Unhung begun := by
    rw [Unhung, hBegun.losses]
    exact List.not_mem_nil
  have hVisited := runs_unhung (hVisits.mono fun _ hOp hHang => by
    subst hHang
    exact hOp) hStay hFirst
  exact runs_unhung (closeFeed_feeds.mono fun _ hFeeds hHang => by
    subst hHang
    exact hFeeds trivial) hEmpty (leave_unhung hClose hVisited)

/-! ## A frame that names the end -/

/-- A command that needs neither the connection nor the estate is answered where it stands. -/
theorem answers_plain {op : Host.Op} (answer : Except Fault (Host.Answer op)) (hPlain : IsPlain op)
    (hApart : ¬ IsChange op ∧ ¬ IsLine op) : Answers sink contact op answer contact :=
  .waited hApart .refl (.plain hPlain .refl answer)

/-! A session that starts its browser. The browser sends a frame under the name of the connection's
end, and then drops the socket before it has answered anything. -/

namespace NamedFrame

/-- The frame. -/
def frame : String :=
  "\x7b\"method\":\"disconnected\"\x7d"

def config : Settings :=
  { chromePath := .str "chromium" }

/-- A sink that takes everything. -/
def willing : Sink Unit :=
  ⟨fun _ s => (s, none), fun _ s => s, nofun⟩

def lost : Event :=
  ⟨.browserDisconnected, [.str "Browser was disconnected."], none⟩

/-- The browser is started and reached. -/
def launching : List Host.Exchange :=
  [⟨.makeProfile, .ok "profile"⟩,
    ⟨.spawn (["chromium", "--remote-debugging-port=0", "--user-data-dir=profile"] ++
      Browser.switches ++ ["--headless=new", "about:blank"]), .ok ()⟩,
    ⟨.now, .ok Double.zero⟩, ⟨.now, .ok Double.zero⟩, ⟨.exitCode, .ok none⟩,
    ⟨.portFile, .ok (some "9222\n/devtools\n".toUTF8)⟩,
    ⟨.openSocket "ws://127.0.0.1:9222/devtools" (.double 30), .ok ()⟩, ⟨.adopt true, .ok ()⟩]

/-- Its first command is never answered. -/
def visiting : List Host.Exchange :=
  [⟨.followBrowser, .ok ()⟩, ⟨.startPrinter, .ok ()⟩,
    ⟨.send .null "Target.createTarget" (.object [("url", .str "about:blank")]) .null,
      .error (.protocol "Target.createTarget: connection closed")⟩,
    ⟨.print (.err, "Failed to navigate to http://localhost: " ++
      "Target.createTarget: connection closed"), .ok ()⟩,
    ⟨.sleep config.gracePeriod, .ok ()⟩]

/-- The session lets go of it. -/
def leaving : List Host.Exchange :=
  [⟨.send .null "Browser.close" .null (.double 5),
      .error (.protocol "Browser.close: connection closed")⟩, ⟨.hangUp, .ok ()⟩,
    ⟨.exitCode, .ok none⟩, ⟨.terminate, .ok ()⟩, ⟨.awaitExit (.seconds 5), .ok ()⟩,
    ⟨.removeProfile, .ok ()⟩, ⟨.isFeedClosed, .ok false⟩,
    ⟨.awaitLineup, .ok ()⟩, ⟨.stopFeed, .ok true⟩, ⟨.awaitPrinter, .ok ()⟩]

/-- What the session holds while its feed listens. -/
def listening (events : List Event) (line : CallRun.Audience) (losses : List Loss) : Contact Unit :=
  ⟨⟨⟨⟨[], 0, events.map .event, .running, false⟩, (), [], losses.map fun _ => .disconnected,
    none⟩, .zero, .running, true, []⟩, line, true, true, false, losses⟩

/-- Its connection after the command was begun. -/
def line (answer : Option (Except Fault Value)) (closed : Bool) (heard : List CallRun.Notice)
    (told : List CallRun.Telling) : CallRun.Audience :=
  ⟨⟨⟨1, [⟨1, answer⟩], [], [], closed⟩, [⟨1, "Target.createTarget", none, .writing, heard⟩],
    [1], []⟩, told⟩

def named : CallRun.Telling :=
  ⟨.browser "disconnected" (.object []), true⟩

def gone : CallRun.Telling :=
  ⟨.browser "disconnected" .null, false⟩

/-- The connection when the command has failed. -/
def ended : CallRun.Audience :=
  ⟨⟨⟨1, [], [], [], true⟩, [], [1],
    [(⟨1, "Target.createTarget", none, .writing, [.frame frame, .lost]⟩,
      .error (.protocol "Target.createTarget: connection closed"))]⟩, [named, gone]⟩

/-- What the session holds once its feed is closed. -/
def clearing (queue : List FeedItem) (printer : Printer) (handed : List Event) : Contact Unit :=
  ⟨⟨⟨⟨[], 0, queue, printer, true⟩, (), handed, [.disconnected, .disconnected], none⟩, .zero,
    .ended .zero, false, [(.zero, false)]⟩, ended, true, true, false, [.named, .dropped]⟩

/-- The frame is heard like the end of the connection. -/
theorem read_frame : (listening [] (line none false [] []) []).read frame =
    listening [lost] (line none false [.frame frame] [named]) [.named] := by
  have hFrame : Connection.members? frame = some [("method", .str "disconnected")] := by
    unfold frame
    cbv
  unfold Contact.read farewell CallRun.Audience.receive CallRun.Stage.receive Contact.connection
  rw [Connection.dispatchText_some _ hFrame]
  rfl

/-- The command fails with the connection, which by then has been heard to end twice. -/
theorem sent : Answers willing (listening [] {} []) (.send .null "Target.createTarget"
    (.object [("url", .str "about:blank")]) .null)
    (.error (.protocol "Target.createTarget: connection closed"))
    (listening [lost, lost] ended [.named, .dropped]) := by
  have hNamed : Passes willing (listening [] (line none false [] []) []) _ := .frame frame rfl rfl
  rw [read_frame] at hNamed
  have hDropped : Passes willing
      (listening [lost] (line none false [.frame frame] [named]) [.named])
      (listening [lost, lost] (line (some Connection.gone) true [.frame frame, .lost]
        [named, gone]) [.named, .dropped]) := .drop rfl rfl
  have hFails : CallRun.Step (.fail 1 .socketClosed)
      (line (some Connection.gone) true [.frame frame, .lost] [named, gone]).stage ended.stage :=
    .fail .socketClosed (show (⟨1, "Target.createTarget", none, .writing,
      [.frame frame, .lost]⟩ : CallRun.Sender) ∈ _ from .head _) rfl
  have hFailed : Passes willing (listening [lost, lost] (line (some Connection.gone) true
      [.frame frame, .lost] [named, gone]) [.named, .dropped])
      (listening [lost, lost] ended [.named, .dropped]) := .act hFails (.inl rfl)
  exact .sent .null _ .null rfl (.begin rfl) (((Relation.ReflTransGen.single hNamed).tail
    hDropped).tail hFailed) (.head _)

/-- The printer prints both and ends. -/
theorem printed : Meanwhile willing (clearing [.event lost, .event lost, .stop] .running [])
    (clearing [] .ended [lost, lost]) := by
  have hFirst : Passes willing (clearing [.event lost, .event lost, .stop] .running [])
      (clearing [.event lost, .stop] .running [lost]) := .apart (.feed rfl .print) rfl
  have hSecond : Passes willing (clearing [.event lost, .stop] .running [lost])
      (clearing [.stop] .running [lost, lost]) := .apart (.feed rfl .print) rfl
  have hMark : Passes willing (clearing [.stop] .running [lost, lost])
      (clearing [] .ended [lost, lost]) := .apart (.feed rfl .print) rfl
  exact ((Relation.ReflTransGen.single hFirst).tail hSecond).tail hMark

theorem launched {x : Double} (hTime : Double.zero.lt (Double.zero + x) = true) :
    Runs (Answers willing)
      (Browser.launch { chromePath := config.chromePath, timeout := .double x })
      { estate := { stage := { sink := () }, clock := .zero } } launching (.ok ⟨true, .double 30⟩)
      ⟨⟨{ sink := () }, .zero, .running, true, []⟩, {}, true, false, false, []⟩ := by
  refine .ask (.changed trivial (.made _)) (.ask (.changed trivial (.spawned _)) ?_)
  refine .ask (answers_plain _ trivial ⟨id, id⟩) (.ask (answers_plain _ trivial ⟨id, id⟩) ?_)
  show Runs _ ((((if !Double.zero.lt (Double.zero + x) then _ else _ :
    Script Host String).bind _).rescue _).bind _) _ _ _ _
  rw [hTime]
  refine .ask (.waited ⟨id, id⟩ .refl (.running rfl)) (.ask (answers_plain _ trivial ⟨id, id⟩) ?_)
  exact .ask (.opened _ _ .refl) (.ask (.adopted true) .done)

theorem left : Runs (Answers willing) ((Browser.mk true (.double 30)).close.andFinally closeFeed)
    (listening [lost, lost] ended [.named, .dropped]) leaving (.ok ())
    (clearing [] .ended [lost, lost]) := by
  refine .ask (.refused _ _ _ rfl) (.ask (.hungUp _ .refl) ?_)
  refine .ask (.waited ⟨id, id⟩ .refl (.running rfl)) ?_
  refine .ask (.changed trivial (.asked fun _ hFault => by cases hFault)) ?_
  refine .ask (.waited ⟨id, id⟩ (.single (.apart (.exit rfl) rfl))
    (.exited _ (.single (.exit rfl)) rfl)) (.ask (.changed trivial .removed) ?_)
  refine .ask (.waited ⟨id, id⟩ .refl (.feed .refl (fun hSame => by cases hSame) rfl)) ?_
  refine .ask (.waited ⟨id, id⟩ .refl (.feed .refl (fun hSame => by cases hSame) rfl)) ?_
  refine .ask (.changed trivial (.feed .refl (fun _ => rfl) rfl)) ?_
  exact .ask (.waited ⟨id, id⟩ printed (.feed (Meanwhile.estate printed)
    (fun hSame => by cases hSame) rfl)) .done

/-- All that the session asks for, and what it gets. -/
def exchanges : List Host.Exchange :=
  [⟨.print (.out, "Navigating to http://localhost..."), .ok ()⟩] ++
    (launching ++ (visiting ++ (leaving ++ [])))

theorem ran : Runs (Answers willing) (run "http://localhost" none config)
    { estate := { stage := { sink := () }, clock := .zero } } exchanges (.ok [])
    (clearing [] .ended [lost, lost]) := by
  refine Runs.andThen (.ask (answers_plain _ trivial ⟨id, id⟩) .done) ?_
  refine Runs.andThen (launched (by decide +kernel)) ?_
  refine .ask .followed (.ask (.changed trivial .started) (.ask sent ?_))
  iterate 2 refine .ask (answers_plain _ trivial ⟨id, id⟩) ?_
  exact left.andThen .done

theorem holds : Holds (leaving ++ []) := by
  simp only [Holds, leaving, List.append_nil, List.mem_cons, Sigma.mk.injEq, not_or, not_and,
    List.not_mem_nil, not_false_eq_true, and_true]
  intro op
  and_intros <;> (rintro rfl; simp)

end NamedFrame

/-- **How often a session tells that its browser is lost.** A session that started its browser
prints one line about its end, whenever and however that came, unless the other side used the name
of that end for frames of its own: each of them is another line. Letting go again has no effect. A
session that did not start its browser prints a line for each such frame, and one more only if the
reader found the socket gone, or a frame that it could not understand, before the session hung
up. -/
theorem run_tells_loss {result : Except Fault (List Outcome)} {s : σ} {clock : Double}
    (hRuns : Runs (Answers sink) (run url commands settings)
      { estate := { stage := { sink := s }, clock := clock } } trace result after)
    (hOpened : (⟨.followBrowser, .ok ()⟩ : Host.Exchange) ∈ trace)
    (hHolds : Holds (parting trace)) :
    (settings.cdpUrl.truthy = false → ToldOnce sink after) ∧
      (settings.cdpUrl.truthy = true → ToldAtMostOnce after) := by
  obtain ⟨browser, opening, _, begun, rfl, hLaunched, hOpening, hBegun, hRest⟩ :=
    begun_runs hRuns hOpened
  obtain ⟨staying, leaving, _, visited, _, rfl, hStay, hLeave, -⟩ := Runs.andFinally hRest
  have hParts := close_parts hLeave
  obtain ⟨closing, emptying, _, closed, _, rfl, hClose, hEmpty, -⟩ := Runs.andFinally hLeave
  -- What is not called off is the parting.
  have hVisits := stay_visits browser url commands settings
  have hVisit : ∀ exchange ∈ opening ++ staying, isParting exchange.1 = false :=
    List.forall_mem_append.mpr
      ⟨hOpening, fun exchange hMem => (visit_early (hStay.kinds hVisits exchange hMem)).1.1⟩
  rw [← List.append_assoc, parting_append hVisit hParts] at hHolds
  obtain ⟨hCloses, hEmpties⟩ := hHolds.append
  -- The feed is open up to where it is emptied, and all that it was told is printed then.
  obtain ⟨hVisited, hSame⟩ := Accepting.runs hBegun.accepting
    (hVisits.mono fun _ hOp => (visit_early hOp).1.2.2.2) hStay
  obtain ⟨hOpen, hClosing⟩ := Accepting.runs hVisited
    ((close_asks browser).mono fun _ hOp => hOp.1) hClose
  obtain ⟨-, hDrained, -⟩ := closeFeed_runs (runs_estate hEmpty) hEmpties hOpen
    (hClosing.trans (hSame.trans hBegun.unclosed))
  have hSound := runs_sound hEmpty (runs_sound hClose (runs_sound hStay hBegun.sound))
  have hPrinted := hSound.printed hDrained
  refine ⟨fun hOwn => ?_, fun hOther => ?_⟩
  · rw [hOwn] at hLaunched
    obtain ⟨hOnce, hGone⟩ := hBegun.launched hLaunched hStay hClose hEmpty hCloses hDrained
    refine ⟨?_, fun later hGoesOn => hGone.goesOn hGoesOn⟩
    rw [hPrinted, length_losses, hOnce]
  · rw [hOther] at hLaunched
    obtain ⟨hAtMost, hUnhung⟩ := hBegun.attached hLaunched hStay hClose hEmpty
    exact ⟨hPrinted, hAtMost, hUnhung⟩

/-- A session whose browser sends a frame under the name of the connection's end, and then drops the
socket before it has answered anything. -/
theorem run_tells_loss_named_frame :
    ∃ (settings : Settings) (sink : Sink Unit) (trace : List Host.Exchange) (after : Contact Unit),
      settings.cdpUrl.truthy = false ∧
      Runs (Answers sink) (run "http://localhost" none settings)
        { estate := { stage := { sink := () }, clock := .zero } } trace (.ok []) after ∧
      (⟨.followBrowser, .ok ()⟩ : Host.Exchange) ∈ trace ∧ Holds (parting trace) ∧
      after.losses = [.named, .dropped] ∧ after.estate.stage.handed.countP Event.isLoss = 2 ∧
      ToldOnce sink after := by
  have hOpened : (⟨.followBrowser, .ok ()⟩ : Host.Exchange) ∈ NamedFrame.exchanges :=
    List.mem_append_right _ (List.mem_append_right _ (.head _))
  exact ⟨NamedFrame.config, NamedFrame.willing, NamedFrame.exchanges, _, rfl, NamedFrame.ran,
    hOpened, NamedFrame.holds, rfl, rfl,
    (run_tells_loss NamedFrame.ran hOpened NamedFrame.holds).1 rfl⟩

end Contact

end Session

end PageReporter
