import PageReporter.Proofs.ConnectionEnd
import PageReporter.Proofs.FeedLosses
import PageReporter.Proofs.LettingGo

/-!
# Sessions in contact with their browser

What a session holds, together with its connection. While the reader reads, the other side may send
any frame, and the socket may go at any time; the end of the connection is told to the feed, unless
the browser has been muted. A frame that bears the name under which that end is told is passed on
under its name, so the feed takes it for the end as well.

* `Session.Contact` — what a session holds, and its connection;
* `Session.Contact.read`, `Session.Contact.close` — a frame is read; the connection closes;
* `Session.Contact.Passes`, `Session.Contact.Answers` — what goes on by itself, and what the
  questions of a session are answered;
* `Session.Contact.Answers.estate` — all of it is what happens to what the session holds;
* `Session.Contact.Answers.sound`, `Session.Contact.Answers.grows` — what every answer keeps;
* `Session.Contact.Rests` — what is left alone once everything has ended.

Only `Contact.losses` is a history that nothing looks at.
-/

namespace PageReporter

namespace Session

open Script (Runs Asks Answered)
open FeedRun (Stage Step Steps Act Alone Accepting Emptying)

/-! ## What a session is in contact with -/

/-- How the loss of a browser came to be told. -/
inductive Loss
  /-- A frame bore the name under which a connection tells its end. -/
  | named
  /-- The reader ended at a frame that it could not understand. -/
  | baffled
  /-- The reader found that the socket was gone. -/
  | dropped
  /-- Whoever hung up closed the connection. -/
  | hungUp
deriving DecidableEq

/-- Whether the connection had ended. -/
def Loss.isEnd : Loss → Bool
  | .named => false
  | .baffled | .dropped | .hungUp => true

/-- What a session holds, its connection with all who share it, and who listens to its end. -/
structure Contact (σ : Type) where
  estate : Estate σ
  line : CallRun.Audience := {}
  /-- Whether the socket has been opened, and what comes in is read. -/
  opened : Bool := false
  /-- Whether the feed follows the browser. -/
  followed : Bool := false
  muted : Bool := false
  /-- The losses that were told to an open feed, in order. -/
  losses : List Loss := []

variable {σ : Type} {sink : Sink σ}

/-- Nothing happens any more to a feed in which nothing is left. -/
theorem Drained.step {stage after : Stage σ} {act : Act} (hDrained : Drained stage)
    (hStep : Step sink act stage after) (hAlone : act.isAlone = true) :
    Drained after ∧ after.handed = stage.handed := by
  cases hStep with
  | arrive arrival =>
    rw [Stage.arrive_closed hDrained.closed]
    exact ⟨hDrained, rfl⟩
  | settle result hAwaited =>
    obtain ⟨ticket, hMem, -⟩ := hAwaited
    rw [hDrained.lineup] at hMem
    cases hMem
  | release =>
    rw [Stage.release_waiting (by simp [hDrained.lineup])]
    exact ⟨hDrained, rfl⟩
  | print =>
    rw [Stage.print_idle (.inl hDrained.queue)]
    exact ⟨hDrained, rfl⟩
  | start | close | resume => cases hAlone

namespace Contact

variable {contact after : Contact σ}

/-- The state of the connection. -/
def connection (contact : Contact σ) : Connection :=
  contact.line.stage.connection

/-- The browser tells its followers that it is lost, unless it is muted. -/
def tell (loss : Loss) (contact : Contact σ) : Contact σ :=
  if contact.followed && !contact.muted then
    { contact with
      estate := { contact.estate with stage := contact.estate.stage.arrive .disconnected }
      losses :=
        if contact.estate.stage.feed.closed then contact.losses else contact.losses ++ [loss] }
  else contact

/-- The browser hears what the connection tells, and listens for one name. -/
def hear (loss : Loss) : List Delivery → Contact σ → Contact σ
  | [], contact => contact
  | delivery :: rest, contact =>
    hear loss rest (if delivery.isLoss then contact.tell loss else contact)

/-- The connection closes, if it is open. -/
def close (loss : Loss) (contact : Contact σ) : Contact σ :=
  { contact with line := contact.line.close }.hear loss contact.connection.close.2.2

/-- What a connection tells of its end because of a frame. -/
def farewell (c : Connection) (text : String) : List Delivery :=
  match (c.dispatchText text).fault with
  | none => []
  | some _ => (c.dispatchText text).connection.close.2.2

/-- A frame is read. One that cannot be understood is the end of the connection. -/
def read (text : String) (contact : Contact σ) : Contact σ :=
  let received := { contact with line := contact.line.receive text }
  (received.hear .named (contact.connection.dispatchText text).deliveries).hear .baffled
    (farewell contact.connection text)

/-! ## What goes on by itself -/

/-- One thing that goes on by itself: those who share the connection act, the reader reads a frame
or finds that the socket is gone, or something happens that has nothing to do with either. -/
inductive Passes (sink : Sink σ) : Contact σ → Contact σ → Prop
  | act {contact : Contact σ} {act : CallRun.Act} {stage : CallRun.Stage}
      (hStep : CallRun.Step act contact.line.stage stage) (hOwn : act.IsOwn) :
      Passes sink contact { contact with line := { contact.line with stage := stage } }
  | frame {contact : Contact σ} (text : String) (hOpened : contact.opened = true)
      (hOpen : contact.connection.closed = false) : Passes sink contact (contact.read text)
  | drop {contact : Contact σ} (hOpened : contact.opened = true)
      (hOpen : contact.connection.closed = false) : Passes sink contact (contact.close .dropped)
  | apart {contact : Contact σ} {estate : Estate σ}
      (hPasses : Session.Passes sink contact.estate estate)
      (hOthers : estate.stage.fired.countP Arrival.isLoss =
        contact.estate.stage.fired.countP Arrival.isLoss) :
      Passes sink contact { contact with estate := estate }

/-- What goes on by itself while a question is not answered yet. -/
abbrev Meanwhile (sink : Sink σ) : Contact σ → Contact σ → Prop :=
  Relation.ReflTransGen (Passes sink)

/-! ## What questions are answered -/

/-- A question that changes at once what a session holds. -/
def IsChange : Host.Op → Prop
  | .makeProfile | .removeProfile | .spawn _ | .terminate | .kill => True
  | .startPrinter | .stopFeed => True
  | _ => False

/-- A question that has to do with the connection. -/
def IsLine : Host.Op → Prop
  | .openSocket .. | .adopt _ | .followBrowser | .send .. | .register .. | .mute | .hangUp => True
  | _ => False

/-- What a question of a session in contact is answered. A command is refused by a connection that
has closed; otherwise it begins, and its sender ends as senders do, unless the limit makes no sense.
Whoever hangs up leaves a connection that has closed, with whatever the reader ended, unless that is
called off. All other questions are answered as those of a session are. -/
inductive Answers (sink : Sink σ) :
    Contact σ → (op : Host.Op) → Except Fault (Host.Answer op) → Contact σ → Prop
  | opened {contact mid : Contact σ} (address : String) (limit : Value)
      (hMeanwhile : Meanwhile sink contact mid) :
      Answers sink contact (.openSocket address limit) (.ok ())
        { mid with line := {}, opened := true }
  | notOpened {contact after : Contact σ} (address : String) (limit : Value) (e : Fault)
      (hMeanwhile : Meanwhile sink contact after) :
      Answers sink contact (.openSocket address limit) (.error e) after
  | adopted {contact : Contact σ} (launched : Bool) :
      Answers sink contact (.adopt launched) (.ok ()) contact
  | followed {contact : Contact σ} :
      Answers sink contact .followBrowser (.ok ()) { contact with followed := true }
  | refused {contact : Contact σ} {method : String} {e : Fault} (key params limit : Value)
      (hRefused : contact.connection.begin method = .error e) :
      Answers sink contact (.send key method params limit) (.error e) contact
  | sent {contact after : Contact σ} {stage : CallRun.Stage} {method : String}
      {bound : Option Double} {connection : Connection} {sender : CallRun.Sender}
      {answer : Except Fault Value} (key params limit : Value)
      (hNumber : contact.connection.begin method = .ok (sender.number, connection))
      (hBegin : CallRun.Step (.begin method bound) contact.line.stage stage)
      (hMeanwhile : Meanwhile sink { contact with line := { contact.line with stage := stage } }
        after)
      (hEnded : (sender, answer) ∈ after.line.stage.ended) :
      Answers sink contact (.send key method params limit) answer after
  | senseless {contact after : Contact σ} {limit : Value} (key : Value) (method : String)
      (params : Value) (e : Fault)
      (hLimit : limit = .null ∨ ∃ e, Limit.ofValue limit = .error e)
      (hMeanwhile : Meanwhile sink contact after) :
      Answers sink contact (.send key method params limit) (.error e) after
  | registered {contact : Contact σ} {key target : Value} {number : Nat} {connection : Connection}
      (hRegister : contact.connection.register key target = .ok (number, connection)) :
      Answers sink contact (.register key target) (.ok number)
        { contact with line.stage.connection := connection }
  | notRegistered {contact : Contact σ} {key target : Value} {e : Fault}
      (hRegister : contact.connection.register key target = .error e) :
      Answers sink contact (.register key target) (.error e) contact
  | muted {contact : Contact σ} : Answers sink contact .mute (.ok ()) { contact with muted := true }
  | hungUp {contact mid : Contact σ} (answer : Except Fault Unit)
      (hMeanwhile : Meanwhile sink contact mid) :
      Answers sink contact .hangUp answer (mid.close .hungUp)
  | notHungUp {contact after : Contact σ} (hMeanwhile : Meanwhile sink contact after) :
      Answers sink contact .hangUp (.error .cancelled) after
  | changed {contact : Contact σ} {op : Host.Op} {answer : Except Fault (Host.Answer op)}
      {estate : Estate σ} (hChange : IsChange op)
      (hAnswer : Session.Answers sink contact.estate op answer estate) :
      Answers sink contact op answer { contact with estate := estate }
  | waited {contact after : Contact σ} {op : Host.Op} {answer : Except Fault (Host.Answer op)}
      (hApart : ¬ IsChange op ∧ ¬ IsLine op) (hMeanwhile : Meanwhile sink contact after)
      (hAnswer : Session.Answers sink contact.estate op answer after.estate) :
      Answers sink contact op answer after
  | abandoned {contact after : Contact σ} (hMeanwhile : Meanwhile sink contact after) :
      Answers sink contact .awaitPrinter (.error .cancelled)
        { after with estate.stage.feed := after.estate.stage.feed.abandon }

/-! ## The part of it that a session holds -/

/-- What hearing about the connection leaves as it is. -/
structure Alike (contact after : Contact σ) : Prop where
  line : after.line = contact.line
  opened : after.opened = contact.opened
  followed : after.followed = contact.followed
  muted : after.muted = contact.muted
  closed : after.estate.stage.feed.closed = contact.estate.stage.feed.closed

theorem Alike.refl (contact : Contact σ) : Alike contact contact :=
  ⟨rfl, rfl, rfl, rfl, rfl⟩

theorem Alike.trans {mid : Contact σ} (hFirst : Alike contact mid) (hSecond : Alike mid after) :
    Alike contact after :=
  ⟨hSecond.line.trans hFirst.line, hSecond.opened.trans hFirst.opened,
    hSecond.followed.trans hFirst.followed, hSecond.muted.trans hFirst.muted,
    hSecond.closed.trans hFirst.closed⟩

theorem tell_alike (loss : Loss) (contact : Contact σ) : Alike contact (contact.tell loss) := by
  unfold tell
  split
  · exact ⟨rfl, rfl, rfl, rfl, Stage.arrive_sameClosed _ _⟩
  · exact .refl contact

theorem hear_alike (loss : Loss) (deliveries : List Delivery) (contact : Contact σ) :
    Alike contact (contact.hear loss deliveries) := by
  induction deliveries generalizing contact with
  | nil => exact .refl contact
  | cons delivery rest ih =>
    refine .trans ?_ (ih _)
    split
    · exact tell_alike loss contact
    · exact .refl contact

/-- A loss that is told arrives at the feed. -/
theorem tell_estate (loss : Loss) (contact : Contact σ) :
    Session.Meanwhile sink contact.estate (contact.tell loss).estate := by
  unfold tell
  split
  · exact .single (.feed rfl (.arrive .disconnected))
  · exact .refl

theorem hear_estate (loss : Loss) (deliveries : List Delivery) (contact : Contact σ) :
    Session.Meanwhile sink contact.estate (contact.hear loss deliveries).estate := by
  induction deliveries generalizing contact with
  | nil => exact .refl
  | cons delivery rest ih =>
    refine Relation.ReflTransGen.trans ?_ (ih _)
    split
    · exact tell_estate loss contact
    · exact .refl

theorem close_estate (loss : Loss) (contact : Contact σ) :
    Session.Meanwhile sink contact.estate (contact.close loss).estate :=
  hear_estate loss _ { contact with line := contact.line.close }

theorem read_estate (text : String) (contact : Contact σ) :
    Session.Meanwhile sink contact.estate (contact.read text).estate :=
  (hear_estate .named _ { contact with line := contact.line.receive text }).trans (hear_estate ..)

/-- What goes on in a session in contact goes on in the session. -/
theorem Passes.estate (hPasses : Passes sink contact after) :
    Session.Meanwhile sink contact.estate after.estate := by
  cases hPasses with
  | act => exact .refl
  | frame text => exact read_estate text contact
  | drop => exact close_estate .dropped contact
  | apart hPasses => exact .single hPasses

theorem Meanwhile.estate (hMeanwhile : Meanwhile sink contact after) :
    Session.Meanwhile sink contact.estate after.estate := by
  induction hMeanwhile with
  | refl => exact .refl
  | tail _ hLast ih => exact ih.trans hLast.estate

/-- What a question of a session in contact is answered, a question of the session is. -/
theorem Answers.estate {op : Host.Op} {answer : Except Fault (Host.Answer op)}
    (hAnswer : Answers sink contact op answer after) :
    Session.Answers sink contact.estate op answer after.estate := by
  cases hAnswer with
  | opened _ _ hMeanwhile => exact .plain (by trivial) (Meanwhile.estate hMeanwhile) _
  | notOpened _ _ e hMeanwhile => exact .plain (by trivial) (Meanwhile.estate hMeanwhile) _
  | adopted launched => exact .adopted launched
  | followed => exact .followed
  | refused => exact .plain (by trivial) .refl _
  | sent _ _ _ _ _ hMeanwhile => exact .plain (by trivial) (Meanwhile.estate hMeanwhile) _
  | senseless _ _ _ e _ hMeanwhile => exact .plain (by trivial) (Meanwhile.estate hMeanwhile) _
  | registered => exact .plain (by trivial) .refl _
  | notRegistered => exact .plain (by trivial) .refl _
  | muted => exact .plain (by trivial) .refl _
  | hungUp _ hMeanwhile =>
    exact .plain (by trivial) ((Meanwhile.estate hMeanwhile).trans (close_estate ..)) _
  | notHungUp hMeanwhile => exact .plain (by trivial) (Meanwhile.estate hMeanwhile) _
  | changed _ hAnswer => exact hAnswer
  | waited _ _ hAnswer => exact hAnswer
  | abandoned hMeanwhile => exact .abandoned (Meanwhile.estate hMeanwhile)

/-! ## What is kept -/

/-- What the feed knows: it was told every loss while it listened. -/
structure Informed (contact : Contact σ) : Prop where
  counted : contact.estate.stage.Counted
  heard : contact.estate.stage.fired.countP Arrival.isLoss = contact.losses.length
  /-- Before it listened it was told of none. -/
  quiet : contact.followed = false → contact.losses = []

theorem Informed.tell (hInformed : Informed contact) (loss : Loss) :
    Informed (contact.tell loss) := by
  unfold Contact.tell
  split
  · next hHeard =>
    refine ⟨hInformed.counted.arrive _, ?_, fun hQuiet => ?_⟩
    · dsimp only
      split
      · next hClosed =>
        rw [Stage.arrive_closed hClosed]
        exact hInformed.heard
      · next hOpen =>
        rw [List.length_append, ← hInformed.heard]
        show (if _ then _ else _ : List Arrival).countP _ = _
        rw [if_neg hOpen, List.countP_append]
        rfl
    · rw [show contact.followed = false from hQuiet] at hHeard
      cases hHeard
  · exact hInformed

theorem Informed.hear (hInformed : Informed contact) (loss : Loss) (deliveries : List Delivery) :
    Informed (contact.hear loss deliveries) := by
  induction deliveries generalizing contact with
  | nil => exact hInformed
  | cons delivery rest ih =>
    refine ih ?_
    split
    · exact hInformed.tell loss
    · exact hInformed

/-- What the connection is keeps to its laws, and the feed knows of every loss. -/
structure Sound (contact : Contact σ) : Prop where
  settled : CallRun.Settled contact.line
  informed : Informed contact

/-- A change of the connection that the feed is not told. -/
theorem Sound.withLine (hSound : Sound contact) {line : CallRun.Audience}
    (hSettled : CallRun.Settled line) : Sound { contact with line := line } :=
  ⟨hSettled, hSound.informed.counted, hSound.informed.heard, hSound.informed.quiet⟩

theorem Sound.hear (hSound : Sound contact) (loss : Loss) (deliveries : List Delivery) :
    Sound (contact.hear loss deliveries) :=
  ⟨(hear_alike loss deliveries contact).line ▸ hSound.settled, hSound.informed.hear loss deliveries⟩

theorem Sound.close (hSound : Sound contact) (loss : Loss) : Sound (contact.close loss) :=
  (hSound.withLine hSound.settled.close).hear loss _

theorem Sound.read (hSound : Sound contact) (text : String) : Sound (contact.read text) :=
  ((hSound.withLine (hSound.settled.receive text)).hear .named _).hear .baffled _

/-- A change of what a session holds in which the feed is not told of any loss. -/
theorem Sound.withEstate (hSound : Sound contact) {estate : Estate σ}
    (hCounted : estate.stage.Counted) (hFired : estate.stage.fired.countP Arrival.isLoss =
      contact.estate.stage.fired.countP Arrival.isLoss) : Sound { contact with estate := estate } :=
  ⟨hSound.settled, hCounted, hFired.trans hSound.informed.heard, hSound.informed.quiet⟩

theorem Passes.sound (hPasses : Passes sink contact after) (hSound : Sound contact) :
    Sound after := by
  cases hPasses with
  | act hStep hOwn => exact hSound.withLine (hSound.settled.act hOwn hStep)
  | frame text => exact hSound.read text
  | drop => exact hSound.close .dropped
  | apart hPasses hOthers =>
    refine hSound.withEstate ?_ hOthers
    cases hPasses with
    | feed hAlone hStep => exact hSound.informed.counted.step hStep hAlone
    | time | exit => exact hSound.informed.counted

theorem Meanwhile.sound (hMeanwhile : Meanwhile sink contact after) (hSound : Sound contact) :
    Sound after := by
  induction hMeanwhile with
  | refl => exact hSound
  | tail _ hLast ih => exact hLast.sound ih

/-- A question that changes at once what a session holds leaves its feed as it is, or starts the
printer, or closes the feed. -/
theorem change_cases {estate later : Estate σ} {op : Host.Op}
    {answer : Except Fault (Host.Answer op)} (hChange : IsChange op)
    (hAnswer : Session.Answers sink estate op answer later) :
    later.stage = estate.stage ∨
      later.stage = { estate.stage with feed := estate.stage.feed.start } ∨
      ∃ printer, estate.stage.answer sink .stopFeed = some (later.stage, printer) := by
  cases hAnswer with
  | plain hPlain => cases op <;> first | exact hPlain.elim | exact hChange.elim
  | started => exact .inr (.inl rfl)
  | feed _ hAtOnce hAnswered =>
    cases op with
    | stopFeed =>
      obtain rfl := hAtOnce rfl
      exact .inr (.inr ⟨_, hAnswered⟩)
    | _ => first | exact hChange.elim | cases hAnswered
  | calledOff hWaits => rcases hWaits with ⟨_, rfl⟩ | rfl <;> exact hChange.elim
  | running | ended | exited | late | adopted | followed | abandoned => exact hChange.elim
  | _ => exact .inl rfl

/-- **What every answer keeps.** -/
theorem Answers.sound {op : Host.Op} {answer : Except Fault (Host.Answer op)}
    (hAnswer : Answers sink contact op answer after) (hSound : Sound contact) : Sound after := by
  cases hAnswer with
  | opened _ _ hMeanwhile =>
    have hMid := Meanwhile.sound hMeanwhile hSound
    exact ⟨.start, hMid.informed.counted, hMid.informed.heard, hMid.informed.quiet⟩
  | notOpened _ _ _ hMeanwhile => exact Meanwhile.sound hMeanwhile hSound
  | followed => exact ⟨hSound.settled, hSound.informed.counted, hSound.informed.heard, nofun⟩
  | adopted | refused => exact hSound
  | sent _ _ _ _ hBegin hMeanwhile =>
    exact Meanwhile.sound hMeanwhile (hSound.withLine (hSound.settled.act (by trivial) hBegin))
  | senseless _ _ _ _ _ hMeanwhile => exact Meanwhile.sound hMeanwhile hSound
  | registered hRegister =>
    exact hSound.withLine (hSound.settled.act (by trivial) (.register hRegister))
  | notRegistered => exact hSound
  | muted =>
    exact ⟨hSound.settled, hSound.informed.counted, hSound.informed.heard, hSound.informed.quiet⟩
  | hungUp _ hMeanwhile => exact (Meanwhile.sound hMeanwhile hSound).close .hungUp
  | notHungUp hMeanwhile => exact Meanwhile.sound hMeanwhile hSound
  | changed hChange hAnswer =>
    rcases change_cases hChange hAnswer with hSame | hStarted | ⟨_, hStopped⟩
    · exact hSound.withEstate (hSame ▸ hSound.informed.counted) (by rw [hSame])
    · refine hSound.withEstate ?_ (by rw [hStarted])
      rw [hStarted]
      refine hSound.informed.counted.same ?_ rfl
      unfold Feed.start
      split <;> rfl
    · exact hSound.withEstate (hSound.informed.counted.stop hStopped)
        (by rw [Stage.stop_fired hStopped])
  | waited _ hMeanwhile => exact Meanwhile.sound hMeanwhile hSound
  | abandoned hMeanwhile =>
    exact (Meanwhile.sound hMeanwhile hSound).withEstate
      ((Meanwhile.sound hMeanwhile hSound).informed.counted.same rfl rfl) rfl

/-! ## Ends and what is told of them -/

/-- Whether an open feed is told what the browser hears. -/
def isHeard (contact : Contact σ) : Bool :=
  contact.followed && !contact.muted && !contact.estate.stage.feed.closed

theorem Alike.isHeard (hAlike : Alike contact after) : after.isHeard = contact.isHeard := by
  rw [Contact.isHeard, hAlike.followed, hAlike.muted, hAlike.closed, Contact.isHeard]

theorem tell_losses (loss : Loss) (contact : Contact σ) :
    (contact.tell loss).losses = contact.losses ++ if contact.isHeard then [loss] else [] := by
  unfold tell isHeard
  cases contact.followed && !contact.muted with
  | false => simp
  | true => cases contact.estate.stage.feed.closed <;> simp

theorem hear_losses (loss : Loss) (deliveries : List Delivery) (contact : Contact σ) :
    (contact.hear loss deliveries).losses = contact.losses ++
      if contact.isHeard then List.replicate (deliveries.countP (·.isLoss)) loss else [] := by
  induction deliveries generalizing contact with
  | nil => simp [hear]
  | cons delivery rest ih =>
    unfold hear
    rw [ih]
    cases hLoss : delivery.isLoss with
    | false => simp [hLoss]
    | true =>
      rw [if_pos rfl, (tell_alike loss contact).isHeard, tell_losses, List.append_assoc]
      cases contact.isHeard <;> simp [hLoss, List.replicate_succ]

/-- Losses are told one after the other, and no end is told that the connection has not come to;
every one is told while the feed listens. -/
structure Grows (contact after : Contact σ) : Prop where
  losses : contact.losses <+: after.losses
  followed : contact.followed = true → after.followed = true
  muted : contact.muted = true → after.muted = true
  closed : contact.connection.closed = true → after.connection.closed = true
  feed : contact.estate.stage.feed.closed = true → after.estate.stage.feed.closed = true
  few : after.losses.countP Loss.isEnd + contact.connection.losses ≤
    contact.losses.countP Loss.isEnd + after.connection.losses
  all : contact.followed = true → after.muted = false → after.estate.stage.feed.closed = false →
    after.losses.countP Loss.isEnd + contact.connection.losses =
      contact.losses.countP Loss.isEnd + after.connection.losses

theorem Grows.refl (contact : Contact σ) : Grows contact contact :=
  ⟨List.prefix_refl _, id, id, id, id, Nat.le_refl _, fun _ _ _ => rfl⟩

theorem Grows.trans {mid : Contact σ} (hFirst : Grows contact mid) (hSecond : Grows mid after) :
    Grows contact after := by
  refine ⟨hFirst.losses.trans hSecond.losses, hSecond.followed ∘ hFirst.followed,
    hSecond.muted ∘ hFirst.muted, hSecond.closed ∘ hFirst.closed, hSecond.feed ∘ hFirst.feed,
    ?_, ?_⟩
  · have := hFirst.few
    have := hSecond.few
    omega
  · intro hFollowed hUnmuted hOpen
    -- Who is not muted at the end has not been before, and a feed that is open was open.
    have hMid : mid.muted = false := by
      cases hMuted : mid.muted with
      | false => rfl
      | true => cases (hSecond.muted hMuted).symm.trans hUnmuted
    have hFeed : mid.estate.stage.feed.closed = false := by
      cases hClosed : mid.estate.stage.feed.closed with
      | false => rfl
      | true => cases (hSecond.feed hClosed).symm.trans hOpen
    have := hFirst.all hFollowed hMid hFeed
    have := hSecond.all (hFirst.followed hFollowed) hUnmuted hOpen
    omega

/-- A change in which no loss is told, and the connection neither closes nor is another. -/
theorem Grows.same (hLosses : after.losses = contact.losses)
    (hClosed : after.connection.closed = contact.connection.closed)
    (hFollowed : contact.followed = true → after.followed = true)
    (hMuted : contact.muted = true → after.muted = true)
    (hFeed : contact.estate.stage.feed.closed = true → after.estate.stage.feed.closed = true) :
    Grows contact after := by
  have hSame : after.connection.losses = contact.connection.losses := by
    rw [Connection.losses, hClosed, Connection.losses]
  refine ⟨hLosses ▸ List.prefix_refl _, hFollowed, hMuted, hClosed.trans, hFeed, ?_,
    fun _ _ _ => ?_⟩
  · rw [hLosses, hSame]
  · rw [hLosses, hSame]

/-- A change in which losses are told: as many of them are ends as the connection comes to. -/
theorem Grows.told {news : List Loss} (ends : Nat)
    (hAlike : Alike { contact with line := after.line } after)
    (hLosses : after.losses = contact.losses ++ news)
    (hNews : news.countP Loss.isEnd = if contact.isHeard then ends else 0)
    (hEnds : contact.connection.losses + ends = after.connection.losses) : Grows contact after := by
  refine ⟨hLosses ▸ List.prefix_append _ _, hAlike.followed.trans, hAlike.muted.trans, ?_,
    hAlike.closed.trans, ?_, ?_⟩
  · intro hClosed
    rw [Connection.losses, hClosed] at hEnds
    have := Bool.toNat_le after.connection.closed
    rw [← Bool.toNat_eq_one]
    simp only [Connection.losses, Bool.toNat_true] at hEnds
    omega
  · rw [hLosses, List.countP_append, hNews]
    split <;> omega
  · intro hFollowed hUnmuted hOpen
    have hHeard : contact.isHeard = true := by
      refine hAlike.isHeard.symm.trans ?_
      rw [isHeard, hUnmuted, hOpen, hAlike.followed.trans hFollowed]
      rfl
    rw [hLosses, List.countP_append, hNews, if_pos hHeard]
    omega

/-- When a connection closes, it tells its end as often as it comes to it. -/
theorem losses_closed (c : Connection) :
    c.losses + c.close.2.2.countP (·.isLoss) = c.close.1.losses := by
  rw [← CallRun.losses_close, show (CallRun.own _).countP CallRun.Telling.isLoss = _ from
    CallRun.countP_own Delivery.isLoss _]

theorem close_connection (loss : Loss) (contact : Contact σ) :
    (contact.close loss).connection = contact.connection.close.1 := by
  unfold connection close
  rw [(hear_alike ..).line]
  exact contact.line.close_connection

/-- The connection closes: the feed is told, if it listens, where the connection was open. -/
theorem close_grows {loss : Loss} (hEnd : loss.isEnd = true) (contact : Contact σ) :
    Grows contact (contact.close loss) := by
  have hAlike := hear_alike loss contact.connection.close.2.2
    { contact with line := contact.line.close }
  refine .told (contact.connection.close.2.2.countP (·.isLoss))
    ⟨rfl, hAlike.opened, hAlike.followed, hAlike.muted, hAlike.closed⟩
    (hear_losses loss _ _) ?_ ((losses_closed _).trans (by rw [close_connection]))
  show List.countP _ (if contact.isHeard then _ else _) = _
  cases contact.isHeard with
  | false => rfl
  | true => simp [List.countP_replicate, hEnd]

theorem losses_received (line : CallRun.Audience) (text : String) :
    line.stage.connection.losses + (farewell line.stage.connection text).countP (·.isLoss) =
      (line.receive text).stage.connection.losses := by
  have hSame : line.stage.connection.losses =
      (line.stage.connection.dispatchText text).connection.losses := by
    rw [Connection.losses, Connection.losses, (Connection.dispatchText_same _ text).2]
  unfold farewell
  rw [hSame, line.receive_connection text]
  cases (line.stage.connection.dispatchText text).fault with
  | none => rfl
  | some e => exact losses_closed _

/-- A frame is read: the feed is told of an end only if the reader cannot understand it. -/
theorem read_grows (text : String) (contact : Contact σ) : Grows contact (contact.read text) := by
  let received : Contact σ := { contact with line := contact.line.receive text }
  let deliveries := (contact.connection.dispatchText text).deliveries
  have hNamed := hear_alike .named deliveries received
  have hBoth := hNamed.trans (hear_alike .baffled (farewell contact.connection text) _)
  have hConnection :
      (contact.read text).connection = (contact.line.receive text).stage.connection :=
    congrArg (·.stage.connection) hBoth.line
  have hLosses : (contact.read text).losses = contact.losses ++ if contact.isHeard then
      List.replicate (deliveries.countP (·.isLoss)) .named ++
        List.replicate ((farewell contact.connection text).countP (·.isLoss)) .baffled else [] := by
    rw [read, hear_losses, hNamed.isHeard, hear_losses,
      show received.isHeard = contact.isHeard from rfl]
    cases contact.isHeard <;> simp [deliveries]
  refine .told _ ⟨rfl, hBoth.opened, hBoth.followed, hBoth.muted, hBoth.closed⟩ hLosses ?_
    ((losses_received contact.line text).trans (congrArg _ hConnection.symm))
  cases contact.isHeard with
  | false => rfl
  | true => simp [List.countP_replicate, Loss.isEnd, connection]

theorem Passes.grows (hPasses : Passes sink contact after) : Grows contact after := by
  cases hPasses with
  | act hStep hOwn => exact .same rfl (hStep.spares hOwn).closed id id id
  | frame text => exact read_grows text contact
  | drop => exact close_grows rfl contact
  | apart hPasses =>
    refine .same rfl rfl id id fun hClosed => ?_
    cases hPasses with
    | feed hAlone hStep => exact hStep.staysClosed hAlone hClosed
    | time | exit => exact hClosed

theorem Meanwhile.grows (hMeanwhile : Meanwhile sink contact after) : Grows contact after := by
  induction hMeanwhile with
  | refl => exact .refl contact
  | tail _ hLast ih => exact ih.trans hLast.grows

/-- The question by which a connection begins. -/
def IsOpening : Host.Op → Prop
  | .openSocket .. => True
  | _ => False

/-- So it is with every question but the one by which a connection begins. -/
theorem Answers.grows {op : Host.Op} {answer : Except Fault (Host.Answer op)}
    (hAnswer : Answers sink contact op answer after) (hOther : ¬ IsOpening op) :
    Grows contact after := by
  cases hAnswer with
  | opened | notOpened => exact absurd trivial hOther
  | followed => exact .same rfl rfl (fun _ => rfl) id id
  | adopted | refused | notRegistered => exact .refl contact
  | sent _ _ _ _ hBegin hMeanwhile =>
    refine Grows.trans ?_ (Meanwhile.grows hMeanwhile)
    exact .same rfl (hBegin.spares (by trivial)).closed id id id
  | senseless _ _ _ _ _ hMeanwhile => exact Meanwhile.grows hMeanwhile
  | registered hRegister =>
    have hStep : CallRun.Step (.register _ _) contact.line.stage _ := .register hRegister
    exact .same rfl (hStep.spares (by trivial)).closed id id id
  | muted => exact .same rfl rfl id (fun _ => rfl) id
  | hungUp _ hMeanwhile => exact (Meanwhile.grows hMeanwhile).trans (close_grows rfl _)
  | notHungUp hMeanwhile => exact Meanwhile.grows hMeanwhile
  | changed hChange hAnswer =>
    refine .same rfl rfl id id fun hClosed => ?_
    rcases change_cases hChange hAnswer with hSame | hStarted | ⟨_, hStopped⟩
    · rwa [hSame]
    · rw [hStarted]
      dsimp only
      unfold Feed.start
      split <;> exact hClosed
    · exact Stage.stop_closed hStopped
  | waited _ hMeanwhile => exact Meanwhile.grows hMeanwhile
  | abandoned hMeanwhile =>
    exact (Meanwhile.grows hMeanwhile).trans (.same rfl rfl id id id)

/-! ## After everything has ended -/

/-- Everything has ended: the connection has closed, the feed is empty, and the process is over. -/
structure Gone (contact : Contact σ) : Prop where
  closed : contact.connection.closed = true
  drained : Drained contact.estate.stage
  ended : ∃ time, contact.estate.process = .ended time

/-- Nothing more is begun, told or signalled. -/
structure Still (contact after : Contact σ) : Prop where
  begun : after.line.stage.begun = contact.line.stage.begun
  told : after.line.told = contact.line.told
  losses : after.losses = contact.losses
  handed : after.estate.stage.handed = contact.estate.stage.handed
  signals : after.estate.signals = contact.estate.signals

theorem Still.refl (contact : Contact σ) : Still contact contact :=
  ⟨rfl, rfl, rfl, rfl, rfl⟩

theorem Still.trans {mid : Contact σ} (hFirst : Still contact mid) (hSecond : Still mid after) :
    Still contact after :=
  ⟨hSecond.begun.trans hFirst.begun, hSecond.told.trans hFirst.told,
    hSecond.losses.trans hFirst.losses, hSecond.handed.trans hFirst.handed,
    hSecond.signals.trans hFirst.signals⟩

/-- A change after which everything is as it was, if everything had ended. -/
def Rests (contact after : Contact σ) : Prop :=
  Gone contact → Gone after ∧ Still contact after

theorem Rests.refl (contact : Contact σ) : Rests contact contact :=
  fun hGone => ⟨hGone, .refl contact⟩

theorem Rests.trans {mid : Contact σ} (hFirst : Rests contact mid) (hSecond : Rests mid after) :
    Rests contact after := by
  intro hGone
  obtain ⟨hMid, hStill⟩ := hFirst hGone
  obtain ⟨hAfter, hLater⟩ := hSecond hMid
  exact ⟨hAfter, hStill.trans hLater⟩

/-- Senders do nothing to a connection that has closed but to end. -/
theorem act_rests {act : CallRun.Act} {stage : CallRun.Stage}
    (hStep : CallRun.Step act contact.line.stage stage) (hOwn : act.IsOwn) :
    Rests contact { contact with line := { contact.line with stage := stage } } := by
  intro hGone
  refine ⟨⟨(hStep.spares hOwn).closed.trans hGone.closed, hGone.drained, hGone.ended⟩,
    ⟨?_, rfl, rfl, rfl, rfl⟩⟩
  cases hStep with
  | frame | lose => exact hOwn.elim
  | begin hBegin => cases (if_pos hGone.closed).symm.trans hBegin
  | _ => rfl

theorem Passes.rests (hPasses : Passes sink contact after) : Rests contact after := by
  intro hGone
  cases hPasses with
  | act hStep hOwn => exact act_rests hStep hOwn hGone
  | frame text hOpened hOpen | drop hOpened hOpen => cases hOpen.symm.trans hGone.closed
  | apart hPasses =>
    obtain ⟨time, hEnded⟩ := hGone.ended
    cases hPasses with
    | time => exact ⟨⟨hGone.closed, hGone.drained, time, hEnded⟩, rfl, rfl, rfl, rfl, rfl⟩
    | exit hRunning => cases hRunning.symm.trans hEnded
    | feed hAlone hStep =>
      obtain ⟨hDrained, hHanded⟩ := hGone.drained.step hStep hAlone
      exact ⟨⟨hGone.closed, hDrained, time, hEnded⟩, rfl, rfl, rfl, hHanded, rfl⟩

theorem Meanwhile.rests (hMeanwhile : Meanwhile sink contact after) : Rests contact after := by
  induction hMeanwhile with
  | refl => exact .refl contact
  | tail _ hLast ih => exact ih.trans hLast.rests

theorem close_rests (loss : Loss) (contact : Contact σ) : Rests contact (contact.close loss) := by
  intro hGone
  have hSame : contact.close loss = contact := by
    have hClosed : contact.line.stage.connection.closed = true := hGone.closed
    have hLine : contact.line.close = contact.line := by
      rw [CallRun.Audience.close, if_pos hClosed, Connection.close_closed hClosed]
      exact congrArg _ (List.append_nil _)
    rw [close, hLine, connection, Connection.close_closed hClosed]
    rfl
  rw [hSame]
  exact ⟨hGone, .refl contact⟩

end Contact

end Session

end PageReporter
