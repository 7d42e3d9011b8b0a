import PageReporter.Proofs.Listeners

/-!
# What the turns of a rehearsal leave alone

Scripts ask for all kinds of things, time limits run out, frames come in, the process ends. While
the reader of the socket is running, only its own turn can stop it or close the connection, and
the script that hangs up when it is called off while it waits for the reader to end.

* `World.Aside` — a change that leaves the reader alone, and the connection open or closed;
* `World.begin_aside`, `World.poll_aside` — so do all questions that scripts ask;
* `World.takeTurn_aside` — so do all turns but the reader's own.
-/

namespace PageReporter.World

variable {α : Type}

/-- A change of a world that leaves the reader alone, and the connection open or closed as it
is. -/
structure Aside (w after : World α) : Prop where
  reader : after.reader = w.reader
  closed : after.connection.closed = w.connection.closed

namespace Aside

theorem refl (w : World α) : Aside w w :=
  ⟨rfl, rfl⟩

/-- A change after one that touches neither of the two. -/
theorem since {u v w : World α} (hChange : Aside v w) (hReader : v.reader = u.reader)
    (hClosed : v.connection.closed = u.connection.closed) : Aside u w :=
  ⟨hChange.reader.trans hReader, hChange.closed.trans hClosed⟩

end Aside

theorem Spares.aside {w after : World α} (hSpares : Spares w after) : Aside w after :=
  ⟨hSpares.reader, congrArg Connection.closed hSpares.connection⟩

/-! ## Questions -/

/-- The world after a question. -/
def Begun.world {β : Type} : Begun α β → World α
  | .answered w _ => w
  | .waits w _ => w

theorem beginSend_aside (w : World α) (task : Nat) (key : Value) (method : String)
    (params limit : Value) : Aside w (w.beginSend task key method params limit).world := by
  unfold beginSend
  split
  · exact .refl w
  · next number c hBegin =>
    have hClosed : c.closed = w.connection.closed := by
      unfold Connection.begin at hBegin
      split at hBegin <;> cases hBegin
      rfl
    have hSent := Spares.transmit { w with connection := c } number method params key
    have hOpen := hSent.aside.closed.trans hClosed
    dsimp only
    split
    · exact ⟨rfl, hClosed⟩
    · split
      · exact ⟨hSent.reader, hOpen⟩
      · exact ⟨hSent.reader, hOpen⟩
      · exact (Spares.within _ _).aside.since hSent.reader hOpen

theorem registerSession_aside (w : World α) (key target : Value) :
    Aside w (w.registerSession key target).1 := by
  unfold registerSession
  split
  · exact .refl w
  · next number c hRegister =>
    obtain ⟨key', -, hDone⟩ := Fault.of_bind_ok hRegister
    cases hDone
    exact ⟨rfl, rfl⟩

theorem exit_aside (w : World α) (code : Int) : Aside w (w.exit code) := by
  unfold exit
  split <;> exact ⟨rfl, rfl⟩

theorem schedulePort_aside (start : Double) (contents : List (Double × ByteArray)) (w : World α) :
    Aside w (schedulePort start contents w) := by
  induction contents generalizing w with
  | nil => exact .refl w
  | cons first rest ih =>
    unfold schedulePort
    dsimp only
    split
    · exact (ih _).since rfl rfl
    · have hTimer := (Spares.addTimer (w := w) (after start first.1) (.writePort first.2)).aside
      exact (ih _).since hTimer.reader hTimer.closed

theorem startProcess_aside (w : World α) (command : List String) :
    Aside w (w.startProcess command).1 := by
  unfold startProcess
  dsimp only
  split
  · exact ⟨rfl, rfl⟩
  · split
    · have hPort := schedulePort_aside (α := α) w.clock w.scenario.portFile
      exact (Spares.addTimer _ _).aside.since (hPort _).reader (hPort _).closed
    · exact (schedulePort_aside _ _ _).since rfl rfl

theorem askToEnd_aside (w : World α) : Aside w w.askToEnd.1 := by
  unfold askToEnd
  dsimp only
  split
  · exact ⟨rfl, rfl⟩
  · split
    · exact (exit_aside _ _).since rfl rfl
    · exact (Spares.addTimer _ _).aside.since rfl rfl

theorem closeSocket_aside (w : World α) : Aside w w.closeSocket := by
  unfold closeSocket
  split <;> exact ⟨rfl, rfl⟩

theorem stopFeed_aside (w : World α) : Aside w w.stopFeed.1 := by
  have hPrinted := Spares.printQueue w.feed.close.queue w
  unfold stopFeed Feed.stop
  dsimp only
  split
  · exact (Spares.pump _).aside.since hPrinted.reader hPrinted.aside.closed
  · exact (Spares.pump _).aside.since rfl rfl

/-- No question that a script asks stops a running reader. Hanging up closes the socket from this
end, which the reader is still to read. -/
theorem begin_aside {w : World α} (hRunning : w.reader = .running) (task : Nat) (op : Host.Op) :
    Aside w (w.begin task op).world := by
  cases op with
  | sleep seconds =>
    unfold World.begin
    dsimp only
    split
    · exact .refl w
    · exact ⟨rfl, rfl⟩
    · exact .refl w
    · next seconds _ =>
      have hWithin := (Spares.within (w := w) task (.within seconds)).aside
      exact ⟨hWithin.reader, hWithin.closed⟩
  | send key method params limit => exact beginSend_aside w task key method params limit
  | register key target => exact registerSession_aside w key target
  | hangUp =>
    have hClosing := closeSocket_aside w
    unfold World.begin
    dsimp only
    rw [hClosing.reader, hRunning]
    exact hClosing
  | awaitMilestone tab watch sought limit =>
    unfold World.begin
    dsimp only
    split
    · exact .refl w
    · exact .refl w
    · split
      · exact .refl w
      · exact (Spares.within _ _).aside
  | spawn command => exact startProcess_aside w command
  | terminate => exact askToEnd_aside w
  | kill =>
    let signalled := { w with record.signals := w.record.signals ++ [(w.clock, true)] }
    have hEnded := exit_aside signalled (-9)
    exact ⟨hEnded.reader, hEnded.closed⟩
  | awaitExit limit =>
    unfold World.begin
    dsimp only
    split
    · exact .refl w
    · exact (Spares.within _ _).aside
  | openSocket address limit =>
    unfold World.begin openSocket
    dsimp only
    split
    · exact ⟨rfl, rfl⟩
    · -- The reader starts once, and it has.
      unfold startReader
      simp only [hRunning]
      exact ⟨hRunning.symm, rfl⟩
  | beginWatch tab =>
    unfold World.begin beginWatch
    dsimp only
    split <;> exact ⟨rfl, rfl⟩
  | startPrinter =>
    have hPumped := Spares.pump { w with feed := w.feed.start }
    exact ⟨hPumped.reader, hPumped.aside.closed⟩
  | awaitLineup =>
    unfold World.begin
    dsimp only
    split <;> exact ⟨rfl, rfl⟩
  | stopFeed => exact stopFeed_aside w
  | awaitPrinter =>
    unfold World.begin
    dsimp only
    split <;> exact ⟨rfl, rfl⟩
  | _ => exact ⟨rfl, rfl⟩

/-! ## Waits -/

theorem givenUp_same {β : Type} {w after : World α} {waiting : Waiting α}
    {late answer : Except Fault β} (hEnd : w.givenUp waiting late = some (after, answer)) :
    after = w := by
  unfold givenUp at hEnd
  split at hEnd
  · cases hEnd
    rfl
  · split at hEnd <;> cases hEnd
    rfl

/-- Nor does any end of a wait, but the one of a script that hangs up and is called off. -/
theorem poll_aside {w after : World α} (hRunning : w.reader = .running) {waiting : Waiting α}
    {op : Host.Op} {answer : Except Fault (Host.Answer op)}
    (hHolding : op = .hangUp → waiting.cancelled = false)
    (hPoll : w.poll waiting op = some (after, answer)) : Aside w after := by
  cases op with
  | sleep seconds =>
    rw [givenUp_same hPoll]
    exact .refl w
  | send key method params limit =>
    unfold poll at hPoll
    dsimp only at hPoll
    split at hPoll
    · cases hPoll
      exact ⟨rfl, rfl⟩
    · obtain ⟨⟨before, given⟩, hEnd, hDone⟩ := Option.map_eq_some_iff.mp hPoll
      obtain rfl := givenUp_same hEnd
      cases hDone
      exact ⟨rfl, rfl⟩
  | hangUp =>
    -- While the reader is running, this wait only ends when it is called off.
    unfold poll at hPoll
    simp only [hRunning, hHolding rfl] at hPoll
    cases hPoll
  | awaitMilestone tab watch sought limit =>
    unfold poll at hPoll
    dsimp only at hPoll
    split at hPoll
    · cases hPoll
      exact .refl w
    · rw [givenUp_same hPoll]
      exact .refl w
  | awaitExit limit =>
    unfold poll at hPoll
    dsimp only at hPoll
    split at hPoll
    · cases hPoll
      exact .refl w
    · rw [givenUp_same hPoll]
      exact .refl w
  | awaitLineup =>
    unfold poll at hPoll
    dsimp only at hPoll
    split at hPoll
    · cases hPoll
      exact .refl w
    · split at hPoll <;> cases hPoll
      exact .refl w
  | awaitPrinter =>
    unfold poll at hPoll
    dsimp only at hPoll
    split at hPoll
    · cases hPoll
      exact .refl w
    · split at hPoll <;> cases hPoll
      exact ⟨rfl, rfl⟩
  | _ => cases hPoll

/-! ## Turns -/

theorem conclude_aside (w : World α) (id : Nat) (result : Except Fault (Ending α)) :
    Aside w (w.conclude id result) := by
  unfold conclude
  split
  · exact ⟨rfl, rfl⟩
  · exact ⟨rfl, rfl⟩
  · exact (Spares.pump _).aside.since rfl rfl

/-- A script goes from question to question, none of which stops the reader. -/
theorem proceed_aside (id : Nat) (script : Script Host (Ending α)) {w : World α}
    (hRunning : w.reader = .running) : Aside w (proceed id script w) := by
  induction script generalizing w with
  | done result => exact conclude_aside w id result
  | ask op next ih =>
    have hBegun := begin_aside hRunning id op
    unfold proceed
    split
    · next after answer hAnswered =>
      rw [hAnswered] at hBegun
      exact (ih answer (hBegun.reader.trans hRunning)).since hBegun.reader hBegun.closed
    · next after number hWaits =>
      rw [hWaits] at hBegun
      exact ⟨hBegun.reader, hBegun.closed⟩

/-- A script that waits for the reader to end, and has been called off. -/
def IsCutOff (w : World α) (id : Nat) : Prop :=
  ∃ number waiting, w.task? id = some ⟨number, .waiting waiting⟩ ∧ waiting.op = .hangUp ∧
    waiting.cancelled = true

theorem go_aside {w : World α} (hRunning : w.reader = .running) {id : Nat}
    (hHolding : ¬ w.IsCutOff id) : Aside w (w.go id) := by
  unfold go
  split
  · exact .refl w
  · exact proceed_aside id _ hRunning
  · next number waiting hTask =>
    split
    · exact .refl w
    · next after answer hPoll =>
      have hKept : waiting.op = .hangUp → waiting.cancelled = false := fun hOp =>
        eq_false_of_ne_true fun hCancelled => hHolding ⟨number, waiting, hTask, hOp, hCancelled⟩
      have hPolled := poll_aside hRunning hKept hPoll
      have hGoesOn := proceed_aside (w := after.dropTimers id) id (waiting.next answer)
        (hPolled.reader.trans hRunning)
      exact hGoesOn.since hPolled.reader hPolled.closed

theorem mark_aside (w : World α) (id : Nat) (f : Waiting α → Waiting α) :
    Aside w (w.mark id f) := by
  unfold mark
  split <;> exact ⟨rfl, rfl⟩

theorem receive_aside (frames : List Inbound) (w : World α) : Aside w (receive frames w) := by
  induction frames generalizing w with
  | nil => exact .refl w
  | cons frame rest ih =>
    unfold receive
    split
    · exact .refl w
    · dsimp only
      split
      · exact ⟨rfl, rfl⟩
      · exact ⟨rfl, rfl⟩
      · exact (ih _).since rfl rfl

/-- **Only the reader's own turn stops it.** Every other turn of a rehearsal leaves a running
reader running, and the connection open or closed, but for the script that hangs up and is called
off. -/
theorem takeTurn_aside {w : World α} (hRunning : w.reader = .running) {turn : Turn}
    (hOther : turn ≠ .read) (hHolding : ∀ id, turn = .go id → ¬ w.IsCutOff id) :
    Aside w (w.takeTurn turn) := by
  cases turn with
  | go id => exact go_aside hRunning (hHolding id rfl)
  | elapse id =>
    have hMarked := mark_aside w id fun v => ⟨v.op, v.next, v.number, true, v.cancelled⟩
    exact ⟨hMarked.reader, hMarked.closed⟩
  | callOff id =>
    show Aside w (w.callOff id)
    unfold callOff
    split <;> exact ⟨rfl, rfl⟩
  | deliver frames =>
    have hReceived := receive_aside frames w
    exact ⟨hReceived.reader, hReceived.closed⟩
  | read => exact absurd rfl hOther
  | exit code => exact exit_aside w code
  | writePort content => exact ⟨rfl, rfl⟩

end PageReporter.World
