import Mathlib.Logic.Relation
import PageReporter.Proofs.CallRun
import PageReporter.Proofs.Turns

/-!
# What happens beside the waits of scripts

Much of what goes on in a rehearsal touches neither the connection nor the tabs nor the waits of
scripts: the feed prints, handlers are told, frames are on their way, the process comes and goes.
All of it is made of a few kinds of changes, which are listed here once.

* `World.core` — what scripts depend on; `World.Change` — the changes, `World.Changes` — several;
* `Changes.pump`, `Changes.tellTab`, `Changes.transmit` and so on — what is made of them.
-/

namespace PageReporter.World

variable {α : Type} {u v w after : World α}

/-! ## Changes -/

/-- Who is there, and whose turn comes when. -/
def agenda (w : World α) :
    Double × List Timer × List Turn × List (Task α) × Nat × List (Nat × Double × Except Fault α) :=
  (w.clock, w.timers, w.turns, w.tasks, w.started, w.finished)

/-- What scripts depend on. -/
def core (w : World α) :=
  (w.agenda, w.connection, w.tabs)

/-- A turn that neither says that a time is over nor calls a script off. -/
def Turn.isPlain : Turn → Bool
  | .elapse _ => false
  | .callOff _ => false
  | _ => true

/-- What can go on beside the waits of scripts: a change of what no script depends on, scripts that
are roused, scripts that join, of which some are to be called off later, and something else that is
to happen now or later. -/
inductive Change : World α → World α → Prop
  | still {w after : World α} (hCore : after.core = w.core) : Change w after
  | rouse {w : World α} (p : Host.Op → Nat → Bool) : Change w (w.wake p)
  | join {w : World α} (script : Script Host (Ending α)) : Change w (w.spawn script).2
  | lookup {w : World α} (script : Script Host (Ending α)) (due : Double) :
      Change w ((w.spawn script).2.addTimer due (.callOff w.started))
  | queue {w : World α} {turn : Turn} (hPlain : Turn.isPlain turn = true) :
      Change w (w.addTurn turn)
  | later {w : World α} (due : Double) {turn : Turn} (hPlain : Turn.isPlain turn = true) :
      Change w (w.addTimer due turn)

/-- Changes one after the other. -/
abbrev Changes : World α → World α → Prop :=
  Relation.ReflTransGen Change

theorem addTimer_connection (w : World α) (due : Double) (turn : Turn) :
    (w.addTimer due turn).connection = w.connection := by
  unfold addTimer
  split <;> rfl

/-- The connection is left alone. -/
theorem Change.connection (hChange : Change w after) : after.connection = w.connection := by
  cases hChange with
  | still hCore => exact congrArg (fun core => core.2.1) hCore
  | rouse p => rfl
  | join script => rfl
  | lookup script due => exact addTimer_connection ..
  | queue => rfl
  | later due => exact addTimer_connection ..

theorem Changes.connection (hChanges : Changes w after) : after.connection = w.connection := by
  induction hChanges with
  | refl => rfl
  | tail _ hLast ih => exact hLast.connection.trans ih

theorem addTimer_tabs (w : World α) (due : Double) (turn : Turn) :
    (w.addTimer due turn).tabs = w.tabs := by
  unfold addTimer
  split <;> rfl

/-- So are the tabs. -/
theorem Change.tabs (hChange : Change w after) : after.tabs = w.tabs := by
  cases hChange with
  | still hCore => exact congrArg (fun core => core.2.2) hCore
  | rouse p => rfl
  | join script => rfl
  | lookup script due => exact addTimer_tabs ..
  | queue => rfl
  | later due => exact addTimer_tabs ..

theorem Changes.tabs (hChanges : Changes w after) : after.tabs = w.tabs := by
  induction hChanges with
  | refl => rfl
  | tail _ hLast ih => exact hLast.tabs.trans ih

theorem addTimer_started (w : World α) (due : Double) (turn : Turn) :
    (w.addTimer due turn).started = w.started := by
  unfold addTimer
  split <;> rfl

/-- No script that has joined is forgotten. -/
theorem Change.started_le (hChange : Change w after) : w.started ≤ after.started := by
  cases hChange with
  | still hCore => exact Nat.le_of_eq (congrArg (fun core => core.1.2.2.2.2.1) hCore.symm)
  | rouse p => exact Nat.le_refl _
  | join script => exact Nat.le_succ _
  | lookup script due =>
    rw [addTimer_started]
    exact Nat.le_succ _
  | queue => exact Nat.le_refl _
  | later due => exact Nat.le_of_eq (addTimer_started ..).symm

theorem Changes.started_le (hChanges : Changes w after) : w.started ≤ after.started := by
  induction hChanges with
  | refl => exact Nat.le_refl _
  | tail _ hLast ih => exact Nat.le_trans ih hLast.started_le

namespace Changes

theorem still (hCore : after.core = w.core) : Changes w after :=
  .single (.still hCore)

theorem foldl {β : Type} {f : World α → β → World α} (hStep : ∀ w b, Changes w (f w b))
    (bs : List β) (w : World α) : Changes w (bs.foldl f w) := by
  induction bs generalizing w with
  | nil => exact .refl
  | cons b rest ih => exact (hStep w b).trans (ih (f w b))

theorem wakeSenders (numbers : List Nat) (w : World α) :
    Changes w (numbers.foldl wakeSender w) :=
  foldl (fun _ _ => .single (.rouse _)) numbers w

/-! ### The feed -/

theorem emit_core (event : Event) (w : World α) : (World.emit event w).1.core = w.core := by
  unfold World.emit
  split
  · rfl
  · dsimp only
    split
    · split <;> rfl
    · rfl

theorem printQueue_core (items : List FeedItem) (w : World α) :
    (Feed.printQueue World.emit (fun n w => w.note n) items w).2.2.core = w.core := by
  induction items generalizing w with
  | nil => rfl
  | cons item rest ih =>
    cases item with
    | stop => rfl
    | event event =>
      have hEmit := emit_core event w
      unfold Feed.printQueue
      split
      · next after hDone =>
        rw [hDone] at hEmit
        exact (ih after).trans hEmit
      · next after e hFailed =>
        rw [hFailed] at hEmit
        exact (ih _).trans hEmit

theorem print_core (feed : Feed) (w : World α) :
    (feed.print World.emit (fun n w => w.note n) w).2.core = w.core := by
  unfold Feed.print
  split
  · exact printQueue_core feed.queue w
  · rfl

/-- The feed prints, and rouses those who wait for it. -/
theorem pump (w : World α) : Changes w w.pump := by
  have hNotes : ∀ (notes : List Note) (w : World α), (notes.foldl World.note w).core = w.core := by
    intro notes
    induction notes with
    | nil => exact fun _ => rfl
    | cons n rest ih => exact fun w => (ih (w.note n)).trans rfl
  have hPrinted : Changes w
      { (w.feed.advance.1.print World.emit (fun n w => w.note n)
          (w.feed.advance.2.foldl World.note w)).2 with
        feed := (w.feed.advance.1.print World.emit (fun n w => w.note n)
          (w.feed.advance.2.foldl World.note w)).1 } :=
    still ((print_core _ _).trans (hNotes _ w))
  unfold World.pump
  dsimp only
  split
  · split
    · exact (hPrinted.tail (.rouse _)).tail (.rouse _)
    · exact hPrinted.tail (.rouse _)
  · split
    · exact hPrinted.tail (.rouse _)
    · exact hPrinted

theorem beginLookup (limit : Limit) (ticket slot : Nat) (lookup : Script Host Value)
    (w : World α) : Changes w (w.beginLookup limit ticket slot lookup) := by
  unfold World.beginLookup
  split
  · exact still rfl
  · exact .single (.join _)
  · exact .single (.lookup _ _)

theorem beginLookups (limit : Limit) (ticket slot : Nat) (lookups : List (Script Host Value))
    (w : World α) : Changes w (w.beginLookups limit ticket slot lookups) := by
  induction lookups generalizing slot w with
  | nil => exact .refl
  | cons lookup rest ih => exact (beginLookup limit ticket slot lookup w).trans (ih _ _)

theorem fireFeed (w : World α) (limit : Limit) (signal : FeedSignal)
    (lookups : List (Script Host Value)) : Changes w (w.fireFeed limit signal lookups).1 := by
  unfold World.fireFeed
  split
  · exact .refl
  · next feed _ =>
    have hFired : Changes w { w with feed := feed } := still rfl
    exact hFired.trans (pump _)
  · next feed ticket _ =>
    have hFired : Changes w { w with feed := feed } := still rfl
    exact (hFired.trans (beginLookups limit ticket 0 lookups _)).trans (pump _)

/-! ### Those who listen -/

/-- Telling an event is made of what the handlers do. -/
theorem emitTo {H : Type} {run : H → World α → World α × Option Fault}
    {R : World α → World α → Prop} (hStill : ∀ {w after}, after.core = w.core → R w after)
    (hTrans : ∀ {u v w}, R u v → R v w → R u w) (hRun : ∀ handler w, R w (run handler w).1)
    (event : String) (handlers : List H) (w : World α) :
    R w (emitTo run (fun n w => w.note n) event handlers w) := by
  induction handlers generalizing w with
  | nil => exact hStill rfl
  | cons handler rest ih =>
    have hHandler := hRun handler w
    unfold PageReporter.emitTo
    split
    · next after hDone =>
      rw [hDone] at hHandler
      exact hTrans hHandler (ih after)
    · next after e hFailed =>
      rw [hFailed] at hHandler
      -- The note is one more change between this handler and the others.
      have hNote : R after (after.note (.failedHandler event e)) := hStill rfl
      exact hTrans hHandler (hTrans hNote (ih _))

theorem tellTab (number : Nat) (w : World α) (signal : PageSignal) :
    Changes w (w.tellTab number signal) := by
  unfold World.tellTab
  split
  · exact .refl
  · refine emitTo still .trans (fun follower w => ?_) signal.name _ w
    unfold tellFollower
    split
    · split <;> exact still rfl
    · exact fireFeed ..

theorem tellBrowser (w : World α) (event : String) : Changes w (w.tellBrowser event) := by
  unfold World.tellBrowser
  refine emitTo still .trans (fun follower w => ?_) event _ w
  cases follower with
  | recorder => exact still rfl
  | feed => exact fireFeed ..

theorem tellConnection (w : World α) (event : String) (payload : Value) :
    Changes w (w.tellConnection event payload) := by
  unfold World.tellConnection
  refine emitTo still .trans (fun listener w => ?_) event _ w
  cases listener with
  | recorder => exact still rfl
  | faulty => exact .refl
  | browser =>
    show Changes w (if w.muted then w else w.tellBrowser "disconnected")
    split
    · exact .refl
    · exact tellBrowser w _

/-! ### Commands and the process -/

theorem schedule (start : Double) (groups : List (Double × List Inbound)) (w : World α) :
    Changes w (w.schedule start groups) := by
  induction groups generalizing w with
  | nil => exact .refl
  | cons group rest ih => exact (Relation.ReflTransGen.single (.later _ rfl)).trans (ih _)

theorem transmit (w : World α) (number : Nat) (method : String) (params key : Value) :
    Changes w (w.transmit number method params key) := by
  have hSent : Changes w
      { w with
        record.sent := w.record.sent ++ [(w.clock, Connection.frame number method params key)]
        peer := (w.peer.respond number method params).1 } := still rfl
  exact hSent.trans (schedule _ _ _)

theorem schedulePort (start : Double) (contents : List (Double × ByteArray)) (w : World α) :
    Changes w (World.schedulePort start contents w) := by
  induction contents generalizing w with
  | nil => exact .refl
  | cons first rest ih =>
    unfold World.schedulePort
    dsimp only
    split
    · have hThere : Changes w { w with portFile := some first.2 } := still rfl
      exact hThere.trans (ih _)
    · exact (Relation.ReflTransGen.single (.later _ rfl)).trans (ih _)

theorem startProcess (w : World α) (command : List String) :
    Changes w (w.startProcess command).1 := by
  unfold World.startProcess
  dsimp only
  have hSpawned : Changes w { w with record.spawned := w.record.spawned ++ [command] } :=
    still rfl
  split
  · exact hSpawned
  · have hPort := hSpawned.trans (schedulePort w.clock w.scenario.portFile _)
    split
    · exact hPort.tail (.later _ rfl)
    · exact hPort

theorem exit (w : World α) (code : Int) : Changes w (w.exit code) := by
  unfold World.exit
  split
  · exact .refl
  · have hEnded : Changes w { w with exitCode := some code } := still rfl
    exact hEnded.tail (.rouse _)

theorem askToEnd (w : World α) : Changes w w.askToEnd.1 := by
  unfold World.askToEnd
  dsimp only
  have hAsked : Changes w
      { w with record.signals := w.record.signals ++ [(w.clock, false)] } := still rfl
  split
  · exact hAsked
  · split
    · exact hAsked.trans (exit _ _)
    · exact hAsked.tail (.later _ rfl)

theorem forceEnd (w : World α) : Changes w w.forceEnd.1 := by
  have hForced : Changes w
      { w with record.signals := w.record.signals ++ [(w.clock, true)] } := still rfl
  exact hForced.trans (exit _ _)

theorem openSocket (w : World α) (address : String) (limit : Value) :
    Changes w (w.openSocket address limit).1 := by
  have hAsked : Changes w
      { w with record.connected := w.record.connected ++ [(address, limit)] } := still rfl
  unfold World.openSocket
  dsimp only
  split
  · exact hAsked
  · have hLimited : Changes w
        { w with
          record.connected := w.record.connected ++ [(address, limit)]
          timeout := limit } := still rfl
    unfold World.startReader
    dsimp only
    split
    · have hReads : Changes w
          { w with
            record.connected := w.record.connected ++ [(address, limit)]
            timeout := limit
            reader := .running } := still rfl
      exact hReads.tail (.queue rfl)
    · exact hLimited

theorem closeSocket (w : World α) : Changes w w.closeSocket := by
  unfold World.closeSocket
  split
  · have hClosing : Changes w
        { w with receiving := false, sendable := false, inbox := w.inbox ++ [Inbound.closing] } :=
      still rfl
    exact hClosing.tail (.queue rfl)
  · exact still rfl

/-- The feed takes its course after a change of nothing that scripts depend on. -/
theorem pumpAfter (hCore : after.core = w.core) : Changes w after.pump :=
  (still hCore).trans (pump after)

theorem stopFeed (w : World α) : Changes w w.stopFeed.1 := by
  unfold World.stopFeed Feed.stop
  dsimp only
  split
  · exact pumpAfter (printQueue_core _ w)
  · exact pumpAfter rfl

theorem receive_core (frames : List Inbound) (w : World α) :
    (World.receive frames w).core = w.core := by
  induction frames generalizing w with
  | nil => rfl
  | cons frame rest ih =>
    unfold World.receive
    split
    · rfl
    · dsimp only
      split
      · rfl
      · rfl
      · exact (ih _).trans rfl

/-- Frames have come in, which the reader has still to read. -/
theorem arrive (w : World α) (frames : List Inbound) : Changes w (w.arrive frames) :=
  (still (receive_core frames w)).tail (.queue rfl)

end Changes

end PageReporter.World
