import PageReporter.Rehearsal.Answering

/-!
# What listeners leave alone

Those who are told an event may fail, print, begin scripts or tell others. None of them reaches
the connection or the reader of the socket, whoever they are and in whatever order they come.

* `World.Spares` — a change that leaves the connection and the reader alone;
* `World.Spares.transmit` — so does a frame that is sent;
* `World.Spares.emitTo` — telling an event is one if every handler is;
* `World.Spares.deliver`, `World.Spares.deliverAll` — so is all that a frame lets be told.
-/

namespace PageReporter.World

variable {α : Type}

/-- A change of a world that leaves the connection and the reader alone. -/
structure Spares (w after : World α) : Prop where
  connection : after.connection = w.connection
  reader : after.reader = w.reader

namespace Spares

variable {w : World α}

theorem refl (w : World α) : Spares w w :=
  ⟨rfl, rfl⟩

theorem trans {u v w : World α} (hFirst : Spares u v) (hSecond : Spares v w) : Spares u w :=
  ⟨hSecond.connection.trans hFirst.connection, hSecond.reader.trans hFirst.reader⟩

theorem foldl {β : Type} {f : World α → β → World α} (hStep : ∀ w b, Spares w (f w b))
    (bs : List β) (w : World α) : Spares w (bs.foldl f w) := by
  induction bs generalizing w with
  | nil => exact .refl w
  | cons b rest ih => exact (hStep w b).trans (ih (f w b))

theorem note (w : World α) (n : Note) : Spares w (w.note n) :=
  ⟨rfl, rfl⟩

/-- Telling an event spares what every handler and the note about a failed one spare. -/
theorem emitTo {H : Type} {run : H → World α → World α × Option Fault}
    (hRun : ∀ handler w, Spares w (run handler w).1) (event : String) (handlers : List H)
    (w : World α) : Spares w (emitTo run (fun n w => w.note n) event handlers w) := by
  induction handlers generalizing w with
  | nil => exact .refl w
  | cons handler rest ih =>
    have hHandler := hRun handler w
    unfold PageReporter.emitTo
    split
    · next after hDone =>
      rw [hDone] at hHandler
      exact hHandler.trans (ih after)
    · next after e hFailed =>
      rw [hFailed] at hHandler
      -- The note is one more change between this handler and the others.
      have hNote := note after (.failedHandler event e)
      exact hHandler.trans (hNote.trans (ih _))

theorem addTimer (due : Double) (turn : Turn) : Spares w (w.addTimer due turn) := by
  unfold World.addTimer
  split <;> exact ⟨rfl, rfl⟩

theorem within (task : Nat) (limit : Limit) : Spares w (w.within task limit) := by
  unfold World.within
  split
  · exact addTimer _ _
  · exact .refl w

/-- What comes back for a command is put down as timers, whatever it is. -/
theorem transmit (w : World α) (number : Nat) (method : String) (params key : Value) :
    Spares w (w.transmit number method params key) := by
  have hSchedule : ∀ (groups : List (Double × List Inbound)) (w : World α) (start : Double),
      Spares w (w.schedule start groups) := by
    intro groups
    induction groups with
    | nil => exact fun w _ => .refl w
    | cons group rest ih => exact fun w start => (addTimer _ _).trans (ih _ start)
  unfold World.transmit
  dsimp only
  exact ⟨(hSchedule _ _ _).connection, (hSchedule _ _ _).reader⟩

/-! ### The feed -/

theorem emit (event : Event) (w : World α) : Spares w (World.emit event w).1 := by
  unfold World.emit
  split
  · exact .refl w
  · dsimp only
    split
    · split <;> exact ⟨rfl, rfl⟩
    · exact ⟨rfl, rfl⟩

theorem printQueue (items : List FeedItem) (w : World α) :
    Spares w (Feed.printQueue World.emit (fun n w => w.note n) items w).2.2 := by
  induction items generalizing w with
  | nil => exact .refl w
  | cons item rest ih =>
    cases item with
    | stop => exact .refl w
    | event event =>
      have hEmit := emit event w
      unfold Feed.printQueue
      split
      · next after hDone =>
        rw [hDone] at hEmit
        exact hEmit.trans (ih after)
      · next after e hFailed =>
        rw [hFailed] at hEmit
        exact hEmit.trans ((note after _).trans (ih _))

theorem print (feed : Feed) (w : World α) :
    Spares w (feed.print World.emit (fun n w => w.note n) w).2 := by
  unfold Feed.print
  split
  · exact printQueue feed.queue w
  · exact .refl w

theorem pump (w : World α) : Spares w w.pump := by
  have hNotes := foldl (fun (w : World α) n => ⟨rfl, rfl⟩ : ∀ w n, Spares w (World.note w n))
    w.feed.advance.2 w
  have hPrint := print w.feed.advance.1 (w.feed.advance.2.foldl World.note w)
  have hBoth := hNotes.trans hPrint
  unfold World.pump
  dsimp only
  split <;> split <;> exact ⟨hBoth.connection, hBoth.reader⟩

theorem beginLookup (limit : Limit) (ticket slot : Nat) (lookup : Script Host Value)
    (w : World α) : Spares w (w.beginLookup limit ticket slot lookup) := by
  unfold World.beginLookup
  split
  · exact ⟨rfl, rfl⟩
  · exact ⟨rfl, rfl⟩
  · have hTimer := addTimer (w := (w.spawn (argumentScript ticket slot lookup)).2)
    exact ⟨(hTimer _ _).connection, (hTimer _ _).reader⟩

theorem beginLookups (limit : Limit) (ticket slot : Nat) (lookups : List (Script Host Value))
    (w : World α) : Spares w (w.beginLookups limit ticket slot lookups) := by
  induction lookups generalizing slot w with
  | nil => exact .refl w
  | cons lookup rest ih => exact (beginLookup limit ticket slot lookup w).trans (ih _ _)

theorem fireFeed (w : World α) (limit : Limit) (signal : FeedSignal)
    (lookups : List (Script Host Value)) : Spares w (w.fireFeed limit signal lookups).1 := by
  unfold World.fireFeed
  split
  · exact .refl w
  · next feed _ =>
    have hPump := pump { w with feed := feed }
    exact ⟨hPump.connection, hPump.reader⟩
  · next feed ticket _ =>
    have hBegun := beginLookups limit ticket 0 lookups { w with feed := feed }
    have hBoth := hBegun.trans (pump _)
    exact ⟨hBoth.connection, hBoth.reader⟩

/-! ### Tabs, sessions, browser, connection -/

theorem tellTab (number : Nat) (w : World α) (signal : PageSignal) :
    Spares w (w.tellTab number signal) := by
  unfold World.tellTab
  split
  · exact .refl w
  · next t _ =>
    refine emitTo (fun follower w => ?_) signal.name _ w
    unfold tellFollower
    split
    · split <;> exact ⟨rfl, rfl⟩
    · exact fireFeed ..

theorem tabReceive (number : Nat) (event : String) (payload : Value) (w : World α) :
    Spares w (w.tabReceive number event payload).1 := by
  unfold World.tabReceive
  split
  · exact .refl w
  · next t _ =>
    have hTold : ∀ (signals : List PageSignal) (w : World α),
        Spares w (signals.foldl (World.tellTab number) w) := foldl (tellTab number)
    exact ⟨(hTold _ _).connection, (hTold _ _).reader⟩

theorem tellSession (w : World α) (number : Nat) (event : String) (payload : Value) :
    Spares w (w.tellSession number event payload) := by
  unfold World.tellSession
  refine emitTo (fun listener w => ?_) event _ w
  cases listener with
  | recorder => exact ⟨rfl, rfl⟩
  | faulty => exact .refl w
  | tab number => exact tabReceive number event payload w

theorem tellBrowser (w : World α) (event : String) : Spares w (w.tellBrowser event) := by
  unfold World.tellBrowser
  refine emitTo (fun follower w => ?_) event _ w
  cases follower with
  | recorder => exact ⟨rfl, rfl⟩
  | feed => exact fireFeed ..

theorem tellConnection (w : World α) (event : String) (payload : Value) :
    Spares w (w.tellConnection event payload) := by
  unfold World.tellConnection
  refine emitTo (fun listener w => ?_) event _ w
  cases listener with
  | recorder => exact ⟨rfl, rfl⟩
  | faulty => exact .refl w
  | browser =>
    show Spares w (if w.muted then w else w.tellBrowser "disconnected")
    split
    · exact .refl w
    · exact tellBrowser w _

/-- **Listeners are harmless.** Whatever is told, and whether or not those who are told fail, the
connection and the reader stay as they are. -/
theorem deliver (w : World α) (delivery : Delivery) : Spares w (w.deliver delivery) := by
  cases delivery with
  | browser event payload => exact tellConnection w event payload
  | session number event payload => exact tellSession w number event payload

theorem deliverAll (told : List Delivery) (w : World α) : Spares w (told.foldl World.deliver w) :=
  foldl deliver told w

end Spares

end PageReporter.World
