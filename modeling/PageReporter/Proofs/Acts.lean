import PageReporter.Proofs.Changes
import PageReporter.Proofs.Instants

/-!
# What turns consist of

Whatever a script asks for, whatever comes in at the socket and whoever listens: every turn of a
rehearsal is a sequence of a few kinds of acts, which are listed here once. What has to hold after
a turn then only has to be shown of each of these.

* `Connection.Hears` — what can come in; `World.Act` — what a turn can do;
* `Acts.begin`, `Acts.poll` — the questions of scripts, and the ends of their waits;
* `Acts.takeTurn` — every turn is made of such acts.
-/

namespace PageReporter

/-! ## The connection -/

namespace Connection

/-- An answer that comes while none is there is the only thing that may become of a command, as
long as its sender is not done with it; it is a result or a fault of the conversation, and its
sender is among those to be roused. -/
def Answers (number : Nat) (c after : Connection) (roused : List Nat) : Prop :=
  after.answer? number = c.answer? number ∨
    c.answer? number = none ∧ number ∈ roused ∧
      ∀ e, after.answer? number = some (.error e) → e.isProtocol = true

/-- What has come in changes nothing about the commands but their answers. -/
structure Hears (c after : Connection) (roused : List Nat) : Prop where
  lastNumber : after.lastNumber = c.lastNumber
  numbers : after.calls.map Call.number = c.calls.map Call.number
  answers : ∀ number, Answers number c after roused

/-- What a frame says is a result, or a fault of the conversation. -/
theorem reply_isProtocol {members : List (String × Value)} {e : Fault}
    (hReply : reply members = .error e) : e.isProtocol = true := by
  unfold reply at hReply
  split at hReply
  · split at hReply <;> cases hReply <;> rfl
  · cases hReply

/-- Calls that keep their numbers are found in the same places. -/
theorem find?_map_call {f : Call → Call} (hNumber : ∀ call, (f call).number = call.number)
    (number : Nat) (calls : List Call) :
    (calls.map f).find? (fun call => call.number = number) =
      (calls.find? fun call => call.number = number).map f := by
  rw [List.find?_map]
  congr 2
  funext call
  rw [Function.comp_apply, hNumber]

theorem map_number {f : Call → Call} (hNumber : ∀ call, (f call).number = call.number)
    (calls : List Call) : (calls.map f).map Call.number = calls.map Call.number := by
  rw [List.map_map]
  exact List.map_congr_left fun call _ => hNumber call

theorem Hears.ofKept {c after : Connection} (hKept : Kept c after) (roused : List Nat) :
    Hears c after roused :=
  ⟨hKept.lastNumber, congrArg (List.map Call.number) hKept.calls,
    fun number => .inl (by rw [answer?, answer?, hKept.calls])⟩

theorem Hears.refl (c : Connection) (roused : List Nat) : Hears c c roused :=
  .ofKept ⟨rfl, rfl, rfl⟩ roused

/-- A command that a frame settles is one that had no answer. -/
theorem settle_hears {c : Connection} {id : Value} {n : Nat} (hAwaiting : c.awaiting? id = some n)
    {answer : Except Fault Value} (hSpoken : ∀ e, answer = .error e → e.isProtocol = true) :
    Hears c (c.settle n answer) [n] := by
  have hKeeps : ∀ call : Call,
      (if call.number = n then (⟨call.number, some answer⟩ : Call) else call).number =
        call.number := by
    intro call
    split <;> rfl
  refine ⟨rfl, map_number hKeeps c.calls, fun number => ?_⟩
  -- What a command has is what the first one of its number has, before and after.
  unfold Answers answer? settle
  rw [find?_map_call hKeeps]
  cases hFound : c.calls.find? fun call => call.number = number with
  | none => exact .inl rfl
  | some call =>
    have hNumber : call.number = number := by
      simpa using List.find?_some hFound
    by_cases hOwn : number = n
    · subst hOwn
      -- The first command that bears the frame's id is the one with this number.
      have hOpen : c.closed = false := by
        by_contra hClosed
        rw [awaiting?, if_pos (by simpa using hClosed)] at hAwaiting
        cases hAwaiting
      have hSame := (awaiting?_some hOpen hAwaiting).2
      have hBears : (fun call : Call => (Value.int call.number).same id) =
          fun call => decide (call.number = number) := by
        funext call
        by_cases hThis : call.number = number
        · rw [hThis, hSame, decide_eq_true rfl]
        · rw [decide_eq_false hThis]
          exact eq_false_of_ne_true fun hOther => hThis (same_number hOther hSame)
      obtain ⟨m, answer⟩ := call
      rw [awaiting?, if_neg (by simp [hOpen]), hBears, hFound] at hAwaiting
      cases answer with
      | some answer => cases hAwaiting
      | none =>
        refine .inr ⟨rfl, .head _, fun e hError => hSpoken e ?_⟩
        have hThis : m = number := hNumber
        simpa [hThis] using hError
    · refine .inl ?_
      rw [Option.map_some, if_neg (hNumber ▸ hOwn)]

/-- A frame may answer a command, whose sender is then to be roused. -/
theorem dispatch_hears (c : Connection) (members : List (String × Value)) :
    Hears c (c.dispatch members).connection (c.dispatch members).settled.toList := by
  unfold dispatch
  split
  · next id _ =>
    rcases c.dispatchAnswer_cases id members with
      ⟨e, hFails, -⟩ | ⟨-, hStays⟩ | ⟨n, hAwaiting, hSettles⟩
    · rw [hFails]
      exact .refl c _
    · rw [hStays]
      exact .refl c _
    · rw [hSettles]
      exact settle_hears hAwaiting fun e => reply_isProtocol
  · split
    · dsimp only
      split
      · rw [dispatchSession_connection]
        exact .refl c _
      · exact .ofKept (dispatchBrowser_kept ..) _
    · exact .refl c _

theorem dispatchText_hears (c : Connection) (text : String) :
    Hears c (c.dispatchText text).connection (c.dispatchText text).settled.toList := by
  cases hMembers : members? text with
  | some members =>
    rw [c.dispatchText_some hMembers]
    exact dispatch_hears c members
  | none =>
    rw [c.dispatchText_none hMembers]
    exact .refl c _

/-- The end of the socket answers every command that has no answer, and their senders are to be
roused. -/
theorem close_hears (c : Connection) : Hears c c.close.1 c.close.2.1 := by
  cases hClosed : c.closed with
  | true =>
    rw [close, if_pos hClosed]
    exact .refl c _
  | false =>
    obtain ⟨hCalls, hLast, -⟩ := close_calls hClosed
    have hNumbers : ∀ call, (take (fun _ => some gone) call).number = call.number := fun _ => rfl
    refine ⟨hLast, hCalls ▸ map_number hNumbers c.calls, fun number => ?_⟩
    unfold Answers answer?
    rw [hCalls, find?_map_call hNumbers]
    cases hFound : c.calls.find? fun call => call.number = number with
    | none => exact .inl rfl
    | some call =>
      obtain ⟨m, answer⟩ := call
      cases answer with
      | some answer => exact .inl rfl
      | none =>
        obtain rfl : m = number := by simpa using List.find?_some hFound
        refine .inr ⟨rfl, ?_, ?_⟩
        · rw [close, if_neg (by simp [hClosed])]
          exact List.mem_map.mpr
            ⟨_, List.mem_filter.mpr ⟨List.mem_of_find?_eq_some hFound, rfl⟩, rfl⟩
        · intro e hError
          cases hError
          rfl

end Connection

namespace World

variable {α : Type} {u v w after : World α}

/-! ## What a turn can do -/

/-- What a tab keeps when a watch on it begins or ends, or someone begins to follow it: all that it
has kept, and room for one more watch. -/
def KeepsNotices (f : TabRecord → TabRecord) : Prop :=
  ∀ t, (f t).tab.notices = t.tab.notices ∨
    (f t).tab.notices = t.tab.notices ++ [(t.tab.notices.length, [])]

/-- What a turn can do. It may be the turn of a script, which alone may begin and end waits of its
own, and is done with those commands only that are its own. -/
inductive Act (script : Option Nat) (own : Nat → Prop) : World α → World α → Prop
  | change {w after : World α} (hChange : Change w after) : Act script own w after
  /-- A tab gets an event, and those who wait for its notices are roused. -/
  | receive {w v : World α} {number : Nat} {t : TabRecord} {tabs : List TabRecord}
      (event : String) (payload : Value) (hTab : w.tabs[number]? = some t)
      (hTabs : tabs = w.tabs.set number
        ⟨t.session, (t.tab.receive w.scenario.wallClock event payload).tab, t.followers⟩)
      (hTold : Changes { w with tabs := tabs } v) :
      Act script own w (v.wake fun op _ =>
        match op with
        | .awaitMilestone tab _ _ _ => tab = number
        | _ => false)
  /-- Answers come, and those who wait for them are roused. -/
  | hear {w : World α} {c : Connection} {numbers : List Nat}
      (hHears : w.connection.Hears c numbers) :
      Act script own w (numbers.foldl wakeSender { w with connection := c })
  | modifyTab {w : World α} (number : Nat) {f : TabRecord → TabRecord} (hKeeps : KeepsNotices f) :
      Act script own w { w with tabs := w.tabs.modify number f }
  | openTab {w : World α} (session : Nat) :
      Act script own w { w with tabs := w.tabs ++ [⟨session, {}, {}⟩] }
  | session {w : World α} {c : Connection} (hLast : c.lastNumber = w.connection.lastNumber)
      (hCalls : c.calls = w.connection.calls) : Act script own w { w with connection := c }
  | begin {w : World α} {c : Connection} (hLast : c.lastNumber = w.connection.lastNumber + 1)
      (hCalls : c.calls = w.connection.calls ++ [⟨c.lastNumber, none⟩]) :
      Act script own w { w with connection := c }
  | done {w : World α} {number : Nat} (hOwn : own number) : Act script own w (w.done number)
  /-- A wait of the script begins, until a time or without one. -/
  | wait {w : World α} {id : Nat} (hScript : script = some id) (due : Double)
      {waiting : Waiting α} (hNumber : waiting.number = 0 ∨
        own waiting.number ∧ waiting.number ≤ w.connection.lastNumber) :
      Act script own w ((w.addTimer due (.elapse id)).setWaiting id waiting)
  | await {w : World α} {id : Nat} (hScript : script = some id) {waiting : Waiting α}
      (hNumber : waiting.number = 0 ∨
        own waiting.number ∧ waiting.number ≤ w.connection.lastNumber) :
      Act script own w (w.setWaiting id waiting)
  | mark {w : World α} {id : Nat} (hScript : script = some id) {f : Waiting α → Waiting α}
      (hNumber : ∀ waiting, (f waiting).number = waiting.number) : Act script own w (w.mark id f)
  | dropTimers {w : World α} {id : Nat} (hScript : script = some id) :
      Act script own w (w.dropTimers id)
  | finish {w : World α} {id : Nat} (hScript : script = some id) (result : Except Fault α) :
      Act script own w (w.finish id result)
  | leave {w : World α} {id : Nat} (hScript : script = some id) :
      Act script own w { w with tasks := w.tasks.filter fun t => t.id ≠ id }

/-- Acts one after the other. -/
abbrev Acts (script : Option Nat) (own : Nat → Prop) : World α → World α → Prop :=
  Relation.ReflTransGen (Act script own)

namespace Acts

variable {script : Option Nat} {own : Nat → Prop}

theorem changes (hChanges : Changes w after) : Acts script own w after :=
  Relation.ReflTransGen.mono (fun _ _ hChange => Act.change hChange) _ _ hChanges

theorem still (hCore : after.core = w.core) : Acts script own w after :=
  .single (.change (.still hCore))

theorem foldl {β : Type} {f : World α → β → World α} (hStep : ∀ w b, Acts script own w (f w b))
    (bs : List β) (w : World α) : Acts script own w (bs.foldl f w) := by
  induction bs generalizing w with
  | nil => exact .refl
  | cons b rest ih => exact (hStep w b).trans (ih (f w b))

/-! ### What is told -/

theorem tabReceive (number : Nat) (event : String) (payload : Value) (w : World α) :
    Acts script own w (w.tabReceive number event payload).1 := by
  unfold World.tabReceive
  cases hTab : w.tabs[number]? with
  | none => exact .refl
  | some t =>
    exact .single (.receive event payload hTab rfl
      (Changes.foldl (fun w signal => Changes.tellTab number w signal) _ _))

theorem deliver (w : World α) (delivery : Delivery) : Acts script own w (w.deliver delivery) := by
  cases delivery with
  | browser event payload => exact changes (Changes.tellConnection w event payload)
  | session number event payload =>
    show Acts script own w (w.tellSession number event payload)
    unfold World.tellSession
    refine Changes.emitTo still .trans (fun listener w => ?_) event _ w
    cases listener with
    | recorder => exact still rfl
    | faulty => exact .refl
    | tab number => exact tabReceive number event payload w

theorem deliverAll (told : List Delivery) (w : World α) :
    Acts script own w (told.foldl World.deliver w) :=
  foldl deliver told w

/-! ### The reader -/

theorem closeConnection (w : World α) : Acts script own w w.closeConnection :=
  (Relation.ReflTransGen.single (.hear w.connection.close_hears)).trans (deliverAll _ _)

theorem endReader (w : World α) (fault : Option Fault) : Acts script own w (w.endReader fault) := by
  have hEnded : Acts script own w.closeConnection
      { w.closeConnection with reader := .ended fault } := still rfl
  exact ((closeConnection w).trans hEnded).tail (.change (.rouse _))

theorem applyOutcome {w : World α} {outcome : Connection.Outcome}
    (hHears : w.connection.Hears outcome.connection outcome.settled.toList) :
    Acts script own w (w.applyOutcome outcome) := by
  have hTold : Acts script own w (outcome.deliveries.foldl World.deliver
      (outcome.settled.toList.foldl wakeSender { w with connection := outcome.connection })) :=
    (Relation.ReflTransGen.single (.hear hHears)).trans (deliverAll _ _)
  unfold World.applyOutcome
  cases hSettled : outcome.settled <;> simpa [hSettled] using hTold

theorem readAll (frames : List Inbound) (w : World α) :
    Acts script own w (World.readAll frames w) := by
  induction frames generalizing w with
  | nil => exact .refl
  | cons frame rest ih =>
    cases frame with
    | closing => exact endReader w none
    | lost => exact endReader w none
    | text frame =>
      have hRead : Acts script own w (w.applyOutcome (w.connection.dispatchText frame)) :=
        applyOutcome (w.connection.dispatchText_hears frame)
      unfold World.readAll
      dsimp only
      split
      · exact hRead.trans (endReader _ _)
      · exact hRead.trans (ih _)
    | members frame =>
      have hRead : Acts script own w (w.applyOutcome (w.connection.dispatch frame)) :=
        applyOutcome (w.connection.dispatch_hears frame)
      unfold World.readAll
      dsimp only
      split
      · exact hRead.trans (endReader _ _)
      · exact hRead.trans (ih _)

theorem read (w : World α) : Acts script own w w.read := by
  unfold World.read
  split
  · have hTaken : Acts script own w { w with inbox := [] } := still rfl
    exact hTaken.trans (readAll w.inbox _)
  · exact .refl

/-! ### Tabs and sessions -/

theorem hungUp (w : World α) : Acts script own w w.hungUp.1 := by
  unfold World.hungUp
  split
  · exact .refl
  · exact closeConnection w

theorem openTab (w : World α) (session : Nat) : Acts script own w (w.openTab session).2 := by
  have hOpened : Acts script own w { w with tabs := w.tabs ++ [⟨session, {}, {}⟩] } :=
    .single (.openTab session)
  exact hOpened.trans (still rfl)

theorem beginWatch (w : World α) (number : Nat) : Acts script own w (w.beginWatch number).2 := by
  unfold World.beginWatch
  split
  · exact .refl
  · exact .single (.modifyTab number fun t => .inr rfl)

theorem registerSession (w : World α) (key target : Value) :
    Acts script own w (w.registerSession key target).1 := by
  unfold World.registerSession
  split
  · exact .refl
  · next number c hRegister =>
    have hKept : c.lastNumber = w.connection.lastNumber ∧ c.calls = w.connection.calls := by
      obtain ⟨key', -, hDone⟩ := Fault.of_bind_ok hRegister
      cases hDone
      exact ⟨rfl, rfl⟩
    have hRegistered : Acts script own w { w with connection := c } :=
      .single (.session hKept.1 hKept.2)
    exact hRegistered.trans (still rfl)

end Acts

/-! ## Turns -/

variable {script : Option Nat} {own : Nat → Prop} {id : Nat}

/-- Commands get ever higher numbers. -/
theorem Act.lastNumber_le (hAct : Act script own w after) :
    w.connection.lastNumber ≤ after.connection.lastNumber := by
  cases hAct with
  | change hChange => exact Nat.le_of_eq (congrArg Connection.lastNumber hChange.connection.symm)
  | receive event payload hTab hTabs hTold => exact Nat.le_of_eq (by rw [← hTold.connection]; rfl)
  | hear hHears =>
    rw [(Changes.wakeSenders _ _).connection]
    exact Nat.le_of_eq hHears.lastNumber.symm
  | session hLast => exact Nat.le_of_eq hLast.symm
  | begin hLast => exact Nat.le_of_lt (by rw [hLast]; exact Nat.lt_succ_self _)
  | wait _ due =>
    exact Nat.le_of_eq (congrArg Connection.lastNumber (addTimer_connection w due _).symm)
  | mark =>
    unfold World.mark
    split <;> exact Nat.le_refl _
  | _ => exact Nat.le_refl _

/-- No script that has joined is forgotten. -/
theorem Act.started_le (hAct : Act script own w after) : w.started ≤ after.started := by
  cases hAct with
  | change hChange => exact hChange.started_le
  | receive event payload hTab hTabs hTold => exact hTold.started_le
  | @hear c numbers hHears =>
    exact (Changes.wakeSenders numbers { w with connection := c }).started_le
  | wait _ due => exact Nat.le_of_eq (addTimer_started w due _).symm
  | mark =>
    unfold World.mark
    split <;> exact Nat.le_refl _
  | _ => exact Nat.le_refl _

namespace Acts

theorem lastNumber_le (hActs : Acts script own w after) :
    w.connection.lastNumber ≤ after.connection.lastNumber := by
  induction hActs with
  | refl => exact Nat.le_refl _
  | tail _ hLast ih => exact Nat.le_trans ih hLast.lastNumber_le

/-- What a question makes of the rehearsal; if it is a wait, then with the wait. -/
def Begins {β : Type} (id : Nat) (own : Nat → Prop) (w : World α) : Begun α β → Prop
  | .answered after _ => Acts (some id) own w after
  | .waits after number => ∀ waiting : Waiting α, waiting.number = number →
      Acts (some id) own w (after.setWaiting id waiting)

/-- A wait without a limit, for something other than an answer. -/
theorem waits {β : Type} (hAfter : Acts (some id) own w after) :
    Begins id own w (.waits after 0 : Begun α β) :=
  fun _ hNumber => hAfter.tail (.await rfl (.inl hNumber))

/-- A wait that may have a limit. -/
theorem within {waiting : Waiting α} (limit : Limit) (hNumber : waiting.number = 0 ∨
    own waiting.number ∧ waiting.number ≤ w.connection.lastNumber) :
    Acts (some id) own w ((w.within id limit).setWaiting id waiting) := by
  unfold World.within
  split
  · exact .single (.wait rfl _ hNumber)
  · exact .single (.await rfl hNumber)

theorem waitsWithin {β : Type} (limit : Limit) :
    Begins id own w (.waits (w.within id limit) 0 : Begun α β) :=
  fun _ hNumber => within limit (.inl hNumber)

/-- A wait whose time is over already. -/
theorem waitsOver {β : Type} :
    Begins id own w (.waits (w.addTurn (.elapse id)) 0 : Begun α β) := by
  intro waiting hNumber
  have hNow : w.addTimer w.clock (.elapse id) = w.addTurn (.elapse id) := by
    rw [addTimer, if_neg (by simp [Double.lt_irrefl])]
  rw [← hNow]
  exact .single (.wait rfl _ (.inl hNumber))

/-- A command begins, with a number that is its script's own. -/
theorem beginSend (hNew : ∀ n, w.connection.lastNumber < n → own n) (key : Value)
    (method : String) (params limit : Value) :
    Begins id own w (w.beginSend id key method params limit) := by
  unfold World.beginSend
  cases hBegin : w.connection.begin method with
  | error e => exact .refl
  | ok begun =>
    obtain ⟨number, c⟩ := begun
    obtain ⟨hNumber, hLast, hCalls⟩ : number = c.lastNumber ∧
        c.lastNumber = w.connection.lastNumber + 1 ∧
        c.calls = w.connection.calls ++ [⟨c.lastNumber, none⟩] := by
      unfold Connection.begin at hBegin
      split at hBegin <;> cases hBegin
      exact ⟨rfl, rfl, rfl⟩
    have hOwn : own number := hNew number (by omega)
    have hBegun : Acts (some id) own w { w with connection := c } :=
      .single (.begin hLast hCalls)
    have hTransmitted : Acts (some id) own { w with connection := c }
        (World.transmit { w with connection := c } number method params key) :=
      changes (Changes.transmit ..)
    have hSent := hBegun.trans hTransmitted
    dsimp only
    split
    · exact hBegun.tail (.done hOwn)
    · split
      · exact hSent.tail (.done hOwn)
      · exact hSent.tail (.done hOwn)
      · intro waiting hWaiting
        refine hSent.trans (within _ (.inr ?_))
        rw [hWaiting]
        exact ⟨hOwn, hNumber ▸ hTransmitted.lastNumber_le⟩

/-- Whatever a script asks for is made of such acts. -/
theorem begin (hNew : ∀ n, w.connection.lastNumber < n → own n) (op : Host.Op) :
    Begins id own w (w.begin id op) := by
  -- What only the surroundings answer, the last case, leaves alone all that scripts share.
  cases op with
  | now => exact .refl
  | sleep seconds =>
    unfold World.begin
    dsimp only
    split
    · exact .refl
    · exact waitsOver
    · exact .refl
    · exact waitsWithin _
  | send key method params limit => exact beginSend hNew key method params limit
  | isDetached session => exact .refl
  | register key target => exact registerSession w key target
  | hangUp =>
    have hClosing : Acts (some id) own w w.closeSocket := changes (Changes.closeSocket w)
    unfold World.begin
    dsimp only
    split
    · exact waits hClosing
    · exact hClosing.trans (hungUp _)
  | openTab session => exact openTab w session
  | keptPage number => exact .refl
  | beginWatch tab => exact beginWatch w tab
  | endWatch tab => exact .single (.modifyTab tab fun _ => .inl rfl)
  | awaitMilestone tab watch sought limit =>
    unfold World.begin
    dsimp only
    split
    · exact .refl
    · exact .refl
    · split
      · exact .refl
      · exact waitsWithin _
  | findBrowser => exact .refl
  | spawn command => exact changes (Changes.startProcess w command)
  | exitCode => exact .refl
  | portFile => exact .refl
  | terminate => exact changes (Changes.askToEnd w)
  | kill => exact changes (Changes.forceEnd w)
  | awaitExit limit =>
    unfold World.begin
    dsimp only
    split
    · exact .refl
    · exact waitsWithin _
  | openSocket address limit => exact changes (Changes.openSocket w address limit)
  | followTab tab => exact .single (.modifyTab tab fun _ => .inl rfl)
  | recordTab tab => exact .single (.modifyTab tab fun _ => .inl rfl)
  | isConnected => exact .refl
  | startPrinter =>
    have hPumped : Acts (some id) own w (World.pump { w with feed := w.feed.start }) :=
      changes (Changes.pumpAfter rfl)
    exact hPumped
  | isFeedClosed => exact .refl
  | awaitLineup =>
    unfold World.begin
    dsimp only
    split
    · exact .refl
    · exact waits .refl
  | stopFeed => exact changes (Changes.stopFeed w)
  | awaitPrinter =>
    unfold World.begin
    dsimp only
    split
    · exact .refl
    · exact waits .refl
  | _ => exact still rfl

/-- And so is the end of a wait. -/
theorem poll {waiting : Waiting α} {op : Host.Op} {answer : Except Fault (Host.Answer op)}
    (hOwn : own waiting.number) (hPoll : w.poll waiting op = some (after, answer)) :
    Acts script own w after := by
  -- Most waits end without a trace; but a command is done with, and a socket is closed.
  cases op with
  | sleep seconds =>
    rw [givenUp_same hPoll]
  | send key method params limit =>
    unfold World.poll at hPoll
    dsimp only at hPoll
    split at hPoll
    · cases hPoll
      exact .single (.done hOwn)
    · obtain ⟨⟨before, given⟩, hEnd, hDone⟩ := Option.map_eq_some_iff.mp hPoll
      obtain rfl := givenUp_same hEnd
      cases hDone
      exact .single (.done hOwn)
  | hangUp =>
    unfold World.poll at hPoll
    dsimp only at hPoll
    split at hPoll
    · split at hPoll
      · cases hPoll
        exact (endReader w none).trans (closeConnection _)
      · cases hPoll
    · have hWorld : after = w.hungUp.1 := by
        rw [Option.some.inj hPoll]
      rw [hWorld]
      exact hungUp w
  | awaitMilestone tab watch sought limit =>
    unfold World.poll at hPoll
    dsimp only at hPoll
    split at hPoll
    · cases hPoll
      exact .refl
    · rw [givenUp_same hPoll]
  | awaitExit limit =>
    unfold World.poll at hPoll
    dsimp only at hPoll
    split at hPoll
    · cases hPoll
      exact .refl
    · rw [givenUp_same hPoll]
  | awaitLineup =>
    unfold World.poll at hPoll
    dsimp only at hPoll
    split at hPoll
    · cases hPoll
      exact .refl
    · split at hPoll <;> cases hPoll
      exact .refl
  | awaitPrinter =>
    unfold World.poll at hPoll
    dsimp only at hPoll
    split at hPoll
    · cases hPoll
      exact .refl
    · split at hPoll <;> cases hPoll
      exact still rfl
  | _ => cases hPoll

theorem conclude (w : World α) (id : Nat) (result : Except Fault (Ending α)) :
    Acts (some id) own w (w.conclude id result) := by
  unfold World.conclude
  split
  · exact .single (.finish rfl _)
  · exact .single (.finish rfl _)
  · have hLeft : Acts (some id) own w { w with tasks := w.tasks.filter fun t => t.id ≠ id } :=
      .single (.leave rfl)
    exact hLeft.trans (changes (Changes.pumpAfter rfl))

/-- A script goes on, from question to question. -/
theorem proceed (script : Script Host (Ending α))
    (hNew : ∀ n, w.connection.lastNumber < n → own n) :
    Acts (some id) own w (World.proceed id script w) := by
  induction script generalizing w with
  | done result => exact conclude w id result
  | ask op next ih =>
    have hBegun : Begins id own w (w.begin id op) := begin hNew op
    unfold World.proceed
    split
    · next after answer hAnswered =>
      rw [hAnswered] at hBegun
      have hAnswer : Acts (some id) own w after := hBegun
      exact hAnswer.trans (ih answer fun n hLater =>
        hNew n (Nat.lt_of_le_of_lt hAnswer.lastNumber_le hLater))
    · next after number hWaits =>
      rw [hWaits] at hBegun
      exact hBegun _ rfl

end Acts

/-- A script that is found by its number has that number. -/
theorem id_of_task? {task : Task α} (hTask : w.task? id = some task) : task.id = id := by
  simpa using List.find?_some hTask

/-- The scripts after one of them has begun to wait. -/
theorem task?_setWaiting (w : World α) (id : Nat) (waiting : Waiting α) (n : Nat) :
    (w.setWaiting id waiting).task? n =
      (w.task? n).map fun t => if t.id = id then ⟨id, .waiting waiting⟩ else t := by
  have hIds : ((fun t : Task α => decide (t.id = n)) ∘ fun t =>
      if t.id = id then (⟨id, .waiting waiting⟩ : Task α) else t) = fun t => decide (t.id = n) := by
    funext t
    rw [Function.comp_apply]
    split
    · next hSame => rw [hSame]
    · rfl
  unfold setWaiting task?
  rw [List.find?_map, hIds]

/-- The scripts after one of them is gone. -/
theorem task?_filter (w : World α) {id n : Nat} (hOther : n ≠ id) :
    { w with tasks := w.tasks.filter fun t => t.id ≠ id }.task? n = w.task? n := by
  unfold task?
  rw [List.find?_filter]
  congr 1
  funext t
  by_cases hOwn : t.id = n
  · simp [hOwn, hOther]
  · simp [hOwn]

theorem mark_waiting {number : Nat} {waiting : Waiting α}
    (hTask : w.task? id = some ⟨number, .waiting waiting⟩) (f : Waiting α → Waiting α) :
    w.mark id f = w.setWaiting id (f waiting) := by
  rw [mark, hTask]

/-- The script whose turn it is, if it is there. -/
def runner? (w : World α) : Turn → Option (Task α)
  | .go id => w.task? id
  | .elapse id => w.task? id
  | .callOff id => w.task? id
  | _ => none

/-- The commands that are a turn's own: the one whose answer its script waits for, and all that are
still to come. -/
def Owned (w : World α) (turn : Turn) (number : Nat) : Prop :=
  w.connection.lastNumber < number ∨
    ∃ id waiting, w.runner? turn = some ⟨id, .waiting waiting⟩ ∧ waiting.number = number

namespace Acts

theorem go (w : World α) (id : Nat) :
    Acts ((w.task? id).map Task.id) (w.Owned (.go id)) w (w.go id) := by
  unfold World.go
  split
  · exact .refl
  · next number script hTask =>
    obtain rfl : number = id := id_of_task? hTask
    rw [hTask]
    exact proceed script fun _ => .inl
  · next number waiting hTask =>
    obtain rfl : number = id := id_of_task? hTask
    split
    · exact .refl
    · next after answer hPoll =>
      have hOwn : w.Owned (.go number) waiting.number := .inr ⟨number, waiting, hTask, rfl⟩
      have hPolled : Acts (some number) (w.Owned (.go number)) w after := poll hOwn hPoll
      have hDropped : Acts (some number) (w.Owned (.go number)) w (after.dropTimers number) :=
        hPolled.tail (.dropTimers rfl)
      rw [hTask]
      exact hDropped.trans (proceed _ fun n hLater =>
        .inl (Nat.lt_of_le_of_lt hDropped.lastNumber_le hLater))

theorem mark {turn : Turn} (hTurn : w.runner? turn = w.task? id) {f : Waiting α → Waiting α}
    (hNumber : ∀ waiting, (f waiting).number = waiting.number) :
    Acts ((w.runner? turn).map Task.id) own w (w.mark id f) := by
  unfold World.mark
  split
  · next number waiting hTask =>
    obtain rfl : number = id := id_of_task? hTask
    rw [hTurn, hTask, ← mark_waiting hTask f]
    exact .single (.mark rfl hNumber)
  · exact .refl

theorem callOff (w : World α) (id : Nat) :
    Acts ((w.task? id).map Task.id) own w (w.callOff id) := by
  unfold World.callOff
  split
  · next number waiting hTask =>
    obtain rfl : number = id := id_of_task? hTask
    rw [hTask, ← mark_waiting hTask fun v => ⟨v.op, v.next, v.number, v.elapsed, true⟩]
    exact (Relation.ReflTransGen.single (.mark rfl fun _ => rfl)).tail (.change (.queue rfl))
  · next number script hTask =>
    obtain rfl : number = id := id_of_task? hTask
    rw [hTask]
    exact .single (.finish rfl _)
  · exact .refl

/-- **Every turn is made of acts of its script.** -/
theorem takeTurn (w : World α) (turn : Turn) :
    Acts ((w.runner? turn).map Task.id) (w.Owned turn) w (w.takeTurn turn) := by
  cases turn with
  | go id => exact go w id
  | elapse id =>
    have hMarked : Acts ((w.runner? (.elapse id)).map Task.id) (w.Owned (.elapse id)) w
        (w.mark id fun v => ⟨v.op, v.next, v.number, true, v.cancelled⟩) := mark rfl fun _ => rfl
    exact hMarked.tail (.change (.queue rfl))
  | callOff id => exact callOff w id
  | deliver frames => exact changes (Changes.arrive w frames)
  | read => exact read w
  | exit code => exact changes (Changes.exit w code)
  | writePort content => exact still rfl

end Acts

end World

end PageReporter

