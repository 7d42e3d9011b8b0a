import PageReporter.Proofs.CallAnswers
import PageReporter.Proofs.SessionEnds

/-!
# The end of a connection

The reader finds that the socket is gone, or a frame that it cannot understand, or somebody hangs
up; any of these may come first, and all of them may come. Whichever it is, the connection closes
once. Here the runs of `CallRun` go on past that moment: frames that are still there are read, the
end is noticed again, and everything that the connection tells is kept.

* `Connection.endings` — how often a session has come to its end, as its state has it;
* `Connection.frame_cases` — what a frame makes of the connection, and what is told of it;
* `CallRun.Audience`, `CallRun.Happens` — a stage with all that was told, and what may happen;
* `CallRun.Settled` — what holds of every run;
* `CallRun.Timely` — how a command ends that the end of the connection does not leave waiting;
* `CallRun.closed_once` — what holds when the connection has closed.
-/

namespace PageReporter

namespace Connection

/-! ## Ends and what is told of them -/

/-- How often a session has come to its end. -/
def endings (c : Connection) (n : Nat) : Nat :=
  ((c.session? n).any Session.detached).toNat

/-- How often the connection itself has come to its end. -/
def losses (c : Connection) : Nat :=
  c.closed.toNat

theorem endings_le_one (c : Connection) (n : Nat) : c.endings n ≤ 1 :=
  Bool.toNat_le _

theorem endings_same {c after : Connection} (hSame : ∀ n, after.session? n = c.session? n)
    (n : Nat) : after.endings n = c.endings n := by
  rw [endings, hSame, endings]

theorem Over.endings {c : Connection} {n : Nat} (hOver : c.Over n) : c.endings n = 1 := by
  obtain ⟨session, hSession, hDetached⟩ := hOver
  rw [Connection.endings, hSession, Option.any_some, hDetached, Bool.toNat_true]

end Connection

/-- Whether the end of the connection is told. -/
def Delivery.isLoss : Delivery → Bool
  | .browser event _ => event = "disconnected"
  | .session .. => false

/-- Whether the end of a session is told. -/
def Delivery.isEndOf (n : Nat) : Delivery → Bool
  | .browser .. => false
  | .session number event _ => number = n && event = "detached"

namespace Connection

/-- A session is told its end when it comes to it. -/
theorem detach_told (c : Connection) (m n : Nat) :
    c.endings n + (c.detach m).2.countP (·.isEndOf n) = (c.detach m).1.endings n := by
  cases hDetached : c.isDetached m with
  | true =>
    -- What has come to its end already is told nothing.
    have hSame : c.detach m = (c, []) := by rw [detach, if_pos hDetached]
    rw [hSame]
    rfl
  | false =>
    have hTold : (c.detach m).2 = [.session m "detached" .null] := by
      rw [detach, if_neg (by simp [hDetached])]
    have hThere := detach_session c m n
    rw [hTold, endings, endings, hThere]
    by_cases hSame : n = m
    · subst hSame
      unfold isDetached at hDetached
      cases hSession : c.session? n with
      | none =>
        rw [hSession] at hDetached
        cases hDetached
      | some session =>
        rw [hSession] at hDetached
        simp [hDetached, ended, Delivery.isEndOf]
    · simp [hSame, Delivery.isEndOf, Ne.symm hSame]

theorem detachAll_told (numbers : List Nat) (c : Connection) (n : Nat) :
    c.endings n + (detachAll numbers c).2.countP (·.isEndOf n) =
      (detachAll numbers c).1.endings n := by
  induction numbers generalizing c with
  | nil => rfl
  | cons m rest ih =>
    have hFirst := detach_told c m n
    have hRest := ih (c.detach m).1
    show _ + ((c.detach m).2 ++ (detachAll rest (c.detach m).1).2).countP _ = _
    rw [List.countP_append, ← Nat.add_assoc, hFirst]
    exact hRest

/-- The end of a session is not the end of the connection. -/
theorem detach_quiet (c : Connection) (m : Nat) : (c.detach m).2.countP (·.isLoss) = 0 := by
  unfold detach
  split <;> rfl

theorem detachAll_quiet (numbers : List Nat) (c : Connection) :
    (detachAll numbers c).2.countP (·.isLoss) = 0 := by
  induction numbers generalizing c with
  | nil => rfl
  | cons m rest ih =>
    show ((c.detach m).2 ++ (detachAll rest (c.detach m).1).2).countP _ = 0
    rw [List.countP_append, detach_quiet, ih]

/-- The connection closes: those who listen to sessions are told first, the others last. -/
theorem close_told {c : Connection} (hOpen : c.closed = false) :
    ∃ told, c.close.2.2 = told ++ [.browser "disconnected" .null] ∧
      told.countP (·.isLoss) = 0 ∧
      ∀ n, c.endings n + told.countP (·.isEndOf n) = c.close.1.endings n := by
  let closed : Connection := ⟨c.lastNumber, c.calls.map abort, c.sessions, c.table, true⟩
  refine ⟨(detachAll (c.table.map Prod.snd) closed).2, ?_, detachAll_quiet _ _, fun n => ?_⟩
  · rw [close, if_neg (by simp [hOpen])]
  · have hAll := detachAll_told (c.table.map Prod.snd) closed n
    rw [close, if_neg (by simp [hOpen])]
    exact hAll

theorem close_closed {c : Connection} (hClosed : c.closed = true) : c.close = (c, [], []) := by
  rw [close, if_pos hClosed]

/-! ## Frames -/

/-- **What a frame makes of the connection.** It leaves it as it is, and at most passes on the
event that it bears; or it gives a command its answer; or it ends a session, and then passes on
its event. -/
theorem frame_cases (c : Connection) (text : String) :
    ((c.dispatchText text).connection = c ∧ (c.dispatchText text).deliveries.length ≤ 1) ∨
    (∃ n answer id, c.awaiting? id = some n ∧
      c.dispatchText text = ⟨c.settle n answer, some n, [], none⟩) ∨
    ∃ key n event, lookup key c.table = some n ∧
      c.dispatchText text = ⟨((c.dropKey key).detach n).1, none,
        ((c.dropKey key).detach n).2 ++ [event], none⟩ := by
  cases hMembers : members? text with
  | none =>
    rw [c.dispatchText_none hMembers]
    exact .inl ⟨rfl, Nat.zero_le 1⟩
  | some members =>
    rw [c.dispatchText_some hMembers]
    unfold dispatch
    split
    · next id _ =>
      rcases c.dispatchAnswer_cases id members with
        ⟨e, hFails, -⟩ | ⟨-, hStays⟩ | ⟨n, hAwaiting, hSettles⟩
      · rw [hFails]
        exact .inl ⟨rfl, Nat.zero_le 1⟩
      · rw [hStays]
        exact .inl ⟨rfl, Nat.zero_le 1⟩
      · exact .inr (.inl ⟨n, _, id, hAwaiting, hSettles⟩)
    · split
      · next method _ =>
        dsimp only
        split
        · refine .inl ⟨dispatchSession_connection .., ?_⟩
          unfold dispatchSession
          split
          · exact Nat.zero_le 1
          · split
            · exact Nat.le_refl 1
            · exact Nat.zero_le 1
        · -- Of the browser's events only one does more than being passed on.
          unfold dispatchBrowser
          split
          · split
            · exact .inl ⟨rfl, Nat.zero_le 1⟩
            · next key _ =>
              split
              · next n hLookup => exact .inr (.inr ⟨key, n, _, hLookup, rfl⟩)
              · exact .inl ⟨rfl, Nat.le_refl 1⟩
          · exact .inl ⟨rfl, Nat.le_refl 1⟩
      · exact .inl ⟨rfl, Nat.zero_le 1⟩

/-- Before the event that a frame bears comes the end of a session, if the frame ends one. -/
theorem frame_told (c : Connection) (text : String) :
    (c.dispatchText text).deliveries.dropLast.countP (·.isLoss) = 0 ∧
      ∀ n, c.endings n + (c.dispatchText text).deliveries.dropLast.countP (·.isEndOf n) =
        (c.dispatchText text).connection.endings n := by
  rcases c.frame_cases text with ⟨hSame, hShort⟩ | ⟨n, answer, id, -, hSettles⟩ |
    ⟨key, n, event, -, hEnds⟩
  · have hNone : (c.dispatchText text).deliveries.dropLast = [] := by
      rw [← List.length_eq_zero_iff, List.length_dropLast]
      omega
    rw [hSame, hNone]
    exact ⟨rfl, fun _ => rfl⟩
  · rw [hSettles]
    exact ⟨rfl, fun _ => rfl⟩
  · rw [hEnds, List.dropLast_concat]
    exact ⟨detach_quiet _ _, fun m => detach_told (c.dropKey key) n m⟩

/-- A frame that comes after the end reaches no command. -/
theorem frame_calls {c : Connection} (hClosed : c.closed = true) (text : String) :
    (c.dispatchText text).connection.calls = c.calls := by
  rcases c.frame_cases text with ⟨hSame, -⟩ | ⟨n, answer, id, hAwaiting, -⟩ |
    ⟨key, n, event, -, hEnds⟩
  · rw [hSame]
  · rw [awaiting?, if_pos hClosed] at hAwaiting
    cases hAwaiting
  · rw [hEnds]
    exact (detach_kept (c.dropKey key) n).calls

/-- Frames leave the table of keys right, also after the end. -/
theorem Known.frame {c : Connection} (hKnown : c.Known) (text : String) :
    (c.dispatchText text).connection.Known := by
  rcases c.frame_cases text with ⟨hSame, -⟩ | ⟨n, answer, id, -, hSettles⟩ |
    ⟨key, n, event, -, hEnds⟩
  · rwa [hSame]
  · rw [hSettles]
    exact hKnown.same ⟨rfl, rfl, rfl⟩
  · rw [hEnds]
    exact hKnown.detach key n

end Connection

namespace CallRun

/-! ## Runs with what is told in them -/

/-- Something that the connection told. -/
structure Telling where
  delivery : Delivery
  /-- Whether it is the event that a frame bears, passed on under its name. -/
  passedOn : Bool

namespace Telling

/-- The connection tells its own end. -/
def isLoss (telling : Telling) : Bool :=
  !telling.passedOn && telling.delivery.isLoss

/-- The connection tells the end of a session. -/
def isEndOf (n : Nat) (telling : Telling) : Bool :=
  !telling.passedOn && telling.delivery.isEndOf n

end Telling

/-- What the connection tells of itself. -/
def own (deliveries : List Delivery) : List Telling :=
  deliveries.map (Telling.mk · false)

/-- What is told because of a frame: last of all the event that the frame bears. -/
def ofFrame (deliveries : List Delivery) : List Telling :=
  own deliveries.dropLast ++ deliveries.getLast?.toList.map (Telling.mk · true)

/-- A connection with those who share it, and all that it told, in order. -/
structure Audience where
  stage : Stage := {}
  told : List Telling := []

namespace Audience

/-- The end of the socket is noticed, by the reader or by whoever hangs up. -/
def close (audience : Audience) : Audience where
  stage := if audience.stage.connection.closed then audience.stage else audience.stage.lose
  told := audience.told ++ own audience.stage.connection.close.2.2

/-- A frame is read. After the end it reaches nobody who waits, but is read nevertheless. -/
def receive (audience : Audience) (text : String) : Audience where
  stage :=
    if audience.stage.connection.closed then
      { audience.stage with connection := (audience.stage.connection.dispatchText text).connection }
    else audience.stage.receive text
  told :=
    let outcome := audience.stage.connection.dispatchText text
    audience.told ++ ofFrame outcome.deliveries ++
      match outcome.fault with
      | none => []
      | some _ => own outcome.connection.close.2.2

end Audience

/-- Whether an act is one of the senders', or the beginning of a session. A frame that is being
written fails with the socket, or because its sender is called off. -/
def Act.IsOwn : Act → Prop
  | .frame _ | .lose => False
  | .fail _ cause => cause = .socketClosed ∨ cause = .cancelled
  | _ => True

/-- What may happen, whether the connection has closed or not. -/
inductive Happens : Audience → Audience → Prop
  | act {here : Audience} {act : Act} {stage : Stage} (hStep : Step act here.stage stage)
      (hOwn : act.IsOwn) : Happens here { here with stage := stage }
  | frame {here : Audience} (text : String) : Happens here (here.receive text)
  | close {here : Audience} : Happens here here.close

/-- Things that happen one after the other. -/
def Run : Audience → Audience → Prop :=
  Relation.ReflTransGen Happens

/-! ## How commands end -/

/-- How a command ends that the end of the connection does not leave waiting: with a fault of the
connection, because its sender was called off, or with a reply that was read before the end. -/
inductive Timely (sender : Sender) : Except Fault Value → Prop
  | failed (text : String) : Timely sender (.error (.protocol text))
  | calledOff (hOwn : .gaveUp .calledOff ∈ sender.heard ∨ sender.stand = .writing) :
      Timely sender (.error .cancelled)
  | replied {before after : List Notice} {text : String} {answer : Except Fault Value}
      (hHeard : sender.heard = before ++ .frame text :: after) (hOpen : .lost ∉ before)
      (hReply : Connection.reply? sender.number text = some answer) : Timely sender answer

/-- Whoever ends with what settled its command ends in time. -/
theorem EndsBy.timely {sender : Sender} {result : Except Fault Value}
    (hEnds : EndsBy sender result) : Timely sender result := by
  cases hEnds with
  | reply hHeard hFirst hReply hOwn =>
    -- The end of the socket would have settled the command before the frame did.
    refine .replied hHeard (fun hLost => ?_) hReply
    cases hFirst .lost hLost
  | lost hHeard hFirst => exact .failed _
  | late hLimit hGaveUp => exact .failed _
  | calledOff hGaveUp => exact .calledOff (.inl hGaveUp)

/-- Whoever cannot write its frame ends in time. -/
theorem Sender.unwritten_timely {sender : Sender} {cause : Fault}
    (hCause : cause = .socketClosed ∨ cause = .cancelled) (hWriting : sender.stand = .writing) :
    Timely sender (sender.unwritten cause) := by
  rcases hCause with rfl | rfl
  · exact .failed _
  · exact .calledOff (.inr hWriting)

/-! ## What every run keeps -/

/-- What holds of every run. -/
structure Settled (audience : Audience) : Prop where
  matched : Matched audience.stage
  known : audience.stage.connection.Known
  /-- The end of the connection has been told as often as it has come. -/
  losses : audience.told.countP Telling.isLoss = audience.stage.connection.losses
  /-- So have the ends of sessions. -/
  endings : ∀ n, audience.told.countP (Telling.isEndOf n) = audience.stage.connection.endings n
  /-- Whoever is not done when the connection has closed knows it. -/
  heard : audience.stage.connection.closed = true →
    ∀ sender ∈ audience.stage.senders, .lost ∈ sender.heard
  timely : ∀ sender result, (sender, result) ∈ audience.stage.ended → Timely sender result

theorem countP_own (p : Delivery → Bool) (deliveries : List Delivery) :
    (own deliveries).countP (fun telling => !telling.passedOn && p telling.delivery) =
      deliveries.countP p := by
  rw [own, List.countP_map]
  rfl

/-- The event that a frame bears does not count as the connection's own. -/
theorem countP_ofFrame (p : Delivery → Bool) (deliveries : List Delivery) :
    (ofFrame deliveries).countP (fun telling => !telling.passedOn && p telling.delivery) =
      deliveries.dropLast.countP p := by
  rw [ofFrame, List.countP_append, countP_own, Nat.add_eq_left, List.countP_map,
    List.countP_eq_zero]
  intro delivery _
  simp

theorem Settled.start : Settled {} where
  matched := .start
  known := ⟨⟨fun _ hMem => absurd hMem List.not_mem_nil, List.nodup_nil⟩,
    fun _ hMem => absurd hMem List.not_mem_nil⟩
  losses := rfl
  endings := fun _ => rfl
  heard := fun hClosed => nomatch hClosed
  timely := fun _ _ hMem => absurd hMem List.not_mem_nil

/-! ### The end is noticed -/

/-- However often the end is noticed, it is told as often as it comes. -/
theorem losses_close (c : Connection) :
    c.losses + (own c.close.2.2).countP Telling.isLoss = c.close.1.losses := by
  rw [show (own c.close.2.2).countP Telling.isLoss = _ from countP_own Delivery.isLoss _]
  cases hClosed : c.closed with
  | true =>
    rw [Connection.close_closed hClosed]
    rfl
  | false =>
    obtain ⟨told, hTold, hQuiet, -⟩ := Connection.close_told hClosed
    rw [hTold, List.countP_append, hQuiet, Connection.losses, Connection.losses, hClosed,
      (Connection.close_calls hClosed).2.2]
    rfl

theorem endings_close (c : Connection) (n : Nat) :
    c.endings n + (own c.close.2.2).countP (Telling.isEndOf n) = c.close.1.endings n := by
  rw [show (own c.close.2.2).countP (Telling.isEndOf n) = _ from
    countP_own (Delivery.isEndOf n) _]
  cases hClosed : c.closed with
  | true =>
    rw [Connection.close_closed hClosed]
    rfl
  | false =>
    obtain ⟨told, hTold, -, hEnds⟩ := Connection.close_told hClosed
    rw [hTold, List.countP_append, ← hEnds n]
    rfl

theorem Audience.close_connection (audience : Audience) :
    audience.close.stage.connection = audience.stage.connection.close.1 := by
  unfold Audience.close
  dsimp only
  split
  · next hClosed => rw [Connection.close_closed hClosed]
  · rfl

theorem Matched.same {stage : Stage} {connection : Connection} (hMatched : Matched stage)
    (hLast : connection.lastNumber = stage.connection.lastNumber)
    (hCalls : connection.calls = stage.connection.calls) :
    Matched { stage with connection := connection } :=
  ⟨hLast ▸ hMatched.begun, hCalls.trans hMatched.calls, hMatched.outstanding,
    hMatched.ended_begun, hMatched.gaveUp, hMatched.limited, hMatched.ended_by⟩

/-- Whoever hears of the end of the socket has heard of it. -/
theorem lost_heard {senders : List Sender} {notices : List Notice} (hLost : .lost ∈ notices) :
    ∀ sender ∈ senders.map (Sender.hear notices), .lost ∈ sender.heard := by
  intro sender hMem
  obtain ⟨before, -, rfl⟩ := List.mem_map.mp hMem
  exact List.mem_append_right _ hLost

theorem Settled.close {here : Audience} (hSettled : Settled here) : Settled here.close := by
  have hConnection := here.close_connection
  cases hClosed : here.stage.connection.closed with
  | true =>
    -- Nothing is left to be told.
    have hSame : here.close = here := by
      rw [Audience.close, if_pos hClosed, Connection.close_closed hClosed]
      simp [own]
    rw [hSame]
    exact hSettled
  | false =>
    have hStage : here.close.stage = here.stage.lose := by
      rw [Audience.close]
      exact if_neg (by simp [hClosed])
    refine ⟨?_, ?_, ?_, fun n => ?_, fun _ => ?_, ?_⟩
    · rw [hStage]
      exact hSettled.matched.lose hClosed
    · rw [hConnection]
      exact hSettled.known.close hClosed
    · rw [hConnection, ← losses_close, ← hSettled.losses]
      exact List.countP_append
    · rw [hConnection, ← endings_close, ← hSettled.endings n]
      exact List.countP_append
    · rw [hStage]
      exact lost_heard (List.mem_singleton.mpr rfl)
    · rw [hStage]
      exact hSettled.timely

/-! ### Frames -/

/-- What a frame makes of the connection, whether it is understood or not. -/
theorem Audience.receive_connection (audience : Audience) (text : String) :
    (audience.receive text).stage.connection =
      match (audience.stage.connection.dispatchText text).fault with
      | none => (audience.stage.connection.dispatchText text).connection
      | some _ => (audience.stage.connection.dispatchText text).connection.close.1 := by
  unfold Audience.receive
  dsimp only
  split
  · next hClosed =>
    have hStays := (Connection.dispatchText_same audience.stage.connection text).2.trans hClosed
    split
    · rfl
    · rw [Connection.close_closed hStays]
  · unfold Stage.receive
    cases hFault : (audience.stage.connection.dispatchText text).fault <;> simp only [hFault]

/-- A count of what is told that a frame does not change but by what the connection makes of it:
`measure` is what the connection has it at. -/
theorem receive_count {here : Audience} {text : String} (p : Delivery → Bool)
    (measure : Connection → Nat)
    (hHere : here.told.countP (fun telling => !telling.passedOn && p telling.delivery) =
      measure here.stage.connection)
    (hFrame : measure here.stage.connection +
        (here.stage.connection.dispatchText text).deliveries.dropLast.countP p =
      measure (here.stage.connection.dispatchText text).connection)
    (hClose : ∀ c : Connection, measure c + (own c.close.2.2).countP
        (fun telling => !telling.passedOn && p telling.delivery) = measure c.close.1) :
    (here.receive text).told.countP (fun telling => !telling.passedOn && p telling.delivery) =
      measure (here.receive text).stage.connection := by
  have hRead : measure (here.stage.connection.dispatchText text).connection =
      (here.told ++ ofFrame (here.stage.connection.dispatchText text).deliveries).countP
        (fun telling => !telling.passedOn && p telling.delivery) := by
    rw [List.countP_append, hHere, countP_ofFrame, hFrame]
  rw [here.receive_connection text, Audience.receive]
  dsimp only
  split
  · rw [List.append_nil, hRead]
  · rw [List.countP_append, ← hRead, hClose]

theorem Settled.receive {here : Audience} (hSettled : Settled here) (text : String) :
    Settled (here.receive text) := by
  obtain ⟨hLast, hClosedSame⟩ := Connection.dispatchText_same here.stage.connection text
  obtain ⟨hQuiet, hEnds⟩ := Connection.frame_told here.stage.connection text
  refine ⟨?_, ?_, ?_, fun n => ?_, ?_, ?_⟩
  · unfold Audience.receive
    dsimp only
    split
    · next hClosed => exact hSettled.matched.same hLast (Connection.frame_calls hClosed text)
    · next hOpen => exact hSettled.matched.receive (by simpa using hOpen) text
  · have hRead := hSettled.known.frame text
    rw [here.receive_connection text]
    split
    · exact hRead
    · cases hClosed : (here.stage.connection.dispatchText text).connection.closed with
      | true => rwa [Connection.close_closed hClosed]
      | false => exact hRead.close hClosed
  · refine receive_count Delivery.isLoss Connection.losses hSettled.losses ?_ losses_close
    rw [hQuiet, Nat.add_zero, Connection.losses, Connection.losses, hClosedSame]
  · exact receive_count (Delivery.isEndOf n) (Connection.endings · n) (hSettled.endings n)
      (hEnds n) (endings_close · n)
  · intro hAfter
    cases hClosed : here.stage.connection.closed with
    | true =>
      have hHeard := hSettled.heard hClosed
      simpa only [Audience.receive, hClosed, if_true] using hHeard
    | false =>
      rw [here.receive_connection text] at hAfter
      simp only [Audience.receive, hClosed, Bool.false_eq_true, if_false, Stage.receive]
      cases hFault : (here.stage.connection.dispatchText text).fault with
      | none =>
        simp only [hFault, hClosedSame, hClosed, Bool.false_eq_true] at hAfter
      | some e => exact lost_heard (by simp)
  · have hSame : (here.receive text).stage.ended = here.stage.ended := by
      unfold Audience.receive Stage.receive
      dsimp only
      split
      · rfl
      · split <;> rfl
    rw [hSame]
    exact hSettled.timely

/-! ### Acts of the senders -/

/-- The beginning of a session is not its end. -/
theorem endings_register {c after : Connection} {key target : Value} {m : Nat}
    (hRegister : c.register key target = .ok (m, after)) (n : Nat) :
    after.endings n = c.endings n := by
  cases hSession : c.session? n with
  | some session =>
    rw [Connection.endings, Connection.register_session hRegister hSession, Connection.endings,
      hSession]
  | none =>
    obtain ⟨-, -, rfl⟩ := Connection.register_ok hRegister
    have hOut : c.sessions.length ≤ n := List.getElem?_eq_none_iff.mp hSession
    rw [Connection.endings, Connection.endings, hSession, Connection.session?,
      List.getElem?_append_right hOut]
    cases n - c.sessions.length <;> rfl

/-- Own acts neither end sessions nor close the connection. -/
structure Spares (c after : Connection) : Prop where
  closed : after.closed = c.closed
  endings : ∀ n, after.endings n = c.endings n
  known : c.Known → after.Known

theorem Spares.same {c after : Connection} (hSame : c.SameSessions after) : Spares c after :=
  ⟨hSame.closed, Connection.endings_same hSame.session, fun hKnown => hKnown.same hSame⟩

theorem Step.spares {act : Act} {here there : Stage} (hStep : Step act here there)
    (hOwn : act.IsOwn) : Spares here.connection there.connection := by
  cases hStep with
  | frame => exact hOwn.elim
  | lose => exact hOwn.elim
  | begin hBegin =>
    obtain ⟨-, -, -, hOpen⟩ := begin_ok hBegin
    unfold Connection.begin at hBegin
    split at hBegin
    · cases hBegin
    · cases hBegin
      exact .same ⟨rfl, rfl, rfl⟩
  | register hRegister =>
    refine ⟨?_, endings_register hRegister, fun hKnown => hKnown.register hRegister⟩
    rw [(Connection.register_ok hRegister).2.2]
  | giveUp cause hMem hWaiting hLimit =>
    simp only [Stage.giveUp]
    split <;> exact .same ⟨rfl, rfl, rfl⟩
  | _ => exact .same ⟨rfl, rfl, rfl⟩

/-- After the end no command begins, and whoever knows of the end still does. -/
theorem Step.heard {act : Act} {here there : Stage} (hStep : Step act here there)
    (hOwn : act.IsOwn) (hClosed : here.connection.closed = true)
    (hHeard : ∀ sender ∈ here.senders, .lost ∈ sender.heard) :
    ∀ sender ∈ there.senders, .lost ∈ sender.heard := by
  have hAltered (number : Nat) (f : Sender → Sender)
      (hKeeps : ∀ s : Sender, .lost ∈ s.heard → .lost ∈ (f s).heard) :
      ∀ sender ∈ here.alter number f, .lost ∈ sender.heard := by
    intro sender hMem
    obtain ⟨before, hBefore, rfl⟩ := List.mem_map.mp hMem
    split
    · exact hKeeps before (hHeard before hBefore)
    · exact hHeard before hBefore
  cases hStep with
  | frame => exact hOwn.elim
  | lose => exact hOwn.elim
  | begin hBegin =>
    rw [Connection.begin, if_pos hClosed] at hBegin
    cases hBegin
  | write hMem hWriting => exact hAltered _ _ fun _ hLost => hLost
  | giveUp cause hMem hWaiting hLimit =>
    exact hAltered _ _ fun _ hLost => List.mem_append_left _ hLost
  | refuse => exact hHeard
  | register => exact hHeard
  | fail => exact fun sender hMem => hHeard sender (List.mem_of_mem_filter hMem)
  | answered => exact fun sender hMem => hHeard sender (List.mem_of_mem_filter hMem)
  | left => exact fun sender hMem => hHeard sender (List.mem_of_mem_filter hMem)

/-- Who is done with an own act is done in time. -/
theorem Step.timely {act : Act} {here there : Stage} (hStep : Step act here there)
    (hOwn : act.IsOwn) (hMatched : Matched here)
    (hTimely : ∀ sender result, (sender, result) ∈ here.ended → Timely sender result) :
    ∀ sender result, (sender, result) ∈ there.ended → Timely sender result := by
  have hConcluded (last : Sender) (outcome : Except Fault Value) (hLast : Timely last outcome) :
      ∀ sender result, (sender, result) ∈ (here.conclude last outcome).ended →
        Timely sender result := by
    intro sender result hMem
    rcases List.mem_append.mp hMem with hOld | hNew
    · exact hTimely sender result hOld
    · obtain ⟨rfl, rfl⟩ := Prod.mk.inj (List.mem_singleton.mp hNew)
      exact hLast
  cases hStep with
  | frame => exact hOwn.elim
  | lose => exact hOwn.elim
  | fail cause hMem hWriting =>
    exact hConcluded _ _ (Sender.unwritten_timely hOwn hWriting)
  | answered hMem hWaiting hAnswer =>
    exact hConcluded _ _ (hMatched.endsBy_answer hMem hWaiting hAnswer).timely
  | left hMem hLeaving =>
    exact hConcluded _ _ (hMatched.endsBy_givenUp hMem hLeaving).timely
  | _ => exact hTimely

theorem Settled.act {here : Audience} {act : Act} {stage : Stage} (hSettled : Settled here)
    (hOwn : act.IsOwn) (hStep : Step act here.stage stage) :
    Settled { here with stage := stage } := by
  have hSpares := hStep.spares hOwn
  refine ⟨hSettled.matched.step hStep, hSpares.known hSettled.known, ?_, fun n => ?_,
    fun hClosed => ?_, hStep.timely hOwn hSettled.matched hSettled.timely⟩
  · rw [Connection.losses, hSpares.closed]
    exact hSettled.losses
  · rw [hSpares.endings n]
    exact hSettled.endings n
  · have hBefore : here.stage.connection.closed = true := hSpares.closed.symm.trans hClosed
    exact hStep.heard hOwn hBefore (hSettled.heard hBefore)

/-- Whatever happens keeps it. -/
theorem Settled.happens {here there : Audience} (hSettled : Settled here)
    (hHappens : Happens here there) : Settled there := by
  cases hHappens with
  | act hStep hOwn => exact hSettled.act hOwn hStep
  | frame text => exact hSettled.receive text
  | close => exact hSettled.close

/-- Every run keeps it. -/
theorem Settled.run {here there : Audience} (hSettled : Settled here) (hRun : Run here there) :
    Settled there := by
  induction hRun with
  | refl => exact hSettled
  | tail _ hHappens ih => exact ih.happens hHappens

/-! ## The moment of the end -/

/-- What happens takes back no command and nothing that was told. -/
structure Grows (here there : Audience) : Prop where
  begun : here.stage.begun ⊆ there.stage.begun
  told : here.told <+: there.told
  closed : here.stage.connection.closed = true → there.stage.connection.closed = true

theorem Happens.grows {here there : Audience} (hHappens : Happens here there) :
    Grows here there := by
  cases hHappens with
  | act hStep hOwn =>
    refine ⟨?_, List.prefix_refl _, (hStep.spares hOwn).closed.trans⟩
    cases hStep with
    | frame => exact hOwn.elim
    | lose => exact hOwn.elim
    | begin hBegin => exact List.subset_append_left _ _
    | _ => exact List.Subset.refl _
  | frame text =>
    refine ⟨?_, ?_, fun hClosed => ?_⟩
    · unfold Audience.receive Stage.receive
      dsimp only
      split
      · exact List.Subset.refl _
      · split <;> exact List.Subset.refl _
    · unfold Audience.receive
      rw [List.append_assoc]
      exact List.prefix_append _ _
    · have hStays := (Connection.dispatchText_same here.stage.connection text).2.trans hClosed
      rw [here.receive_connection text]
      split
      · exact hStays
      · rw [Connection.close_closed hStays]
        exact hStays
  | close =>
    refine ⟨?_, List.prefix_append _ _, fun hClosed => ?_⟩
    · unfold Audience.close
      dsimp only
      split <;> exact List.Subset.refl _
    · rw [here.close_connection, Connection.close_closed hClosed]
      exact hClosed

theorem Run.grows {here there : Audience} (hRun : Run here there) : Grows here there := by
  induction hRun with
  | refl => exact ⟨List.Subset.refl _, List.prefix_refl _, id⟩
  | tail _ hHappens ih =>
    have hNext := hHappens.grows
    exact ⟨List.Subset.trans ih.begun hNext.begun, ih.told.trans hNext.told,
      hNext.closed ∘ ih.closed⟩

/-- A run at whose end the connection has closed has a moment at which it did. -/
theorem Run.closing {here now : Audience} (hRun : Run here now)
    (hOpen : here.stage.connection.closed = false) (hClosed : now.stage.connection.closed = true) :
    ∃ before after, Run here before ∧ Happens before after ∧ Run after now ∧
      before.stage.connection.closed = false ∧ after.stage.connection.closed = true := by
  induction hRun with
  | refl =>
    rw [hOpen] at hClosed
    cases hClosed
  | @tail last now hBefore hHappens ih =>
    cases hLast : last.stage.connection.closed with
    | false => exact ⟨last, now, hBefore, hHappens, .refl, hLast, hClosed⟩
    | true =>
      obtain ⟨before, after, hFirst, hThen, hRest, hEnds⟩ := ih hLast
      exact ⟨before, after, hFirst, hThen, hRest.tail hHappens, hEnds⟩

/-- Whatever closes the connection makes of it what the end of the socket does, and tells last
what the end of the socket tells. -/
theorem Happens.closing {here there : Audience} (hHappens : Happens here there)
    (hOpen : here.stage.connection.closed = false)
    (hClosed : there.stage.connection.closed = true) :
    there.stage.connection = here.stage.connection.close.1 ∧
      ∃ before, there.told = before ++ own here.stage.connection.close.2.2 := by
  cases hHappens with
  | act hStep hOwn =>
    rw [show _ = here.stage.connection.closed from (hStep.spares hOwn).closed, hOpen] at hClosed
    cases hClosed
  | close => exact ⟨here.close_connection, here.told, rfl⟩
  | frame text =>
    have hAfter := here.receive_connection text
    cases hFault : (here.stage.connection.dispatchText text).fault with
    | none =>
      -- A frame that is understood does not close the connection.
      rw [hFault] at hAfter
      rw [hAfter, show _ = here.stage.connection.closed from
        (Connection.dispatchText_same here.stage.connection text).2, hOpen] at hClosed
      cases hClosed
    | some e =>
      have hSame := (Connection.dispatchText_fault hFault).1
      rw [hFault, hSame] at hAfter
      refine ⟨hAfter, here.told ++ ofFrame (here.stage.connection.dispatchText text).deliveries, ?_⟩
      simp only [Audience.receive, hFault, hSame]

/-- The end of the connection is told last, and before it the end of each session that a key
reaches. -/
theorem Settled.farewell {here there : Audience} (hSettled : Settled here)
    (hHappens : Happens here there) (hOpen : here.stage.connection.closed = false)
    (hClosed : there.stage.connection.closed = true) :
    ∃ earlier, there.told = earlier ++ [⟨.browser "disconnected" .null, false⟩] ∧
      ∀ key n, (key, n) ∈ here.stage.connection.table →
        there.stage.connection.isDetached n = true ∧ earlier.countP (Telling.isEndOf n) = 1 := by
  obtain ⟨hThere, before, hTold⟩ := hHappens.closing hOpen hClosed
  obtain ⟨told, hLast, -, -⟩ := Connection.close_told hOpen
  have hSplit : there.told = (before ++ own told) ++ [⟨.browser "disconnected" .null, false⟩] := by
    rw [hTold, hLast, own, List.map_append, List.append_assoc]
    rfl
  refine ⟨before ++ own told, hSplit, fun key n hMem => ?_⟩
  have hOver : there.stage.connection.Over n := by
    obtain ⟨session, hSession, -⟩ := hSettled.known.session _ hMem
    refine ⟨Connection.ended session, ?_, rfl⟩
    rw [hThere, Connection.close_session hOpen, if_pos (List.mem_map.mpr ⟨_, hMem, rfl⟩), hSession]
    rfl
  refine ⟨hOver.isDetached, ?_⟩
  -- All that was told of this session's end was told before.
  have hCount := (hSettled.happens hHappens).endings n
  rw [hSplit, List.countP_append, hOver.endings] at hCount
  exact hCount

/-- What holds `now` of a connection that closed on the way from `here` to `there`. -/
structure ClosedOnce (here there now : Audience) : Prop where
  wasOpen : here.stage.connection.closed = false
  isClosed : there.stage.connection.closed = true
  farewell : ∃ earlier, there.told = earlier ++ [⟨.browser "disconnected" .null, false⟩] ∧
    ∀ key n, (key, n) ∈ here.stage.connection.table →
      there.stage.connection.isDetached n = true ∧ earlier.countP (Telling.isEndOf n) = 1
  /-- What was told then stays told. -/
  told : there.told <+: now.told
  once : now.told.countP Telling.isLoss = 1
  endings : ∀ n, now.told.countP (Telling.isEndOf n) ≤ 1
  pending : now.stage.connection.pending = []
  /-- Nobody waits for an answer any more: who is not done has one. -/
  answered : ∀ sender ∈ now.stage.senders, ∃ answer,
    now.stage.connection.answer? sender.number = some answer ∧
      (sender.stand = .waiting → Timely sender answer)
  /-- Who was not done then is done in time, unless it is still about to be. -/
  outstanding : ∀ sender ∈ here.stage.senders,
    sender.number ∈ now.stage.senders.map Sender.number ∨
      ∃ last result, (last, result) ∈ now.stage.ended ∧ last.number = sender.number ∧
        Timely last result
  refuses : ∀ method,
    now.stage.connection.begin method = .error (.protocol s!"{method}: connection closed")
  /-- A command that comes too late changes nothing in a rehearsal; no frame is sent. -/
  unsent : ∀ {α : Type} (w : World α) (task : Nat) (key : Value) (method : String)
    (params limit : Value), w.connection = now.stage.connection →
    w.beginSend task key method params limit =
      .answered w (.error (.protocol s!"{method}: connection closed"))

/-- Nobody waits for an answer after the end. -/
theorem Settled.answered {now : Audience} (hSettled : Settled now)
    (hClosed : now.stage.connection.closed = true) {sender : Sender}
    (hMem : sender ∈ now.stage.senders) :
    ∃ answer, now.stage.connection.answer? sender.number = some answer ∧
      (sender.stand = .waiting → Timely sender answer) := by
  have hLost := hSettled.heard hClosed sender hMem
  obtain ⟨answer, hVerdict⟩ : ∃ answer, sender.verdict = some answer := by
    rw [← Option.isSome_iff_exists, Sender.verdict, List.findSome?_isSome_iff]
    exact ⟨.lost, hLost, rfl⟩
  have hAnswer := (hSettled.matched.answer? hMem).trans hVerdict
  exact ⟨answer, hAnswer, fun hWaiting =>
    (hSettled.matched.endsBy_answer hMem hWaiting hAnswer).timely⟩

/-- Who was not done at one time is done later, or still is not. -/
theorem Settled.outstanding {here now : Audience} (hSettled : Settled here) (hNow : Settled now)
    (hGrows : Grows here now) {sender : Sender} (hMem : sender ∈ here.stage.senders) :
    sender.number ∈ now.stage.senders.map Sender.number ∨
      ∃ last result, (last, result) ∈ now.stage.ended ∧ last.number = sender.number ∧
        Timely last result := by
  have hBegun : sender.number ∈ now.stage.begun := by
    have hNumber := List.mem_map_of_mem (f := Sender.number) hMem
    rw [hSettled.matched.outstanding] at hNumber
    exact hGrows.begun (List.mem_of_mem_filter hNumber)
  by_cases hDone : sender.number ∈ now.stage.ended.map (·.1.number)
  · obtain ⟨⟨last, result⟩, hPair, hNumber⟩ := List.mem_map.mp hDone
    exact .inr ⟨last, result, hPair, hNumber, hNow.timely last result hPair⟩
  · left
    rw [hNow.matched.outstanding]
    exact List.mem_filter.mpr ⟨hBegun, by simpa using hDone⟩

/-- **The end of a connection.** In every run at whose end the connection has closed, there is one
moment at which it did. The sessions that a key reached then came to their ends and told so, and
after them the connection told its own end, which it never did before and never does again. No
command is left that an answer could reach, and nobody who waits lacks one; every command that was
outstanding ends with a fault of the connection, because it was called off, or with a reply that
was read before; and every command after that is refused, and no frame is sent for it. -/
theorem closed_once {now : Audience} (hRun : Run {} now)
    (hClosed : now.stage.connection.closed = true) :
    ∃ here there, Run {} here ∧ Happens here there ∧ Run there now ∧ ClosedOnce here there now := by
  obtain ⟨here, there, hBefore, hHappens, hAfter, hWasOpen, hIsClosed⟩ := hRun.closing rfl hClosed
  have hHere := Settled.start.run hBefore
  have hNow := Settled.start.run hRun
  have hGrows : Grows here now := Run.grows (hAfter.head hHappens)
  have hRefuses (method : String) :
      now.stage.connection.begin method = .error (.protocol s!"{method}: connection closed") :=
    if_pos hClosed
  refine ⟨here, there, hBefore, hHappens, hAfter, hWasOpen, hIsClosed,
    hHere.farewell hHappens hWasOpen hIsClosed, (Run.grows hAfter).told, ?_, fun n => ?_, ?_,
    fun _ hMem => hNow.answered hClosed hMem, fun _ hMem => hHere.outstanding hNow hGrows hMem,
    hRefuses, ?_⟩
  · rw [hNow.losses, Connection.losses, hClosed, Bool.toNat_true]
  · rw [hNow.endings n]
    exact Connection.endings_le_one _ n
  · rw [Connection.pending, if_pos hClosed]
  · intro α w task key method params limit hConnection
    rw [World.beginSend, hConnection, hRefuses]

/-- The socket ends while a session is known and three commands are outstanding: one has just got
its reply, one waits, and the frame of one is being written. Whoever hangs up notices it again. -/
theorem closed_once_noticed_twice :
    ∃ now : Audience, Run {} now ∧ now.stage.connection.closed = true ∧
      now.told = own [.session 0 "detached" .null, .browser "disconnected" .null] ∧
      now.stage.ended.map (fun pair => (pair.1.number, pair.2)) =
        [(1, .ok (.object [])), (2, Connection.gone),
          (3, .error (.protocol "C: connection closed"))] ∧
      ∃ here there, Run {} here ∧ Happens here there ∧ Run there now ∧
        ClosedOnce here there now := by
  let reply := "\x7b\"id\":1\x7d"
  have hReply : Connection.members? reply = some [("id", .int 1)] := by cbv
  let sender (number : Nat) (method : String) (stand : Stand) (heard : List Notice) : Sender :=
    ⟨number, method, none, stand, heard⟩
  let live (detached : Bool) : Session := ⟨.str "S1", .str "T1", detached⟩
  let table : List (Value × Nat) := [(.str "S1", 0)]
  let calls : List Call := [⟨1, none⟩, ⟨2, none⟩, ⟨3, none⟩]
  have hBegun : Run {} ⟨⟨⟨3, calls, [], [], false⟩, [sender 1 "A" .writing [],
      sender 2 "B" .writing [], sender 3 "C" .writing []], [1, 2, 3], []⟩, []⟩ :=
    ((Relation.ReflTransGen.refl.tail
      (.act (show Step (.begin "A" none) _ _ from .begin rfl) trivial)).tail
      (.act (show Step (.begin "B" none) _ _ from .begin rfl) trivial)).tail
      (.act (show Step (.begin "C" none) _ _ from .begin rfl) trivial)
  have hWritten : Run {} ⟨⟨⟨3, calls, [], [], false⟩, [sender 1 "A" .waiting [],
      sender 2 "B" .waiting [], sender 3 "C" .writing []], [1, 2, 3], []⟩, []⟩ :=
    (hBegun.tail (.act (.write (show sender 1 "A" .writing [] ∈ _ from .head _) rfl) trivial)).tail
      (.act (.write (show sender 2 "B" .writing [] ∈ _ from .tail _ (.head _)) rfl) trivial)
  have hKnown : Run {} ⟨⟨⟨3, calls, [live false], table, false⟩, [sender 1 "A" .waiting [],
      sender 2 "B" .waiting [], sender 3 "C" .writing []], [1, 2, 3], []⟩, []⟩ :=
    hWritten.tail
      (.act (show Step (.register (.str "S1") (.str "T1")) _ _ from .register rfl) trivial)
  have hRead := hKnown.tail (.frame reply)
  rw [show Audience.receive _ _ = (⟨⟨⟨3, [⟨1, some (.ok (.object []))⟩, ⟨2, none⟩, ⟨3, none⟩],
      [live false], table, false⟩, [sender 1 "A" .waiting [.frame reply],
        sender 2 "B" .waiting [.frame reply], sender 3 "C" .writing [.frame reply]], [1, 2, 3], []⟩,
      []⟩ : Audience) by
    unfold Audience.receive Stage.receive
    rw [Connection.dispatchText_some _ hReply]
    rfl] at hRead
  have hClosed : Run {} ⟨⟨⟨3, [⟨1, some (.ok (.object []))⟩, ⟨2, some Connection.gone⟩,
      ⟨3, some Connection.gone⟩], [live true], [], true⟩,
      [sender 1 "A" .waiting [.frame reply, .lost], sender 2 "B" .waiting [.frame reply, .lost],
        sender 3 "C" .writing [.frame reply, .lost]], [1, 2, 3], []⟩,
      own [.session 0 "detached" .null, .browser "disconnected" .null]⟩ :=
    (hRead.tail .close).tail .close
  have hFirst := hClosed.tail (.act (.answered
    (show sender 1 "A" .waiting [.frame reply, .lost] ∈ _ from .head _) rfl rfl) trivial)
  have hSecond := hFirst.tail (.act (.answered
    (show sender 2 "B" .waiting [.frame reply, .lost] ∈ _ from .head _) rfl rfl) trivial)
  have hThird := hSecond.tail (.act (.fail .socketClosed
    (show sender 3 "C" .writing [.frame reply, .lost] ∈ _ from .head _) rfl) (.inl rfl))
  exact ⟨_, hThird, rfl, rfl, rfl, closed_once hThird rfl⟩

end CallRun

end PageReporter
