import Mathlib.Data.List.Nodup
import PageReporter.Proofs.Listeners

/-!
# Runs of commands over one connection

Any number of senders share a connection. Each asks for a number, has its frame written, waits,
and is done when it has an answer or gives up. In between come frames from the other side, in any
order, and at some time the end of the socket. Here each of these is one act on the connection,
and a run is a list of acts in any order.

* `Connection.reply?` — what a frame says to the command with a number;
* `Connection.dispatch_calls`, `Connection.close_calls` — what a frame and the end of the socket
  make of the commands that are outstanding;
* `CallRun.Sender`, `CallRun.Stage` — those who send, and the connection they share;
* `CallRun.Step` — one act; `CallRun.Steps` — a run;
* `CallRun.beginSend_cases`, `CallRun.poll_send` — what a sender of a rehearsal does to the
  connection are such acts.

Only `Sender.heard`, `Stage.begun` and `Stage.ended` are a history that no act looks at.
-/

namespace PageReporter

namespace Connection

/-! ## What a frame says to a command -/

/-- What a command gets when the socket is gone. -/
def gone : Except Fault Value :=
  .error (.protocol "Connection closed")

/-- What a frame that bears the number of a command says to it. A frame whose error cannot be
understood is the end of the connection. -/
def reply (members : List (String × Value)) : Except Fault Value :=
  match Value.find? "error" members with
  | some error =>
    match errorText error with
    | .ok text => .error (.protocol text)
    | .error _ => gone
  | none => .ok ((Value.find? "result" members).getD (.object []))

/-- What a frame says to the command with a number, if it bears that number. -/
def replyTo? (number : Nat) (members : List (String × Value)) : Option (Except Fault Value) :=
  match Value.find? "id" members with
  | some id => if (Value.int number).same id then some (reply members) else none
  | none => none

/-- The members of a frame, unless its text is no JSON object. -/
def members? (text : String) : Option (List (String × Value)) :=
  match Json.ofText text with
  | .ok (.object members) => some members
  | _ => none

/-- What the text of a frame says to the command with a number, if it bears that number. -/
def reply? (number : Nat) (text : String) : Option (Except Fault Value) :=
  (members? text).bind (replyTo? number)

theorem members?_some {text : String} {members : List (String × Value)}
    (hMembers : members? text = some members) : Json.ofText text = .ok (.object members) := by
  unfold members? at hMembers
  cases hText : Json.ofText text with
  | error e =>
    rw [hText] at hMembers
    cases hMembers
  | ok v =>
    rw [hText] at hMembers
    cases v with
    | object ms =>
      cases hMembers
      rfl
    | _ => cases hMembers

theorem dispatchText_some (c : Connection) {text : String} {members : List (String × Value)}
    (hMembers : members? text = some members) : c.dispatchText text = c.dispatch members := by
  rw [dispatchText, members?_some hMembers]

theorem dispatchText_none (c : Connection) {text : String} (hMembers : members? text = none) :
    c.dispatchText text = c.unchanged := by
  unfold members? at hMembers
  unfold dispatchText
  cases hText : Json.ofText text with
  | error e => rfl
  | ok v =>
    rw [hText] at hMembers
    cases v with
    | object ms => cases hMembers
    | _ => rfl

/-- No frame bears the numbers of two commands. -/
theorem same_number {m n : Nat} {id : Value} (hFirst : (Value.int m).same id = true)
    (hSecond : (Value.int n).same id = true) : m = n := by
  cases id with
  | bool b =>
    simp only [Value.same, Value.number?, Value.sameNumber, beq_iff_eq] at hFirst hSecond
    omega
  | int i =>
    simp only [Value.same, Value.number?, Value.sameNumber, beq_iff_eq] at hFirst hSecond
    omega
  | bigint i =>
    simp only [Value.same, Value.number?, Value.sameNumber, beq_iff_eq] at hFirst hSecond
    omega
  | double x =>
    -- A double is measured in units, of which every whole number has its own count.
    simp only [Value.same, Value.number?, Value.sameNumber, Value.sameSize, beq_iff_eq]
      at hFirst hSecond
    rw [hFirst, Option.some.injEq] at hSecond
    have hUnits : (Double.unitsPerOne : Int) ≠ 0 := by
      have := twoTo_pos 1074
      simp only [Double.unitsPerOne]
      omega
    exact Int.ofNat.inj (Int.eq_of_mul_eq_mul_right hUnits hSecond)
  | _ => simp [Value.same, Value.number?] at hFirst

/-- What cannot be a key is no number. -/
theorem same_isKey {n : Nat} {id : Value} (hSame : (Value.int n).same id = true) :
    id.asKey = .ok id := by
  cases id with
  | list items => simp [Value.same, Value.number?] at hSame
  | object members => simp [Value.same, Value.number?] at hSame
  | _ => rfl

/-! ## What becomes of outstanding commands -/

/-- A frame leaves the count of commands and the state of the socket as they are. -/
structure Kept (c after : Connection) : Prop where
  lastNumber : after.lastNumber = c.lastNumber
  calls : after.calls = c.calls
  closed : after.closed = c.closed

theorem detach_kept (c : Connection) (number : Nat) : Kept c (c.detach number).1 := by
  unfold detach
  split
  · exact ⟨rfl, rfl, rfl⟩
  · exact ⟨rfl, rfl, rfl⟩

theorem detachAll_kept (numbers : List Nat) (c : Connection) :
    Kept c (detachAll numbers c).1 := by
  induction numbers generalizing c with
  | nil => exact ⟨rfl, rfl, rfl⟩
  | cons number rest ih =>
    have hFirst := detach_kept c number
    have hRest := ih (c.detach number).1
    exact ⟨hRest.lastNumber.trans hFirst.lastNumber, hRest.calls.trans hFirst.calls,
      hRest.closed.trans hFirst.closed⟩

/-- A frame of a session never changes the connection. -/
theorem dispatchSession_connection (c : Connection) (key : Value) (method : String)
    (params : Value) : (c.dispatchSession key method params).connection = c := by
  unfold dispatchSession
  split
  · rfl
  · split <;> rfl

theorem dispatchBrowser_kept (c : Connection) (method : String) (params : Value) :
    Kept c (c.dispatchBrowser method params).connection := by
  unfold dispatchBrowser
  split
  · split
    · exact ⟨rfl, rfl, rfl⟩
    · next key _ =>
      split
      · next number _ =>
        have hDetached := detach_kept (c.dropKey key) number
        exact ⟨hDetached.lastNumber, hDetached.calls, hDetached.closed⟩
      · exact ⟨rfl, rfl, rfl⟩
  · exact ⟨rfl, rfl, rfl⟩

/-- A frame of the browser that is not understood does not change it either. -/
theorem dispatchBrowser_fault {c : Connection} {method : String} {params : Value} {e : Fault}
    (hFault : (c.dispatchBrowser method params).fault = some e) :
    (c.dispatchBrowser method params).connection = c := by
  unfold dispatchBrowser at hFault ⊢
  split at hFault
  · next hMethod =>
    rw [if_pos hMethod]
    cases hKey : c.detachedKey params with
    | error f => rfl
    | ok key =>
      simp only [hKey] at hFault
      split at hFault <;> cases hFault
  · cases hFault

/-- A command keeps the answer that it has; otherwise it takes one that has come for it. -/
def take (answer : Nat → Option (Except Fault Value)) (call : Call) : Call :=
  ⟨call.number, call.answer.or (answer call.number)⟩

theorem take_nothing : take (fun _ => none) = id := by
  funext call
  rw [take, Option.or_none, id]

/-- The command that a frame finds waiting bears the frame's number and has no answer. -/
theorem awaiting?_some {c : Connection} {id : Value} {n : Nat} (hOpen : c.closed = false)
    (hAwaiting : c.awaiting? id = some n) :
    ⟨n, none⟩ ∈ c.calls ∧ (Value.int n).same id = true := by
  unfold awaiting? at hAwaiting
  rw [if_neg (by simp [hOpen])] at hAwaiting
  split at hAwaiting
  · next hFound =>
    obtain rfl := Option.some.inj hAwaiting
    have hSame := List.find?_some hFound
    exact ⟨List.mem_of_find?_eq_some hFound, hSame⟩
  · cases hAwaiting

/-- The number of a frame that finds a command waiting can be a key. -/
theorem awaiting?_asKey {c : Connection} {id : Value} {n : Nat}
    (hAwaiting : c.awaiting? id = some n) : id.asKey = .ok id := by
  cases hClosed : c.closed with
  | true =>
    rw [awaiting?, if_pos hClosed] at hAwaiting
    cases hAwaiting
  | false => exact same_isKey (awaiting?_some hClosed hAwaiting).2

/-- Where a frame finds no command waiting, every command that bears its number has an answer. -/
theorem awaiting?_none {c : Connection} {id : Value} (hOpen : c.closed = false)
    (hNodup : (c.calls.map Call.number).Nodup) (hAwaiting : c.awaiting? id = none) :
    ∀ call ∈ c.calls, (Value.int call.number).same id = true → call.answer ≠ none := by
  intro call hMem hSame hAnswer
  unfold awaiting? at hAwaiting
  rw [if_neg (by simp [hOpen])] at hAwaiting
  -- The first command that bears the number is this one, as no other does.
  obtain ⟨first, hFirst⟩ : ∃ first,
      (c.calls.find? fun call => (Value.int call.number).same id) = some first := by
    rw [← Option.isSome_iff_exists, List.find?_isSome]
    exact ⟨call, hMem, hSame⟩
  have hFirstSame : (Value.int first.number).same id = true := by
    simpa using List.find?_some hFirst
  have hNumber : first.number = call.number := same_number hFirstSame hSame
  obtain rfl := List.inj_on_of_nodup_map hNodup (List.mem_of_find?_eq_some hFirst) hMem hNumber
  rw [hFirst] at hAwaiting
  obtain ⟨number, answer⟩ := first
  simp only at hAnswer
  rw [hAnswer] at hAwaiting
  cases hAwaiting

/-- Settling a command that has no answer gives one to it and to no other. -/
theorem settle_calls {c : Connection} {n : Nat} (hNodup : (c.calls.map Call.number).Nodup)
    (hMem : ⟨n, none⟩ ∈ c.calls) (answer : Except Fault Value) :
    (c.settle n answer).calls =
      c.calls.map (take fun number => if number = n then some answer else none) := by
  apply List.map_congr_left
  intro call hCall
  by_cases hNumber : call.number = n
  · -- The command with this number is the one that waits, so it has no answer to keep.
    obtain rfl := List.inj_on_of_nodup_map hNodup hCall hMem hNumber
    simp [take]
  · simp [take, hNumber]

/-- What a frame that bears an id says to the commands. -/
theorem replyTo?_of_id {members : List (String × Value)} {id : Value}
    (hId : Value.find? "id" members = some id) (number : Nat) :
    replyTo? number members =
      if (Value.int number).same id then some (reply members) else none := by
  rw [replyTo?, hId]

/-- A frame for which no command waits tells no command anything new. -/
theorem take_answered {c : Connection} {members : List (String × Value)}
    (hAnswered : ∀ call ∈ c.calls, replyTo? call.number members ≠ none → call.answer ≠ none) :
    c.calls.map (take (replyTo? · members)) = c.calls := by
  rw [List.map_congr_left (g := id), List.map_id]
  intro call hMem
  -- A command that has an answer keeps it, and to one that has none nothing is said.
  cases hAnswer : call.answer with
  | some answer => rw [take, hAnswer, Option.some_or, ← hAnswer, id]
  | none =>
    have hNone : replyTo? call.number members = none := by
      by_contra hReply
      exact hAnswered call hMem hReply hAnswer
    rw [take, hAnswer, hNone, Option.none_or, ← hAnswer, id]

/-- What a frame with an id makes of the connection, if it is understood: it either finds no
command waiting and changes nothing, or settles the one that waits. -/
theorem dispatchAnswer_cases (c : Connection) (id : Value) (members : List (String × Value)) :
    (∃ e, c.dispatchAnswer id members = c.failing e ∧
      (id.asKey ≠ .ok id ∨ reply members = gone)) ∨
    (c.awaiting? id = none ∧ c.dispatchAnswer id members = c.unchanged) ∨
    (∃ n, c.awaiting? id = some n ∧
      c.dispatchAnswer id members = ⟨c.settle n (reply members), some n, [], none⟩) := by
  cases hKey : id.asKey with
  | error e => exact .inl ⟨e, by rw [dispatchAnswer, hKey], .inl nofun⟩
  | ok key =>
    obtain ⟨-, rfl⟩ := Value.asKey_ok_iff.mp hKey
    cases hAwaiting : c.awaiting? key with
    | none => exact .inr (.inl ⟨rfl, by simp only [dispatchAnswer, hKey, hAwaiting]⟩)
    | some n =>
      cases hError : Value.find? "error" members with
      | none =>
        refine .inr (.inr ⟨n, rfl, ?_⟩)
        simp only [dispatchAnswer, hKey, hAwaiting, hError, reply]
      | some error =>
        cases hText : errorText error with
        | ok text =>
          refine .inr (.inr ⟨n, rfl, ?_⟩)
          simp only [dispatchAnswer, hKey, hAwaiting, hError, hText, reply]
        | error e =>
          refine .inl ⟨e, ?_, .inr ?_⟩
          · simp only [dispatchAnswer, hKey, hAwaiting, hError, hText]
          · simp only [hError, hText, reply]

/-- **What a frame makes of the commands.** A frame that is understood gives every command whose
number it bears what it says, unless that command has an answer. -/
theorem dispatch_calls {c : Connection} (hOpen : c.closed = false)
    (hNodup : (c.calls.map Call.number).Nodup) {members : List (String × Value)}
    (hUnderstood : (c.dispatch members).fault = none) :
    (c.dispatch members).connection.calls = c.calls.map (take (replyTo? · members)) := by
  unfold dispatch at hUnderstood ⊢
  cases hId : Value.find? "id" members with
  | none =>
    have hNone : ∀ call ∈ c.calls, replyTo? call.number members ≠ none → call.answer ≠ none := by
      intro call _ hReply
      rw [replyTo?, hId] at hReply
      exact absurd rfl hReply
    rw [take_answered hNone]
    simp only
    split
    · split
      · rw [dispatchSession_connection]
      · exact (dispatchBrowser_kept ..).calls
    · rfl
  | some id =>
    simp only [hId] at hUnderstood ⊢
    rcases c.dispatchAnswer_cases id members with
      ⟨e, hFails, -⟩ | ⟨hAwaiting, hStays⟩ | ⟨n, hAwaiting, hSettles⟩
    · rw [hFails] at hUnderstood
      cases hUnderstood
    · rw [hStays, take_answered]
      · rfl
      · intro call hMem hReply
        refine awaiting?_none hOpen hNodup hAwaiting call hMem ?_
        rw [replyTo?_of_id hId] at hReply
        by_contra hOther
        exact hReply (if_neg hOther)
    · obtain ⟨hMem, hSame⟩ := awaiting?_some hOpen hAwaiting
      rw [hSettles]
      show (c.settle n (reply members)).calls = _
      rw [settle_calls hNodup hMem]
      congr 2
      funext number
      rw [replyTo?_of_id hId]
      by_cases hNumber : number = n
      · rw [if_pos hNumber, hNumber, if_pos hSame]
      · rw [if_neg hNumber, if_neg fun hOther => hNumber (same_number hOther hSame)]

/-- A frame that is not understood leaves the connection as it is, and what it says to a command
whose number it bears is that the connection is gone. -/
theorem dispatch_fault {c : Connection} {members : List (String × Value)} {e : Fault}
    (hFault : (c.dispatch members).fault = some e) :
    (c.dispatch members).connection = c ∧
      ∀ number answer, replyTo? number members = some answer → answer = gone := by
  unfold dispatch at hFault ⊢
  cases hId : Value.find? "id" members with
  | none =>
    refine ⟨?_, fun number answer hReply => by rw [replyTo?, hId] at hReply; cases hReply⟩
    simp only [hId] at hFault ⊢
    split at hFault
    · split at hFault
      · next hTruthy =>
        rw [if_pos hTruthy, dispatchSession_connection]
      · next hTruthy =>
        rw [if_neg hTruthy]
        exact dispatchBrowser_fault hFault
    · cases hFault
  | some id =>
    simp only [hId] at hFault ⊢
    rcases c.dispatchAnswer_cases id members with
      ⟨f, hFails, hWhy⟩ | ⟨-, hStays⟩ | ⟨n, -, hSettles⟩
    · rw [hFails]
      refine ⟨rfl, fun number answer hReply => ?_⟩
      rw [replyTo?_of_id hId] at hReply
      split at hReply
      · next hSame =>
        rcases hWhy with hKey | hGone
        · exact absurd (same_isKey hSame) hKey
        · exact (Option.some.inj hReply).symm.trans hGone
      · cases hReply
    · rw [hStays] at hFault
      cases hFault
    · rw [hSettles] at hFault
      cases hFault

/-- Frames neither number commands nor close the connection. -/
theorem dispatch_same (c : Connection) (members : List (String × Value)) :
    (c.dispatch members).connection.lastNumber = c.lastNumber ∧
      (c.dispatch members).connection.closed = c.closed := by
  unfold dispatch
  split
  · next id _ =>
    rcases c.dispatchAnswer_cases id members with ⟨e, hFails, -⟩ | ⟨-, hStays⟩ | ⟨n, -, hSettles⟩
    · rw [hFails]
      exact ⟨rfl, rfl⟩
    · rw [hStays]
      exact ⟨rfl, rfl⟩
    · rw [hSettles]
      exact ⟨rfl, rfl⟩
  · split
    · dsimp only
      split
      · rw [dispatchSession_connection]
        exact ⟨rfl, rfl⟩
      · have hKept := dispatchBrowser_kept c
        exact ⟨(hKept _ _).lastNumber, (hKept _ _).closed⟩
    · exact ⟨rfl, rfl⟩

/-! ### Frames as texts -/

theorem dispatchText_calls {c : Connection} (hOpen : c.closed = false)
    (hNodup : (c.calls.map Call.number).Nodup) {text : String}
    (hUnderstood : (c.dispatchText text).fault = none) :
    (c.dispatchText text).connection.calls = c.calls.map (take (reply? · text)) := by
  unfold reply?
  cases hMembers : members? text with
  | some members =>
    rw [c.dispatchText_some hMembers] at hUnderstood ⊢
    exact dispatch_calls hOpen hNodup hUnderstood
  | none =>
    rw [c.dispatchText_none hMembers]
    simp only [Option.bind_none, take_nothing, List.map_id]
    rfl

theorem dispatchText_fault {c : Connection} {text : String} {e : Fault}
    (hFault : (c.dispatchText text).fault = some e) :
    (c.dispatchText text).connection = c ∧
      ∀ number answer, reply? number text = some answer → answer = gone := by
  unfold reply?
  cases hMembers : members? text with
  | some members =>
    rw [c.dispatchText_some hMembers] at hFault ⊢
    exact dispatch_fault hFault
  | none =>
    rw [c.dispatchText_none hMembers] at hFault
    cases hFault

theorem dispatchText_same (c : Connection) (text : String) :
    (c.dispatchText text).connection.lastNumber = c.lastNumber ∧
      (c.dispatchText text).connection.closed = c.closed := by
  cases hMembers : members? text with
  | some members =>
    rw [c.dispatchText_some hMembers]
    exact dispatch_same c members
  | none =>
    rw [c.dispatchText_none hMembers]
    exact ⟨rfl, rfl⟩

/-! ### The end of the socket -/

/-- The end of the socket gives every command that has no answer the same one. -/
theorem close_calls {c : Connection} (hOpen : c.closed = false) :
    c.close.1.calls = c.calls.map (take fun _ => some gone) ∧
      c.close.1.lastNumber = c.lastNumber ∧ c.close.1.closed = true := by
  have hAbort : c.calls.map abort = c.calls.map (take fun _ => some gone) := by
    apply List.map_congr_left
    rintro ⟨number, _ | answer⟩ - <;> rfl
  have hKept := detachAll_kept (c.table.map Prod.snd)
    ⟨c.lastNumber, c.calls.map abort, c.sessions, c.table, true⟩
  unfold close
  rw [if_neg (by simp [hOpen])]
  exact ⟨hKept.calls.trans hAbort, hKept.lastNumber, rfl⟩

end Connection

namespace CallRun

/-! ## Senders -/

/-- Why a sender stops waiting. -/
inductive Cause
  | late
  | calledOff

/-- What comes to a sender's notice while its command is outstanding. -/
inductive Notice
  | frame (text : String)
  /-- The socket is gone. -/
  | lost
  | gaveUp (cause : Cause)

/-- What a sender is doing. -/
inductive Stand
  /-- Its frame is being written. -/
  | writing
  | waiting
  /-- It has given up, but is not done yet. -/
  | leaving (cause : Cause)

/-- A sender whose command is outstanding. -/
structure Sender where
  number : Nat
  method : String
  /-- How many seconds it waits, unless it waits as long as it takes. -/
  limit : Option Double
  stand : Stand := .writing
  /-- What has come to its notice, in order. -/
  heard : List Notice := []

namespace Sender

/-- A sender takes notice of things, one after the other. -/
def hear (notices : List Notice) (sender : Sender) : Sender :=
  { sender with heard := sender.heard ++ notices }

/-- What a sender that gives up comes to. -/
def givenUp (sender : Sender) : Cause → Except Fault Value
  | .late =>
    match sender.limit with
    | some limit => World.timedOut sender.method (.double limit)
    | none => .error .cancelled
  | .calledOff => .error .cancelled

/-- What a sender whose frame could not be written comes to. -/
def unwritten (sender : Sender) : Fault → Except Fault Value
  | .socketClosed => .error (.protocol s!"{sender.method}: connection closed")
  | e => .error e

end Sender

/-! ## Stages -/

/-- A connection and those who share it. -/
structure Stage where
  connection : Connection := {}
  senders : List Sender := []
  /-- The numbers of all commands there have been, in order. -/
  begun : List Nat := []
  /-- The senders that are done, with what they came to, in order. -/
  ended : List (Sender × Except Fault Value) := []

namespace Stage

/-- Changes the sender with a number. -/
def alter (stage : Stage) (number : Nat) (f : Sender → Sender) : List Sender :=
  stage.senders.map fun sender => if sender.number = number then f sender else sender

/-- A sender is done. -/
def conclude (stage : Stage) (sender : Sender) (result : Except Fault Value) : Stage :=
  { stage with
    connection := stage.connection.finish sender.number
    senders := stage.senders.filter fun other => other.number ≠ sender.number
    ended := stage.ended ++ [(sender, result)] }

/-- The socket is gone. -/
def lose (stage : Stage) : Stage :=
  { stage with
    connection := stage.connection.close.1
    senders := stage.senders.map (Sender.hear [.lost]) }

/-- A frame comes in. One that is not understood is the end of the connection. -/
def receive (stage : Stage) (text : String) : Stage :=
  let outcome := stage.connection.dispatchText text
  match outcome.fault with
  | none =>
    { stage with
      connection := outcome.connection
      senders := stage.senders.map (Sender.hear [.frame text]) }
  | some _ =>
    { stage with
      connection := outcome.connection.close.1
      senders := stage.senders.map (Sender.hear [.frame text, .lost]) }

/-- A sender gives up: an answer that comes later does not reach it. -/
def giveUp (stage : Stage) (sender : Sender) (cause : Cause) : Stage :=
  { stage with
    connection := match stage.connection.answer? sender.number with
      | some _ => stage.connection
      | none => stage.connection.settle sender.number (.error .cancelled)
    senders := stage.alter sender.number fun s =>
      { s with stand := .leaving cause, heard := s.heard ++ [.gaveUp cause] } }

end Stage

/-! ## Acts -/

/-- One thing that happens to a connection or to one of its senders. -/
inductive Act
  | begin (method : String) (limit : Option Double)
  /-- A sender's frame has been written. -/
  | write (number : Nat)
  /-- A sender's frame could not be written. -/
  | fail (number : Nat) (cause : Fault)
  /-- A sender stops waiting. -/
  | giveUp (number : Nat) (cause : Cause)
  /-- A sender that has an answer, or has given up, goes on. -/
  | resume (number : Nat)
  /-- A session begins. -/
  | register (key target : Value)
  | frame (text : String)
  | lose

/-- One act. Frames come in, and the socket ends, while the connection is open. -/
inductive Step : Act → Stage → Stage → Prop
  | begin {stage : Stage} {method : String} {limit : Option Double} {number : Nat}
      {connection : Connection}
      (hBegin : stage.connection.begin method = .ok (number, connection)) :
      Step (.begin method limit) stage
        { stage with
          connection := connection
          senders := stage.senders ++ [⟨number, method, limit, .writing, []⟩]
          begun := stage.begun ++ [number] }
  | refuse {stage : Stage} {method : String} {limit : Option Double} {e : Fault}
      (hRefused : stage.connection.begin method = .error e) :
      Step (.begin method limit) stage stage
  | write {stage : Stage} {sender : Sender} (hMem : sender ∈ stage.senders)
      (hWriting : sender.stand = .writing) :
      Step (.write sender.number) stage
        { stage with senders := stage.alter sender.number fun s => { s with stand := .waiting } }
  | fail {stage : Stage} {sender : Sender} (cause : Fault) (hMem : sender ∈ stage.senders)
      (hWriting : sender.stand = .writing) :
      Step (.fail sender.number cause) stage (stage.conclude sender (sender.unwritten cause))
  | giveUp {stage : Stage} {sender : Sender} (cause : Cause) (hMem : sender ∈ stage.senders)
      (hWaiting : sender.stand = .waiting) (hLimit : cause = .late → sender.limit ≠ none) :
      Step (.giveUp sender.number cause) stage (stage.giveUp sender cause)
  | answered {stage : Stage} {sender : Sender} {answer : Except Fault Value}
      (hMem : sender ∈ stage.senders) (hWaiting : sender.stand = .waiting)
      (hAnswer : stage.connection.answer? sender.number = some answer) :
      Step (.resume sender.number) stage (stage.conclude sender answer)
  | left {stage : Stage} {sender : Sender} {cause : Cause} (hMem : sender ∈ stage.senders)
      (hLeaving : sender.stand = .leaving cause) :
      Step (.resume sender.number) stage (stage.conclude sender (sender.givenUp cause))
  | register {stage : Stage} {key target : Value} {number : Nat} {connection : Connection}
      (hRegister : stage.connection.register key target = .ok (number, connection)) :
      Step (.register key target) stage { stage with connection := connection }
  | frame {stage : Stage} (text : String) (hOpen : stage.connection.closed = false) :
      Step (.frame text) stage (stage.receive text)
  | lose {stage : Stage} (hOpen : stage.connection.closed = false) :
      Step .lose stage stage.lose

/-- A run: acts one after the other, from a connection that nobody has used. -/
inductive Steps : List Act → Stage → Prop
  | nil : Steps [] {}
  | snoc {trace : List Act} {stage next : Stage} {act : Act} (hSteps : Steps trace stage)
      (hStep : Step act stage next) : Steps (trace ++ [act]) next

variable {α : Type}

/-! ## The acts of a rehearsal -/

theorem timedOut_error (method : String) (limit : Value) :
    ∃ e, (World.timedOut method limit : Except Fault Value) = .error e := by
  unfold World.timedOut
  cases limit.general with
  | error e => exact ⟨e, rfl⟩
  | ok text => exact ⟨_, rfl⟩

/-- A command of a rehearsal is refused, or begins and is done at once, or begins and waits. -/
theorem beginSend_cases (w : World α) (task : Nat) (key : Value) (method : String)
    (params limit : Value) :
    (∃ e, w.connection.begin method = .error e ∧
      w.beginSend task key method params limit = .answered w (.error e)) ∨
    ∃ number connection, w.connection.begin method = .ok (number, connection) ∧
      ((∃ after e, w.beginSend task key method params limit = .answered after (.error e) ∧
          after.connection = connection.finish number) ∨
        ∃ after, w.beginSend task key method params limit = .waits after number ∧
          after.connection = connection) := by
  unfold World.beginSend
  cases hBegin : w.connection.begin method with
  | error e => exact .inl ⟨e, rfl, rfl⟩
  | ok begun =>
    obtain ⟨number, connection⟩ := begun
    refine .inr ⟨number, connection, rfl, ?_⟩
    have hTransmit :=
      World.Spares.transmit { w with connection := connection } number method params key
    have hSent := hTransmit.connection
    dsimp only
    -- The frame cannot be sent, the limit is none, it is over already, or the sender waits.
    split
    · exact .inl ⟨_, _, rfl, rfl⟩
    · split
      · exact .inl ⟨_, _, rfl, congrArg (Connection.finish · number) hSent⟩
      · obtain ⟨e, hLate⟩ := timedOut_error method
          (World.limitOf (World.transmit _ number method params key) limit)
        exact .inl ⟨_, e, by rw [hLate], congrArg (Connection.finish · number) hSent⟩
      · exact .inr ⟨_, rfl, (World.Spares.within _ _).connection.trans hSent⟩

/-- A sender of a rehearsal that goes on has an answer, or has none and gives up; either way its
command is done. -/
theorem poll_send {w after : World α} {waiting : Waiting α} {key params limit : Value}
    {method : String} {result : Except Fault Value}
    (hPoll : w.poll waiting (.send key method params limit) = some (after, result)) :
    after.connection = w.connection.finish waiting.number ∧
      (w.connection.answer? waiting.number = some result ∨
        w.connection.answer? waiting.number = none ∧
          (waiting.cancelled = true ∧ result = .error .cancelled ∨
            waiting.elapsed = true ∧ result = World.timedOut method (w.limitOf limit))) := by
  unfold World.poll at hPoll
  dsimp only at hPoll
  cases hAnswer : w.connection.answer? waiting.number with
  | some answer =>
    rw [hAnswer] at hPoll
    cases hPoll
    exact ⟨rfl, .inl rfl⟩
  | none =>
    simp only [hAnswer, World.givenUp] at hPoll
    split at hPoll
    · next hCancelled =>
      cases hPoll
      exact ⟨rfl, .inr ⟨rfl, .inl ⟨hCancelled, rfl⟩⟩⟩
    · split at hPoll
      · next hElapsed =>
        cases hPoll
        exact ⟨rfl, .inr ⟨rfl, .inr ⟨hElapsed, rfl⟩⟩⟩
      · cases hPoll

end CallRun

end PageReporter
