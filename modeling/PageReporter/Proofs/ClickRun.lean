import PageReporter.Proofs.CommandRun
import PageReporter.Proofs.ReadValues
import PageReporter.Proofs.ScriptRuns
import PageReporter.Session

/-!
# Clicks

A click sends four frames at most: it asks the page for a point, and then it moves the pointer
there, presses and releases. Each frame waits for the answer to the one before it, and the first one
that fails ends the click. Whatever the browser answers, the fault of a click is an ordinary one, so
that the command behind it runs all the same.

* `Fault.Ordinary` — results that are faults only of the ordinary kind, and what leads to them;
* `ClickTarget.Tells` — the answers that tell a point; `ClickTarget.ofAnswer_ok_iff` — the others
  are faults;
* `Click.Sends` — surroundings that answer frames in any way, or refuse them;
* `Click.InTurn` — frames each of which waits for the answer to the one before;
* `Click.Tried` — what is said of a click that has been tried;
* `Click.outcome` — what becomes of it as a command;
* `Command.click_runs` — every click, and what follows it.
-/

namespace PageReporter

/-! ## Ordinary faults -/

namespace Fault

/-- A result that is a value, or a fault that may be skipped over. -/
def Ordinary {α : Type} (result : Except Fault α) : Prop :=
  ∀ e, result = .error e → e.isOrdinary = true

namespace Ordinary

variable {α β : Type}

theorem ok (a : α) : Ordinary (.ok a) :=
  nofun

theorem error {e : Fault} (hOrdinary : e.isOrdinary = true) :
    Ordinary (.error e : Except Fault α) :=
  fun _ hError => Except.error.inj hError ▸ hOrdinary

theorem bind {first : Except Fault α} {f : α → Except Fault β} (hFirst : Ordinary first)
    (hSecond : ∀ a, Ordinary (f a)) : Ordinary (first >>= f) := by
  cases first with
  | ok a => exact hSecond a
  | error e => exact error (hFirst e rfl)

theorem ite {c : Prop} [Decidable c] {first second : Except Fault α} (hFirst : Ordinary first)
    (hSecond : Ordinary second) : Ordinary (if c then first else second) := by
  split
  · exact hFirst
  · exact hSecond

end Ordinary

end Fault

open Fault (Ordinary)
open Script (Runs)

namespace Value

theorem holds_ordinary (v : Value) (name : String) : Ordinary (v.holds name) := by
  cases v <;> first | exact .ok _ | exact .error rfl

theorem index_ordinary (v : Value) (name : String) : Ordinary (v.index name) := by
  cases v with
  | object ms =>
    rw [index]
    split
    · exact .ok _
    · exact .error rfl
  | _ => exact .error rfl

theorem get_ordinary (v : Value) (name : String) : Ordinary (v.get name) := by
  cases v with
  | object ms => exact .ok _
  | _ => exact .error rfl

theorem get_ok {v w : Value} {name : String} (hGet : v.get name = .ok w) :
    ∃ members, v = .object members ∧ w = (find? name members).getD .null := by
  cases v with
  | object members => exact ⟨members, rfl, (Except.ok.inj hGet).symm⟩
  | _ => cases hGet

/-- A member that is read as something other than null is there. -/
theorem find?_of_getD {members : List (String × Value)} {name : String} {v : Value}
    (hMember : v = (find? name members).getD .null) (hSome : v ≠ .null) :
    find? name members = some v := by
  cases hFind : find? name members with
  | some w => rw [hMember, hFind, Option.getD_some]
  | none => exact absurd (hMember.trans (by rw [hFind, Option.getD_none])) hSome

theorem index_ok {v w : Value} {name : String} (hIndex : v.index name = .ok w) :
    ∃ members, v = .object members ∧ find? name members = some w := by
  cases v with
  | object members =>
    rw [index] at hIndex
    split at hIndex
    · next hFind => exact ⟨members, rfl, Except.ok.inj hIndex ▸ hFind⟩
    · cases hIndex
  | _ => cases hIndex

theorem parse_ok {v w : Value} (hParse : v.parse = .ok w) :
    ∃ text, v = .str text ∧ Json.ofText text = .ok w := by
  cases v with
  | str text => exact ⟨text, rfl, hParse⟩
  | _ => cases hParse

theorem text_ordinary (v : Value) : Ordinary v.text := by
  rw [text]
  split
  · exact .ok _
  · exact .error rfl

theorem parse_ordinary (v : Value) : Ordinary v.parse := by
  cases v with
  | str s =>
    rw [parse, Json.ofText]
    split
    · exact .ok _
    · refine .error ?_
      unfold Json.fault
      split <;> rfl
  | _ => exact .error rfl

end Value

theorem Remote.exceptionText_ordinary (details : Value) : Ordinary (exceptionText details) := by
  refine (details.get_ordinary _).bind fun exception => ?_
  -- What is said if no value was thrown, or an object.
  have hTold : Ordinary (do
      let description ← (exception.orElse (.object [])).get "description"
      if description.truthy then pure description.plain
      else
        let text ← details.get "text"
        pure (if text.truthy then text.plain else "Evaluation failed") : Except Fault String) := by
    refine (Value.get_ordinary _ _).bind fun description => .ite (.ok _) ?_
    exact (details.get_ordinary _).bind fun text => .ok _
  refine (Value.holds_ordinary _ _).bind fun valued => .ite ?_ hTold
  refine (Value.get_ordinary _ _).bind fun type => .ite ?_ hTold
  exact (Value.index_ordinary _ _).bind fun value => value.text_ordinary

namespace ClickTarget

/-! ## The point that an answer tells -/

/-- An answer tells a point: it tells of no exception, and the text that it holds is that of an
object with both coordinates, which does not say that there is no such element. -/
inductive Tells : Value → Value → Value → Prop
  | intro {answer described info : List (String × Value)} {text : String} {x y : Value}
      (hCalm : Value.find? "exceptionDetails" answer = none)
      (hResult : Value.find? "result" answer = some (.object described))
      (hValue : Value.find? "value" described = some (.str text))
      (hInfo : Json.ofText text = .ok (.object info))
      (hFound : Value.find? "error" info ≠ some (.str "missing"))
      (hLeft : Value.find? "x" info = some x) (hTop : Value.find? "y" info = some y) :
      Tells (.object answer) x y

theorem ofAnswer_ordinary (selector : String) (answer : Value) :
    Ordinary (ofAnswer selector answer) := by
  refine (answer.holds_ordinary _).bind fun thrown => .ite ?_ ?_
  · refine (answer.index_ordinary _).bind fun details => ?_
    exact (Remote.exceptionText_ordinary details).bind fun text => .error rfl
  · refine (answer.get_ordinary _).bind fun result => (Value.get_ordinary _ _).bind fun told => ?_
    refine (Value.parse_ordinary _).bind fun info => (info.get_ordinary _).bind fun error => ?_
    refine .ite (.error rfl) ((info.holds_ordinary _).bind fun left => ?_)
    refine (info.holds_ordinary _).bind fun top => .ite (.error rfl) ?_
    exact (info.index_ordinary _).bind fun x => (info.index_ordinary _).bind fun y => .ok _

/-- Where an answer holds no text, an object without members stands for it. So one with members has
been told. -/
theorem told_of_parse {answer result told : Value} {info : List (String × Value)} {name : String}
    {v : Value} (hResult : answer.get "result" = .ok result)
    (hTold : (result.orElse (.object [])).get "value" = .ok told)
    (hInfo : (told.orElse (.str "\x7b\x7d")).parse = .ok (.object info))
    (hSome : Value.find? name info = some v) :
    ∃ members described text, answer = .object members ∧
      Value.find? "result" members = some (.object described) ∧
      Value.find? "value" described = some (.str text) ∧
      Json.ofText text = .ok (.object info) := by
  obtain ⟨members, rfl, hMember⟩ := Value.get_ok hResult
  obtain ⟨described, hDescribed, hText⟩ := Value.get_ok hTold
  -- In place of nothing stands the text of an object that has no members.
  have hTruthy : told.truthy = true := by
    by_contra hFalsy
    rw [Value.orElse, if_neg hFalsy] at hInfo
    have hEmpty : Json.ofText "\x7b\x7d" = .ok (.object []) := by rfl
    cases (hEmpty.symm.trans hInfo)
    cases hSome
  rw [Value.orElse, if_pos hTruthy] at hInfo
  obtain ⟨text, rfl, hParsed⟩ := Value.parse_ok hInfo
  have hValue := Value.find?_of_getD hText nofun
  -- An object that has the text among its members is not the one that stands for nothing.
  have hPresent : result.truthy = true := by
    by_contra hFalsy
    rw [Value.orElse, if_neg hFalsy] at hDescribed
    cases hDescribed
    cases hValue
  rw [Value.orElse, if_pos hPresent] at hDescribed
  subst hDescribed
  exact ⟨members, described, text, rfl, Value.find?_of_getD hMember nofun, hValue, hParsed⟩

/-- Where a point is read from an answer, the answer tells it. -/
theorem tells_of_ofAnswer {selector : String} {answer x y : Value}
    (hPoint : ofAnswer selector answer = .ok (x, y)) : Tells answer x y := by
  obtain ⟨thrown, hThrown, hPoint⟩ := Fault.of_bind_ok hPoint
  split at hPoint
  · obtain ⟨_, -, hPoint⟩ := Fault.of_bind_ok hPoint
    obtain ⟨_, -, hPoint⟩ := Fault.of_bind_ok hPoint
    cases hPoint
  next hCalm =>
  obtain ⟨result, hResult, hPoint⟩ := Fault.of_bind_ok hPoint
  obtain ⟨told, hTold, hPoint⟩ := Fault.of_bind_ok hPoint
  obtain ⟨info, hInfo, hPoint⟩ := Fault.of_bind_ok hPoint
  obtain ⟨error, hError, hPoint⟩ := Fault.of_bind_ok hPoint
  split at hPoint
  · cases hPoint
  next hFound =>
  obtain ⟨left, -, hPoint⟩ := Fault.of_bind_ok hPoint
  obtain ⟨top, -, hPoint⟩ := Fault.of_bind_ok hPoint
  split at hPoint
  · cases hPoint
  obtain ⟨_, hLeft, hPoint⟩ := Fault.of_bind_ok hPoint
  obtain ⟨_, hTop, hPoint⟩ := Fault.of_bind_ok hPoint
  cases hPoint
  -- What has coordinates is an object, and so was told by a text.
  obtain ⟨members, rfl, hFindX⟩ := Value.index_ok hLeft
  obtain ⟨_, hSame, hFindY⟩ := Value.index_ok hTop
  cases hSame
  obtain ⟨answer, described, text, rfl, hDescribed, hValue, hText⟩ :=
    told_of_parse hResult hTold hInfo hFindX
  refine .intro ?_ hDescribed hValue hText (fun hMissing => hFound ?_) hFindX hFindY
  · have hHeld : (Value.find? "exceptionDetails" answer).isSome = thrown := Except.ok.inj hThrown
    rwa [← hHeld, Bool.not_eq_true, Option.isSome_eq_false_iff, Option.isNone_iff_eq_none] at hCalm
  · rw [← Except.ok.inj hError, hMissing]
    rfl

/-- A point is read from an answer exactly if the answer tells it. -/
theorem ofAnswer_ok_iff {selector : String} {answer x y : Value} :
    ofAnswer selector answer = .ok (x, y) ↔ Tells answer x y := by
  refine ⟨tells_of_ofAnswer, fun hTells => ?_⟩
  cases hTells with
  | @intro answer described info text _ _ hCalm hResult hValue hInfo hFound hLeft hTop =>
    have hPresent : (Value.object described).orElse (.object []) = .object described := by
      cases described with
      | nil => cases hValue
      | cons => rfl
    have hText : (Value.str text).orElse (.str "\x7b\x7d") = .str text := by
      rw [Value.orElse, if_pos]
      by_contra hEmpty
      obtain rfl : text = "" := by simpa [Value.truthy] using hEmpty
      -- The empty text holds no value.
      obtain ⟨e, hNone⟩ : ∃ e, Json.ofText "" = .error e := ⟨_, rfl⟩
      cases hNone.symm.trans hInfo
    have hError : ((Value.find? "error" info).getD .null).same (.str "missing") = false := by
      refine Bool.eq_false_iff.mpr fun hSame => hFound ?_
      exact Value.find?_of_getD (Value.same_str.mp hSame).symm nofun
    simp only [ofAnswer, Value.holds, Value.get, Value.memberOr, Value.member?, Value.index,
      Value.parse, hCalm, hResult, hPresent, hValue, hText, hInfo, hError, hLeft, hTop, bind,
      Except.bind, Except.map, Option.getD_some, Option.isSome_some, Option.isSome_none,
      Bool.not_true, Bool.or_self, Bool.false_eq_true, if_false]
    rfl

end ClickTarget

namespace Click

/-! ## Frames and their answers -/

/-- A frame that goes to the browser. -/
structure Frame where
  key : Value
  method : String
  params : Value

/-- A frame that was sent, with what it was answered: a result, or that it failed, was too late or
was lost with the connection. -/
structure Sending where
  frame : Frame
  answer : Except Fault Value

/-- Surroundings that remember which frames they have been sent. They answer a frame in any way but
by calling the work off, or they refuse to send it; and they print every line. -/
inductive Sends : List Sending → (op : Host.Op) → Except Fault (Host.Answer op) →
    List Sending → Prop
  | sent {sent : List Sending} {key params limit : Value} {method : String}
      {answer : Except Fault Value} (hOrdinary : Ordinary answer) :
      Sends sent (.send key method params limit) answer (sent ++ [⟨⟨key, method, params⟩, answer⟩])
  | refused {sent : List Sending} {key params limit : Value} {method : String} {e : Fault}
      (hOrdinary : e.isOrdinary = true) :
      Sends sent (.send key method params limit) (.error e) sent
  | printed {sent : List Sending} {line : Line} : Sends sent (.print line) (.ok ()) sent
  | other {sent : List Sending} {op : Host.Op} {answer : Except Fault (Host.Answer op)}
      (hSend : ∀ key method params limit, op ≠ .send key method params limit)
      (hPrint : ∀ line, op ≠ .print line) (hOrdinary : Ordinary answer) :
      Sends sent op answer sent

theorem Sends.print {sent after : List Sending} {line : Line} {answer : Except Fault Unit}
    (hSends : Sends sent (.print line) answer after) : answer = .ok () ∧ after = sent := by
  cases hSends with
  | printed => exact ⟨rfl, rfl⟩
  | other _ hPrint => exact absurd rfl (hPrint line)

/-- Frames that are sent one after the other, each once the one before it has been answered, and
what comes of them: a frame that fails, or that is not sent at all, is the last one. -/
inductive InTurn : List Frame → List Sending → Except Fault Unit → Prop
  | finished : InTurn [] [] (.ok ())
  | unsent {frame : Frame} {frames : List Frame} {e : Fault} (hOrdinary : e.isOrdinary = true) :
      InTurn (frame :: frames) [] (.error e)
  | failed {frame : Frame} {frames : List Frame} {e : Fault} (hOrdinary : e.isOrdinary = true) :
      InTurn (frame :: frames) [⟨frame, .error e⟩] (.error e)
  | answered {frame : Frame} {frames : List Frame} {answer : Value} {sent : List Sending}
      {result : Except Fault Unit} (hRest : InTurn frames sent result) :
      InTurn (frame :: frames) (⟨frame, .ok answer⟩ :: sent) result

namespace InTurn

variable {frames others : List Frame} {sent more : List Sending} {result : Except Fault Unit}

theorem append (hFirst : InTurn frames sent (.ok ())) (hRest : InTurn others more result) :
    InTurn (frames ++ others) (sent ++ more) result := by
  generalize hOk : Except.ok () = first at hFirst
  induction hFirst with
  | finished => exact hRest
  | unsent => cases hOk
  | failed => cases hOk
  | answered _ ih => exact .answered (ih hOk)

theorem append_error {e : Fault} (hFirst : InTurn frames sent (.error e)) :
    InTurn (frames ++ others) sent (.error e) := by
  generalize hError : Except.error e = first at hFirst
  induction hFirst with
  | finished => cases hError
  | unsent hOrdinary => exact .unsent hOrdinary
  | failed hOrdinary => exact .failed hOrdinary
  | answered _ ih => exact .answered (ih hError)

theorem frames_begin (hTurn : InTurn frames sent result) :
    sent.map Sending.frame <+: frames := by
  induction hTurn with
  | finished => exact List.prefix_rfl
  | unsent => exact List.nil_prefix
  | failed => exact ⟨_, rfl⟩
  | answered _ ih => exact List.cons_prefix_cons.mpr ⟨rfl, ih⟩

theorem ordinary (hTurn : InTurn frames sent result) : Ordinary result := by
  induction hTurn with
  | finished => exact .ok ()
  | unsent hOrdinary => exact .error hOrdinary
  | failed hOrdinary => exact .error hOrdinary
  | answered _ ih => exact ih

/-- Only the last frame can have failed. -/
theorem answered_before (hTurn : InTurn frames sent result) :
    ∀ sending ∈ sent.dropLast, ∃ answer, sending.answer = .ok answer := by
  induction hTurn with
  | finished => nofun
  | unsent => nofun
  | failed => nofun
  | @answered frame frames answer sent result _ ih =>
    cases sent with
    | nil => nofun
    | cons sending sent => exact List.forall_mem_cons.mpr ⟨⟨answer, rfl⟩, ih⟩

/-- All is well exactly if all frames have been sent and answered. -/
theorem result_iff (hTurn : InTurn frames sent result) :
    result = .ok () ↔ sent.length = frames.length ∧
      ∀ sending ∈ sent, ∃ answer, sending.answer = .ok answer := by
  induction hTurn with
  | finished => simp
  | unsent => simp
  | failed => simp
  | answered _ ih => simp [ih]

end InTurn

/-! ## One click -/

/-- What a command to a page comes to: an answer, or an ordinary fault, with the frame or without
it. -/
theorem sendTo_runs {page : Page} {method : String} {params limit : Value}
    {sent after : List Sending} {trace : List Host.Exchange} {result : Except Fault Value}
    (hRuns : Runs Sends (Host.sendTo page method params limit) sent trace result after) :
    Ordinary result ∧ (after = sent ++ [⟨⟨page.key, method, params⟩, result⟩] ∨
      after = sent ∧ ∃ e, result = .error e) := by
  rcases Runs.perform_bind hRuns with ⟨detached, mid, rest, rfl, hDetached, hSent⟩ |
    ⟨e, rfl, -, hDetached⟩
  · cases hDetached with
    | other =>
      -- A session that has come to its end is not sent anything.
      split at hSent
      · obtain ⟨-, rfl, rfl⟩ := hSent.ofDone
        exact ⟨.error rfl, .inr ⟨rfl, _, rfl⟩⟩
      · obtain ⟨-, hAnswer⟩ := hSent.perform
        cases hAnswer with
        | sent hOrdinary => exact ⟨hOrdinary, .inl rfl⟩
        | refused hOrdinary => exact ⟨.error hOrdinary, .inr ⟨rfl, _, rfl⟩⟩
        | other hSend => exact absurd rfl (hSend _ _ _ _)
  · cases hDetached with
    | other _ _ hOrdinary => exact ⟨.error (hOrdinary e rfl), .inr ⟨rfl, e, rfl⟩⟩

/-- A script that sends frames in turn. -/
def SendsInTurn (script : Script Host Unit) (frames : List Frame) : Prop :=
  ∀ sent trace result after, Runs Sends script sent trace result after →
      ∃ made, after = sent ++ made ∧ InTurn frames made result

theorem SendsInTurn.bind {script other : Script Host Unit} {frames others : List Frame}
    (hFirst : SendsInTurn script frames) (hSecond : SendsInTurn other others) :
    SendsInTurn (script.bind fun _ => other) (frames ++ others) := by
  intro sent trace result after hRuns
  rcases hRuns.bind with ⟨_, _, _, mid, -, hDone, hRest⟩ | ⟨e, rfl, hFailed⟩
  · obtain ⟨made, rfl, hMade⟩ := hFirst _ _ _ _ hDone
    obtain ⟨more, rfl, hMore⟩ := hSecond _ _ _ _ hRest
    exact ⟨made ++ more, List.append_assoc .., hMade.append hMore⟩
  · obtain ⟨made, rfl, hMade⟩ := hFirst _ _ _ _ hFailed
    exact ⟨made, rfl, hMade.append_error⟩

/-- The frame that asks the page for the point. -/
def evaluation (page : Page) (selector : String) : Frame :=
  ⟨page.key, "Runtime.evaluate", .object
    [("expression", .str (ClickTarget.script selector)), ("returnByValue", .bool true)]⟩

/-- A frame that moves the pointer to a point, or does something with its button there. -/
def pointing (page : Page) (kind : String) (x y : Value) (button : List (String × Value)) : Frame :=
  ⟨page.key, "Input.dispatchMouseEvent",
    .object ([("type", .str kind), ("x", x), ("y", y)] ++ button)⟩

/-- The frames that click a point. -/
def pointings (page : Page) (x y : Value) : List Frame :=
  [pointing page "mouseMoved" x y [], pointing page "mousePressed" x y Page.leftButton,
    pointing page "mouseReleased" x y Page.leftButton]

theorem pointer_sends (page : Page) (kind : String) (x y : Value)
    (button : List (String × Value)) :
    SendsInTurn (page.pointer kind x y button) [pointing page kind x y button] := by
  intro sent trace result after hRuns
  rcases hRuns.bind with ⟨_, _, answer, mid, -, hSent, hRest⟩ | ⟨e, rfl, hFailed⟩
  · obtain ⟨-, rfl, rfl⟩ := hRest.ofDone
    obtain ⟨-, rfl | ⟨-, _, hError⟩⟩ := sendTo_runs hSent
    · exact ⟨_, rfl, .answered .finished⟩
    · cases hError
  · obtain ⟨hOrdinary, rfl | ⟨rfl, -⟩⟩ := sendTo_runs hFailed
    · exact ⟨_, rfl, .failed (hOrdinary e rfl)⟩
    · exact ⟨[], (List.append_nil _).symm, .unsent (hOrdinary e rfl)⟩

/-- What is said of a click that has been tried: which frames it has sent, that each was sent once
the one before it had been answered, that the pointer was not touched unless the page had told the
point, and that the click succeeded exactly if all four frames were answered. -/
structure Tried (page : Page) (selector : String) (x y : Value) (made : List Sending)
    (result : Except Fault Unit) : Prop where
  frames : made.map Sending.frame <+: evaluation page selector :: pointings page x y
  answered : ∀ sending ∈ made.dropLast, ∃ answer, sending.answer = .ok answer
  told : 1 < made.length → ∃ answer,
    made.head? = some ⟨evaluation page selector, .ok answer⟩ ∧ ClickTarget.Tells answer x y
  returns : result = .ok () ↔
    made.length = 4 ∧ ∀ sending ∈ made, ∃ answer, sending.answer = .ok answer
  ordinary : Ordinary result

theorem InTurn.tried {page : Page} {selector : String} {x y : Value} {made : List Sending}
    {result : Except Fault Unit}
    (hTurn : InTurn (evaluation page selector :: pointings page x y) made result)
    (hTold : 1 < made.length → ∃ answer,
      made.head? = some ⟨evaluation page selector, .ok answer⟩ ∧ ClickTarget.Tells answer x y) :
    Tried page selector x y made result :=
  ⟨hTurn.frames_begin, hTurn.answered_before, hTold, hTurn.result_iff, hTurn.ordinary⟩

/-- What is said of a click holds of every one. Where no point is told, the coordinates are any. -/
theorem click_tried {page : Page} {selector : String} {sent after : List Sending}
    {trace : List Host.Exchange} {result : Except Fault Unit}
    (hRuns : Runs Sends (page.click selector) sent trace result after) :
    ∃ made x y, after = sent ++ made ∧ Tried page selector x y made result := by
  rcases hRuns.bind with ⟨_, _, answer, mid, -, hSent, hAnswered⟩ | ⟨e, rfl, hFailed⟩
  · obtain ⟨-, rfl | ⟨-, _, hError⟩⟩ := sendTo_runs hSent
    case inr => cases hError
    rcases hAnswered.bind with ⟨_, _, ⟨x, y⟩, _, -, hRead, hPointed⟩ | ⟨e, rfl, hRead⟩
    · obtain ⟨-, hPoint, rfl⟩ := hRead.ofDone
      have hSends := (pointer_sends page "mouseMoved" x y []).bind
        ((pointer_sends page "mousePressed" x y Page.leftButton).bind
          (pointer_sends page "mouseReleased" x y Page.leftButton))
      obtain ⟨made, rfl, hMade⟩ := hSends _ _ _ _ hPointed
      refine ⟨⟨evaluation page selector, .ok answer⟩ :: made, x, y, by simp [evaluation], ?_⟩
      exact InTurn.tried (.answered hMade) fun _ =>
        ⟨answer, rfl, ClickTarget.ofAnswer_ok_iff.mp hPoint.symm⟩
    · -- The frame was answered, but no point could be read: as if the next frame had not been sent.
      obtain ⟨-, hPoint, rfl⟩ := hRead.ofDone
      have hOrdinary := ClickTarget.ofAnswer_ordinary selector answer e hPoint.symm
      exact ⟨_, .null, .null, rfl, InTurn.tried (.answered (.unsent hOrdinary))
        fun hMore => absurd hMore (Nat.lt_irrefl 1)⟩
  · obtain ⟨hOrdinary, rfl | ⟨rfl, -⟩⟩ := sendTo_runs hFailed
    · exact ⟨_, .null, .null, rfl, InTurn.tried (.failed (hOrdinary e rfl))
        fun hMore => absurd hMore (Nat.lt_irrefl 1)⟩
    · exact ⟨[], .null, .null, (List.append_nil _).symm, InTurn.tried (.unsent (hOrdinary e rfl))
        nofun⟩

/-! ## Clicks as commands -/

/-- What becomes of a click as a command. -/
def outcome (selector : String) : Except Fault Unit → Outcome
  | .ok () => ⟨.ok, 2, "", none⟩
  | .error e => ⟨.runtimeError, 2, s!"Failed to click \"{selector}\": {e.message}", some e⟩

theorem afterClick_eq {selector : String} {reply : Except Fault Unit} (hReply : Ordinary reply) :
    Command.afterClick selector reply = .done (.ok (outcome selector reply)) := by
  cases reply with
  | ok => rfl
  | error e => exact Command.afterClick_ordinary selector (hReply e rfl)

/-- A click that is run as a command is announced and tried, and comes to an outcome whatever it
comes to itself. -/
theorem run_click {page : Page} {selector : String} {sent after : List Sending}
    {trace : List Host.Exchange} {result : Except Fault Outcome}
    (hRuns : Runs Sends ((Command.run (.click (some selector))).interpret (Session.hand page))
      sent trace result after) :
    ∃ clicked reply, Runs Sends (page.click selector) sent clicked reply after ∧
      result = .ok (outcome selector reply) := by
  obtain ⟨_, _, announced, mid, -, hPrint, hRest⟩ := Runs.interpret_ask hRuns
  obtain ⟨-, hPrinted⟩ := hPrint.perform
  obtain ⟨rfl, rfl⟩ := hPrinted.print
  -- Whatever the click comes to is handed to what makes an outcome of it.
  obtain ⟨clicked, _, reply, _, -, hClick, hAfter⟩ := Runs.interpret_ask hRest
  change Runs Sends (page.click selector) _ clicked reply _ at hClick
  change Runs Sends ((Command.afterClick selector reply).interpret (Session.hand page)) _ _ _ _
    at hAfter
  obtain ⟨_, _, _, _, hTried⟩ := click_tried hClick
  rw [afterClick_eq hTried.ordinary] at hAfter
  obtain ⟨-, rfl, rfl⟩ := hAfter.ofDone
  exact ⟨clicked, reply, hClick, rfl⟩

/-- What is reported of an outcome is printed, and no frame is sent for it. -/
theorem report_runs {page : Page} {outcome : Outcome} {sent after : List Sending}
    {trace : List Host.Exchange} {result : Except Fault Unit}
    (hRuns : Runs Sends ((Command.report outcome).interpret (Session.hand page))
      sent trace result after) : after = sent ∧ result = .ok () := by
  by_cases hOk : outcome.isOk = true
  · have hNone : Command.report outcome = pure () := if_pos hOk
    rw [hNone] at hRuns
    obtain ⟨-, rfl, rfl⟩ := hRuns.ofDone
    exact ⟨rfl, rfl⟩
  · have hLine : Command.report outcome =
        Script.perform (S := Hand) (.print (.err, s!"[error] {outcome.reason}")) := if_neg hOk
    rw [hLine] at hRuns
    obtain ⟨_, _, reply, _, -, hPrint, hRest⟩ := Runs.interpret_ask hRuns
    obtain ⟨-, rfl, rfl⟩ := hRest.ofDone
    obtain ⟨-, hPrinted⟩ := hPrint.perform
    exact hPrinted.print.symm

end Click

namespace Command

open Click

/-- **Every click, and what follows it.** A click sends at most four frames: the question for the
point, and then the pointer moved there, pressed and released, each once the one before it has been
answered; the pointer is touched only where the page has told the point, and the click succeeds
exactly if all four are answered. As a command, it comes to one outcome, a success or a failure that
takes its two words, and the commands behind it are run next. -/
theorem click_runs (page : Page) (selector : String) :
    (∀ sent trace result after, Runs Sends (page.click selector) sent trace result after →
      ∃ made x y, after = sent ++ made ∧ Tried page selector x y made result) ∧
    ∀ commands sent trace result after,
      Runs Sends ((runAll (.click (some selector) :: commands)).interpret (Session.hand page))
        sent trace result after →
      ∃ made x y reply rest others, Tried page selector x y made reply ∧
        Runs Sends ((runAll commands).interpret (Session.hand page)) (sent ++ made) rest others
          after ∧
        result = others.map (outcome selector reply :: ·) := by
  refine ⟨fun _ _ _ _ hRuns => click_tried hRuns, ?_⟩
  intro commands sent trace result after hRuns
  rcases Runs.interpret_bind hRuns with ⟨_, _, done, mid, -, hClick, hRest⟩ | ⟨e, -, hClick⟩
  · obtain ⟨_, reply, hClicked, hOutcome⟩ := run_click hClick
    obtain rfl := Except.ok.inj hOutcome
    obtain ⟨made, x, y, rfl, hTried⟩ := click_tried hClicked
    rcases Runs.interpret_bind hRest with ⟨_, _, _, _, -, hReport, hLater⟩ | ⟨e, -, hReport⟩
    · obtain ⟨rfl, -⟩ := report_runs hReport
      rcases Runs.interpret_bind hLater with ⟨_, _, others, _, -, hOthers, hDone⟩ | ⟨e, rfl, hFails⟩
      · obtain ⟨-, rfl, rfl⟩ := hDone.ofDone
        exact ⟨made, x, y, reply, _, .ok others, hTried, hOthers, rfl⟩
      · exact ⟨made, x, y, reply, _, .error e, hTried, hFails, rfl⟩
    · cases (report_runs hReport).2
  · obtain ⟨_, _, _, hOutcome⟩ := run_click hClick
    cases hOutcome

/-- A click whose pointer is pressed in vain, and a word behind it that is no command. -/
theorem click_runs_pressed_late :
    let page : Page := ⟨0, 0, .str "S1", .str "T1", .double 30⟩
    let late : Fault := .system .timeLimit "late"
    let answer : Value := .object [("result", .object
      [("type", .str "string"), ("value", .str "\x7b\"x\":7,\"y\":9\x7d")])]
    let made : List Sending := [⟨evaluation page "#a", .ok answer⟩,
      ⟨pointing page "mouseMoved" (.int 7) (.int 9) [], .ok (.object [])⟩,
      ⟨pointing page "mousePressed" (.int 7) (.int 9) Page.leftButton, .error late⟩]
    ∃ clicked trace, Runs Sends (page.click "#a") [] clicked (.error late) made ∧
      Runs Sends ((runAll [.click (some "#a"), .unknown "b"]).interpret (Session.hand page)) []
        trace (.ok [⟨.runtimeError, 2, "Failed to click \"#a\": late", some late⟩,
          ⟨.syntaxError, 1, "Unknown command: b", none⟩]) made ∧
      (∃ x y, Tried page "#a" x y made (.error late)) ∧
      ∃ sent x y reply rest others, Tried page "#a" x y sent reply ∧
        Runs Sends ((runAll [.unknown "b"]).interpret (Session.hand page)) sent rest others
          made := by
  intro page late answer made
  have hText : Json.ofText "\x7b\"x\":7,\"y\":9\x7d" =
      .ok (.object [("x", .int 7), ("y", .int 9)]) := by cbv
  have hTells : ClickTarget.Tells answer (.int 7) (.int 9) := .intro rfl rfl rfl hText
    (by simp [Value.find?]) rfl rfl
  have hAttached : ∀ sent, Sends sent (.isDetached page.session) (.ok false) sent :=
    fun _ => .other (by simp) (by simp) (.ok false)
  let asked (frame : Frame) (answer : Except Fault Value) : List Host.Exchange :=
    [⟨.isDetached page.session, .ok false⟩,
      ⟨.send frame.key frame.method frame.params .null, answer⟩]
  let clicked (point : Value) : List Host.Exchange :=
    asked (evaluation page "#a") (.ok point) ++
      (asked (pointing page "mouseMoved" (.int 7) (.int 9) []) (.ok (Value.object [])) ++
        asked (pointing page "mousePressed" (.int 7) (.int 9) Page.leftButton) (.error late))
  -- Of the answer, only the point that it tells is looked at.
  have hClick : ∀ point, ClickTarget.Tells point (.int 7) (.int 9) →
      Runs Sends (page.click "#a") [] (clicked point) (.error late)
        (⟨evaluation page "#a", .ok point⟩ :: made.tail) := by
    intro point hTells
    refine .ask (hAttached _) (.ask (.sent (.ok point)) ?_)
    show Runs (S := Host) Sends ((Script.ofExcept (ClickTarget.ofAnswer "#a" point)).bind _) _ _ _ _
    rw [ClickTarget.ofAnswer_ok_iff.mpr hTells]
    refine .ask (hAttached _) (.ask (.sent (.ok (Value.object []))) ?_)
    exact .ask (hAttached _) (.ask (.sent (.error rfl)) .done)
  have hClicked : Runs Sends (page.click "#a") [] (clicked answer) (.error late) made :=
    hClick answer hTells
  let printed (stream : Stream) (text : String) : Host.Exchange :=
    ⟨.print (stream, text), .ok ()⟩
  have hRun : Runs Sends
      ((runAll [.click (some "#a"), .unknown "b"]).interpret (Session.hand page)) []
      ([printed .out "[click] #a"] ++ (clicked answer ++
        ([printed .err "[error] Failed to click \"#a\": late"] ++
          ([printed .err "[error] Unknown command: b"] ++ []))))
      (.ok [⟨.runtimeError, 2, "Failed to click \"#a\": late", some late⟩,
        ⟨.syntaxError, 1, "Unknown command: b", none⟩]) made := by
    refine Runs.ask_interpret (.ask .printed .done) (Runs.ask_interpret hClicked ?_)
    refine Runs.ask_interpret (.ask .printed .done) (Runs.ask_interpret (.ask .printed .done) ?_)
    exact .done
  obtain ⟨hAlone, hCommand⟩ := click_runs page "#a"
  obtain ⟨_, x, y, rfl, hTried⟩ := hAlone _ _ _ _ hClicked
  obtain ⟨sent, x', y', reply, rest, others, hReply, hOthers, -⟩ := hCommand _ _ _ _ _ hRun
  exact ⟨_, _, hClicked, hRun, ⟨x, y, hTried⟩, sent, x', y', reply, rest, others, hReply, hOthers⟩

end Command

end PageReporter
