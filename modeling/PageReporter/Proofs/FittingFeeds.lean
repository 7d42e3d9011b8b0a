import PageReporter.Proofs.Acts
import PageReporter.Proofs.FittingEvents

/-!
# Where what can be written goes

What comes in at the socket can be written, and is handed on many times before it is reported. Here
are the places that it comes to: the answers of commands, the events that sessions are told, what
scripts are answered and end with, and the line-up and the queue of the feed. In each of them it
stays what it is.

* `Feed.Fits` — a feed of which everything can be written, kept by all that feeds do;
* `Script.Gives` — what a script ends with, wherever the answers of its commands can be written;
  `Handle.evaluate_gives` — what is looked up;
* `Inbound.Fits`, `Peer.respond_fits` — what comes in;
* `Connection.dispatch_fits`, `Connection.close_fits` — what the connection makes of it.
-/

namespace PageReporter

/-! ## Feeds -/

/-- A console call in the line-up of which everything can be written that is there so far. -/
structure Ticket.Fits (ticket : Ticket) : Prop where
  place : ∀ place ∈ ticket.call.place, place.Fits
  slots : ∀ v, some v ∈ ticket.slots → v.fits = true

/-- A feed of which everything can be written. -/
structure Feed.Fits (feed : Feed) : Prop where
  lineup : ∀ ticket ∈ feed.lineup, ticket.Fits
  queue : ∀ event, .event event ∈ feed.queue → event.Fits

theorem Ticket.parts?_fits {slots : List (Option Value)} {parts : List Value}
    (hSlots : ∀ v, some v ∈ slots → v.fits = true) (hParts : Ticket.parts? slots = some parts) :
    ∀ part ∈ parts, part.fits = true := by
  induction slots generalizing parts with
  | nil =>
    cases hParts
    exact List.forall_mem_nil _
  | cons slot rest ih =>
    cases slot with
    | none => cases hParts
    | some v =>
      obtain ⟨others, hOthers, rfl⟩ := Option.map_eq_some_iff.mp hParts
      exact List.forall_mem_cons.mpr
        ⟨hSlots v (.head _), ih (fun w hMem => hSlots w (.tail _ hMem)) hOthers⟩

/-- The event of a settled call can be written. -/
theorem Ticket.Fits.event_gives {ticket : Ticket} (hTicket : ticket.Fits) {parts : List Value}
    (hParts : Ticket.parts? ticket.slots = some parts) :
    Gives Event.Fits (ticket.call.event parts) :=
  ConsoleCall.event_gives hTicket.place (Ticket.parts?_fits hTicket.slots hParts)

namespace Feed.Fits

variable {feed : Feed}

theorem publish (hFeed : feed.Fits) {event : Event} (hEvent : event.Fits) :
    (feed.publish event).Fits := by
  unfold Feed.publish
  split
  · exact hFeed
  · refine ⟨hFeed.lineup, fun other hMem => ?_⟩
    rcases List.mem_append.mp hMem with hOld | hNew
    · exact hFeed.queue other hOld
    · cases List.mem_singleton.mp hNew
      exact hEvent

/-- A signal that can be written is taken in, whatever it is. -/
theorem fire (hFeed : feed.Fits) {signal : FeedSignal} (hSignal : signal.Fits) :
    ∃ after number, feed.fire signal = .ok (after, number) ∧ after.Fits := by
  by_cases hConsole : ∃ call, signal = .console call
  · obtain ⟨call, rfl⟩ := hConsole
    rw [Feed.fire]
    split
    · exact ⟨_, _, rfl, hFeed⟩
    · refine ⟨_, _, rfl, fun ticket hMem => ?_, hFeed.queue⟩
      rcases List.mem_append.mp hMem with hOld | hNew
      · exact hFeed.lineup ticket hOld
      · -- Nothing is settled yet in the place that the call takes.
        obtain rfl := List.mem_singleton.mp hNew
        exact ⟨hSignal, fun v hSettled => by cases List.eq_of_mem_replicate hSettled⟩
  · obtain ⟨event?, hEvent?, hEach⟩ := FeedSignal.event?_fits hSignal
    rw [FeedRun.Stage.fire_other (not_exists.mp hConsole), hEvent?]
    refine ⟨_, _, rfl, ?_⟩
    cases event? with
    | none => exact hFeed
    | some event => exact hFeed.publish (hEach event rfl)

theorem settle (hFeed : feed.Fits) (number slot : ℕ) {result : Except Fault Value}
    (hResult : Gives (fun v => v.fits = true) result) : (feed.settle number slot result).Fits := by
  refine ⟨fun ticket hMem => ?_, hFeed.queue⟩
  obtain ⟨old, hOld, rfl⟩ := List.mem_map.mp hMem
  have hFits := hFeed.lineup old hOld
  split
  · refine ⟨hFits.place, fun v hSettled => ?_⟩
    rcases List.mem_or_eq_of_mem_set hSettled with hBefore | hNew
    · exact hFits.slots v hBefore
    · obtain rfl := Option.some.inj hNew
      cases result with
      | ok w => exact hResult w rfl
      | error e => rfl
  · exact hFits

/-- What is settled at the front of a line-up is queued, and notes are about calls that are no
events. -/
theorem advanceLineup (hFeed : feed.Fits) {lineup : List Ticket}
    (hLineup : ∀ ticket ∈ lineup, ticket.Fits) :
    (Feed.advanceLineup lineup feed).1.Fits ∧ ∀ note ∈ (Feed.advanceLineup lineup feed).2,
      ∃ e, note = .skipped "Dropping console event that failed to build" e := by
  induction lineup generalizing feed with
  | nil => exact ⟨⟨List.forall_mem_nil _, hFeed.queue⟩, List.forall_mem_nil _⟩
  | cons ticket rest ih =>
    obtain ⟨hTicket, hRest⟩ := List.forall_mem_cons.mp hLineup
    unfold Feed.advanceLineup
    split
    · exact ⟨⟨hLineup, hFeed.queue⟩, List.forall_mem_nil _⟩
    · next parts hParts =>
      have hGives := hTicket.event_gives hParts
      split
      · next event hEvent => exact ih (hFeed.publish (hGives event hEvent)) hRest
      · next e hError =>
        obtain ⟨hAfter, hNotes⟩ := ih hFeed hRest
        exact ⟨hAfter, List.forall_mem_cons.mpr ⟨⟨e, rfl⟩, hNotes⟩⟩

theorem advance (hFeed : feed.Fits) : feed.advance.1.Fits ∧ ∀ note ∈ feed.advance.2,
    ∃ e, note = .skipped "Dropping console event that failed to build" e :=
  hFeed.advanceLineup hFeed.lineup

section Printing

variable {σ : Type} {emit : Event → σ → σ × Option Fault} {log : Note → σ → σ}

/-- A printer leaves the end of the queue. -/
theorem printQueue_subset (items : List FeedItem) (s : σ) :
    (Feed.printQueue emit log items s).1 ⊆ items := by
  induction items generalizing s with
  | nil => exact List.Subset.refl _
  | cons item rest ih =>
    cases item with
    | stop => exact List.subset_cons_self ..
    | event event =>
      unfold Feed.printQueue
      split
      · exact List.subset_cons_of_subset _ (ih _)
      · exact List.subset_cons_of_subset _ (ih _)

theorem withRest (hFeed : feed.Fits) {rest : List FeedItem} (hRest : rest ⊆ feed.queue)
    {after : Feed} (hLineup : after.lineup = feed.lineup) (hQueue : after.queue = rest) :
    after.Fits :=
  ⟨hLineup ▸ hFeed.lineup, fun event hMem => hFeed.queue event (hRest (hQueue ▸ hMem))⟩

theorem print (hFeed : feed.Fits) (s : σ) : (feed.print emit log s).1.Fits := by
  unfold Feed.print
  split
  · exact hFeed.withRest (printQueue_subset feed.queue s) rfl rfl
  · exact hFeed

theorem close (hFeed : feed.Fits) : feed.close.Fits := by
  refine ⟨hFeed.lineup, fun event hMem => ?_⟩
  rcases List.mem_append.mp hMem with hOld | hNew
  · exact hFeed.queue event hOld
  · cases List.mem_singleton.mp hNew

theorem stop (hFeed : feed.Fits) (s : σ) : (feed.stop emit log s).1.Fits := by
  unfold Feed.stop
  dsimp only
  split
  · exact hFeed.close.withRest (printQueue_subset feed.close.queue s) rfl rfl
  · exact hFeed.close

theorem start (hFeed : feed.Fits) : feed.start.Fits := by
  unfold Feed.start
  split
  · exact ⟨hFeed.lineup, hFeed.queue⟩
  · exact hFeed

end Printing

end Feed.Fits

/-! ## Scripts -/

/-- An answer that can be written, if it is what a command gets. -/
def Host.Op.Fits : (op : Host.Op) → Except Fault (Host.Answer op) → Prop
  | .send .., answer => Gives (fun v => v.fits = true) answer
  | _, _ => True

namespace Script

variable {β γ : Type} {good : β → Prop} {better : γ → Prop}

/-- A script that ends with something of a property, unless it ends with a fault, wherever the
answers that commands get can be written. -/
def Gives (good : β → Prop) : Script Host β → Prop
  | .done result => PageReporter.Gives good result
  | .ask op next => ∀ answer, op.Fits answer → (next answer).Gives good

namespace Gives

theorem bind {script : Script Host β} {next : β → Script Host γ} (hFirst : script.Gives good)
    (hNext : ∀ b, good b → (next b).Gives better) : (script >>= next).Gives better := by
  induction script with
  | done result =>
    cases result with
    | ok b => exact hNext b (hFirst b rfl)
    | error e => exact .error
  | ask op ask ih => exact fun answer hAnswer => ih answer (hFirst answer hAnswer)

/-- What comes first does not matter. -/
theorem after {script : Script Host β} {next : β → Script Host γ}
    (hNext : ∀ b, (next b).Gives better) : (script >>= next).Gives better := by
  have hFirst : script.Gives fun _ => True := by
    induction script with
    | done result => exact fun _ _ => trivial
    | ask op ask ih => exact fun answer _ => ih answer
  exact hFirst.bind fun b _ => hNext b

end Gives

end Script

/-- What a function of the page gives back can be written. -/
theorem Handle.evaluate_gives (handle : Handle) (session : ℕ) (key : Value) (function : String) :
    (handle.evaluate session key function).Gives fun v => v.fits = true := by
  unfold Handle.evaluate
  refine .after fun params => .after fun detached => ?_
  have hSend : (do
      let answer ← Host.send key "Runtime.callFunctionOn" params .null
      Script.ofExcept (Handle.resultOf answer) : Script Host Value).Gives
        fun v => v.fits = true := by
    have hAnswer : (Host.send key "Runtime.callFunctionOn" params .null).Gives
        fun v => v.fits = true := fun _ => id
    exact hAnswer.bind fun answer hAnswer => Handle.resultOf_gives hAnswer
  cases detached with
  | true => exact .error
  | false => exact hSend

/-- An ending that brings nothing to the feed, or what can be written. -/
def Ending.Fits {α : Type} : Ending α → Prop
  | .result _ => True
  | .argument _ _ value => Gives (fun v => v.fits = true) value

variable {α : Type}

/-- A look-up brings what it gives. -/
theorem World.argumentScript_gives {lookup : Script Host Value}
    (hLookup : lookup.Gives fun v => v.fits = true) (ticket slot : ℕ) :
    (argumentScript ticket slot lookup : Script Host (Ending α)).Gives Ending.Fits := by
  induction lookup with
  | done result => exact .ok hLookup
  | ask op next ih => exact fun answer hAnswer => ih answer (hLookup answer hAnswer)

/-- A script with a result of its own brings nothing. -/
theorem Script.result_gives (script : Script Host α) :
    (script.bind fun a => .done (.ok (.result a))).Gives Ending.Fits :=
  .after fun _ => .ok trivial

/-! ## Frames -/

/-- What comes in that can be written: whatever is a text, and members that can be. -/
def Inbound.Fits : Inbound → Prop
  | .members frame => Value.fitsMembers frame = true
  | _ => True

namespace Peer

theorem Act.inbound_fits (act : Act) (number : ℕ) :
    ∀ frame ∈ (act.inbound number).toList, frame.Fits := by
  cases act with
  | nothing => exact List.forall_mem_nil _
  | _ => exact List.forall_mem_singleton.mpr trivial

theorem add_fits (milliseconds : Double) {frames : List Inbound}
    (hFrames : ∀ frame ∈ frames, frame.Fits) {others : List (Double × List Inbound)}
    (hOthers : ∀ group ∈ others, ∀ frame ∈ group.2, frame.Fits) :
    ∀ group ∈ groups.add milliseconds frames others, ∀ frame ∈ group.2, frame.Fits := by
  induction others with
  | nil => exact List.forall_mem_singleton.mpr hFrames
  | cons first rest ih =>
    obtain ⟨hFirst, hRest⟩ := List.forall_mem_cons.mp hOthers
    unfold groups.add
    split
    · exact List.forall_mem_cons.mpr ⟨List.forall_mem_append.mpr ⟨hFrames, hFirst⟩, hRest⟩
    · exact List.forall_mem_cons.mpr ⟨hFirst, ih hRest⟩

theorem groups_fits (number : ℕ) (items : List Item) :
    ∀ group ∈ groups number items, ∀ frame ∈ group.2, frame.Fits := by
  induction items with
  | nil => exact List.forall_mem_nil _
  | cons item rest ih => exact add_fits item.milliseconds (item.act.inbound_fits number) ih

/-- A browser that responds only by its script responds with texts. -/
theorem respond_fits {peer : Peer} (hScripted : peer.lively = false) (number : ℕ)
    (method : String) (params : Value) :
    (peer.respond number method params).1.lively = false ∧
      ∀ group ∈ (peer.respond number method params).2, ∀ frame ∈ group.2, frame.Fits := by
  unfold respond
  dsimp only
  split
  · exact ⟨hScripted, groups_fits number _⟩
  · split
    · exact ⟨hScripted, groups_fits number _⟩
    · rw [if_neg (by simp [hScripted])]
      exact ⟨hScripted, List.forall_mem_nil _⟩

end Peer

/-- A command whose answer can be written, if it has one. -/
def Call.Fits (call : Call) : Prop :=
  ∀ v, call.answer = some (.ok v) → v.fits = true

/-- What is told to a session can be written. What is told to the browser never comes to the
feed. -/
def Delivery.Fits : Delivery → Prop
  | .browser _ _ => True
  | .session _ _ payload => payload.fits = true

/-- What a frame makes of a connection can be written. -/
structure Connection.Outcome.Fits (outcome : Connection.Outcome) : Prop where
  calls : ∀ call ∈ outcome.connection.calls, call.Fits
  deliveries : ∀ delivery ∈ outcome.deliveries, delivery.Fits

namespace Connection

variable {c : Connection}

theorem unchanged_fits (hCalls : ∀ call ∈ c.calls, call.Fits) : c.unchanged.Fits :=
  ⟨hCalls, List.forall_mem_nil _⟩

theorem failing_fits (hCalls : ∀ call ∈ c.calls, call.Fits) (e : Fault) : (c.failing e).Fits :=
  ⟨hCalls, List.forall_mem_nil _⟩

theorem reply_gives {members : List (String × Value)} (hFits : Value.fitsMembers members = true) :
    Gives (fun v => v.fits = true) (reply members) := by
  unfold reply
  split
  · split
    · exact .error
    · exact .error
  · exact .ok (valueIn_fits hFits rfl)

theorem settle_fits (hCalls : ∀ call ∈ c.calls, call.Fits) (number : ℕ)
    {answer : Except Fault Value} (hAnswer : Gives (fun v => v.fits = true) answer) :
    ∀ call ∈ (c.settle number answer).calls, call.Fits := by
  intro call hMem
  obtain ⟨old, hOld, rfl⟩ := List.mem_map.mp hMem
  split
  · intro v hSame
    exact hAnswer v (Option.some.inj hSame)
  · exact hCalls old hOld

/-- A session that comes to its end is told nothing but that. -/
theorem detach_deliveries (c : Connection) (number : ℕ) :
    ∀ delivery ∈ (c.detach number).2, delivery.Fits := by
  unfold detach
  split
  · exact List.forall_mem_nil _
  · exact List.forall_mem_singleton.mpr rfl

theorem detachAll_deliveries (numbers : List ℕ) (c : Connection) :
    ∀ delivery ∈ (detachAll numbers c).2, delivery.Fits := by
  induction numbers generalizing c with
  | nil => exact List.forall_mem_nil _
  | cons number rest ih =>
    exact List.forall_mem_append.mpr ⟨detach_deliveries c number, ih (c.detach number).1⟩

theorem dispatchBrowser_fits (hCalls : ∀ call ∈ c.calls, call.Fits) (method : String)
    (params : Value) : (c.dispatchBrowser method params).Fits := by
  refine ⟨(dispatchBrowser_kept c method params).calls ▸ hCalls, ?_⟩
  have hTold : ∀ delivery ∈ [Delivery.browser method params], delivery.Fits :=
    List.forall_mem_singleton.mpr trivial
  unfold dispatchBrowser
  split
  · split
    · exact List.forall_mem_nil _
    · split
      · exact List.forall_mem_append.mpr ⟨detach_deliveries _ _, hTold⟩
      · exact hTold
  · exact hTold

/-- **A frame that can be written tells what can be written**: as the answer to a command, or to a
session. -/
theorem dispatch_fits (hCalls : ∀ call ∈ c.calls, call.Fits) {members : List (String × Value)}
    (hFits : Value.fitsMembers members = true) : (c.dispatch members).Fits := by
  unfold dispatch
  split
  · next id _ =>
    rcases c.dispatchAnswer_cases id members with
      ⟨e, hFails, -⟩ | ⟨-, hStays⟩ | ⟨n, -, hSettles⟩
    · rw [hFails]
      exact failing_fits hCalls e
    · rw [hStays]
      exact unchanged_fits hCalls
    · rw [hSettles]
      exact ⟨settle_fits hCalls n (reply_gives hFits), List.forall_mem_nil _⟩
  · split
    · next method _ =>
      have hParams : (((Value.find? "params" members).getD .null).orElse (.object [])).fits = true :=
        Value.orElse_fits (valueIn_fits hFits rfl) rfl
      dsimp only
      split
      · unfold dispatchSession
        split
        · exact failing_fits hCalls _
        · split
          · exact ⟨hCalls, List.forall_mem_singleton.mpr hParams⟩
          · exact unchanged_fits hCalls
      · exact dispatchBrowser_fits hCalls method _
    · exact unchanged_fits hCalls

/-- What a text holds can be written, so what it tells can be. -/
theorem dispatchText_fits (hCalls : ∀ call ∈ c.calls, call.Fits) (text : String) :
    (c.dispatchText text).Fits := by
  unfold dispatchText
  split
  · next members hText => exact dispatch_fits hCalls (Json.ofText_fits hText)
  · exact unchanged_fits hCalls

theorem close_fits (hCalls : ∀ call ∈ c.calls, call.Fits) :
    (∀ call ∈ c.close.1.calls, call.Fits) ∧ ∀ delivery ∈ c.close.2.2, delivery.Fits := by
  unfold close
  split
  · exact ⟨hCalls, List.forall_mem_nil _⟩
  · refine ⟨?_, List.forall_mem_append.mpr
      ⟨detachAll_deliveries _ _, List.forall_mem_singleton.mpr trivial⟩⟩
    dsimp only
    rw [(detachAll_kept _ _).calls]
    intro call hMem v hAnswer
    obtain ⟨old, hOld, rfl⟩ := List.mem_map.mp hMem
    -- What has no answer yet gets a fault.
    unfold abort at hAnswer
    split at hAnswer
    · exact hCalls old hOld v hAnswer
    · cases hAnswer

end Connection

end PageReporter
