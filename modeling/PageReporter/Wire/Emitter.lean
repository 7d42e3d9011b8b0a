import PageReporter.LogLevel
import PageReporter.Value.Access

/-!
# Subscriptions

Events by name, and who is told about them. Handlers are told in the order in which they came; a
handler that fails is noted and passed over; and who comes while an event is being told is told
from the next event on.

* `Roster` — subscriptions in the order in which they came;
* `Roster.emit` — telling one event to those who are subscribed when it begins;
* `Emitter` — handlers as small programs that may record, fail, subscribe and emit again.
-/

namespace PageReporter

/-! ## Rosters -/

/-- Subscriptions: an event's name with a handler, in the order in which they came. -/
structure Roster (H : Type) where
  entries : List (String × H) := []

namespace Roster

variable {H : Type} {σ : Type}

/-- Adds a handler for an event, behind all others. -/
def subscribe (roster : Roster H) (event : String) (handler : H) : Roster H :=
  ⟨roster.entries ++ [(event, handler)]⟩

/-- Adds a handler for each of several events. -/
def subscribeAll (roster : Roster H) (events : List String) (handler : H) : Roster H :=
  ⟨roster.entries ++ events.map fun event => (event, handler)⟩

/-- The handlers of an event, in the order in which they came. -/
def handlers (roster : Roster H) (event : String) : List H :=
  (roster.entries.filter fun (name, _) => name = event).map Prod.snd

end Roster

/-- The note about a handler that failed. -/
def Note.failedHandler (event : String) (cause : Fault) : Note :=
  let shown := (Value.str event).display
  .skipped s!"Handler for {shown} failed" cause

/-- Tells an event to handlers one after the other. `run` is what a handler does to the state, and
how it failed if it did; `log` notes a failure that may be passed over. -/
def emitTo {H σ : Type} (run : H → σ → σ × Option Fault) (log : Note → σ → σ) (event : String) :
    List H → σ → σ
  | [], s => s
  | handler :: rest, s =>
    match run handler s with
    | (s, none) => emitTo run log event rest s
    | (s, some e) => emitTo run log event rest (log (.failedHandler event e) s)

/-! ## Handlers as programs -/

/-- One thing that a handler does when it is told an event. -/
inductive Emitter.Action
  /-- Records the handler's name with the payload. -/
  | record (name : String)
  | fail (cause : Fault)
  /-- Adds a handler for an event. -/
  | subscribe (event : String) (handler : List Emitter.Action)
  /-- Emits another event with the same payload. -/
  | emit (event : String)
  /-- Emits another event with a payload of its own. -/
  | emitWith (event : String) (payload : Value)

/-- Subscriptions of programs, with what has been recorded and noted. -/
structure Emitter where
  roster : Roster (List Emitter.Action) := {}
  calls : List (String × Value) := []
  notes : List Note := []

namespace Emitter

/-- Adds a handler for an event. -/
def subscribe (em : Emitter) (event : String) (handler : List Action) : Emitter :=
  ⟨em.roster.subscribe event handler, em.calls, em.notes⟩

/-- Adds a note. -/
def addNote (note : Note) (em : Emitter) : Emitter :=
  ⟨em.roster, em.calls, em.notes ++ [note]⟩

/-- Does the actions of one handler, up to the first that fails. `emit` tells another event. -/
def perform (emit : String → Value → Emitter → Emitter) (payload : Value) :
    List Action → Emitter → Emitter × Option Fault
  | [], em => (em, none)
  | .record name :: rest, em =>
    perform emit payload rest ⟨em.roster, em.calls ++ [(name, payload)], em.notes⟩
  | .fail cause :: _, em => (em, some cause)
  | .subscribe event handler :: rest, em =>
    perform emit payload rest (em.subscribe event handler)
  | .emit event :: rest, em => perform emit payload rest (emit event payload em)
  | .emitWith event other :: rest, em => perform emit payload rest (emit event other em)

/-- Tells an event to the handlers that are subscribed when it begins. Events told by handlers
nest at most `depth` deep. -/
def emitWithin : Nat → String → Value → Emitter → Emitter
  | 0, _, _, em => em
  | depth + 1, event, payload, em =>
    emitTo (perform (emitWithin depth) payload) addNote event (em.roster.handlers event) em

mutual

/-- The names of the events that an action emits, and those that a handler emits which it adds. -/
def Action.emitted : Action → List String
  | .record _ => []
  | .fail _ => []
  | .subscribe _ handler => emittedBy handler
  | .emit event => [event]
  | .emitWith event _ => [event]

/-- The names of the events that a handler emits, and those that handlers emit which it adds. -/
def emittedBy : List Action → List String
  | [] => []
  | action :: rest => action.emitted ++ emittedBy rest

end

/-- A depth that is enough wherever the events told by handlers do not nest without end: one more
than there are names that handlers emit. -/
def depth (em : Emitter) : Nat :=
  (em.roster.entries.flatMap fun (_, handler) => emittedBy handler).length + 1

/-- Tells an event to the handlers that are subscribed when it begins. -/
def emit (em : Emitter) (event : String) (payload : Value) : Emitter :=
  emitWithin em.depth event payload em

end Emitter

end PageReporter
