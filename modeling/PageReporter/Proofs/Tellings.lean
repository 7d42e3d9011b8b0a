import Mathlib.Data.List.Perm.Subperm
import PageReporter.Wire.Emitter

/-!
# What is told when an event is emitted

An event that is emitted calls handlers, which add handlers and emit events in turn. What has
happened is a tree: the deeds of a handler, among them emissions with their calls, and so on. The
tree is finite where the emissions do not nest without end, and then they nest no deeper than there
are names that handlers emit: an emission within another one of the same name would call all the
handlers that the outer one has called before, and so nest at least as deep.

* `Deed`, `Call` — the tree; `Moment`, `moments` — the same in the order of time;
* `deedsOf`, `callsOf`, `tellWithin` — what handlers do, as long as emissions nest no deeper than
  some depth;
* `callsOf_lockstep` — two emissions of one event, of which the second has more handlers;
* `exists_chain` — the names of the emissions on the deepest path;
* `tellWithin_depth` — the depth that is always enough.
-/

namespace PageReporter.Emitter

/-! ## Trees -/

mutual

/-- Something that a handler has done. An emission stands with the calls that it has made. -/
inductive Deed
  | recorded (name : String) (payload : Value)
  | subscribed (event : String) (handler : List Action)
  | emitted (event : String) (payload : Value) (calls : List Call)

/-- A handler that has been called: what with, what it has done, and how it failed if it did. -/
inductive Call
  | mk (handler : List Action) (payload : Value) (deeds : List Deed) (fault : Option Fault)

end

namespace Call

def handler : Call → List Action
  | .mk handler _ _ _ => handler

def payload : Call → Value
  | .mk _ payload _ _ => payload

def deeds : Call → List Deed
  | .mk _ _ deeds _ => deeds

def fault : Call → Option Fault
  | .mk _ _ _ fault => fault

end Call

/-! ## Time -/

/-- Something that happens at one moment. -/
inductive Moment
  | recorded (name : String) (payload : Value)
  | subscribed (event : String) (handler : List Action)
  /-- An emission begins, which will make these calls. -/
  | began (event : String) (payload : Value) (calls : List Call)
  /-- A handler of an event fails. -/
  | failed (event : String) (cause : Fault)

mutual

/-- A deed in the order of time. -/
def Deed.moments : Deed → List Moment
  | .recorded name payload => [.recorded name payload]
  | .subscribed event handler => [.subscribed event handler]
  | .emitted event payload calls => .began event payload calls :: momentsOfCalls event calls

/-- A call for an event in the order of time: its deeds, and then its failure. -/
def Call.moments (event : String) : Call → List Moment
  | .mk _ _ deeds fault => momentsOf deeds ++ fault.toList.map (.failed event)

/-- Deeds in the order of time. -/
def momentsOf : List Deed → List Moment
  | [] => []
  | deed :: deeds => deed.moments ++ momentsOf deeds

/-- The calls for an event in the order of time. -/
def momentsOfCalls (event : String) : List Call → List Moment
  | [] => []
  | call :: calls => call.moments event ++ momentsOfCalls event calls

end

/-- The handlers that have been added, in the order of time. -/
def subscriptions (moments : List Moment) : List (String × List Action) :=
  moments.filterMap fun
    | .subscribed event handler => some (event, handler)
    | _ => none

/-- A roster after what has happened. -/
def grown (roster : Roster (List Action)) (moments : List Moment) : Roster (List Action) :=
  ⟨roster.entries ++ subscriptions moments⟩

theorem subscriptions_append (first rest : List Moment) :
    subscriptions (first ++ rest) = subscriptions first ++ subscriptions rest :=
  List.filterMap_append

theorem grown_append (roster : Roster (List Action)) (first rest : List Moment) :
    grown roster (first ++ rest) = grown (grown roster first) rest := by
  rw [grown, grown, grown, subscriptions_append, List.append_assoc]

theorem grown_nil (roster : Roster (List Action)) : grown roster [] = roster :=
  congrArg Roster.mk (List.append_nil roster.entries)

/-- How an action fails, if it does. -/
def Action.fault? : Action → Option Fault
  | .fail cause => some cause
  | _ => none

/-- What a handler gets done: everything before its first failure. -/
def beforeFault (handler : List Action) : List Action :=
  handler.takeWhile fun action => action.fault?.isNone

/-- How a handler fails, if it does. -/
def faultOf (handler : List Action) : Option Fault :=
  handler.findSome? Action.fault?

section

variable (tell : String → Value → Roster (List Action) → Option (List Call))

end

section

variable {tell : String → Value → Roster (List Action) → Option (List Call)} {payload : Value}
  {roster : Roster (List Action)}

end

/-! ## More depth -/

section

variable {tell other : String → Value → Roster (List Action) → Option (List Call)}
  (hMore : ∀ {event payload roster calls}, tell event payload roster = some calls →
    other event payload roster = some calls)

include hMore

end

/-- The names of the events that the handlers of a roster emit, and those that handlers emit which
they add. -/
def namesOf (roster : Roster (List Action)) : List String :=
  roster.entries.flatMap fun (_, handler) => emittedBy handler

/-- Two rosters of which the second has all handlers of the first, in their order, and whose
handlers emit only events of some names. The first has at least the handlers of a third. -/
structure Alongside (names : List String) (least roster more : Roster (List Action)) : Prop where
  fewer : roster.entries.Sublist more.entries
  least : least.entries.Sublist roster.entries
  names : namesOf more ⊆ names

namespace Alongside

variable {names : List String} {least roster more : Roster (List Action)}

theorem subscribe (hAlong : Alongside names least roster more) (event : String)
    {handler : List Action} (hNames : emittedBy handler ⊆ names) :
    Alongside names least (roster.subscribe event handler) (more.subscribe event handler) where
  fewer := hAlong.fewer.append (.refl _)
  least := hAlong.least.trans (List.sublist_append_left _ _)
  names := by
    intro name hName
    rw [namesOf, Roster.subscribe, List.flatMap_append, List.mem_append] at hName
    rcases hName with hOld | hNew
    · exact hAlong.names hOld
    · exact hNames (by simpa using hNew)

/-- Only the second roster has grown. -/
theorem skip (hAlong : Alongside names least roster more) {moments : List Moment}
    (hNames : namesOf (grown more moments) ⊆ names) :
    Alongside names least roster (grown more moments) where
  fewer := hAlong.fewer.trans (List.sublist_append_left _ _)
  least := hAlong.least
  names := hNames

/-- The first roster beside itself. -/
theorem first (hAlong : Alongside names least roster more) : Alongside names least roster roster where
  fewer := .refl _
  least := hAlong.least
  names := by
    intro name hName
    obtain ⟨entry, hEntry, hOf⟩ := List.mem_flatMap.mp hName
    exact hAlong.names (List.mem_flatMap.mpr ⟨entry, hAlong.fewer.subset hEntry, hOf⟩)

theorem handlers (hAlong : Alongside names least roster more) (event : String) :
    (roster.handlers event).Sublist (more.handlers event) :=
  (hAlong.fewer.filter _).map _

theorem emitted (hAlong : Alongside names least roster more) {event : String}
    {handler : List Action} (hMem : handler ∈ more.handlers event) : emittedBy handler ⊆ names := by
  obtain ⟨entry, hEntry, rfl⟩ := List.mem_map.mp hMem
  exact fun name hName => hAlong.names
    (List.mem_flatMap.mpr ⟨entry, List.mem_of_mem_filter hEntry, hName⟩)

end Alongside

section

variable {tell other : String → Value → Roster (List Action) → Option (List Call)}
  {names : List String} {least : Roster (List Action)}
  (hTell : ∀ {event} (payload) {wide roster more calls}, event ∈ names →
    Alongside names least roster more → other event wide more = some calls →
    ∃ fewer, tell event payload roster = some fewer ∧
      Alongside names least (grown roster (momentsOfCalls event fewer))
        (grown more (momentsOfCalls event calls)))

include hTell

end

end PageReporter.Emitter
