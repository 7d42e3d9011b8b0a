import PageReporter.Page.Handle
import PageReporter.Proofs.ScriptRuns
import PageReporter.Proofs.WholeNumberLiterals
import PageReporter.Rehearsal.Peer

/-!
# Arguments that come back

A value of the page that is no object is fetched by handing its description to a function of the
page as an argument. The description is looked through for a name, for undefined and for a value
twice: once when it is made an argument, and once more when what comes back is read. A browser that
hands the argument back describes it anew, and what is read of the new description is what would
have been read of the first one. So nothing that counts as absent, and no number that needs a name,
is taken for something else on the way.

* `Remote.decode_named`, `Remote.decode_undefined`, `Remote.decode_value` — what is read of a
  description, and `Remote.argument_named` and its companions, the argument that it makes;
* `Remote.Echoes` — the descriptions of an argument that is handed back;
* `Remote.decode_of_echoes` — what is read of them;
* `Remote.Shows` — the text that the page's own console has for what is described;
* `Handle.Echoing` — the surroundings of a handle whose browser hands arguments back;
* `Handle.evaluate_echoed` — evaluation in them.
-/

namespace PageReporter

namespace Remote

/-! ## Descriptions -/

/-- Whether a description says that what it describes is undefined. -/
def isUndefined (members : List (String × Value)) : Bool :=
  ((Value.find? "type" members).getD .null).same (.str "undefined")

section

variable {members : List (String × Value)}

theorem get_type : (Value.object members).get "type" =
    .ok ((Value.find? "type" members).getD .null) :=
  rfl

theorem decode_named {name : Value}
    (hName : Value.find? "unserializableValue" members = some name) :
    decode (.object members) = named name := by
  simp only [decode, Value.holds, Value.index, hName]
  rfl

theorem decode_undefined (hUnnamed : Value.find? "unserializableValue" members = none)
    (hKind : isUndefined members = true) : decode (.object members) = .ok .undefined := by
  rw [isUndefined] at hKind
  simp only [decode, Value.holds, hUnnamed, get_type]
  show (if ((Value.find? "type" members).getD .null).same (.str "undefined") then _ else _) = _
  rw [if_pos hKind]
  rfl

theorem decode_value {v : Value} (hUnnamed : Value.find? "unserializableValue" members = none)
    (hKind : isUndefined members = false) (hValue : Value.find? "value" members = some v) :
    decode (.object members) = .ok v := by
  rw [isUndefined] at hKind
  simp only [decode, Value.holds, Value.index, hUnnamed, hValue, get_type]
  show (if ((Value.find? "type" members).getD .null).same (.str "undefined") then _ else _) = _
  rw [hKind]
  rfl

/-- A description that holds nothing to read cannot be read. -/
theorem decode_without (hUnnamed : Value.find? "unserializableValue" members = none)
    (hKind : isUndefined members = false) (hValue : Value.find? "value" members = none) (v : Value) :
    decode (.object members) ≠ .ok v := by
  rw [isUndefined] at hKind
  simp only [decode, Value.holds, Value.index, hUnnamed, hValue, get_type]
  show (if ((Value.find? "type" members).getD .null).same (.str "undefined") then _ else _) ≠ _
  rw [hKind]
  intro hOk
  cases hOk

variable (hOwn : Value.find? "objectId" members = none)

include hOwn

theorem argument_named {name : Value}
    (hName : Value.find? "unserializableValue" members = some name) :
    argument (.object members) = .ok (.object [("unserializableValue", name)]) := by
  simp only [argument, Value.holds, Value.index, hOwn, hName]
  rfl

theorem argument_undefined (hUnnamed : Value.find? "unserializableValue" members = none)
    (hKind : isUndefined members = true) : argument (.object members) = .ok (.object []) := by
  rw [isUndefined] at hKind
  simp only [argument, Value.holds, hOwn, hUnnamed, get_type]
  show (if ((Value.find? "type" members).getD .null).same (.str "undefined") then _ else _) = _
  rw [if_pos hKind]
  rfl

theorem argument_value {v : Value} (hUnnamed : Value.find? "unserializableValue" members = none)
    (hKind : isUndefined members = false) (hValue : Value.find? "value" members = some v) :
    argument (.object members) = .ok (.object [("value", v)]) := by
  rw [isUndefined] at hKind
  simp only [argument, Value.holds, hOwn, hUnnamed, get_type]
  show (if ((Value.find? "type" members).getD .null).same (.str "undefined") then _ else _) = _
  rw [hKind]
  simp only [Value.get, Value.memberOr, Value.member?, hValue]
  rfl

end

/-! ## Echoes -/

/-- How a browser describes an argument that a function has handed back to it: the argument that
says nothing as undefined, a name by that name, and a value by that value, unless it is the negative
zero, which may be told by its name. What else it says of it is not looked at. -/
inductive Echoes : Value → List (String × Value) → Prop
  | empty {members : List (String × Value)}
      (hUnnamed : Value.find? "unserializableValue" members = none)
      (hKind : isUndefined members = true) : Echoes (.object []) members
  | named {name : Value} {members : List (String × Value)}
      (hName : Value.find? "unserializableValue" members = some name) :
      Echoes (.object [("unserializableValue", name)]) members
  | value {v : Value} {members : List (String × Value)}
      (hUnnamed : Value.find? "unserializableValue" members = none)
      (hKind : isUndefined members = false) (hValue : Value.find? "value" members = some v) :
      Echoes (.object [("value", v)]) members
  | negativeZero {members : List (String × Value)}
      (hName : Value.find? "unserializableValue" members = some (.str "-0")) :
      Echoes (.object [("value", .double (.finite true 0 representable_zero))]) members

namespace Echoes

variable {members : List (String × Value)}

theorem of_empty (hEcho : Echoes (.object []) members) :
    Value.find? "unserializableValue" members = none ∧ isUndefined members = true := by
  cases hEcho with
  | empty hUnnamed hKind => exact ⟨hUnnamed, hKind⟩

theorem of_named {name : Value}
    (hEcho : Echoes (.object [("unserializableValue", name)]) members) :
    Value.find? "unserializableValue" members = some name := by
  generalize hGiven : Value.object [("unserializableValue", name)] = given at hEcho
  cases hEcho with
  | empty => simp at hGiven
  | named hName => simpa [hName] using hGiven.symm
  | value | negativeZero => simp at hGiven

theorem of_value {v : Value} (hEcho : Echoes (.object [("value", v)]) members) :
    Value.find? "unserializableValue" members = none ∧ isUndefined members = false ∧
        Value.find? "value" members = some v ∨
      v = .double (.finite true 0 representable_zero) ∧
        Value.find? "unserializableValue" members = some (.str "-0") := by
  generalize hGiven : Value.object [("value", v)] = given at hEcho
  cases hEcho with
  | empty | named => simp at hGiven
  | value hUnnamed hKind hValue =>
    obtain rfl : v = _ := by simpa using hGiven
    exact .inl ⟨hUnnamed, hKind, hValue⟩
  | negativeZero hName => exact .inr ⟨by simpa using hGiven, hName⟩

end Echoes

/-- A description that can be read makes an argument whose every echo is read as the same. -/
theorem decode_of_echoes {members : List (String × Value)} {v : Value}
    (hOwn : Value.find? "objectId" members = none) (hReads : decode (.object members) = .ok v) :
    ∃ given, argument (.object members) = .ok given ∧
      (∀ {echo}, Echoes given echo → decode (.object echo) = .ok v) ∧ ∃ echo, Echoes given echo := by
  cases hName : Value.find? "unserializableValue" members with
  | some name =>
    rw [decode_named hName] at hReads
    refine ⟨_, argument_named hOwn hName, fun hEcho => ?_, _, .named hName⟩
    rw [decode_named hEcho.of_named, hReads]
  | none =>
  cases hKind : isUndefined members with
  | true =>
    rw [decode_undefined hName hKind] at hReads
    refine ⟨_, argument_undefined hOwn hName hKind, fun hEcho => ?_, _, .empty hName hKind⟩
    obtain ⟨hUnnamed, hSame⟩ := hEcho.of_empty
    rw [decode_undefined hUnnamed hSame, hReads]
  | false =>
  cases hValue : Value.find? "value" members with
  | some w =>
    rw [decode_value hName hKind hValue] at hReads
    refine ⟨_, argument_value hOwn hName hKind hValue, fun hEcho => ?_, _, .value hName hKind hValue⟩
    rcases hEcho.of_value with ⟨hUnnamed, hSame, hValue⟩ | ⟨rfl, hName⟩
    · rw [decode_value hUnnamed hSame hValue, hReads]
    · -- The name stands for the value that was sent.
      rw [decode_named hName, ← hReads]
      rfl
  | none => exact absurd hReads (decode_without hName hKind hValue v)

/-! ## What the page has logged -/

/-- The text that the page's own console has for what is described: `undefined`, the name of a
number that JSON cannot write, the literal of a whole number of arbitrary size, and for a value the
text of that value. -/
inductive Shows (members : List (String × Value)) : String → Prop
  | undefined (hUnnamed : Value.find? "unserializableValue" members = none)
      (hKind : isUndefined members = true) : Shows members "undefined"
  | number {name : String} (hName : Value.find? "unserializableValue" members = some (.str name))
      (hNumber : name ∈ ["NaN", "Infinity", "-Infinity", "-0"]) : Shows members name
  | whole {z : ℤ} (hName : Value.find? "unserializableValue" members = some (.str (literal z))) :
      Shows members (literal z)
  | value {v : Value} {text : String}
      (hUnnamed : Value.find? "unserializableValue" members = none)
      (hKind : isUndefined members = false) (hValue : Value.find? "value" members = some v)
      (hText : Inspect.render true v = .ok text) : Shows members text

/-- What is read of a description is printed as the text that the page's own console has for it. -/
theorem Shows.render {members : List (String × Value)} {text : String} {v : Value}
    (hShows : Shows members text) (hReads : decode (.object members) = .ok v) :
    Inspect.render true v = .ok text := by
  cases hShows with
  | undefined hUnnamed hKind =>
    rw [decode_undefined hUnnamed hKind] at hReads
    cases hReads
    rfl
  | number hName hNumber =>
    rw [decode_named hName] at hReads
    simp only [List.mem_cons, List.not_mem_nil, or_false] at hNumber
    rcases hNumber with rfl | rfl | rfl | rfl <;> (cases hReads; rfl)
  | @whole z hName =>
    obtain ⟨hRead, hPrinted, hUnread⟩ := literal_kept z hName
    rcases Nat.lt_or_ge digitLimit (Text.asciiDigits z.natAbs).length with hLong | hShort
    · rw [hUnread hLong] at hReads
      cases hReads
    · rw [hRead.mpr hShort] at hReads
      cases hReads
      exact hPrinted hShort true
  | value hUnnamed hKind hValue hText =>
    rw [decode_value hUnnamed hKind hValue] at hReads
    cases hReads
    exact hText

end Remote

namespace Handle

open Remote

/-! ## Evaluation -/

/-- The surroundings of a handle whose session goes on and whose browser answers the call of a
function by handing back its argument. -/
inductive Echoing : Unit → (op : Host.Op) → Except Fault (Host.Answer op) → Unit → Prop
  | attached {session : ℕ} : Echoing () (.isDetached session) (.ok false) ()
  | called {key params limit : Value} {answer echo : List (String × Value)}
      (hReturned : Value.find? "exceptionDetails" answer = none)
      (hResult : Value.find? "result" answer = some (.object echo))
      (hEcho : Echoes (Peer.firstArgument params) echo) :
      Echoing () (.send key "Runtime.callFunctionOn" params limit) (.ok (.object answer)) ()

/-- What an answer with a result in it is read as. -/
theorem resultOf_returned {answer echo : List (String × Value)} {v : Value}
    (hReturned : Value.find? "exceptionDetails" answer = none)
    (hResult : Value.find? "result" answer = some (.object echo))
    (hReads : decode (.object echo) = .ok v) : resultOf (.object answer) = .ok v := by
  -- A description that can be read is not empty, so nothing stands in for it.
  have hSome : (Value.object echo).orElse (.object []) = .object echo := by
    cases echo with
    | nil => cases hReads
    | cons member others => rfl
  simp only [resultOf, Value.holds, hReturned, Value.get, Value.memberOr, Value.member?, hResult]
  show decode ((Value.object echo).orElse (.object [])) = _
  rw [hSome, hReads]

/-- The parameters of a call with a value that is no object of the page, in its context. -/
def echoedParams (function : String) (given context : Value) : Value :=
  .object [("functionDeclaration", .str function), ("arguments", .list [given]),
    ("returnByValue", .bool true), ("awaitPromise", .bool true), ("executionContextId", context)]

theorem callParams_of_context {members : List (String × Value)} {context given : Value}
    (hOwn : Value.find? "objectId" members = none) (hContext : context ≠ .null)
    (hGiven : argument (.object members) = .ok given) (function : String) :
    Handle.callParams ⟨.object members, context⟩ function =
      .ok (echoedParams function given context) := by
  have hPlace : Handle.place ⟨.object members, context⟩ = .ok ("executionContextId", context) := by
    simp only [place, Value.holds, hOwn]
    cases context with
    | null => exact absurd rfl hContext
    | _ => rfl
  rw [callParams, hGiven, hPlace]
  rfl

/-- A call whose parameters are known asks twice: whether the session goes on, and for the answer. -/
theorem evaluate_asks {handle : Handle} {params : Value} {function : String}
    (hParams : handle.callParams function = .ok params) (session : ℕ) (key : Value) :
    evaluate handle session key function =
      (Host.ask (.isDetached session)).bind fun detached =>
        if detached then .done (.error (.protocol "Runtime.callFunctionOn: target closed"))
        else (Host.send key "Runtime.callFunctionOn" params .null).bind fun answer =>
          Script.ofExcept (resultOf answer) := by
  rw [evaluate, hParams]
  refine congrArg (Host.ask (.isDetached session)).bind (funext fun detached => ?_)
  cases detached <;> rfl

/-- **Evaluation gives back what the description of a primitive value stands for.** For every
description without an object of the page that can be read at all, and a handle with a context, the
call carries one argument. However a browser that hands it back describes it, the handle asks
whether its session goes on, sends the call, and gives what is read of the first description; there
is such a run; and what it gives is printed as the page's own console would, undefined as undefined
and not as null, a whole number of arbitrary size as its literal, and negative zero with its sign. -/
theorem evaluate_echoed {members : List (String × Value)} {context v : Value}
    (hOwn : Value.find? "objectId" members = none) (hReads : decode (.object members) = .ok v)
    (hContext : context ≠ .null) (session : ℕ) (key : Value) (function : String) :
    ∃ given, argument (.object members) = .ok given ∧
      (∀ trace result after,
        Script.Runs Echoing (evaluate ⟨.object members, context⟩ session key function) () trace
          result after →
        result = .ok v ∧ trace.map Sigma.fst = [.isDetached session,
          .send key "Runtime.callFunctionOn" (echoedParams function given context) .null]) ∧
      (∃ trace, Script.Runs Echoing (evaluate ⟨.object members, context⟩ session key function) ()
        trace (.ok v) ()) ∧
      ∀ text, Shows members text → Inspect.render true v = .ok text := by
  obtain ⟨given, hGiven, hEchoes, echo, hEcho⟩ := decode_of_echoes hOwn hReads
  have hScript := evaluate_asks (callParams_of_context hOwn hContext hGiven function) session key
  refine ⟨given, hGiven, fun trace result after hRuns => ?_, ?_, fun text hShows =>
    hShows.render hReads⟩
  · rw [hScript] at hRuns
    rcases hRuns.perform_bind with ⟨detached, _, rest, rfl, hAttached, hRest⟩ | ⟨_, -, -, hNever⟩
    · cases hAttached
      rcases hRest.perform_bind with ⟨answer, _, rest, rfl, hCalled, hRest⟩ | ⟨_, -, -, hNever⟩
      · cases hCalled with
        | called hReturned hResult hEcho =>
          obtain ⟨rfl, rfl, -⟩ := hRest.ofDone
          exact ⟨resultOf_returned hReturned hResult (hEchoes hEcho), rfl⟩
      · cases hNever
    · cases hNever
  · -- The browser answers with nothing but the echo.
    rw [hScript]
    have hReturned : Value.find? "exceptionDetails" [("result", .object echo)] = none := rfl
    have hResult : Value.find? "result" [("result", .object echo)] = some (.object echo) := rfl
    have hLast : Script.Runs Echoing (Script.ofExcept (S := Host)
        (resultOf (.object [("result", .object echo)]))) () [] (.ok v) () := by
      rw [resultOf_returned hReturned hResult (hEchoes hEcho)]
      exact .done
    exact ⟨_, .ask .attached (.ask (.called hReturned hResult hEcho) hLast)⟩

/-- A negative whole number of arbitrary size that was logged in the context 3. -/
theorem evaluate_echoed_bigint :
    decode (.object [("type", .str "bigint"), ("unserializableValue", .str "-12n")]) =
      .ok (.bigint (-12)) ∧
    (∃ trace, Script.Runs Echoing (evaluate ⟨.object [("type", .str "bigint"),
        ("unserializableValue", .str "-12n")], .int 3⟩ 0 (.str "S1") resolver) ()
      trace (.ok (.bigint (-12))) ()) ∧
    Inspect.render true (.bigint (-12)) = .ok "-12n" := by
  have hLiteral : literal (-12) = "-12n" := by decide
  have hReads : decode (.object [("type", .str "bigint"), ("unserializableValue", .str "-12n")]) =
      .ok (.bigint (-12)) :=
    (literal_kept (-12) (by rw [hLiteral]; rfl)).1.mpr (by decide)
  obtain ⟨-, -, -, hRun, hShown⟩ := evaluate_echoed rfl hReads (show Value.int 3 ≠ .null from nofun) 0
    (.str "S1") resolver
  exact ⟨hReads, hRun, hShown _ (hLiteral ▸ .whole (by rw [hLiteral]; rfl))⟩

end Handle

end PageReporter
