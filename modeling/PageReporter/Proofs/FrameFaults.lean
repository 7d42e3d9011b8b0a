import PageReporter.Proofs.CallRun
import PageReporter.Proofs.ReadValues

/-!
# Which frames cannot be understood

A frame is an object of which nothing else is promised. Where a member of it serves as a key, or
is asked for members of its own, a member of the wrong shape is a fault, and which members come to
that depends on the commands that wait and on the sessions that are known.

* `Connection.Baffles` — the frames that cannot be understood, each with its fault;
* `Connection.dispatch_fault_iff` — there are no others among the frames whose numbers are not
  too long;
* `Connection.dispatchText_fault_iff` — there are no others among texts.
-/

namespace PageReporter

namespace Value

/-- Whether a value has members that may be asked for. -/
def isObject : Value → Bool
  | .object _ => true
  | _ => false

/-- Only what is no object refuses to be asked for a member. -/
theorem member?_error_iff {v : Value} {name : String} {e : Fault} :
    v.member? name = .error e ↔ v.isObject = false ∧ e = .noAttribute v.shape "get" := by
  cases v with
  | object members => exact ⟨nofun, fun h => Bool.noConfusion h.1⟩
  | _ => exact ⟨fun h => ⟨rfl, (Except.error.inj h).symm⟩, fun h => h.2 ▸ rfl⟩

theorem exists_object {v : Value} (hObject : v.isObject = true) :
    ∃ members, v = .object members := by
  cases v with
  | object members => exact ⟨members, rfl⟩
  | _ => cases hObject

end Value

namespace Connection

/-! ## The frames -/

/-- A frame tells the browser that a session has come to its end. -/
structure TellsEnd (members : List (String × Value)) : Prop where
  unnumbered : Value.find? "id" members = none
  method : Value.find? "method" members = some (.str "Target.detachedFromTarget")
  keyless : ((Value.find? "sessionId" members).getD .null).truthy = false

/-- The frames that cannot be understood in the state that the connection is in, each with its
fault. -/
inductive Baffles (c : Connection) (members : List (String × Value)) : Fault → Prop
  /-- A frame that bears a number that cannot be a key. -/
  | number {id : Value} (hId : Value.find? "id" members = some id) (hKey : id.isKey = false) :
      Baffles c members (.misuse (.key id.shape))
  /-- An answer to a command that waits, with an error that is no object. -/
  | error {id error : Value} {n : Nat} (hId : Value.find? "id" members = some id)
      (hAwaiting : c.awaiting? id = some n) (hError : Value.find? "error" members = some error)
      (hObject : error.isObject = false) : Baffles c members (.noAttribute error.shape "get")
  /-- An event of a session by what cannot be a key. -/
  | session {method : String} {key : Value} (hId : Value.find? "id" members = none)
      (hMethod : Value.find? "method" members = some (.str method))
      (hSession : Value.find? "sessionId" members = some key) (hPresent : key.truthy = true)
      (hKey : key.isKey = false) : Baffles c members (.misuse (.key key.shape))
  /-- The end of a session, told by what is present but no object. -/
  | detail {params : Value} (hEnd : TellsEnd members)
      (hParams : Value.find? "params" members = some params) (hPresent : params.truthy = true)
      (hObject : params.isObject = false) : Baffles c members (.noAttribute params.shape "get")
  /-- The end of a session by what cannot be a key, while there are sessions to look through. -/
  | ended {params : List (String × Value)} {key : Value} (hEnd : TellsEnd members)
      (hParams : Value.find? "params" members = some (.object params))
      (hSession : Value.find? "sessionId" params = some key) (hKey : key.isKey = false)
      (hKnown : c.table ≠ []) : Baffles c members (.misuse (.key key.shape))

/-! ## Their faults -/

/-- An error whose numbers are not too long is only refused if it is no object. -/
theorem errorText_error_iff {error : Value} (hFits : error.fits = true) {e : Fault} :
    errorText error = .error e ↔ error.isObject = false ∧ e = .noAttribute error.shape "get" := by
  cases hObject : error.isObject with
  | false =>
    have hRefused : error.member? "message" = .error (.noAttribute error.shape "get") :=
      Value.member?_error_iff.mpr ⟨hObject, rfl⟩
    rw [errorText, Value.text_ok hFits, hRefused]
    exact ⟨fun h => ⟨rfl, (Except.error.inj h).symm⟩, fun h => h.2 ▸ rfl⟩
  | true =>
    obtain ⟨members, rfl⟩ := Value.exists_object hObject
    refine ⟨fun hText => ?_, fun h => Bool.noConfusion h.1⟩
    -- The message of an object fits as the object does, so there is a text.
    have hWhole := Value.text_ok hFits
    simp only [errorText, hWhole, Value.member?, bind, Except.bind] at hText
    cases hMessage : Value.find? "message" members with
    | none =>
      rw [hMessage] at hText
      cases hText
    | some message =>
      have hPart := Value.text_ok (Value.find?_fits hFits hMessage)
      rw [hMessage] at hText
      cases hPart.symm.trans hText

theorem dispatchAnswer_fault_iff {c : Connection} {members : List (String × Value)} {id : Value}
    (hFits : Value.fitsMembers members = true) (hId : Value.find? "id" members = some id)
    {e : Fault} : (c.dispatchAnswer id members).fault = some e ↔ Baffles c members e := by
  constructor
  · intro hFault
    unfold dispatchAnswer at hFault
    cases hKey : id.asKey with
    | error f =>
      rw [hKey] at hFault
      obtain ⟨hNoKey, rfl⟩ := Value.asKey_error_iff.mp hKey
      cases hFault
      exact .number hId hNoKey
    | ok key =>
      obtain ⟨-, rfl⟩ := Value.asKey_ok_iff.mp hKey
      simp only [hKey] at hFault
      split at hFault
      · cases hFault
      · next n hAwaiting =>
        split at hFault
        · next error hError =>
          split at hFault
          · cases hFault
          · next f hText =>
            obtain ⟨hObject, rfl⟩ :=
              (errorText_error_iff (Value.find?_fits hFits hError)).mp hText
            cases hFault
            exact .error hId hAwaiting hError hObject
        · cases hFault
  · intro hBaffles
    unfold dispatchAnswer
    -- A frame with an id can only be one of the first two kinds.
    cases hBaffles with
    | @number id' hId' hKey =>
      obtain rfl := Option.some.inj (hId.symm.trans hId')
      rw [Value.asKey_error_iff.mpr ⟨hKey, rfl⟩]
      rfl
    | @error id' error n hId' hAwaiting hError hObject =>
      obtain rfl := Option.some.inj (hId.symm.trans hId')
      have hText := (errorText_error_iff (Value.find?_fits hFits hError)).mpr ⟨hObject, rfl⟩
      simp only [awaiting?_asKey hAwaiting, hAwaiting, hError, hText]
      rfl
    | session hNone => cases hId.symm.trans hNone
    | detail hEnd => cases hId.symm.trans hEnd.unnumbered
    | ended hEnd => cases hId.symm.trans hEnd.unnumbered

theorem dispatchSession_fault_iff {c : Connection} {method : String} {key params : Value}
    {e : Fault} : (c.dispatchSession key method params).fault = some e ↔
      key.isKey = false ∧ e = .misuse (.key key.shape) := by
  rw [← Value.asKey_error_iff]
  unfold dispatchSession
  cases hKey : key.asKey with
  | error f =>
    exact ⟨fun h => congrArg _ (Option.some.inj h), fun h => congrArg _ (Except.error.inj h)⟩
  | ok k =>
    refine ⟨fun hFault => ?_, nofun⟩
    dsimp only at hFault
    split at hFault <;> cases hFault

/-- The browser's events are understood, but for the end of a session. -/
theorem dispatchBrowser_fault_iff {c : Connection} {method : String} {params : Value} {e : Fault} :
    (c.dispatchBrowser method params).fault = some e ↔
      method = "Target.detachedFromTarget" ∧ c.detachedKey params = .error e := by
  unfold dispatchBrowser
  split
  · next hEnd =>
    cases hKey : c.detachedKey params with
    | error f =>
      exact ⟨fun h => ⟨hEnd, congrArg _ (Option.some.inj h)⟩,
        fun h => congrArg _ (Except.error.inj h.2)⟩
    | ok key =>
      refine ⟨fun hFault => ?_, nofun⟩
      dsimp only at hFault
      split at hFault <;> cases hFault
  · next hOther => exact ⟨nofun, fun h => absurd h.1 hOther⟩

/-- The key of a session whose end is told is refused in what is no object, and where it can be
no key. -/
theorem detachedKey_error_iff {c : Connection} {params : Value} {e : Fault} :
    c.detachedKey params = .error e ↔
      (params.isObject = false ∧ e = .noAttribute params.shape "get") ∨
      ∃ members key, params = .object members ∧ Value.find? "sessionId" members = some key ∧
        key.isKey = false ∧ c.table ≠ [] ∧ e = .misuse (.key key.shape) := by
  constructor
  · intro hFault
    cases hObject : params.isObject with
    | false =>
      left
      have hRefused : params.member? "sessionId" = .error (.noAttribute params.shape "get") :=
        Value.member?_error_iff.mpr ⟨hObject, rfl⟩
      rw [detachedKey, Value.memberOr, hRefused] at hFault
      exact ⟨rfl, (Except.error.inj hFault).symm⟩
    | true =>
      right
      obtain ⟨members, rfl⟩ := Value.exists_object hObject
      simp only [detachedKey, Value.memberOr, Value.member?, Except.map, bind, Except.bind]
        at hFault
      split at hFault
      · cases hFault
      · next hKnown =>
        obtain ⟨hKey, rfl⟩ := Value.asKey_error_iff.mp hFault
        cases hFind : Value.find? "sessionId" members with
        | none =>
          rw [hFind] at hKey
          cases hKey
        | some key =>
          rw [hFind, Option.getD_some] at hKey
          exact ⟨members, key, rfl, hFind, hKey,
            fun hNone => hKnown (List.isEmpty_iff.mpr hNone), rfl⟩
  · rintro (⟨hObject, rfl⟩ | ⟨members, key, rfl, hFind, hKey, hKnown, rfl⟩)
    · have hRefused : params.member? "sessionId" = .error (.noAttribute params.shape "get") :=
        Value.member?_error_iff.mpr ⟨hObject, rfl⟩
      rw [detachedKey, Value.memberOr, hRefused]
      rfl
    · simp only [detachedKey, Value.memberOr, Value.member?, Except.map, bind, Except.bind, hFind,
        Option.getD_some]
      rw [if_neg fun hNone => hKnown (List.isEmpty_iff.mp hNone)]
      exact Value.asKey_error_iff.mpr ⟨hKey, rfl⟩

/-- The details that a frame gives are those that it has, if they are present, and none
otherwise. -/
theorem details_cases (members : List (String × Value)) :
    (∃ params, Value.find? "params" members = some params ∧ params.truthy = true ∧
      ((Value.find? "params" members).getD .null).orElse (.object []) = params) ∨
    ((Value.find? "params" members).getD .null).orElse (.object []) = .object [] := by
  cases hParams : Value.find? "params" members with
  | none => exact .inr rfl
  | some params =>
    rw [Option.getD_some, Value.orElse]
    cases hPresent : params.truthy with
    | true => exact .inl ⟨params, rfl, hPresent, rfl⟩
    | false => exact .inr rfl

/-- The end of a session is told in what is refused. -/
theorem detachedKey_baffles {c : Connection} {members : List (String × Value)}
    (hEnd : TellsEnd members) {e : Fault} :
    c.detachedKey (((Value.find? "params" members).getD .null).orElse (.object [])) = .error e ↔
      Baffles c members e := by
  rw [detachedKey_error_iff]
  constructor
  · intro hRefused
    rcases details_cases members with ⟨params, hParams, hPresent, hDetails⟩ | hDetails
    · rw [hDetails] at hRefused
      rcases hRefused with ⟨hObject, rfl⟩ | ⟨ps, key, rfl, hSession, hKey, hKnown, rfl⟩
      · exact .detail hEnd hParams hPresent hObject
      · exact .ended hEnd hParams hSession hKey hKnown
    · -- What has no members has no key that could be refused.
      rw [hDetails] at hRefused
      rcases hRefused with ⟨hObject, -⟩ | ⟨ps, key, hNone, hSession, -⟩
      · cases hObject
      · cases hNone
        cases hSession
  · intro hBaffles
    cases hBaffles with
    | number hId => cases hEnd.unnumbered.symm.trans hId
    | error hId => cases hEnd.unnumbered.symm.trans hId
    | session hId hMethod hSession hPresent =>
      have hKeyless := hEnd.keyless
      rw [hSession, Option.getD_some, hPresent] at hKeyless
      cases hKeyless
    | @detail params _ hParams hPresent hObject =>
      left
      rw [hParams, Option.getD_some, Value.orElse, if_pos hPresent]
      exact ⟨hObject, rfl⟩
    | @ended params key _ hParams hSession hKey hKnown =>
      right
      have hPresent : (Value.object params).truthy = true := by
        cases params with
        | nil => cases hSession
        | cons first rest => rfl
      rw [hParams, Option.getD_some, Value.orElse, if_pos hPresent]
      exact ⟨params, key, rfl, hSession, hKey, hKnown, rfl⟩

/-- **The frames that cannot be understood.** Of the frames whose numbers are not too long it is
those that baffle, and no others. -/
theorem dispatch_fault_iff {c : Connection} {members : List (String × Value)}
    (hFits : Value.fitsMembers members = true) {e : Fault} :
    (c.dispatch members).fault = some e ↔ Baffles c members e := by
  cases hId : Value.find? "id" members with
  | some id =>
    rw [dispatch, hId]
    exact dispatchAnswer_fault_iff hFits hId
  | none =>
    -- A frame without an id tells an event, of a session if it has a key that is present.
    constructor
    · intro hFault
      simp only [dispatch, hId] at hFault
      split at hFault
      · next method hMethod =>
        split at hFault
        · next hPresent =>
          obtain ⟨hKey, rfl⟩ := dispatchSession_fault_iff.mp hFault
          cases hSession : Value.find? "sessionId" members with
          | none =>
            rw [hSession] at hPresent
            cases hPresent
          | some key =>
            rw [hSession, Option.getD_some] at hPresent hKey
            exact .session hId hMethod hSession hPresent hKey
        · next hKeyless =>
          obtain ⟨rfl, hRefused⟩ := dispatchBrowser_fault_iff.mp hFault
          exact (detachedKey_baffles ⟨hId, hMethod, eq_false_of_ne_true hKeyless⟩).mp hRefused
      · cases hFault
    · intro hBaffles
      have hEnds : TellsEnd members → (c.dispatch members).fault = some e := by
        intro hEnd
        simp only [dispatch, hId, hEnd.method, hEnd.keyless]
        exact dispatchBrowser_fault_iff.mpr ⟨rfl, (detachedKey_baffles hEnd).mpr hBaffles⟩
      cases hBaffles with
      | number hSome => cases hId.symm.trans hSome
      | error hSome => cases hId.symm.trans hSome
      | session _ hMethod hSession hPresent hKey =>
        simp only [dispatch, hId, hMethod, hSession, Option.getD_some, hPresent, if_true]
        exact dispatchSession_fault_iff.mpr ⟨hKey, rfl⟩
      | detail hEnd => exact hEnds hEnd
      | ended hEnd => exact hEnds hEnd

/-! ## Texts -/

theorem members?_fits {text : String} {members : List (String × Value)}
    (hMembers : members? text = some members) : Value.fitsMembers members = true :=
  Json.ofText_fits (members?_some hMembers)

/-- The text of a frame cannot be understood. -/
def BaffledBy (c : Connection) (text : String) (e : Fault) : Prop :=
  ∃ members, members? text = some members ∧ Baffles c members e

/-- What is read from a text has no number that is too long, so a text is only refused if it holds
a frame that baffles. -/
theorem dispatchText_fault_iff {c : Connection} {text : String} {e : Fault} :
    (c.dispatchText text).fault = some e ↔ c.BaffledBy text e := by
  cases hMembers : members? text with
  | none =>
    rw [c.dispatchText_none hMembers]
    refine ⟨nofun, ?_⟩
    rintro ⟨members, hSome, -⟩
    cases hMembers.symm.trans hSome
  | some members =>
    rw [c.dispatchText_some hMembers, dispatch_fault_iff (members?_fits hMembers)]
    refine ⟨fun hBaffles => ⟨members, hMembers, hBaffles⟩, ?_⟩
    rintro ⟨members', hSome, hBaffles⟩
    obtain rfl := Option.some.inj (hMembers.symm.trans hSome)
    exact hBaffles

end Connection

end PageReporter
