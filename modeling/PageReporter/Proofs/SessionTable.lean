import Mathlib
import PageReporter.Proofs.CallRun

/-!
# The table of sessions

A connection keeps every session there has been, and a table that leads from keys to the sessions
that can still be reached. A session is told its end only through the table: by a frame that names
a key it is reached by, or by the end of the socket.

* `Value.form?` — what makes a key the key that it is;
* `Connection.Distinct`, `Connection.Known` — no two places of the table have the same key, and
  each leads to a session with that key;
* `Connection.dispatchText_sessions`, `Connection.close_session` — what frames and the end of the
  socket make of the sessions;
* `Connection.Reached`, `Connection.Passed`, `Connection.Over` — where a session stands.
-/

namespace PageReporter

/-! ## Keys -/

namespace Value

/-- The size of a number, the same for every kind of number. -/
inductive Size
  | units (u : Int)
  | infinite (negative : Bool)
  | nan
deriving DecidableEq

/-- What makes a key the key that it is. -/
inductive Form
  | null
  | undefined
  | unresolvable
  | text (s : String)
  | number (size : Size)
deriving DecidableEq

def size : Int ⊕ Double → Size
  | .inl i => .units (i * Double.unitsPerOne)
  | .inr .nan => .nan
  | .inr (.infinite negative) => .infinite negative
  | .inr (.finite negative units _) => .units (if negative then -units else units)

/-- The form of a value that can be a key. -/
def form? : Value → Option Form
  | .null => some .null
  | .undefined => some .undefined
  | .unresolvable => some .unresolvable
  | .str s => some (.text s)
  | v => v.number?.map fun number => .number (size number)

theorem units_inj {i j : Int} : i * Double.unitsPerOne = j * Double.unitsPerOne ↔ i = j := by
  have hUnits : (Double.unitsPerOne : Int) ≠ 0 := by
    have := twoTo_pos 1074
    simp only [Double.unitsPerOne]
    omega
  exact ⟨Int.eq_of_mul_eq_mul_right hUnits, fun h => h ▸ rfl⟩

theorem sameSize_iff (i : Int) (x : Double) :
    sameSize i x = true ↔ size (.inl i) = size (.inr x) := by
  cases x with
  | nan | infinite _ =>
    simp only [sameSize, Double.units?, Option.none_beq_some, Bool.false_eq_true, size,
      reduceCtorEq]
  | finite negative u h =>
    simp only [sameSize, Double.units?, size, beq_iff_eq, Option.some.injEq, Size.units.injEq]
    exact eq_comm

/-- Numbers are the same if their sizes are, except that the one that is no number is not even the
same as itself. -/
theorem sameNumber_iff (a b : Int ⊕ Double) :
    sameNumber a b = true ↔ size a = size b ∧ size a ≠ .nan := by
  have hNumber : ∀ i : Int, size (.inl i) ≠ .nan := by
    intro i hNan
    cases hNan
  rcases a with i | x <;> rcases b with j | y
  · simp only [sameNumber, beq_iff_eq, size, Size.units.injEq, units_inj, ne_eq, reduceCtorEq,
      not_false_eq_true, and_true]
  · simp only [sameNumber, sameSize_iff]
    exact ⟨fun h => ⟨h, hNumber i⟩, fun h => h.1⟩
  · simp only [sameNumber, sameSize_iff]
    exact ⟨fun h => ⟨h.symm, h ▸ hNumber j⟩, fun h => h.1.symm⟩
  · cases x <;> cases y <;> simp [sameNumber, size, Double.same]

theorem form?_number {v : Value} {a : Int ⊕ Double} (hv : v.number? = some a) :
    v.form? = some (.number (size a)) := by
  cases v with
  | bool _ | int _ | bigint _ | double _ => rw [← Option.some.inj hv]; rfl
  | _ => cases hv

theorem isNan_iff {v : Value} {a : Int ⊕ Double} (hv : v.number? = some a) :
    v.isNan = true ↔ size a = .nan := by
  cases v with
  | bool _ | int _ | bigint _ =>
    simp only [isNan, Bool.false_eq_true, size, ← Option.some.inj hv, reduceCtorEq]
  | double x =>
    rw [← Option.some.inj hv]
    cases x <;> simp [isNan, size]
  | _ => cases hv

theorem same_numbers {v w : Value} {a b : Int ⊕ Double} (hv : v.number? = some a)
    (hw : w.number? = some b) : v.same w = sameNumber a b := by
  cases v with
  | bool _ | int _ | bigint _ | double _ =>
    cases w with
    | bool _ | int _ | bigint _ | double _ =>
      rw [← Option.some.inj hv, ← Option.some.inj hw]
      rfl
    | _ => cases hw
  | _ => cases hv

/-- Two keys are the same exactly if they have the same form. -/
theorem sameKey_iff {v w : Value} (hKey : v.isKey = true) :
    v.sameKey w = true ↔ v.form? = w.form? := by
  cases hv : v.number? with
  | none =>
    cases v with
    | null | undefined | unresolvable | str _ =>
      cases w <;> simp [sameKey, same, isNan, form?, number?]
    | list _ | object _ => cases hKey
    | _ => cases hv
  | some a =>
    cases hw : w.number? with
    | none =>
      cases v with
      | bool _ | int _ | bigint _ | double _ =>
        cases w with
        | bool _ | int _ | bigint _ | double _ => cases hw
        | _ => simp [sameKey, same, isNan, form?, number?]
      | _ => cases hv
    | some b =>
      rw [sameKey, Bool.or_eq_true, Bool.and_eq_true, isNan_iff hv, isNan_iff hw,
        same_numbers hv hw, sameNumber_iff, form?_number hv, form?_number hw]
      grind
end Value

namespace Connection

/-! ## The table of keys -/

/-- The form of the key of a place in the table. -/
def formOf (entry : Value × Nat) : Option Value.Form :=
  entry.1.form?

/-- The keys of a table can be keys, and no two of them are the same. -/
structure Distinct (table : List (Value × Nat)) : Prop where
  keys : ∀ entry ∈ table, entry.1.isKey = true
  nodup : (table.map formOf).Nodup

theorem Distinct.tail {entry : Value × Nat} {table : List (Value × Nat)}
    (hTable : Distinct (entry :: table)) : Distinct table :=
  ⟨fun other hMem => hTable.keys other (List.mem_cons_of_mem entry hMem),
    (List.nodup_cons.mp hTable.nodup).2⟩

theorem lookup_mem {table : List (Value × Nat)} {key : Value} {n : Nat}
    (hLookup : lookup key table = some n) : ∃ k, (k, n) ∈ table ∧ k.sameKey key = true := by
  induction table with
  | nil => cases hLookup
  | cons entry table ih =>
    obtain ⟨k, m⟩ := entry
    rw [lookup] at hLookup
    split at hLookup
    next hSame =>
      obtain rfl := Option.some.inj hLookup
      exact ⟨k, List.mem_cons_self, hSame⟩
    next =>
      obtain ⟨k', hMem, hSame⟩ := ih hLookup
      exact ⟨k', List.mem_cons_of_mem _ hMem, hSame⟩

/-- Where no two keys are the same, a key reaches the place of the key that it is. -/
theorem Distinct.lookup {table : List (Value × Nat)} (hTable : Distinct table) {key k : Value}
    {n : Nat} (hMem : (k, n) ∈ table) (hSame : k.sameKey key = true) :
    Connection.lookup key table = some n := by
  induction table with
  | nil => cases hMem
  | cons entry table ih =>
    obtain ⟨k', m⟩ := entry
    rw [Connection.lookup]
    by_cases hFirst : k'.sameKey key = true
    · rw [if_pos hFirst]
      rcases List.mem_cons.mp hMem with hHere | hLater
      · obtain ⟨rfl, rfl⟩ := Prod.mk.inj hHere
        rfl
      · -- Then two places of the table would have the same form.
        have hForms : k'.form? = k.form? :=
          ((Value.sameKey_iff (hTable.keys _ List.mem_cons_self)).mp hFirst).trans
            ((Value.sameKey_iff (hTable.keys _ hMem)).mp hSame).symm
        have hTwice : formOf (k', m) ∈ table.map formOf :=
          List.mem_map.mpr ⟨(k, n), hLater, hForms.symm⟩
        exact absurd hTwice (List.nodup_cons.mp hTable.nodup).1
    · rw [if_neg hFirst]
      rcases List.mem_cons.mp hMem with hHere | hLater
      · obtain ⟨rfl, rfl⟩ := Prod.mk.inj hHere
        exact absurd hSame hFirst
      · exact ih hTable.tail hLater

/-- What stands in a table after a key was put there: the key with its number, and what stood
there under other keys. -/
theorem Distinct.mem_putKey {table : List (Value × Nat)} (hTable : Distinct table) {key k : Value}
    (hKey : key.isKey = true) {n m : Nat} (hMem : (k, m) ∈ putKey key n table) :
    m = n ∧ k.form? = key.form? ∨ (k, m) ∈ table ∧ k.form? ≠ key.form? := by
  induction table with
  | nil =>
    obtain ⟨rfl, rfl⟩ := Prod.mk.inj (List.mem_singleton.mp hMem)
    exact .inl ⟨rfl, rfl⟩
  | cons entry table ih =>
    obtain ⟨k', m'⟩ := entry
    have hFirst := Value.sameKey_iff (w := key) (hTable.keys _ List.mem_cons_self)
    rw [putKey] at hMem
    split at hMem
    next hSame =>
      have hForm := hFirst.mp hSame
      rcases List.mem_cons.mp hMem with hHere | hLater
      · obtain ⟨rfl, rfl⟩ := Prod.mk.inj hHere
        exact .inl ⟨rfl, hForm⟩
      · -- Behind the place of the key stand other keys.
        refine .inr ⟨List.mem_cons_of_mem _ hLater, fun hSecond => ?_⟩
        have hTwice : formOf (k', m') ∈ table.map formOf :=
          List.mem_map.mpr ⟨(k, m), hLater, hSecond.trans hForm.symm⟩
        exact (List.nodup_cons.mp hTable.nodup).1 hTwice
    next hOther =>
      rcases List.mem_cons.mp hMem with hHere | hLater
      · obtain ⟨rfl, rfl⟩ := Prod.mk.inj hHere
        exact .inr ⟨List.mem_cons_self, fun hForm => hOther (hFirst.mpr hForm)⟩
      · exact (ih hTable.tail hLater).imp_right fun h => ⟨List.mem_cons_of_mem _ h.1, h.2⟩

theorem mem_putKey_self (key : Value) (n : Nat) (table : List (Value × Nat)) :
    ∃ k, (k, n) ∈ putKey key n table := by
  induction table with
  | nil => exact ⟨key, List.mem_singleton.mpr rfl⟩
  | cons entry table ih =>
    obtain ⟨k', m'⟩ := entry
    rw [putKey]
    split
    · exact ⟨k', List.mem_cons_self⟩
    · exact ih.imp fun k hMem => List.mem_cons_of_mem _ hMem

/-- What stands in a table under another key stays there. -/
theorem mem_putKey_other {table : List (Value × Nat)} {key k : Value} {n m : Nat}
    (hMem : (k, m) ∈ table) (hOther : k.sameKey key = false) : (k, m) ∈ putKey key n table := by
  induction table with
  | nil => cases hMem
  | cons entry table ih =>
    obtain ⟨k', m'⟩ := entry
    rw [putKey]
    rcases List.mem_cons.mp hMem with hHere | hLater
    · obtain ⟨rfl, rfl⟩ := Prod.mk.inj hHere
      rw [if_neg (by simp [hOther])]
      exact List.mem_cons_self
    · split
      · exact List.mem_cons_of_mem _ hLater
      · exact List.mem_cons_of_mem _ (ih hLater)

theorem Distinct.putKey {table : List (Value × Nat)} (hTable : Distinct table) {key : Value}
    (hKey : key.isKey = true) (n : Nat) : Distinct (putKey key n table) := by
  induction table with
  | nil => exact ⟨by simpa [Connection.putKey] using hKey, by simp [Connection.putKey]⟩
  | cons entry table ih =>
    obtain ⟨k', m'⟩ := entry
    have hFirst := hTable.keys _ List.mem_cons_self
    obtain ⟨hNew, hNodup⟩ := List.nodup_cons.mp hTable.nodup
    rw [Connection.putKey]
    by_cases hSame : k'.sameKey key = true
    · rw [if_pos hSame]
      exact ⟨List.forall_mem_cons.mpr ⟨hFirst, hTable.tail.keys⟩,
        List.nodup_cons.mpr ⟨hNew, hNodup⟩⟩
    · rw [if_neg hSame]
      have hRest := ih hTable.tail
      refine ⟨List.forall_mem_cons.mpr ⟨hFirst, hRest.keys⟩, List.nodup_cons.mpr ⟨?_, hRest.nodup⟩⟩
      intro hTwice
      obtain ⟨⟨k, m⟩, hMem, hForm⟩ := List.mem_map.mp hTwice
      rcases hTable.tail.mem_putKey hKey hMem with ⟨-, hKeyForm⟩ | ⟨hOld, -⟩
      · exact hSame ((Value.sameKey_iff hFirst).mpr (hForm.symm.trans hKeyForm))
      · exact hNew (List.mem_map.mpr ⟨(k, m), hOld, hForm⟩)

theorem Distinct.filter {table : List (Value × Nat)} (hTable : Distinct table)
    (p : Value × Nat → Bool) : Distinct (table.filter p) :=
  ⟨fun entry hMem => hTable.keys entry (List.mem_of_mem_filter hMem),
    hTable.nodup.sublist (List.filter_sublist.map formOf)⟩

/-! ## What comes to an end -/

/-- A session that has come to its end. -/
def ended (session : Session) : Session :=
  ⟨session.key, session.target, true⟩

theorem detach_session (c : Connection) (m n : Nat) :
    (c.detach m).1.session? n = if n = m then (c.session? n).map ended else c.session? n := by
  by_cases hSame : n = m
  · subst hSame
    rw [if_pos rfl]
    unfold detach isDetached
    cases hSession : c.session? n with
    | none => simpa using hSession
    | some session =>
      obtain ⟨key, target, detached⟩ := session
      cases detached with
      | true => simpa [ended] using hSession
      | false =>
        simp only [Bool.false_eq_true, if_false, session?, List.getElem?_modify]
        rw [show c.sessions[n]? = _ from hSession]
        simp [ended]
  · rw [if_neg hSame]
    unfold detach
    split
    · rfl
    · simp [session?, Ne.symm hSame]

theorem detach_table (c : Connection) (m : Nat) :
    (c.detach m).1.table = c.table := by
  unfold detach
  split <;> rfl

theorem detachAll_session (numbers : List Nat) (c : Connection) (n : Nat) :
    (detachAll numbers c).1.session? n =
      if n ∈ numbers then (c.session? n).map ended else c.session? n := by
  induction numbers generalizing c with
  | nil => simp [detachAll]
  | cons m rest ih =>
    rw [show (detachAll (m :: rest) c).1 = (detachAll rest (c.detach m).1).1 from rfl, ih,
      detach_session]
    have hTwice : ended ∘ ended = ended := rfl
    by_cases hFirst : n = m
    · subst hFirst
      by_cases hRest : n ∈ rest <;> simp [hRest, hTwice]
    · simp [hFirst]

/-- The end of the socket is the end of the sessions in the table, and of no others. -/
theorem close_session {c : Connection} (hOpen : c.closed = false) (n : Nat) :
    c.close.1.session? n =
      if n ∈ c.table.map Prod.snd then (c.session? n).map ended else c.session? n := by
  unfold close
  rw [if_neg (by simp [hOpen])]
  exact detachAll_session _ _ n

theorem close_table {c : Connection} (hOpen : c.closed = false) : c.close.1.table = [] := by
  unfold close
  rw [if_neg (by simp [hOpen])]

/-- The sessions, the table of keys and the state of the socket are the same. -/
structure SameSessions (c after : Connection) : Prop where
  sessions : after.sessions = c.sessions
  table : after.table = c.table
  closed : after.closed = c.closed

theorem SameSessions.session {c after : Connection} (hSame : SameSessions c after) (n : Nat) :
    after.session? n = c.session? n := by
  rw [session?, hSame.sessions, session?]

/-! ## Frames that tell the end of a session -/

/-- The key of the session whose end a frame tells, if it is such a frame. -/
def endedKey? (text : String) : Option Value := do
  let members ← members? text
  match Value.find? "id" members, Value.find? "method" members with
  | none, some (.str method) =>
    if method = "Target.detachedFromTarget" &&
        !((Value.find? "sessionId" members).getD .null).truthy then
      let params := ((Value.find? "params" members).getD .null).orElse (.object [])
      (params.memberOr "sessionId" (.str "")).toOption
    else none
  | _, _ => none

/-- Whether a frame tells the end of the session with a key. -/
def tellsEnd (key : Value) (text : String) : Bool :=
  (endedKey? text).any (key.sameKey ·)

theorem detachedKey_ok {c : Connection} {params key : Value}
    (hKey : c.detachedKey params = .ok key) : params.memberOr "sessionId" (.str "") = .ok key := by
  unfold detachedKey at hKey
  cases hMember : params.memberOr "sessionId" (.str "") with
  | error e => rw [hMember] at hKey; cases hKey
  | ok v =>
    rw [hMember] at hKey
    change (if c.table.isEmpty then pure v else v.asKey) = .ok key at hKey
    split at hKey
    · rw [Except.ok.inj hKey]
    · rw [(Value.asKey_ok_iff.mp hKey).2]

/-- What a frame of the browser that is understood makes of the sessions. -/
theorem dispatchBrowser_sessions {c : Connection} {params : Value}
    (hUnderstood : (c.dispatchBrowser "Target.detachedFromTarget" params).fault = none) :
    ∃ key, params.memberOr "sessionId" (.str "") = .ok key ∧
      (c.dispatchBrowser "Target.detachedFromTarget" params).connection =
        match lookup key c.table with
        | some n => ((c.dropKey key).detach n).1
        | none => c := by
  unfold dispatchBrowser at hUnderstood ⊢
  rw [if_pos rfl] at hUnderstood ⊢
  cases hKey : c.detachedKey params with
  | error e => rw [hKey] at hUnderstood; cases hUnderstood
  | ok key =>
    refine ⟨key, detachedKey_ok hKey, ?_⟩
    cases hLookup : lookup key c.table <;> simp only [hLookup]

/-- What a frame that is understood makes of the sessions: it ends the one that its key reaches,
if it is a frame that tells such an end, and otherwise leaves them as they are. -/
theorem dispatchText_sessions {c : Connection} {text : String}
    (hUnderstood : (c.dispatchText text).fault = none) :
    (∃ key n, endedKey? text = some key ∧ lookup key c.table = some n ∧
      (c.dispatchText text).connection = ((c.dropKey key).detach n).1) ∨
    (∀ key, endedKey? text = some key → lookup key c.table = none) ∧
      SameSessions c (c.dispatchText text).connection := by
  unfold endedKey?
  cases hMembers : members? text with
  | none =>
    rw [c.dispatchText_none hMembers]
    exact .inr ⟨nofun, rfl, rfl, rfl⟩
  | some members =>
    rw [c.dispatchText_some hMembers] at hUnderstood ⊢
    simp only [Option.bind_eq_bind, Option.bind_some]
    unfold dispatch at hUnderstood ⊢
    cases hId : Value.find? "id" members with
    | some id =>
      right
      dsimp only
      rcases c.dispatchAnswer_cases id members with ⟨e, hFails, -⟩ | ⟨-, hStays⟩ | ⟨n, -, hSettles⟩
      · rw [hFails]
        exact ⟨nofun, rfl, rfl, rfl⟩
      · rw [hStays]
        exact ⟨nofun, rfl, rfl, rfl⟩
      · rw [hSettles]
        exact ⟨nofun, rfl, rfl, rfl⟩
    | none =>
      simp only [hId] at hUnderstood
      dsimp only
      cases hMethod : Value.find? "method" members with
      | none => exact .inr ⟨nofun, rfl, rfl, rfl⟩
      | some v =>
        cases v with
        | str method =>
          simp only [hMethod] at hUnderstood
          dsimp only
          cases hSession : ((Value.find? "sessionId" members).getD .null).truthy with
          | true =>
            -- Frames of sessions change nothing at all.
            rw [if_pos rfl, dispatchSession_connection]
            simp only [Bool.not_true, Bool.and_false, Bool.false_eq_true, if_false]
            exact .inr ⟨nofun, rfl, rfl, rfl⟩
          | false =>
            simp only [hSession, Bool.false_eq_true, if_false] at hUnderstood ⊢
            by_cases hName : method = "Target.detachedFromTarget"
            · subst hName
              obtain ⟨key, hKey, hAfter⟩ := dispatchBrowser_sessions hUnderstood
              simp only [decide_true, Bool.not_false, Bool.and_self, if_true, hKey,
                Except.toOption, Option.some.injEq]
              rw [hAfter]
              cases hLookup : lookup key c.table with
              | some n => exact .inl ⟨key, n, rfl, hLookup, rfl⟩
              | none => exact .inr ⟨fun k h => h ▸ hLookup, rfl, rfl, rfl⟩
            · right
              rw [dispatchBrowser, if_neg hName]
              simp only [hName, decide_false, Bool.false_and, Bool.false_eq_true, if_false]
              exact ⟨nofun, rfl, rfl, rfl⟩
        | _ => exact .inr ⟨nofun, rfl, rfl, rfl⟩

/-! ## The table and the sessions -/

/-- No two places of the table have the same key, and each leads to a session with that key. -/
structure Known (c : Connection) : Prop where
  distinct : Distinct c.table
  session : ∀ entry ∈ c.table, ∃ session, c.session? entry.2 = some session ∧
    session.key.form? = entry.1.form?

theorem register_ok {c after : Connection} {key target : Value} {n : Nat}
    (hRegister : c.register key target = .ok (n, after)) :
    key.isKey = true ∧ n = c.sessions.length ∧
      after = ⟨c.lastNumber, c.calls, c.sessions ++ [⟨key, target, false⟩], putKey key n c.table,
        c.closed⟩ := by
  unfold register at hRegister
  cases hKey : key.asKey with
  | error e => rw [hKey] at hRegister; cases hRegister
  | ok k =>
    obtain ⟨hIsKey, rfl⟩ := Value.asKey_ok_iff.mp hKey
    rw [hKey] at hRegister
    cases hRegister
    exact ⟨hIsKey, rfl, rfl⟩

theorem session?_lt {c : Connection} {n : Nat} {session : Session}
    (hSession : c.session? n = some session) : n < c.sessions.length :=
  (List.getElem?_eq_some_iff.mp hSession).1

/-- The sessions that there are stay where they are when another one begins. -/
theorem register_session {c after : Connection} {key target : Value} {m n : Nat}
    {session : Session} (hRegister : c.register key target = .ok (m, after))
    (hSession : c.session? n = some session) : after.session? n = some session := by
  obtain ⟨-, -, rfl⟩ := register_ok hRegister
  rw [← hSession]
  exact List.getElem?_append_left (session?_lt hSession)

theorem Known.register {c after : Connection} {key target : Value} {n : Nat} (hKnown : c.Known)
    (hRegister : c.register key target = .ok (n, after)) : after.Known := by
  have hKept (m : Nat) (session : Session) (hSession : c.session? m = some session) :
      after.session? m = some session := register_session hRegister hSession
  obtain ⟨hKey, rfl, rfl⟩ := register_ok hRegister
  refine ⟨hKnown.distinct.putKey hKey _, ?_⟩
  rintro ⟨k, m⟩ hMem
  rcases hKnown.distinct.mem_putKey hKey hMem with ⟨rfl, hForm⟩ | ⟨hOld, -⟩
  · exact ⟨_, List.getElem?_concat_length, hForm.symm⟩
  · obtain ⟨session, hSession, hForm⟩ := hKnown.session _ hOld
    exact ⟨session, hKept m session hSession, hForm⟩

/-- Ends of sessions, and places taken out of the table, leave the rest of the table right. -/
theorem Known.shrink {c after : Connection} (hKnown : c.Known) {p : Value × Nat → Bool}
    (hTable : after.table = c.table.filter p)
    (hSessions : ∀ n session, c.session? n = some session →
      after.session? n = some session ∨ after.session? n = some (ended session)) :
    after.Known := by
  refine ⟨hTable ▸ hKnown.distinct.filter p, ?_⟩
  intro entry hMem
  rw [hTable] at hMem
  obtain ⟨session, hSession, hForm⟩ := hKnown.session entry (List.mem_of_mem_filter hMem)
  rcases hSessions _ _ hSession with hSame | hEnded
  · exact ⟨session, hSame, hForm⟩
  · exact ⟨ended session, hEnded, hForm⟩

theorem Known.detach {c : Connection} (hKnown : c.Known) (key : Value) (m : Nat) :
    ((c.dropKey key).detach m).1.Known := by
  refine hKnown.shrink (detach_table _ _) fun n session hSession => ?_
  rw [detach_session]
  split
  · exact .inr (congrArg (Option.map ended) hSession)
  · exact .inl hSession

theorem Known.close {c : Connection} (hKnown : c.Known) (hOpen : c.closed = false) :
    c.close.1.Known := by
  refine hKnown.shrink (p := fun _ => false) (by simp [close_table hOpen])
    fun n session hSession => ?_
  rw [close_session hOpen, hSession]
  split
  · exact .inr rfl
  · exact .inl rfl

theorem Known.same {c after : Connection} (hKnown : c.Known) (hSame : SameSessions c after) :
    after.Known := by
  refine hKnown.shrink (p := fun _ => true) (by simp [hSame.table]) fun n session hSession => ?_
  exact .inl ((hSame.session n).trans hSession)

theorem Known.dispatchText {c : Connection} (hKnown : c.Known) {text : String}
    (hUnderstood : (c.dispatchText text).fault = none) :
    (c.dispatchText text).connection.Known := by
  rcases dispatchText_sessions hUnderstood with ⟨key, n, -, -, hAfter⟩ | ⟨-, hSame⟩
  · exact hAfter ▸ hKnown.detach key n
  · exact hKnown.same hSame

/-! ## Where a session stands -/

/-- A session that its key reaches. -/
structure Reached (c : Connection) (n : Nat) (key : Value) : Prop where
  session : ∃ target, c.session? n = some ⟨key, target, false⟩
  entry : ∃ k, (k, n) ∈ c.table

/-- A session that has not come to its end, but that no key reaches any more. -/
structure Passed (c : Connection) (n : Nat) : Prop where
  session : ∃ session, c.session? n = some session ∧ session.detached = false
  entry : ∀ k, (k, n) ∉ c.table

/-- A session that has come to its end. -/
def Over (c : Connection) (n : Nat) : Prop :=
  ∃ session, c.session? n = some session ∧ session.detached = true

theorem Over.isDetached {c : Connection} {n : Nat} (hOver : c.Over n) : c.isDetached n = true := by
  obtain ⟨session, hSession, hDetached⟩ := hOver
  rw [Connection.isDetached, hSession]
  exact hDetached

theorem Passed.isDetached {c : Connection} {n : Nat} (hPassed : c.Passed n) :
    c.isDetached n = false := by
  obtain ⟨session, hSession, hLive⟩ := hPassed.session
  rw [Connection.isDetached, hSession]
  exact hLive

theorem Reached.isDetached {c : Connection} {n : Nat} {key : Value} (hReached : c.Reached n key) :
    c.isDetached n = false := by
  obtain ⟨target, hSession⟩ := hReached.session
  rw [Connection.isDetached, hSession]

/-- The place of a session in the table has the form of the session's key. -/
theorem Reached.form {c : Connection} (hKnown : c.Known) {n : Nat} {key k : Value}
    (hReached : c.Reached n key) (hMem : (k, n) ∈ c.table) : k.form? = key.form? := by
  obtain ⟨target, hSession⟩ := hReached.session
  obtain ⟨session, hOther, hForm⟩ := hKnown.session _ hMem
  obtain rfl := Option.some.inj (hSession.symm.trans hOther)
  exact hForm.symm

/-- A session is reached by exactly the keys that its own is the same as. -/
theorem Reached.lookup_iff {c : Connection} (hKnown : c.Known) {n : Nat} {key : Value}
    (hReached : c.Reached n key) (hKey : key.isKey = true) (other : Value) :
    lookup other c.table = some n ↔ key.sameKey other = true := by
  rw [Value.sameKey_iff hKey]
  constructor
  · intro hLookup
    obtain ⟨k, hMem, hSame⟩ := lookup_mem hLookup
    rw [← hReached.form hKnown hMem]
    exact (Value.sameKey_iff (hKnown.distinct.keys _ hMem)).mp hSame
  · intro hForm
    obtain ⟨k, hMem⟩ := hReached.entry
    have hSame := (hReached.form hKnown hMem).trans hForm
    exact hKnown.distinct.lookup hMem
      ((Value.sameKey_iff (hKnown.distinct.keys _ hMem)).mpr hSame)

/-! ### What becomes of a session that its key reaches -/

section

variable {c after : Connection} {n : Nat} {key : Value} (hKnown : c.Known)
  (hKey : key.isKey = true) (hReached : c.Reached n key)
include hKnown hKey hReached

/-- It gives way to a session that begins with the same key. -/
theorem Reached.register {other target : Value} {m : Nat}
    (hRegister : c.register other target = .ok (m, after)) :
    if key.sameKey other then after.Passed n else after.Reached n key := by
  obtain ⟨target', hSession⟩ := hReached.session
  obtain ⟨k, hEntry⟩ := hReached.entry
  have hThere := register_session hRegister hSession
  obtain ⟨hOther, hNew, hAfter⟩ := register_ok hRegister
  have hTable : after.table = putKey other m c.table := by rw [hAfter]
  split
  next hSame =>
    refine ⟨⟨_, hThere, rfl⟩, fun k' hMem => ?_⟩
    rw [hTable] at hMem
    rcases hKnown.distinct.mem_putKey hOther hMem with ⟨hTaken, -⟩ | ⟨hOld, hForm⟩
    · have := session?_lt hSession
      omega
    · exact hForm ((hReached.form hKnown hOld).trans ((Value.sameKey_iff hKey).mp hSame))
  next hOther =>
    refine ⟨⟨target', hThere⟩, k, ?_⟩
    rw [hTable]
    refine mem_putKey_other hEntry (Bool.eq_false_iff.mpr fun hSame => hOther ?_)
    have hForm := (Value.sameKey_iff (hKnown.distinct.keys _ hEntry)).mp hSame
    exact (Value.sameKey_iff hKey).mpr ((hReached.form hKnown hEntry).symm.trans hForm)

/-- A frame that is understood ends it exactly if it tells the end of its key. -/
theorem Reached.told {text : String} (hUnderstood : (c.dispatchText text).fault = none) :
    if tellsEnd key text then (c.dispatchText text).connection.Over n
      else (c.dispatchText text).connection.Reached n key := by
  obtain ⟨target, hSession⟩ := hReached.session
  obtain ⟨k, hEntry⟩ := hReached.entry
  have hReaches := hReached.lookup_iff hKnown hKey
  rcases dispatchText_sessions hUnderstood with ⟨other, m, hText, hLookup, hEnds⟩ | ⟨hNone, hSame⟩
  · have hTells : tellsEnd key text = key.sameKey other := by rw [tellsEnd, hText, Option.any_some]
    have hThere := detach_session (c.dropKey other) m n
    rw [← hEnds, show (c.dropKey other).session? n = _ from hSession] at hThere
    rw [hTells]
    split
    next hSameKey =>
      have hNumber := Option.some.inj (hLookup.symm.trans ((hReaches other).mpr hSameKey))
      rw [if_pos hNumber.symm] at hThere
      exact ⟨_, hThere, rfl⟩
    next hOther =>
      have hNumber : n ≠ m := fun h => hOther ((hReaches other).mp (h ▸ hLookup))
      rw [if_neg hNumber] at hThere
      refine ⟨⟨target, hThere⟩, k, ?_⟩
      rw [hEnds, detach_table]
      -- The place in the table stays, since its key is not the one of the frame.
      refine List.mem_filter.mpr ⟨hEntry, ?_⟩
      simp only [Bool.not_eq_true']
      refine Bool.eq_false_iff.mpr fun hSame => hNumber ?_
      exact (Option.some.inj (hLookup.symm.trans (hKnown.distinct.lookup hEntry hSame))).symm
  · have hTells : tellsEnd key text = false := by
      cases hText : endedKey? text with
      | none => rw [tellsEnd, hText, Option.any_none]
      | some other =>
        rw [tellsEnd, hText, Option.any_some]
        refine Bool.eq_false_iff.mpr fun hSameKey => ?_
        have hLookup := (hReaches other).mpr hSameKey
        rw [hNone other hText] at hLookup
        cases hLookup
    rw [hTells, if_neg (by decide)]
    exact ⟨⟨target, (hSame.session n).trans hSession⟩, k, hSame.table ▸ hEntry⟩

omit hKnown hKey in
theorem Reached.close (hOpen : c.closed = false) : c.close.1.Over n := by
  obtain ⟨target, hSession⟩ := hReached.session
  obtain ⟨k, hEntry⟩ := hReached.entry
  have hThere := close_session hOpen n
  rw [if_pos (List.mem_map.mpr ⟨(k, n), hEntry, rfl⟩), hSession] at hThere
  exact ⟨_, hThere, rfl⟩

omit hKnown hKey in
theorem Reached.same (hSame : SameSessions c after) : after.Reached n key := by
  obtain ⟨target, hSession⟩ := hReached.session
  obtain ⟨k, hEntry⟩ := hReached.entry
  exact ⟨⟨target, (hSame.session n).trans hSession⟩, k, hSame.table ▸ hEntry⟩

end

end Connection

end PageReporter
