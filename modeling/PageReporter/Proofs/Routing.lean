import Mathlib
import PageReporter.Wire.Connection
import PageReporter.Wire.Emitter

/-!
# Who hears which frame

All sessions share one socket. A frame that tells an event bears the key of the session that it is
for, or no key if it is for the browser itself, and the connection finds the session in a table
that frames change as well: one of them tells that a session has come to its end. Here sessions
begin and frames come in any order, and the connection is compared with a directory that knows
nothing of tables: how many sessions there have been, and which one each key reaches.

* `Tiding` — a frame that tells an event and whose keys are texts;
* `Traffic`, `Connection.undergoAll` — sessions that begin and frames that come, one after the other;
* `Directory`, `Directory.told` — who a key reaches, and so who is told a frame;
* `heardUnder` — what a session hears that begins under a key: from the traffic after it alone;
* `Connection.Follows.undergoAll` — the connection does what the directory says;
* `Connection.each_hears_its_own` — every frame, every session, and any two courses of the traffic.
-/

namespace PageReporter

/-! ## Keys that are texts -/

namespace Connection

theorem lookup_putKey (key other : String) (n : Nat) (table : List (Value × Nat)) :
    lookup (.str other) (putKey (.str key) n table) =
      if other = key then some n else lookup (.str other) table := by
  induction table with
  | nil => simp [putKey, lookup, Value.sameKey_str, @eq_comm _ key]
  | cons entry table ih =>
    obtain ⟨k, m⟩ := entry
    by_cases hFirst : k = .str key
    · -- The key has an old place, which no other key reaches.
      subst hFirst
      by_cases hOther : other = key
      · simp [putKey, lookup, Value.sameKey_str, hOther]
      · simp [putKey, lookup, Value.sameKey_str, hOther, Ne.symm hOther]
    · have hPut : putKey (.str key) n ((k, m) :: table) = (k, m) :: putKey (.str key) n table := by
        simp [putKey, Value.sameKey_str, hFirst]
      rw [hPut, lookup, lookup, ih]
      by_cases hHere : k = .str other
      · subst hHere
        have hOther : other ≠ key := by simpa using hFirst
        simp [Value.sameKey_str, hOther]
      · simp [Value.sameKey_str, hHere]

theorem lookup_dropKey (key other : String) (c : Connection) :
    lookup (.str other) (c.dropKey (.str key)).table =
      if other = key then none else lookup (.str other) c.table := by
  obtain ⟨lastNumber, calls, sessions, table, closed⟩ := c
  simp only [dropKey]
  induction table with
  | nil => simp [lookup]
  | cons entry table ih =>
    obtain ⟨k, m⟩ := entry
    by_cases hDropped : k = .str key
    · -- All entries with the key go, should there be more than one.
      subst hDropped
      have hGone : (Value.str key).sameKey (.str key) = true := Value.sameKey_str.mpr rfl
      rw [List.filter_cons_of_neg (by simp [hGone]), ih]
      by_cases hOther : other = key
      · simp [hOther]
      · simp [lookup, Value.sameKey_str, hOther, Ne.symm hOther]
    · have hStays : k.sameKey (.str key) = false := by
        simpa [← Value.sameKey_str] using hDropped
      rw [List.filter_cons_of_pos (by simp [hStays]), lookup, lookup, ih]
      by_cases hHere : k = .str other
      · subst hHere
        have hOther : other ≠ key := by simpa using hDropped
        simp [Value.sameKey_str, hOther]
      · simp [Value.sameKey_str, hHere]

end Connection

/-! ## Frames -/

/-- A frame that tells an event: it has no number, its event has a name, its payload is an object,
and its keys are texts where there are any — the one of the session that it is for, and the one
that its payload names. -/
structure Tiding where
  members : List (String × Value)
  method : String
  params : List (String × Value)
  /-- The key of the session that the frame is for, empty if it is for the browser. -/
  key : String
  /-- The key that the payload names, empty if it names none. -/
  named : String
  unnumbered : Value.find? "id" members = none
  telling : Value.find? "method" members = some (.str method)
  payload : ((Value.find? "params" members).getD .null).orElse (.object []) = .object params
  addressed : (Value.find? "sessionId" members).getD (.str "") = .str key
  naming : (Value.find? "sessionId" params).getD (.str "") = .str named

namespace Tiding

/-- A frame without anything in it, for the session with a key. -/
def ofSession (key method : String) : Tiding where
  members := [("method", .str method), ("sessionId", .str key)]
  method := method
  params := []
  key := key
  named := ""
  unnumbered := rfl
  telling := rfl
  payload := rfl
  addressed := rfl
  naming := rfl

/-- The frame that tells the end of a session. -/
def ending (key : String) : Tiding where
  members := [("method", .str "Target.detachedFromTarget"),
    ("params", .object [("sessionId", .str key)])]
  method := "Target.detachedFromTarget"
  params := [("sessionId", .str key)]
  key := ""
  named := key
  unnumbered := rfl
  telling := rfl
  payload := rfl
  addressed := rfl
  naming := rfl

/-- Whether a frame tells that what a key reaches has come to its end. -/
def ends (t : Tiding) (key : String) : Bool :=
  t.key = "" && t.method = "Target.detachedFromTarget" && t.named = key

/-- Whether a frame is for the session that a key reaches. -/
def isFor (t : Tiding) (key : String) : Bool :=
  key ≠ "" && t.key = key

theorem ends_iff {t : Tiding} {key : String} : t.ends key = true ↔
    t.key = "" ∧ t.method = "Target.detachedFromTarget" ∧ t.named = key := by
  simp [ends, and_assoc]

/-- A frame ends nothing but what it names. -/
theorem ends_iff_named (t : Tiding) (hEnds : t.ends t.named = true) {key : String} :
    t.ends key = true ↔ t.named = key := by
  have hNamed := ends_iff.mp hEnds
  simp [ends_iff, hNamed]

/-- A frame has a key that is present exactly if it is for a session. -/
theorem truthy_key (t : Tiding) :
    ((Value.find? "sessionId" t.members).getD .null).truthy = decide (t.key ≠ "") := by
  have hKey := t.addressed
  cases hFind : Value.find? "sessionId" t.members with
  | none =>
    rw [hFind] at hKey
    have hEmpty : "" = t.key := by simpa using hKey
    simp [Value.truthy, ← hEmpty]
  | some v =>
    rw [hFind] at hKey
    obtain rfl : v = .str t.key := hKey
    by_cases hEmpty : t.key = "" <;> simp [Value.truthy, hEmpty]

theorem find_key {t : Tiding} (hKey : t.key ≠ "") :
    (Value.find? "sessionId" t.members).getD .null = .str t.key := by
  have hTag := t.addressed
  cases hFind : Value.find? "sessionId" t.members with
  | none =>
    rw [hFind] at hTag
    exact absurd (by simpa using hTag.symm) hKey
  | some v =>
    rw [hFind] at hTag
    exact hTag

end Tiding

namespace Connection

/-- What a frame for a session makes of the connection: nothing, and the session is told it if the
key reaches one. -/
theorem dispatch_for_session (c : Connection) {t : Tiding} (hKey : t.key ≠ "") :
    c.dispatch t.members = ⟨c, none, (lookup (.str t.key) c.table).toList.map fun n =>
      .session n t.method (.object t.params), none⟩ := by
  have hTruthy : ((Value.find? "sessionId" t.members).getD .null).truthy = true := by
    simp [t.truthy_key, hKey]
  have hOpened : c.dispatch t.members =
      c.dispatchSession (.str t.key) t.method (.object t.params) := by
    simp only [dispatch, t.unnumbered, t.telling, t.payload, hTruthy, if_true]
    rw [Tiding.find_key hKey]
  rw [hOpened]
  have hAsKey : (Value.str t.key).asKey = .ok (.str t.key) := rfl
  simp only [dispatchSession, hAsKey]
  cases hLookup : lookup (.str t.key) c.table with
  | none => simp [unchanged]
  | some n => simp

/-- What a frame for the browser makes of the connection: it ends a session if it tells the end of
one, and the browser is told it. -/
theorem dispatch_for_browser (c : Connection) {t : Tiding} (hKey : t.key = "") :
    c.dispatch t.members =
      match if t.method = "Target.detachedFromTarget" then lookup (.str t.named) c.table
        else none with
      | some n => ⟨((c.dropKey (.str t.named)).detach n).1, none,
          ((c.dropKey (.str t.named)).detach n).2 ++ [.browser t.method (.object t.params)], none⟩
      | none => ⟨c, none, [.browser t.method (.object t.params)], none⟩ := by
  have hTruthy : ((Value.find? "sessionId" t.members).getD .null).truthy = false := by
    simp [t.truthy_key, hKey]
  have hOpened : c.dispatch t.members = c.dispatchBrowser t.method (.object t.params) := by
    simp only [dispatch, t.unnumbered, t.telling, t.payload, hTruthy, Bool.false_eq_true, if_false]
  rw [hOpened, dispatchBrowser]
  by_cases hEnds : t.method = "Target.detachedFromTarget"
  · have hNamed : c.detachedKey (.object t.params) = .ok (.str t.named) := by
      have hMember : (Value.object t.params).memberOr "sessionId" (.str "") =
          .ok (.str t.named) := by
        simp [Value.memberOr, Value.member?, Except.map, t.naming]
      simp only [detachedKey, hMember]
      cases c.table.isEmpty <;> rfl
    cases hLookup : lookup (.str t.named) c.table <;> simp only [if_pos hEnds, hNamed, hLookup]
  · rw [if_neg hEnds, if_neg hEnds]

end Connection

/-! ## Traffic -/

/-- What happens on a connection: a session begins, or a frame comes. -/
inductive Traffic
  | begins (key : String) (target : Value)
  | frame (t : Tiding)

namespace Traffic

/-- Whether a key no longer reaches what it did: a session has come to its end, or another one
begins under its key. -/
def closes (key : String) : Traffic → Bool
  | .begins other _ => other = key
  | .frame t => t.ends key

/-- What is heard under a key of a frame that is for it. -/
def heard? (key : String) : Traffic → Option (String × Value)
  | .begins _ _ => none
  | .frame t => if t.isFor key then some (t.method, .object t.params) else none

/-- The last thing that is heard under a key. -/
def farewell? : Traffic → Option (String × Value)
  | .begins _ _ => none
  | .frame _ => some ("detached", .null)

/-- Whether something has to do with a key: a frame for it, or what closes it. -/
def concerns (key : String) (x : Traffic) : Bool :=
  x.closes key || (x.heard? key).isSome

/-- How many sessions begin. -/
def begun : List Traffic → Nat
  | [] => 0
  | .begins _ _ :: xs => begun xs + 1
  | .frame _ :: xs => begun xs

end Traffic

/-- What a session hears that begins under a key, with the traffic that comes after: the frames for
that key, up to what closes it, and in the end that it is detached if a frame told so. -/
def heardUnder (key : String) (xs : List Traffic) : List (String × Value) :=
  (xs.takeWhile fun x => !x.closes key).filterMap (Traffic.heard? key) ++
    ((xs.find? (Traffic.closes key)).bind Traffic.farewell?).toList

theorem heardUnder_closes {key : String} {x : Traffic} (hCloses : x.closes key = true)
    (xs : List Traffic) : heardUnder key (x :: xs) = x.farewell?.toList := by
  simp [heardUnder, hCloses]

theorem heardUnder_open {key : String} {x : Traffic} (hOpen : x.closes key = false)
    (xs : List Traffic) :
    heardUnder key (x :: xs) = (x.heard? key).toList ++ heardUnder key xs := by
  simp only [heardUnder, List.takeWhile_cons, hOpen, Bool.not_false, if_true, List.find?_cons]
  cases hHeard : x.heard? key <;> simp [hHeard]

/-- What is heard under a key does not depend on what does not concern it. -/
theorem heardUnder_filter (key : String) (xs : List Traffic) :
    heardUnder key (xs.filter (Traffic.concerns key)) = heardUnder key xs := by
  induction xs with
  | nil => rfl
  | cons x xs ih =>
    cases hCloses : x.closes key with
    | true =>
      have hConcerns : x.concerns key = true := by simp [Traffic.concerns, hCloses]
      rw [List.filter_cons_of_pos hConcerns, heardUnder_closes hCloses, heardUnder_closes hCloses]
    | false =>
      rw [heardUnder_open hCloses]
      cases hHeard : x.heard? key with
      | none =>
        have hOther : ¬ x.concerns key = true := by simp [Traffic.concerns, hCloses, hHeard]
        rw [List.filter_cons_of_neg hOther, ih]
        rfl
      | some pair =>
        have hConcerns : x.concerns key = true := by simp [Traffic.concerns, hHeard]
        rw [List.filter_cons_of_pos hConcerns, heardUnder_open hCloses, ih, hHeard]

/-! ## The directory -/

/-- How many sessions there have been, and which one each key reaches. No session is reached by
two keys. -/
structure Directory where
  count : Nat
  holder : String → Option Nat
  below : ∀ {key n}, holder key = some n → n < count
  apart : ∀ {key other n}, holder key = some n → holder other = some n → key = other

namespace Directory

/-- Nothing is reached before the first session. -/
def empty : Directory :=
  ⟨0, fun _ => none, nofun, nofun⟩

/-- A session begins under a key. -/
def begin (d : Directory) (key : String) : Directory where
  count := d.count + 1
  holder other := if other = key then some d.count else d.holder other
  below := by
    intro other n hHolder
    split at hHolder
    next => simp at hHolder; omega
    next => exact Nat.lt_succ_of_lt (d.below hHolder)
  apart := by
    intro first second n hFirst hSecond
    -- The new session has a number that none had before.
    split at hFirst <;> split at hSecond
    next h h' => rw [h, h']
    next => have := d.below hSecond; simp at hFirst; omega
    next => have := d.below hFirst; simp at hSecond; omega
    next => exact d.apart hFirst hSecond

/-- A frame closes the keys that it ends. -/
def drop (d : Directory) (t : Tiding) : Directory where
  count := d.count
  holder key := if t.ends key then none else d.holder key
  below := by
    intro key n hHolder
    split at hHolder
    next => simp at hHolder
    next => exact d.below hHolder
  apart := by
    intro first second n hFirst hSecond
    split at hFirst <;> split at hSecond
    next => simp at hFirst
    next => simp at hFirst
    next => simp at hSecond
    next => exact d.apart hFirst hSecond

@[simp] theorem count_begin (d : Directory) (key : String) : (d.begin key).count = d.count + 1 :=
  rfl

@[simp] theorem count_drop (d : Directory) (t : Tiding) : (d.drop t).count = d.count :=
  rfl

theorem holder_begin (d : Directory) (key other : String) :
    (d.begin key).holder other = if other = key then some d.count else d.holder other :=
  rfl

theorem holder_drop (d : Directory) (t : Tiding) (key : String) :
    (d.drop t).holder key = if t.ends key then none else d.holder key :=
  rfl

/-- The directory after something has happened. -/
def after (d : Directory) : Traffic → Directory
  | .begins key _ => d.begin key
  | .frame t => d.drop t

/-- Who is told a frame. One for a session is told to the session that its key reaches and to
nobody else. One for the browser is told to the browser; if it tells the end of a session that can
be reached, that one is told before that it is detached. -/
def told (d : Directory) (t : Tiding) : List Delivery :=
  if t.key ≠ "" then
    (d.holder t.key).toList.map fun n => .session n t.method (.object t.params)
  else
    ((if t.ends t.named then d.holder t.named else none).toList.map fun n =>
      .session n "detached" .null) ++ [.browser t.method (.object t.params)]

/-- Who is told what when something happens. -/
def tells (d : Directory) : Traffic → List Delivery
  | .begins _ _ => []
  | .frame t => d.told t

/-- The directory after some traffic. -/
def afterAll (d : Directory) (xs : List Traffic) : Directory :=
  xs.foldl after d

/-- Who is told what in the course of some traffic. -/
def tellsAll (d : Directory) : List Traffic → List Delivery
  | [] => []
  | x :: xs => d.tells x ++ (d.after x).tellsAll xs

end Directory

/-! ## The connection follows the directory -/

namespace Connection

/-- One thing happens on a connection. -/
def undergo (c : Connection) : Traffic → Connection × List Delivery
  | .begins key target =>
    match c.register (.str key) target with
    | .ok (_, c) => (c, [])
    | .error _ => (c, [])
  | .frame t =>
    let outcome := c.dispatch t.members
    (outcome.connection, outcome.deliveries)

/-- Some traffic on a connection, and who was told what in its course. -/
def undergoAll (c : Connection) : List Traffic → Connection × List Delivery
  | [] => (c, [])
  | x :: xs =>
    let (c, first) := c.undergo x
    let (c, rest) := c.undergoAll xs
    (c, first ++ rest)

/-- The table leads where the directory says, and what it leads to is not at its end. -/
structure Follows (c : Connection) (d : Directory) : Prop where
  count : c.sessions.length = d.count
  holder : ∀ key, lookup (.str key) c.table = d.holder key
  live : ∀ key n, d.holder key = some n → c.isDetached n = false

variable {c : Connection} {d : Directory}

theorem isDetached_append (s : Session) {n : Nat} (hOld : n < c.sessions.length)
    (calls : List Call) (lastNumber : Nat) (table : List (Value × Nat)) (closed : Bool) :
    isDetached ⟨lastNumber, calls, c.sessions ++ [s], table, closed⟩ n = c.isDetached n := by
  simp [isDetached, session?, List.getElem?_append_left hOld]

theorem Follows.begins (hFollows : c.Follows d) (key : String) (target : Value) :
    (c.undergo (.begins key target)).1.Follows (d.begin key) ∧
      (c.undergo (.begins key target)).2 = [] := by
  have hRegister : c.register (.str key) target = .ok (c.sessions.length,
      ⟨c.lastNumber, c.calls, c.sessions ++ [⟨.str key, target, false⟩],
        putKey (.str key) c.sessions.length c.table, c.closed⟩) := rfl
  simp only [undergo, hRegister, and_true]
  constructor
  · simp [hFollows.count]
  · intro other
    rw [lookup_putKey, Directory.holder_begin, hFollows.count, hFollows.holder]
  · intro other n hHolder
    rw [Directory.holder_begin] at hHolder
    split at hHolder
    next =>
      obtain rfl := Option.some.inj hHolder
      simp [isDetached, session?, ← hFollows.count]
    next =>
      rw [isDetached_append _ (hFollows.count ▸ d.below hHolder)]
      exact hFollows.live other n hHolder

/-- A session that is not at its end is told when it comes to it, and no other one is touched. -/
theorem detach_live {n : Nat} (hLive : c.isDetached n = false) :
    (c.detach n).2 = [.session n "detached" .null] ∧ (c.detach n).1.table = c.table ∧
      (c.detach n).1.sessions.length = c.sessions.length ∧
      ∀ m ≠ n, (c.detach n).1.isDetached m = c.isDetached m := by
  simp only [detach, hLive, Bool.false_eq_true, if_false, List.length_modify, true_and]
  intro m hOther
  simp [isDetached, session?, Ne.symm hOther]

/-- What ends nothing that is reached changes nothing. -/
theorem Follows.keeps (hFollows : c.Follows d) {t : Tiding}
    (hUnreached : ∀ key, t.ends key = true → d.holder key = none) : c.Follows (d.drop t) where
  count := hFollows.count
  holder key := by
    rw [hFollows.holder, Directory.holder_drop]
    split
    next hEnds => exact hUnreached key hEnds
    next => rfl
  live key n hHolder := by
    rw [Directory.holder_drop] at hHolder
    split at hHolder
    next => simp at hHolder
    next => exact hFollows.live key n hHolder

/-- The session that a key reaches comes to its end. -/
theorem Follows.ends (hFollows : c.Follows d) {t : Tiding} (hEnds : t.ends t.named = true) {n : Nat}
    (hHolder : d.holder t.named = some n) :
    ((c.dropKey (.str t.named)).detach n).1.Follows (d.drop t) ∧
      ((c.dropKey (.str t.named)).detach n).2 = [.session n "detached" .null] := by
  have hLive : (c.dropKey (.str t.named)).isDetached n = false := hFollows.live t.named n hHolder
  obtain ⟨hTold, hTable, hLength, hOthers⟩ := detach_live hLive
  refine ⟨⟨hLength.trans hFollows.count, ?_, ?_⟩, hTold⟩
  · intro key
    simp only [hTable, lookup_dropKey, hFollows.holder, Directory.holder_drop,
      t.ends_iff_named hEnds, @eq_comm _ key]
  · intro key m hAfter
    rw [Directory.holder_drop] at hAfter
    split at hAfter
    next => simp at hAfter
    next hStays =>
      -- Another key reaches another session.
      have hOther : m ≠ n := by
        rintro rfl
        exact hStays (d.apart hAfter hHolder ▸ hEnds)
      exact (hOthers m hOther).trans (hFollows.live key m hAfter)

theorem Follows.frame (hFollows : c.Follows d) (t : Tiding) :
    (c.dispatch t.members).connection.Follows (d.drop t) ∧
      (c.dispatch t.members).deliveries = d.told t ∧ (c.dispatch t.members).fault = none := by
  by_cases hKey : t.key = ""
  · rw [dispatch_for_browser c hKey, hFollows.holder]
    by_cases hEnds : t.ends t.named = true
    · have hMethod := (Tiding.ends_iff.mp hEnds).2.1
      rw [if_pos hMethod]
      cases hHolder : d.holder t.named with
      | none =>
        -- The end of a session that nobody reaches is told to the browser alone.
        have hUnreached (key : String) (hKeyEnds : t.ends key = true) : d.holder key = none :=
          (t.ends_iff_named hEnds).mp hKeyEnds ▸ hHolder
        exact ⟨hFollows.keeps hUnreached, by simp [Directory.told, hKey, hEnds, hHolder], rfl⟩
      | some n =>
        obtain ⟨hEnded, hTold⟩ := hFollows.ends hEnds hHolder
        exact ⟨hEnded, by simp [Directory.told, hKey, hEnds, hHolder, hTold], rfl⟩
    · have hMethod : t.method ≠ "Target.detachedFromTarget" := by
        intro hMethod
        exact hEnds (Tiding.ends_iff.mpr ⟨hKey, hMethod, rfl⟩)
      have hUnreached (key : String) (hKeyEnds : t.ends key = true) : d.holder key = none :=
        absurd (Tiding.ends_iff.mp hKeyEnds).2.1 hMethod
      rw [if_neg hMethod]
      exact ⟨hFollows.keeps hUnreached, by simp [Directory.told, hKey, hEnds], rfl⟩
  · -- A frame for a session ends none, whatever it tells.
    have hUnreached (key : String) (hKeyEnds : t.ends key = true) : d.holder key = none :=
      absurd (Tiding.ends_iff.mp hKeyEnds).1 hKey
    rw [dispatch_for_session c hKey, hFollows.holder]
    exact ⟨hFollows.keeps hUnreached, by simp [Directory.told, hKey], rfl⟩

/-- **Step.** Whatever happens, the connection goes where the directory says and tells whom it
says. -/
theorem Follows.undergo (hFollows : c.Follows d) (x : Traffic) :
    (c.undergo x).1.Follows (d.after x) ∧ (c.undergo x).2 = d.tells x := by
  cases x with
  | begins key target => exact hFollows.begins key target
  | frame t => exact ⟨(hFollows.frame t).1, (hFollows.frame t).2.1⟩

/-- **Run.** The same in the course of any traffic. -/
theorem Follows.undergoAll (hFollows : c.Follows d) (xs : List Traffic) :
    (c.undergoAll xs).1.Follows (d.afterAll xs) ∧ (c.undergoAll xs).2 = d.tellsAll xs := by
  induction xs generalizing c d with
  | nil => exact ⟨hFollows, rfl⟩
  | cons x xs ih =>
    obtain ⟨hStep, hTold⟩ := hFollows.undergo x
    obtain ⟨hRest, hRestTold⟩ := ih hStep
    refine ⟨hRest, ?_⟩
    show (c.undergo x).2 ++ ((c.undergo x).1.undergoAll xs).2 = _
    rw [hTold, hRestTold, Directory.tellsAll]

/-- A connection without sessions, whatever became of its commands. -/
def unvisited (lastNumber : Nat) (calls : List Call) (closed : Bool) : Connection :=
  ⟨lastNumber, calls, [], [], closed⟩

theorem unvisited_follows (lastNumber : Nat) (calls : List Call) (closed : Bool) :
    (unvisited lastNumber calls closed).Follows .empty :=
  ⟨rfl, fun _ => rfl, nofun⟩

end Connection

/-! ## What one session hears -/

/-- What a session was told, in order. -/
def heardBy (n : Nat) (told : List Delivery) : List (String × Value) :=
  told.filterMap fun
    | .session m event payload => if m = n then some (event, payload) else none
    | .browser _ _ => none

theorem heardBy_append (n : Nat) (first rest : List Delivery) :
    heardBy n (first ++ rest) = heardBy n first ++ heardBy n rest :=
  List.filterMap_append

namespace Directory

variable {d : Directory}

theorem heardBy_told (d : Directory) (t : Tiding) (n : Nat) :
    heardBy n (d.told t) =
      if t.key ≠ "" then if d.holder t.key = some n then [(t.method, .object t.params)] else []
      else if t.ends t.named ∧ d.holder t.named = some n then [("detached", .null)] else [] := by
  by_cases hKey : t.key = ""
  · cases hHolder : d.holder t.named with
    | none => simp [told, hKey, hHolder, heardBy]
    | some m =>
      by_cases hEnds : t.ends t.named = true
      · by_cases hSame : m = n <;> simp [told, hKey, hHolder, hEnds, heardBy, hSame]
      · simp [told, hKey, hEnds, heardBy]
  · cases hHolder : d.holder t.key with
    | none => simp [told, hKey, hHolder, heardBy]
    | some m => by_cases hSame : m = n <;> simp [told, hKey, hHolder, heardBy, hSame]

/-- A session that no key reaches is told nothing. -/
theorem heardBy_unreached {n : Nat} (hUnreached : ∀ key, d.holder key ≠ some n) (x : Traffic) :
    heardBy n (d.tells x) = [] := by
  cases x with
  | begins key target => rfl
  | frame t => simp [tells, heardBy_told, hUnreached]

/-- A session that is reached no more is told nothing again: numbers are not given twice. -/
theorem heardBy_over {n : Nat} (hOld : n < d.count) (hUnreached : ∀ key, d.holder key ≠ some n)
    (xs : List Traffic) : heardBy n (d.tellsAll xs) = [] := by
  induction xs generalizing d with
  | nil => rfl
  | cons x xs ih =>
    have hNext : heardBy n ((d.after x).tellsAll xs) = [] := by
      cases x with
      | begins key target =>
        refine ih (d := d.begin key) (Nat.lt_succ_of_lt hOld) fun other => ?_
        rw [holder_begin]
        split
        next => simp; omega
        next => exact hUnreached other
      | frame t =>
        refine ih (d := d.drop t) hOld fun other => ?_
        rw [holder_drop]
        split
        next => simp
        next => exact hUnreached other
    rw [tellsAll, heardBy_append, heardBy_unreached hUnreached, hNext, List.append_nil]

/-- A session is told nothing before it begins. -/
theorem heardBy_before (xs : List Traffic) {n : Nat} (hLate : d.count + Traffic.begun xs ≤ n) :
    heardBy n (d.tellsAll xs) = [] ∧ (d.afterAll xs).count = d.count + Traffic.begun xs := by
  induction xs generalizing d with
  | nil => exact ⟨rfl, rfl⟩
  | cons x xs ih =>
    have hUnreached (key : String) : d.holder key ≠ some n := by
      intro hHolder
      have := d.below hHolder
      omega
    have hCount : (d.after x).count + Traffic.begun xs = d.count + Traffic.begun (x :: xs) := by
      cases x <;> simp only [after, begin, drop, Traffic.begun] ; omega
    obtain ⟨hSilent, hAfter⟩ := ih (d := d.after x) (by omega)
    refine ⟨?_, hAfter.trans hCount⟩
    rw [tellsAll, heardBy_append, heardBy_unreached hUnreached, hSilent, List.append_nil]

/-- What a session is told that a key reaches when something happens: what is heard under the key,
or its farewell when that closes it. -/
theorem heardBy_reached {key : String} {n : Nat} (hHolder : d.holder key = some n) (x : Traffic) :
    heardBy n (d.tells x) =
      if x.closes key then x.farewell?.toList else (x.heard? key).toList := by
  cases x with
  | begins other target => simp [tells, heardBy, Traffic.farewell?, Traffic.heard?]
  | frame t =>
    have hOnly {other : String} (hOther : d.holder other = some n) : other = key :=
      d.apart hOther hHolder
    simp only [tells, heardBy_told, Traffic.closes, Traffic.farewell?, Traffic.heard?, Tiding.isFor]
    by_cases hKey : t.key = ""
    · by_cases hEnds : t.ends key = true
      · have hNamed := (Tiding.ends_iff.mp hEnds).2.2
        simp [hKey, hEnds, hNamed, hHolder]
      · have hOther : ¬ (t.ends t.named = true ∧ d.holder t.named = some n) := by
          rintro ⟨hSome, hNamed⟩
          exact hEnds (hOnly hNamed ▸ hSome)
        simp [hKey, hEnds, hOther]
    · have hEnds : t.ends key = false := by simp [Tiding.ends, hKey]
      by_cases hSame : t.key = key
      · have hPresent : key ≠ "" := hSame ▸ hKey
        simp [hEnds, hSame, hPresent, hHolder]
      · have hOther : d.holder t.key ≠ some n := fun hOther => hSame (hOnly hOther)
        simp [hKey, hEnds, hSame, hOther]

/-- What closes a key leaves what it reached without one. -/
theorem holder_closed {key : String} {n : Nat} (hHolder : d.holder key = some n) {x : Traffic}
    (hCloses : x.closes key = true) (other : String) : (d.after x).holder other ≠ some n := by
  have hOnly (hOther : d.holder other = some n) : other = key := d.apart hOther hHolder
  have hBelow := d.below hHolder
  cases x with
  | begins newcomer target =>
    obtain rfl : newcomer = key := by simpa [Traffic.closes] using hCloses.symm
    rw [after, holder_begin]
    split
    next => simp; omega
    next hOther => exact fun hReached => hOther (hOnly hReached)
  | frame t =>
    rw [after, holder_drop]
    split
    next => simp
    next hStays => exact fun hReached => hStays (hOnly hReached ▸ hCloses)

theorem holder_open {key : String} {n : Nat} (hHolder : d.holder key = some n) {x : Traffic}
    (hOpen : x.closes key = false) : (d.after x).holder key = some n := by
  cases x with
  | begins newcomer target =>
    have hOther : key ≠ newcomer := by simpa [Traffic.closes, eq_comm] using hOpen
    rw [after, holder_begin, if_neg hOther, hHolder]
  | frame t =>
    have hStays : t.ends key = false := hOpen
    rw [after, holder_drop, hStays, hHolder]
    rfl

theorem count_le_after (d : Directory) (x : Traffic) : d.count ≤ (d.after x).count := by
  cases x <;> simp [after]

/-- A session that a key reaches hears what is heard under that key. -/
theorem heardBy_held {key : String} {n : Nat} (hHolder : d.holder key = some n)
    (xs : List Traffic) : heardBy n (d.tellsAll xs) = heardUnder key xs := by
  induction xs generalizing d with
  | nil => rfl
  | cons x xs ih =>
    rw [tellsAll, heardBy_append, heardBy_reached hHolder]
    cases hCloses : x.closes key with
    | true =>
      -- The farewell is the last that is heard: the number is not given again.
      have hOld : n < (d.after x).count := (d.below hHolder).trans_le (d.count_le_after x)
      rw [heardBy_over hOld (holder_closed hHolder hCloses), heardUnder_closes hCloses]
      simp
    | false =>
      rw [ih (holder_open hHolder hCloses), heardUnder_open hCloses]
      simp

end Directory

/-! ## Who is reached -/

/-- Whether a key reaches a session after some traffic: it is the last one that began under the
key, and has not come to its end since. -/
def Reaches (key : String) (n : Nat) (xs : List Traffic) : Prop :=
  ∃ front target back, xs = front ++ .begins key target :: back ∧ Traffic.begun front = n ∧
    ∀ x ∈ back, x.closes key = false

theorem reaches_snoc (key : String) (n : Nat) (xs : List Traffic) (x : Traffic) :
    Reaches key n (xs ++ [x]) ↔
      (∃ target, x = .begins key target ∧ Traffic.begun xs = n) ∨
        x.closes key = false ∧ Reaches key n xs := by
  constructor
  · rintro ⟨front, target, back, hSplit, hCount, hOpen⟩
    rcases List.eq_nil_or_concat back with rfl | ⟨back, last, rfl⟩
    · -- The session is the last thing that happened.
      obtain ⟨rfl, hLast⟩ := List.append_inj' hSplit rfl
      exact .inl ⟨target, List.cons.inj hLast |>.1, hCount⟩
    · rw [List.concat_eq_append, ← List.cons_append, ← List.append_assoc] at hSplit
      obtain ⟨rfl, hLast⟩ := List.append_inj' hSplit rfl
      obtain rfl : x = last := (List.cons.inj hLast).1
      simp only [List.concat_eq_append, List.mem_append, List.mem_singleton] at hOpen
      exact .inr ⟨hOpen x (.inr rfl), front, target, back, rfl, hCount,
        fun y hMem => hOpen y (.inl hMem)⟩
  · rintro (⟨target, rfl, hCount⟩ | ⟨hLast, front, target, back, rfl, hCount, hOpen⟩)
    · exact ⟨xs, target, [], rfl, hCount, fun y hMem => absurd hMem List.not_mem_nil⟩
    · refine ⟨front, target, back ++ [x], by simp, hCount, fun y hMem => ?_⟩
      rcases List.mem_append.mp hMem with hOld | hNew
      · exact hOpen y hOld
      · rwa [List.mem_singleton.mp hNew]

namespace Directory

theorem afterAll_snoc (d : Directory) (xs : List Traffic) (x : Traffic) :
    d.afterAll (xs ++ [x]) = (d.afterAll xs).after x := by
  simp [afterAll]

theorem count_afterAll (xs : List Traffic) : (empty.afterAll xs).count = Traffic.begun xs :=
  (heardBy_before (d := empty) xs (Nat.zero_add _).le).2.trans (Nat.zero_add _)

/-- The directory leads every key to the session that it reaches. -/
theorem holder_iff (key : String) (n : Nat) (xs : List Traffic) :
    (empty.afterAll xs).holder key = some n ↔ Reaches key n xs := by
  induction xs using List.reverseRecOn with
  | nil =>
    refine ⟨nofun, ?_⟩
    rintro ⟨front, target, back, hSplit, -⟩
    simp at hSplit
  | append_singleton xs x ih =>
    rw [afterAll_snoc, reaches_snoc, ← ih]
    cases x with
    | begins newcomer target =>
      rw [after, holder_begin, count_afterAll]
      by_cases hSame : key = newcomer
      · simp [hSame, Traffic.closes]
      · simp [hSame, Ne.symm hSame, Traffic.closes]
    | frame t =>
      rw [after, holder_drop]
      cases hEnds : t.ends key <;> simp [Traffic.closes, hEnds]

end Directory

/-- Who is told a frame that comes after some traffic: the session that its key reaches, and
otherwise nobody; or the browser, if it has no key. A session that it ends is told so before. -/
structure Routed (before : List Traffic) (t : Tiding) (told : List Delivery) : Prop where
  session : t.key ≠ "" → ∀ n, Reaches t.key n before →
    told = [.session n t.method (.object t.params)]
  nobody : t.key ≠ "" → (∀ n, ¬ Reaches t.key n before) → told = []
  browser : t.key = "" → (∀ n, t.ends t.named → ¬ Reaches t.named n before) →
    told = [.browser t.method (.object t.params)]
  farewell : t.key = "" → ∀ n, t.ends t.named → Reaches t.named n before →
    told = [.session n "detached" .null, .browser t.method (.object t.params)]

theorem Directory.told_routed (before : List Traffic) (t : Tiding) :
    Routed before t ((empty.afterAll before).told t) where
  session hKey n hReaches := by
    rw [← holder_iff] at hReaches
    simp [told, hKey, hReaches]
  nobody hKey hNone := by
    have hHolder : (empty.afterAll before).holder t.key = none := by
      rw [Option.eq_none_iff_forall_ne_some]
      exact fun n hReaches => hNone n ((holder_iff _ _ _).mp hReaches)
    simp [told, hKey, hHolder]
  browser hKey hNone := by
    by_cases hEnds : t.ends t.named = true
    · have hHolder : (empty.afterAll before).holder t.named = none := by
        rw [Option.eq_none_iff_forall_ne_some]
        exact fun n hReaches => hNone n hEnds ((holder_iff _ _ _).mp hReaches)
      simp [told, hKey, hHolder]
    · simp [told, hKey, hEnds]
  farewell hKey n hEnds hReaches := by
    rw [← holder_iff] at hReaches
    simp [told, hKey, hEnds, hReaches]

/-! ## Listeners -/

/-- Tells a delivery to the one that it is for: the browser's listeners, or those of a session. -/
def Delivery.tell (ears : Option Nat → Emitter) : Delivery → Option Nat → Emitter
  | .browser event payload => Function.update ears none ((ears none).emit event payload)
  | .session n event payload =>
    Function.update ears (some n) ((ears (some n)).emit event payload)

/-- Tells an emitter one thing after the other. -/
def Emitter.hear (ear : Emitter) (heard : List (String × Value)) : Emitter :=
  heard.foldl (fun ear (event, payload) => ear.emit event payload) ear

/-- The listeners of a session make of some deliveries what they make of those for it. -/
theorem Delivery.tell_session (told : List Delivery) (ears : Option Nat → Emitter) (n : Nat) :
    told.foldl tell ears (some n) = (ears (some n)).hear (heardBy n told) := by
  induction told generalizing ears with
  | nil => rfl
  | cons first rest ih =>
    rw [List.foldl_cons, ih]
    cases first with
    | browser event payload => simp [tell, heardBy]
    | session m event payload =>
      by_cases hSame : m = n
      · subst hSame; simp [tell, heardBy, Emitter.hear]
      · have hOther : some n ≠ some m := by simpa using Ne.symm hSame
        simp [tell, heardBy, hSame, hOther]

/-! ## Main result -/

namespace Connection

/-- What a session hears that begins in the course of some traffic. -/
theorem heardBy_undergoAll (lastNumber : Nat) (calls : List Call) (closed : Bool) (key : String)
    (target : Value) (front back : List Traffic) :
    heardBy (Traffic.begun front)
        ((unvisited lastNumber calls closed).undergoAll (front ++ .begins key target :: back)).2 =
      heardUnder key back := by
  have hStart := unvisited_follows lastNumber calls closed
  -- The session begins silently, between what came before it and what comes after.
  have hTells (d : Directory) : d.tellsAll (front ++ .begins key target :: back) =
      d.tellsAll front ++ ((d.afterAll front).begin key).tellsAll back := by
    induction front generalizing d with
    | nil => rfl
    | cons x xs ih =>
      rw [List.cons_append, Directory.tellsAll, ih, Directory.tellsAll, List.append_assoc]
      rfl
  have hHolder : ((Directory.empty.afterAll front).begin key).holder key =
      some (Traffic.begun front) := by
    rw [Directory.holder_begin, if_pos rfl, Directory.count_afterAll]
  rw [(hStart.undergoAll _).2, hTells, heardBy_append,
    (Directory.heardBy_before front (Nat.zero_add _).le).1, List.nil_append,
    Directory.heardBy_held hHolder]

/-- **Every session hears its own frames and no others.** On a connection where sessions begin and
frames come in any order, every frame is understood, and told to the session that its key reaches,
to the browser if it has no key, and otherwise to nobody. A session hears, from when it begins
until a frame tells its end or another one takes its key, the frames for its key in the order in
which they come, and at last that it is detached; and so do its listeners. What came before it, and
what comes that does not concern its key, makes no difference to them. -/
theorem each_hears_its_own (lastNumber : Nat) (calls : List Call) (closed : Bool) :
    let start := unvisited lastNumber calls closed
    (∀ (before : List Traffic) (t : Tiding),
      let outcome := (start.undergoAll before).1.dispatch t.members
      outcome.fault = none ∧ Routed before t outcome.deliveries) ∧
    (∀ (key : String) (target : Value) (front back : List Traffic) (ears : Option Nat → Emitter),
      let n := Traffic.begun front
      let told := (start.undergoAll (front ++ .begins key target :: back)).2
      heardBy n told = heardUnder key back ∧
        told.foldl Delivery.tell ears (some n) = (ears (some n)).hear (heardUnder key back)) ∧
    (∀ (key : String) (target target' : Value) (front front' back back' : List Traffic)
        (ears ears' : Option Nat → Emitter),
      let n := Traffic.begun front
      let n' := Traffic.begun front'
      back.filter (Traffic.concerns key) = back'.filter (Traffic.concerns key) →
      ears (some n) = ears' (some n') →
      (start.undergoAll (front ++ .begins key target :: back)).2.foldl Delivery.tell ears (some n) =
        (start.undergoAll (front' ++ .begins key target' :: back')).2.foldl Delivery.tell ears'
          (some n')) := by
  intro start
  refine ⟨?_, ?_, ?_⟩
  · intro before t
    have hFollows := ((unvisited_follows lastNumber calls closed).undergoAll before).1.frame t
    refine ⟨hFollows.2.2, ?_⟩
    rw [hFollows.2.1]
    exact Directory.told_routed before t
  · intro key target front back ears
    have hHeard := heardBy_undergoAll lastNumber calls closed key target front back
    exact ⟨hHeard, by rw [Delivery.tell_session, hHeard]⟩
  · intro key target target' front front' back back' ears ears' n n' hSame hEars
    rw [Delivery.tell_session, Delivery.tell_session, heardBy_undergoAll, heardBy_undergoAll, hEars,
      ← heardUnder_filter, hSame, heardUnder_filter]

/-- Two pages on one connection: the first hears its own frame and its end, and nothing of the
second page or of what comes too late. -/
theorem each_hears_its_own_two_pages :
    let back := [.begins "S2" .null, .frame (.ofSession "S2" "Page.first"),
      .frame (.ofSession "S1" "Page.second"), .frame (.ending "S1"),
      .frame (.ofSession "S1" "Page.third")]
    let alone := [.frame (.ofSession "S1" "Page.second"), .frame (.ending "S1"),
      .frame (.ofSession "S1" "Page.third")]
    let start := unvisited 0 [] false
    heardBy 0 (start.undergoAll (.begins "S1" .null :: back)).2 =
        [("Page.second", .object []), ("detached", .null)] ∧
      ∀ ears : Option Nat → Emitter,
        (start.undergoAll (.begins "S1" .null :: back)).2.foldl Delivery.tell ears (some 0) =
          (start.undergoAll (.begins "S1" .null :: alone)).2.foldl Delivery.tell ears (some 0) := by
  intro back alone start
  obtain ⟨-, hHeard, hAlike⟩ := each_hears_its_own 0 [] false
  constructor
  · exact (hHeard "S1" .null [] back fun _ => {}).1
  · intro ears
    exact hAlike "S1" .null .null [] [] back alone ears ears rfl rfl

end Connection

end PageReporter
