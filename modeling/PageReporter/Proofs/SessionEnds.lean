import PageReporter.Proofs.SessionTable

/-!
# The ends of sessions

A session begins when whoever attached to its target goes on, which may be some time after the
answer came. The frame that tells its end, and the end of the socket, find only the sessions that
the table of keys reaches at that moment. So a session comes to its end by what happens after it
has begun, and by nothing that happened between the answer and its beginning.

* `CallRun.Step.sessions` — what an act makes of the sessions;
* `CallRun.Path` — acts one after the other, with the stages they lead to;
* `CallRun.Ended` — the end of a session, as it is read off what happened after its beginning;
* `CallRun.detached_iff_ended` — a session has come to its end exactly if that says so;
* `CallRun.begun_closed`, `CallRun.begun_open` — the sessions of a connection that is closed.
-/

namespace PageReporter

namespace CallRun

/-! ## What an act does to the sessions -/

/-- What an act makes of the sessions: one begins, a frame that is understood tells something, the
connection closes, or nothing changes. -/
theorem Step.sessions {act : Act} {here there : Stage} (hStep : Step act here there) :
    (∃ key target n, act = .register key target ∧
      here.connection.register key target = .ok (n, there.connection)) ∨
    (∃ text, act = .frame text ∧ (here.connection.dispatchText text).fault = none ∧
      there.connection = (here.connection.dispatchText text).connection) ∨
    ((∀ key target, act ≠ .register key target) ∧ here.connection.closed = false ∧
      there.connection = here.connection.close.1) ∨
    ((∀ text, act ≠ .frame text) ∧ (∀ key target, act ≠ .register key target) ∧
      here.connection.SameSessions there.connection) := by
  cases hStep with
  | register hRegister => exact .inl ⟨_, _, _, rfl, hRegister⟩
  | frame text hOpen =>
    right
    cases hFault : (here.connection.dispatchText text).fault with
    | none => exact .inl ⟨text, rfl, hFault, by simp only [Stage.receive, hFault]⟩
    | some e =>
      refine .inr (.inl ⟨nofun, hOpen, ?_⟩)
      simp only [Stage.receive, hFault]
      rw [(Connection.dispatchText_fault hFault).1]
  | lose hOpen => exact .inr (.inr (.inl ⟨nofun, hOpen, rfl⟩))
  | begin hBegin =>
    refine .inr (.inr (.inr ⟨nofun, nofun, ?_⟩))
    unfold Connection.begin at hBegin
    split at hBegin
    · cases hBegin
    · cases hBegin
      exact ⟨rfl, rfl, rfl⟩
  | giveUp cause hMem hWaiting hLimit =>
    refine .inr (.inr (.inr ⟨nofun, nofun, ?_⟩))
    simp only [Stage.giveUp]
    split <;> exact ⟨rfl, rfl, rfl⟩
  | _ => exact .inr (.inr (.inr ⟨nofun, nofun, rfl, rfl, rfl⟩))

theorem Step.known {act : Act} {here there : Stage} (hStep : Step act here there)
    (hKnown : here.connection.Known) : there.connection.Known := by
  rcases hStep.sessions with ⟨key, target, n, -, hRegister⟩ | ⟨text, -, hUnderstood, hAfter⟩ |
    ⟨-, hOpen, hAfter⟩ | ⟨-, -, hSame⟩
  · exact hKnown.register hRegister
  · exact hAfter ▸ hKnown.dispatchText hUnderstood
  · exact hAfter ▸ hKnown.close hOpen
  · exact hKnown.same hSame

theorem Steps.known {trace : List Act} {stage : Stage} (hSteps : Steps trace stage) :
    stage.connection.Known := by
  induction hSteps with
  | nil => exact ⟨⟨nofun, List.nodup_nil⟩, nofun⟩
  | snoc hSteps hStep ih => exact hStep.known ih

/-- A session that has come to its end never comes back. -/
theorem Step.over {act : Act} {here there : Stage} (hStep : Step act here there) {n : Nat}
    (hOver : here.connection.Over n) : there.connection.Over n := by
  obtain ⟨session, hSession, hDetached⟩ := hOver
  rcases hStep.sessions with ⟨key, target, m, -, hRegister⟩ | ⟨text, -, hUnderstood, hAfter⟩ |
    ⟨-, hOpen, hAfter⟩ | ⟨-, -, hSame⟩
  · exact ⟨session, Connection.register_session hRegister hSession, hDetached⟩
  · rcases Connection.dispatchText_sessions hUnderstood with ⟨key, m, -, -, hEnds⟩ | ⟨-, hSame⟩
    · have hThere := Connection.detach_session (here.connection.dropKey key) m n
      rw [← hEnds, ← hAfter, show (here.connection.dropKey key).session? n = _ from hSession]
        at hThere
      split at hThere
      · exact ⟨_, hThere, rfl⟩
      · exact ⟨session, hThere, hDetached⟩
    · exact ⟨session, by rw [hAfter, hSame.session, hSession], hDetached⟩
  · have hThere := Connection.close_session hOpen n
    rw [← hAfter, hSession] at hThere
    split at hThere
    · exact ⟨_, hThere, rfl⟩
    · exact ⟨session, hThere, hDetached⟩
  · exact ⟨session, (hSame.session n).trans hSession, hDetached⟩

/-- A session that no key reaches is never told of its end. -/
theorem Step.passed {act : Act} {here there : Stage} (hStep : Step act here there)
    (hKnown : here.connection.Known) {n : Nat} (hPassed : here.connection.Passed n) :
    there.connection.Passed n := by
  obtain ⟨⟨session, hSession, hLive⟩, hNone⟩ := hPassed
  rcases hStep.sessions with ⟨key, target, m, -, hRegister⟩ | ⟨text, -, hUnderstood, hAfter⟩ |
    ⟨-, hOpen, hAfter⟩ | ⟨-, -, hSame⟩
  · refine ⟨⟨session, Connection.register_session hRegister hSession, hLive⟩, fun k hMem => ?_⟩
    obtain ⟨hKey, hNew, hThere⟩ := Connection.register_ok hRegister
    rw [hThere] at hMem
    rcases hKnown.distinct.mem_putKey hKey hMem with ⟨hSame, -⟩ | ⟨hOld, -⟩
    · have := Connection.session?_lt hSession
      omega
    · exact hNone k hOld
  · rcases Connection.dispatchText_sessions hUnderstood with
      ⟨key, m, -, hLookup, hEnds⟩ | ⟨-, hSame⟩
    · obtain ⟨k, hMem, -⟩ := Connection.lookup_mem hLookup
      have hOther : n ≠ m := fun h => hNone k (h ▸ hMem)
      have hThere := Connection.detach_session (here.connection.dropKey key) m n
      rw [← hEnds, ← hAfter, if_neg hOther] at hThere
      refine ⟨⟨session, hThere.trans hSession, hLive⟩, fun k hMem => ?_⟩
      rw [hAfter, hEnds, Connection.detach_table] at hMem
      exact hNone k (List.mem_of_mem_filter hMem)
    · exact ⟨⟨session, by rw [hAfter, hSame.session, hSession], hLive⟩,
        fun k hMem => hNone k (by rwa [hAfter, hSame.table] at hMem)⟩
  · have hThere := Connection.close_session hOpen n
    have hOut : n ∉ here.connection.table.map Prod.snd := by
      intro hMem
      obtain ⟨⟨k, m⟩, hEntry, rfl⟩ := List.mem_map.mp hMem
      exact hNone k hEntry
    rw [← hAfter, if_neg hOut] at hThere
    refine ⟨⟨session, hThere.trans hSession, hLive⟩, fun k hMem => ?_⟩
    rw [hAfter, Connection.close_table hOpen] at hMem
    cases hMem
  · exact ⟨⟨session, (hSame.session n).trans hSession, hLive⟩,
      fun k hMem => hNone k (hSame.table ▸ hMem)⟩

/-! ## How a session ends -/

/-- Whether an act is a frame that tells the end of the session with a key. -/
def tells (key : Value) : Act → Bool
  | .frame text => Connection.tellsEnd key text
  | _ => false

/-- Whether an act is the end of the session that a key reaches: a frame that names it, or what
closes the connection. -/
def endsBy (key : Value) (act : Act) (here there : Stage) : Bool :=
  tells key act || (!here.connection.closed && there.connection.closed)

/-- Whether an act lets a key reach another session. -/
def renews (key : Value) : Act → Bool
  | .register other _ => key.sameKey other
  | _ => false

/-- An act that closes the connection is the end of every session that a key reaches. -/
theorem endsBy_close {key : Value} {act : Act} {here there : Stage}
    (hOpen : here.connection.closed = false) (hAfter : there.connection = here.connection.close.1) :
    endsBy key act here there = true := by
  have hClosed := (Connection.close_calls hOpen).2.2
  rw [endsBy, hOpen, hAfter, hClosed, Bool.not_false, Bool.and_self, Bool.or_true]

/-- An act that does not close the connection ends a session only as a frame that tells so. -/
theorem endsBy_open {key : Value} {act : Act} {here there : Stage}
    (hSame : there.connection.closed = here.connection.closed) :
    endsBy key act here there = tells key act := by
  rw [endsBy, hSame, Bool.not_and_self, Bool.or_false]

/-- **What an act makes of a session that its key reaches.** -/
theorem Step.reached {act : Act} {here there : Stage} (hStep : Step act here there)
    (hKnown : here.connection.Known) {n : Nat} {key : Value} (hKey : key.isKey = true)
    (hReached : here.connection.Reached n key) :
    if endsBy key act here there then there.connection.Over n
      else if renews key act then there.connection.Passed n
      else there.connection.Reached n key := by
  rcases hStep.sessions with ⟨other, target', m, rfl, hRegister⟩ |
    ⟨text, rfl, hUnderstood, hAfter⟩ | ⟨-, hOpen, hAfter⟩ | ⟨hFrame, hAct, hSame⟩
  · have hClosed : there.connection.closed = here.connection.closed := by
      rw [(Connection.register_ok hRegister).2.2]
    rw [endsBy_open hClosed]
    exact hReached.register hKnown hKey hRegister
  · have hClosed : there.connection.closed = here.connection.closed := by
      rw [hAfter, (Connection.dispatchText_same _ text).2]
    rw [endsBy_open hClosed, hAfter]
    exact hReached.told hKnown hKey hUnderstood
  · rw [endsBy_close hOpen hAfter, if_pos rfl, hAfter]
    exact hReached.close hOpen
  · rw [endsBy_open hSame.closed]
    have hThere := hReached.same hSame
    cases act with
    | frame text => exact absurd rfl (hFrame text)
    | register other target => exact absurd rfl (hAct other target)
    | _ => exact hThere

/-! ## Runs -/

/-- Acts one after the other, each with the stage that it leads to. -/
inductive Path : Stage → List (Act × Stage) → Stage → Prop
  | nil {stage : Stage} : Path stage [] stage
  | cons {here there last : Stage} {act : Act} {rest : List (Act × Stage)}
      (hStep : Step act here there) (hRest : Path there rest last) :
      Path here ((act, there) :: rest) last

/-- Whether a session that a key reaches comes to its end on a path: some act ends it before the
key reaches another one. -/
def Ended (key : Value) : Stage → List (Act × Stage) → Prop
  | _, [] => False
  | here, (act, there) :: rest =>
    endsBy key act here there = true ∨ renews key act = false ∧ Ended key there rest

theorem Path.over {here last : Stage} {acts : List (Act × Stage)} (hPath : Path here acts last)
    {n : Nat} (hOver : here.connection.Over n) : last.connection.Over n := by
  induction hPath with
  | nil => exact hOver
  | cons hStep hRest ih => exact ih (hStep.over hOver)

theorem Path.passed {here last : Stage} {acts : List (Act × Stage)} (hPath : Path here acts last)
    (hKnown : here.connection.Known) {n : Nat} (hPassed : here.connection.Passed n) :
    last.connection.Passed n := by
  induction hPath with
  | nil => exact hPassed
  | cons hStep hRest ih => exact ih (hStep.known hKnown) (hStep.passed hKnown hPassed)

/-- On any path, a session that its key reaches comes to its end exactly if the path says so. -/
theorem Path.detached_iff {here last : Stage} {acts : List (Act × Stage)}
    (hPath : Path here acts last) (hKnown : here.connection.Known) {n : Nat} {key : Value}
    (hKey : key.isKey = true) (hReached : here.connection.Reached n key) :
    last.connection.isDetached n = true ↔ Ended key here acts := by
  induction hPath with
  | nil =>
    rw [hReached.isDetached]
    exact ⟨nofun, nofun⟩
  | @cons here there last act rest hStep hRest ih =>
    have hThere := hStep.reached hKnown hKey hReached
    cases hEnds : endsBy key act here there with
    | true =>
      rw [hEnds, if_pos rfl] at hThere
      exact ⟨fun _ => .inl hEnds, fun _ => (hRest.over hThere).isDetached⟩
    | false =>
      rw [hEnds, if_neg (by decide)] at hThere
      cases hRenews : renews key act with
      | true =>
        -- From here on nothing reaches the session any more.
        rw [hRenews, if_pos rfl] at hThere
        have hNever := (hRest.passed (hStep.known hKnown) hThere).isDetached
        rw [hNever]
        simp only [Ended, hEnds, hRenews, Bool.false_eq_true, Bool.true_eq_false, false_and,
          or_self]
      | false =>
        rw [hRenews, if_neg (by decide)] at hThere
        rw [ih (hStep.known hKnown) hThere]
        simp only [Ended, hEnds, hRenews, Bool.false_eq_true, true_and, false_or]

/-- A session that begins is reached by its key. -/
theorem Step.begins {here there : Stage} {key target : Value}
    (hRegister : Step (.register key target) here there) :
    key.isKey = true ∧ there.connection.Reached here.connection.sessions.length key := by
  cases hRegister with
  | register hRegister =>
    obtain ⟨hKey, rfl, rfl⟩ := Connection.register_ok hRegister
    exact ⟨hKey, ⟨target, List.getElem?_concat_length⟩,
      Connection.mem_putKey_self key _ here.connection.table⟩

/-- Nothing ends the sessions of a closed connection: no frame comes in, and it closes no more. -/
theorem Path.not_ended {here last : Stage} {acts : List (Act × Stage)} (hPath : Path here acts last)
    (hClosed : here.connection.closed = true) (key : Value) : ¬ Ended key here acts := by
  induction hPath with
  | nil => exact id
  | @cons here there last act rest hStep hRest ih =>
    have hTells : tells key act = false := by
      cases hStep with
      | frame text hOpen => rw [hClosed] at hOpen; cases hOpen
      | _ => rfl
    have hStays : there.connection.closed = true := by
      rcases hStep.sessions with ⟨_, _, _, -, hRegister⟩ | ⟨text, -, -, hAfter⟩ | ⟨-, hOpen, -⟩ |
        ⟨-, -, hSame⟩
      · rw [(Connection.register_ok hRegister).2.2, hClosed]
      · rw [hAfter, (Connection.dispatchText_same _ text).2, hClosed]
      · rw [hClosed] at hOpen
        cases hOpen
      · rw [hSame.closed, hClosed]
    have hEnds : endsBy key act here there = false := by
      rw [endsBy, hTells, hClosed, hStays, Bool.not_true, Bool.false_and, Bool.or_false]
    rintro (hEnded | ⟨-, hEnded⟩)
    · rw [hEnds] at hEnded
      cases hEnded
    · exact ih hStays hEnded

/-- A path from an open connection to a closed one ends every session whose key is not taken over
on it. -/
theorem Path.ended {here last : Stage} {acts : List (Act × Stage)} (hPath : Path here acts last)
    (hOpen : here.connection.closed = false) (hClosed : last.connection.closed = true) {key : Value}
    (hKept : ∀ entry ∈ acts, renews key entry.1 = false) : Ended key here acts := by
  induction hPath with
  | nil =>
    rw [hOpen] at hClosed
    cases hClosed
  | @cons here there last act rest hStep hRest ih =>
    obtain ⟨hFirst, hLater⟩ := List.forall_mem_cons.mp hKept
    cases hThere : there.connection.closed with
    | true =>
      exact .inl (by rw [endsBy, hOpen, hThere, Bool.not_false, Bool.and_self, Bool.or_true])
    | false => exact .inr ⟨hFirst, ih hThere hClosed hLater⟩

/-- A session that begins on a closed connection never comes to its end. -/
theorem begun_closed {before : List Act} {here there last : Stage} {key target : Value}
    {after : List (Act × Stage)} (hBefore : Steps before here)
    (hClosed : here.connection.closed = true)
    (hRegister : Step (.register key target) here there) (hAfter : Path there after last) :
    last.connection.isDetached here.connection.sessions.length = false := by
  obtain ⟨hKey, hReached⟩ := hRegister.begins
  have hStays : there.connection.closed = true := by
    cases hRegister with
    | register hRegister => rw [(Connection.register_ok hRegister).2.2, hClosed]
  refine Bool.eq_false_iff.mpr fun hDetached => hAfter.not_ended hStays key ?_
  exact (hAfter.detached_iff (hRegister.known hBefore.known) hKey hReached).mp hDetached

/-- A session that begins on an open connection has come to its end when the connection is closed,
unless another session has begun with its key. -/
theorem begun_open {before : List Act} {here there last : Stage} {key target : Value}
    {after : List (Act × Stage)} (hBefore : Steps before here)
    (hOpen : here.connection.closed = false) (hRegister : Step (.register key target) here there)
    (hAfter : Path there after last) (hClosed : last.connection.closed = true)
    (hKept : ∀ entry ∈ after, renews key entry.1 = false) :
    last.connection.isDetached here.connection.sessions.length = true := by
  obtain ⟨hKey, hReached⟩ := hRegister.begins
  have hStays : there.connection.closed = false := by
    cases hRegister with
    | register hRegister => rw [(Connection.register_ok hRegister).2.2, hOpen]
  exact (hAfter.detached_iff (hRegister.known hBefore.known) hKey hReached).mpr
    (hAfter.ended hStays hClosed hKept)

/-- **The end of a session.** In every run, a session that has begun has come to its end exactly
if, since it began and before its key reached another session, a frame of the browser told the end
of its key or the connection closed. What came before it began does not count, even if it came
after the answer that tells the key. -/
theorem detached_iff_ended {before : List Act} {here there last : Stage} {key target : Value}
    {after : List (Act × Stage)} (hBefore : Steps before here)
    (hRegister : Step (.register key target) here there) (hAfter : Path there after last) :
    last.connection.isDetached here.connection.sessions.length = true ↔ Ended key there after := by
  obtain ⟨hKey, hReached⟩ := hRegister.begins
  exact hAfter.detached_iff (hRegister.known hBefore.known) hKey hReached

/-- A frame that tells the end of a session comes between the answer that names the session and
its beginning, and is lost. The same frame once more ends it. -/
theorem detached_iff_ended_lost_notice :
    ∃ (reply gone : String) (here there last : Stage),
      Connection.members? reply =
        some [("id", .int 1), ("result", .object [("sessionId", .str "S1")])] ∧
      Connection.members? gone = some [("method", .str "Target.detachedFromTarget"),
        ("params", .object [("sessionId", .str "S1")])] ∧
      Steps [.begin "Target.attachToTarget" none, .write 1, .frame reply, .frame gone, .resume 1]
        here ∧
      Step (.register (.str "S1") (.str "T1")) here there ∧
      Path there [(.frame gone, last)] last ∧
      there.connection.isDetached 0 = false ∧ last.connection.isDetached 0 = true := by
  let reply := "\x7b\"id\":1,\"result\":\x7b\"sessionId\":\"S1\"\x7d\x7d"
  let gone :=
    "\x7b\"method\":\"Target.detachedFromTarget\",\"params\":\x7b\"sessionId\":\"S1\"\x7d\x7d"
  have hReply : Connection.members? reply =
      some [("id", .int 1), ("result", .object [("sessionId", .str "S1")])] := by cbv
  have hGone : Connection.members? gone = some [("method", .str "Target.detachedFromTarget"),
      ("params", .object [("sessionId", .str "S1")])] := by cbv
  let attach (stand : Stand) (heard : List Notice) : Sender :=
    ⟨1, "Target.attachToTarget", none, stand, heard⟩
  let answer : Except Fault Value := .ok (.object [("sessionId", .str "S1")])
  have hSent : Steps _ ⟨⟨1, [⟨1, none⟩], [], [], false⟩, [attach .waiting []], [1], []⟩ :=
    .snoc (.snoc .nil (.begin rfl)) (.write (show attach .writing [] ∈ _ from .head _) rfl)
  have hAnswered := hSent.snoc (.frame reply rfl)
  rw [show Stage.receive _ _ = (⟨⟨1, [⟨1, some answer⟩], [], [], false⟩,
      [attach .waiting [.frame reply]], [1], []⟩ : Stage) by
    rw [Stage.receive, Connection.dispatchText_some _ hReply]
    rfl] at hAnswered
  have hTold := hAnswered.snoc (.frame gone rfl)
  rw [show Stage.receive _ _ = (⟨⟨1, [⟨1, some answer⟩], [], [], false⟩,
      [attach .waiting [.frame reply, .frame gone]], [1], []⟩ : Stage) by
    rw [Stage.receive, Connection.dispatchText_some _ hGone]
    rfl] at hTold
  let ended := [(attach .waiting [.frame reply, .frame gone], answer)]
  have hResumed : Steps _ ⟨⟨1, [], [], [], false⟩, [], [1], ended⟩ :=
    .snoc hTold (.answered (show attach .waiting [.frame reply, .frame gone] ∈ _ from .head _)
      rfl rfl)
  let there : Stage :=
    ⟨⟨1, [], [⟨.str "S1", .str "T1", false⟩], [(.str "S1", 0)], false⟩, [], [1], ended⟩
  have hBegun : Step (.register (.str "S1") (.str "T1"))
      ⟨⟨1, [], [], [], false⟩, [], [1], ended⟩ there := .register rfl
  have hPath : Path there [(.frame gone, there.receive gone)] (there.receive gone) :=
    .cons (.frame gone rfl) .nil
  have hTells : Connection.tellsEnd (.str "S1") gone = true := by
    rw [Connection.tellsEnd, Connection.endedKey?, hGone]
    decide
  refine ⟨reply, gone, _, _, _, hReply, hGone, hResumed, hBegun, hPath, ?_, ?_⟩
  · exact Bool.eq_false_iff.mpr fun h => (detached_iff_ended hResumed hBegun .nil).mp h
  · refine (detached_iff_ended hResumed hBegun hPath).mpr (.inl ?_)
    rw [endsBy, tells, hTells, Bool.true_or]

end CallRun

end PageReporter
