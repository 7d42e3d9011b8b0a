import PageReporter.Value.Access

/-!
# The connection to the browser

One socket carries everything: commands and their answers, matched by number, and events, which
belong to the session whose key they bear or to the browser itself. This is the state of that
socket, and what each frame and each end of a command makes of it. No time passes here; when
frames arrive and when a command is given up is the surroundings' business.

* `Connection` — outstanding commands, sessions, and whether the socket is still up;
* `Connection.begin`, `Connection.finish` — a command gets its number; its sender is done with it;
* `Connection.dispatch` — one frame; `Connection.close` — the socket is gone;
* `Connection.register` — a session is known by its key from now on.
-/

namespace PageReporter

/-! ## Parts -/

/-- A command that has been sent and whose sender is not done with it. -/
structure Call where
  number : Nat
  /-- The answer, once there is one. -/
  answer : Option (Except Fault Value)

/-- A session with a target of the browser. -/
structure Session where
  /-- The key that its frames bear. -/
  key : Value
  target : Value
  /-- Whether it has come to its end. -/
  detached : Bool

/-- Something that happened, for those who listen: at the browser or at a session, which goes by
the order in which it came. -/
inductive Delivery
  | browser (event : String) (payload : Value)
  | session (number : Nat) (event : String) (payload : Value)

/-- The state of the connection. -/
structure Connection where
  /-- The number of the last command. -/
  lastNumber : Nat := 0
  /-- The commands whose senders are not done with them, in the order of their numbers. -/
  calls : List Call := []
  /-- All sessions there have been, in the order in which they came. -/
  sessions : List Session := []
  /-- The sessions that can be reached, by their keys. -/
  table : List (Value × Nat) := []
  closed : Bool := false

namespace Connection

/-! ## Commands -/

/-- The numbers of the commands that an answer can still reach. -/
def pending (c : Connection) : List Nat :=
  if c.closed then [] else c.calls.map Call.number

/-- Begins a command: it gets the next number. A closed connection takes none. -/
def begin (c : Connection) (method : String) : Except Fault (Nat × Connection) :=
  if c.closed then .error (.protocol s!"{method}: connection closed")
  else
    let n := c.lastNumber + 1
    .ok (n, ⟨n, c.calls ++ [⟨n, none⟩], c.sessions, c.table, c.closed⟩)

/-- The frame of a command. A key that is absent or empty sends it to the browser itself. -/
def frame (number : Nat) (method : String) (params key : Value) : List (String × Value) :=
  let members := [("id", .int number), ("method", .str method),
    ("params", params.orElse (.object []))]
  if key.truthy then members ++ [("sessionId", key)] else members

/-- The answer to a command, once there is one. -/
def answer? (c : Connection) (number : Nat) : Option (Except Fault Value) :=
  (c.calls.find? fun call => call.number = number).bind Call.answer

/-- The sender of a command is done with it. -/
def finish (c : Connection) (number : Nat) : Connection :=
  ⟨c.lastNumber, c.calls.filter (fun call => call.number ≠ number), c.sessions, c.table, c.closed⟩

/-- The outstanding command whose number a frame bears, if it has no answer yet. -/
def awaiting? (c : Connection) (id : Value) : Option Nat :=
  if c.closed then none
  else
    match c.calls.find? fun call => (Value.int call.number).same id with
    | some ⟨n, none⟩ => some n
    | _ => none

/-- Gives a command its answer. -/
def settle (c : Connection) (number : Nat) (answer : Except Fault Value) : Connection :=
  ⟨c.lastNumber,
    c.calls.map fun call => if call.number = number then ⟨call.number, some answer⟩ else call,
    c.sessions, c.table, c.closed⟩

/-! ## Sessions -/

/-- The session with this number. -/
def session? (c : Connection) (number : Nat) : Option Session :=
  c.sessions[number]?

/-- The number of the session that a key reaches. -/
def lookup (key : Value) : List (Value × Nat) → Option Nat
  | [] => none
  | (k, n) :: rest => if k.sameKey key then some n else lookup key rest

/-- Lets a key reach a session: in the old place of the key if there is one, otherwise at the
end. -/
def putKey (key : Value) (n : Nat) : List (Value × Nat) → List (Value × Nat)
  | [] => [(key, n)]
  | (k, m) :: rest => if k.sameKey key then (k, n) :: rest else (k, m) :: putKey key n rest

/-- A session begins, and is reached by its key from now on. -/
def register (c : Connection) (key target : Value) : Except Fault (Nat × Connection) := do
  let key ← key.asKey
  let n := c.sessions.length
  pure (n, ⟨c.lastNumber, c.calls, c.sessions ++ [⟨key, target, false⟩], putKey key n c.table,
    c.closed⟩)

/-- Whether a session has come to its end. -/
def isDetached (c : Connection) (number : Nat) : Bool :=
  match c.session? number with
  | some session => session.detached
  | none => true

/-- A session comes to its end, which its listeners are told the first time. -/
def detach (c : Connection) (number : Nat) : Connection × List Delivery :=
  if c.isDetached number then (c, [])
  else
    (⟨c.lastNumber, c.calls,
      c.sessions.modify number fun session => ⟨session.key, session.target, true⟩, c.table,
      c.closed⟩, [.session number "detached" .null])

/-- Several sessions come to their ends. -/
def detachAll : List Nat → Connection → Connection × List Delivery
  | [], c => (c, [])
  | n :: ns, c =>
    let (c, first) := c.detach n
    let (c, rest) := detachAll ns c
    (c, first ++ rest)

/-- A key reaches nothing any more. -/
def dropKey (c : Connection) (key : Value) : Connection :=
  ⟨c.lastNumber, c.calls, c.sessions, c.table.filter (fun (k, _) => !k.sameKey key), c.closed⟩

/-! ## Frames -/

/-- What a frame makes of a connection. -/
structure Outcome where
  connection : Connection
  /-- The command that got its answer. -/
  settled : Option Nat
  deliveries : List Delivery
  /-- A frame that could not be understood: no more frames are read after it. -/
  fault : Option Fault

/-- A frame that changes nothing. -/
def unchanged (c : Connection) : Outcome :=
  ⟨c, none, [], none⟩

/-- A frame that could not be understood. -/
def failing (c : Connection) (e : Fault) : Outcome :=
  ⟨c, none, [], some e⟩

/-- What an error member says. -/
def errorText (error : Value) : Except Fault String := do
  let whole ← error.text
  match ← error.member? "message" with
  | some message => message.text
  | none => pure whole

/-- A frame that answers a command. Answers to commands that are unknown or already have one are
left aside. -/
def dispatchAnswer (c : Connection) (id : Value) (members : List (String × Value)) : Outcome :=
  match id.asKey with
  | .error e => c.failing e
  | .ok id =>
    match c.awaiting? id with
    | none => c.unchanged
    | some n =>
      match Value.find? "error" members with
      | some error =>
        match errorText error with
        | .ok text => ⟨c.settle n (.error (.protocol text)), some n, [], none⟩
        | .error e => c.failing e
      | none =>
        let result := (Value.find? "result" members).getD (.object [])
        ⟨c.settle n (.ok result), some n, [], none⟩

/-- A frame that tells an event of a session. -/
def dispatchSession (c : Connection) (key : Value) (method : String) (params : Value) : Outcome :=
  match key.asKey with
  | .error e => c.failing e
  | .ok key =>
    match lookup key c.table with
    | some n => ⟨c, none, [.session n method params], none⟩
    | none => c.unchanged

/-- The key of the session whose end is told. What cannot be a key is refused only where there are
sessions to look through. -/
def detachedKey (c : Connection) (params : Value) : Except Fault Value := do
  let key ← params.memberOr "sessionId" (.str "")
  if c.table.isEmpty then pure key else key.asKey

/-- A frame that tells an event of the browser. One of them ends a session. -/
def dispatchBrowser (c : Connection) (method : String) (params : Value) : Outcome :=
  if method = "Target.detachedFromTarget" then
    match c.detachedKey params with
    | .error e => c.failing e
    | .ok key =>
      match lookup key c.table with
      | some n =>
        let (c, told) := (c.dropKey key).detach n
        ⟨c, none, told ++ [.browser method params], none⟩
      | none => ⟨c, none, [.browser method params], none⟩
  else ⟨c, none, [.browser method params], none⟩

/-- What one frame makes of the connection. A frame without a number tells an event; one without
a name for it tells nothing. -/
def dispatch (c : Connection) (members : List (String × Value)) : Outcome :=
  match Value.find? "id" members with
  | some id => c.dispatchAnswer id members
  | none =>
    match Value.find? "method" members with
    | some (.str method) =>
      let params := ((Value.find? "params" members).getD .null).orElse (.object [])
      let key := (Value.find? "sessionId" members).getD .null
      if key.truthy then c.dispatchSession key method params
      else c.dispatchBrowser method params
    | _ => c.unchanged

/-- What the text of a frame makes of the connection. A text that is no JSON object is left
aside. -/
def dispatchText (c : Connection) (text : String) : Outcome :=
  match Json.ofText text with
  | .ok (.object members) => c.dispatch members
  | _ => c.unchanged

/-! ## The end -/

/-- Gives a command without an answer the fault of a closed connection. -/
def abort (call : Call) : Call :=
  match call.answer with
  | some _ => call
  | none => ⟨call.number, some (.error (.protocol "Connection closed"))⟩

/-- The socket is gone: every outstanding command fails, every session that can be reached comes
to its end, and the browser's listeners are told. Once it is closed, nothing more happens. -/
def close (c : Connection) : Connection × List Nat × List Delivery :=
  if c.closed then (c, [], [])
  else
    let outstanding := (c.calls.filter fun call => call.answer.isNone).map Call.number
    let closed : Connection := ⟨c.lastNumber, c.calls.map abort, c.sessions, c.table, true⟩
    let (closed, told) := detachAll (c.table.map Prod.snd) closed
    (⟨closed.lastNumber, closed.calls, closed.sessions, [], true⟩, outstanding,
      told ++ [.browser "disconnected" .null])

end Connection

end PageReporter
