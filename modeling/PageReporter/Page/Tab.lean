import PageReporter.Page.Signal

/-!
# Tabs

What one tab remembers between the browser's events, and the signals that it makes out of each
event. An event may be malformed: then what was done before the malformed part stays done.

* `Tab` — the open requests, and the notices about loading while someone waits for them;
* `Tab.receive` — what one event makes of a tab: signals, the tab after it, and a fault.
-/

namespace PageReporter

/-! ## State -/

/-- What a tab remembers. -/
structure Tab where
  /-- The requests that have neither finished nor failed, by their keys. -/
  requests : List (Value × Request) := []
  /-- The number of the watch that notices about loading are kept for, if there is one. -/
  watch : Option Nat := none
  /-- The notices kept for each watch so far, in the order of arrival. -/
  notices : List (Nat × List Value) := []

namespace Tab

/-- The open request with this key. -/
def request? (key : Value) : List (Value × Request) → Option Request
  | [] => none
  | (k, r) :: rest => if k.sameKey key then some r else request? key rest

/-- Remembers a request: in the old place of its key if there is one, otherwise at the end. -/
def putRequest (key : Value) (r : Request) : List (Value × Request) → List (Value × Request)
  | [] => [(key, r)]
  | (k, q) :: rest => if k.sameKey key then (k, r) :: rest else (k, q) :: putRequest key r rest

/-- Forgets the request with this key. -/
def dropRequest (key : Value) (requests : List (Value × Request)) : List (Value × Request) :=
  requests.filter fun (k, _) => !k.sameKey key

/-- The tab with other open requests. -/
def withRequests (tab : Tab) (requests : List (Value × Request)) : Tab :=
  ⟨requests, tab.watch, tab.notices⟩

/-- Begins a watch: from now on notices are kept for it, and for no earlier one. -/
def beginWatch (tab : Tab) : Nat × Tab :=
  let n := tab.notices.length
  (n, ⟨tab.requests, some n, tab.notices ++ [(n, [])]⟩)

/-- Ends whatever watch there is. -/
def endWatch (tab : Tab) : Tab :=
  ⟨tab.requests, none, tab.notices⟩

/-- Keeps a notice for the watch, if there is one. -/
def keepNotice (tab : Tab) (notice : Value) : Tab :=
  match tab.watch with
  | none => tab
  | some n => ⟨tab.requests, tab.watch,
      tab.notices.map fun (m, kept) => if m = n then (m, kept ++ [notice]) else (m, kept)⟩

/-- The notices kept for a watch. -/
def noticesOf (tab : Tab) (watch : Nat) : List Value :=
  (tab.notices.lookup watch).getD []

/-- The notice that the page is gone. -/
def detachedNotice : Value :=
  .object [("detached", .bool true)]

/-! ## Reading events -/

/-- Where a console call was made: the top of its stack, if the browser tells one. -/
def placeOf (params : Value) : Except Fault Location := do
  let trace := (← params.get "stackTrace").orElse (.object [])
  let frames := (← trace.get "callFrames").orElse (.list [])
  let top ← if frames.truthy then frames.first else pure (.object [])
  pure ⟨← top.memberOr "url" (.str ""), ← top.memberOr "lineNumber" (.int 0),
    ← top.memberOr "columnNumber" (.int 0)⟩

/-- A console call. Warnings go by their short name, and a call without a time gets the present
one. -/
def messageOf (wallClock : Double) (params : Value) : Except Fault PageMessage := do
  let place ← placeOf params
  let context ← params.get "executionContextId"
  let args ← (← params.memberOr "args" (.list [])).items
  let type ← params.memberOr "type" (.str "log")
  let type := if type.same (.str "warning") then .str "warn" else type
  let timestamp ← params.get "timestamp"
  let time ← if timestamp.truthy then timestamp.thousandth else pure wallClock
  pure ⟨type, place, args.map fun remote => ⟨remote, context⟩, time⟩

/-- What an uncaught exception says. An error object tells its description, whose first line is
the message; anything else that was thrown is its own message. -/
def failureOf (details : Value) : Except Fault PageFailure := do
  let exception := (← details.get "exception").orElse (.object [])
  let description := (← exception.get "description").orElse (.str "")
  let subtype ← exception.get "subtype"
  if subtype.same (.str "error") && description.truthy then
    pure ⟨.str (← description.firstLine), description⟩
  else if ← exception.holds "value" then
    pure ⟨.str (← (← exception.index "value").text), .str ""⟩
  else
    let message := description.orElse ((← details.get "text").orElse (.str "Unknown error"))
    pure ⟨message, .str ""⟩

/-- The answer to a request. -/
def responseOf (data : Value) : Except Fault Response := do
  let url ← data.memberOr "url" (.str "")
  let status ← (← data.memberOr "status" (.int 0)).wholeNumber
  pure ⟨url, status, ← data.memberOr "statusText" (.str "")⟩

/-! ## Events -/

/-- What an event makes of a tab. -/
structure Reaction where
  signals : List PageSignal
  tab : Tab
  fault : Option Fault

/-- A reaction that signals something or fails, and leaves the tab as it is. -/
def signalling (tab : Tab) : Except Fault PageSignal → Reaction
  | .ok signal => ⟨[signal], tab, none⟩
  | .error e => ⟨[], tab, some e⟩

/-- A reaction that changes the tab or fails, after the given signals. -/
def changing (tab : Tab) (signals : List PageSignal) : Except Fault Tab → Reaction
  | .ok changed => ⟨signals, changed, none⟩
  | .error e => ⟨signals, tab, some e⟩

/-- An uncaught exception; the browser's text tells whether a promise was rejected. -/
def exceptionSignal (params : Value) : Except Fault PageSignal := do
  let details := (← params.get "exceptionDetails").orElse (.object [])
  let failure ← failureOf details
  let text ← details.memberOr "text" (.str "")
  if ← text.startsWith "Uncaught (in promise)" then pure (.unhandledRejection failure)
  else pure (.pageError failure)

/-- The redirect that a new request follows, if it follows one. -/
def redirectOf (params : Value) : Except Fault (List PageSignal) := do
  let redirect ← params.get "redirectResponse"
  if redirect.truthy then pure [.response (← responseOf redirect)] else pure []

/-- The tab that remembers a new request. -/
def opened (tab : Tab) (params : Value) : Except Fault Tab := do
  let request := (← params.get "request").orElse (.object [])
  let url ← request.memberOr "url" (.str "")
  let method ← request.memberOr "method" (.str "GET")
  let key ← (← params.memberOr "requestId" (.str "")).asKey
  pure (tab.withRequests (putRequest key ⟨url, method, .str ""⟩ tab.requests))

/-- Forgets the request that an event is about, and answers what was remembered about it. What
cannot be a key is refused only where there is anything to look through. -/
def forget (tab : Tab) (params : Value) : Except Fault (Option Request × Tab) := do
  let id ← params.memberOr "requestId" (.str "")
  if tab.requests.isEmpty then pure (none, tab)
  else
    let key ← id.asKey
    pure (request? key tab.requests, tab.withRequests (dropRequest key tab.requests))

/-- A request that failed is forgotten and told, with what was remembered about it. -/
def failed (tab : Tab) (params : Value) : Reaction :=
  match tab.forget params with
  | .error e => ⟨[], tab, some e⟩
  | .ok (found, tab) =>
    let known := found.getD ⟨.str "", .str "GET", .str ""⟩
    tab.signalling ((params.memberOr "errorText" (.str "")).map fun text =>
      .requestFailed ⟨known.url, known.method, text⟩)

/-- What one event makes of a tab. Events that it does not know leave it as it is. -/
def receive (tab : Tab) (wallClock : Double) (event : String) (params : Value) : Reaction :=
  match event with
  | "Runtime.consoleAPICalled" =>
    tab.signalling ((messageOf wallClock params).map .console)
  | "Runtime.exceptionThrown" => tab.signalling (exceptionSignal params)
  | "Network.requestWillBeSent" =>
    match redirectOf params with
    | .error e => ⟨[], tab, some e⟩
    | .ok signals => tab.changing signals (tab.opened params)
  | "Network.loadingFailed" => tab.failed params
  | "Network.loadingFinished" =>
    tab.changing [] ((tab.forget params).map Prod.snd)
  | "Network.responseReceived" =>
    tab.signalling (do
      let data := (← params.get "response").orElse (.object [])
      pure (.response (← responseOf data)))
  | "Inspector.targetCrashed" =>
    ⟨[.crash ⟨.str "Page crashed!", .str ""⟩], tab.keepNotice detachedNotice, none⟩
  | "Page.lifecycleEvent" => ⟨[], tab.keepNotice params, none⟩
  | "detached" => ⟨[], tab.keepNotice detachedNotice, none⟩
  | _ => ⟨[], tab, none⟩

/-- The names of the events that a tab listens to. -/
def events : List String :=
  ["Runtime.consoleAPICalled", "Runtime.exceptionThrown", "Network.requestWillBeSent",
    "Network.loadingFailed", "Network.loadingFinished", "Network.responseReceived",
    "Inspector.targetCrashed", "Page.lifecycleEvent", "detached"]

/-- How a tab shows itself. -/
def label (target : Value) : String :=
  s!"Page(target_id={target.display})"

end Tab

end PageReporter
