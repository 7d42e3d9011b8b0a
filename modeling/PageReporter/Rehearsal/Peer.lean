import PageReporter.Text.Escape
import PageReporter.Wire.Connection

/-!
# The scripted browser

In a rehearsal the other end of the socket is played by a script: for each command it is written
down what comes back, and when. What is not written down is answered as a browser with one page
would that loads without a hitch.

* `Peer` — the script; `Peer.respond` — what comes back for one command;
* `Inbound` — what can come in at the socket.
-/

namespace PageReporter

/-- What comes in at the socket. -/
inductive Inbound
  | text (frame : String)
  | members (frame : List (String × Value))
  /-- The socket is closed in good order. -/
  | closing
  /-- The socket is gone. -/
  | lost

namespace Peer

/-- What a script lets happen. -/
inductive Act
  | reply (result : String)
  | replyError (error : String)
  | event (method params : String) (session : Option String)
  | raw (frame : String)
  | closing
  | lost
  | nothing

/-- Something that happens a while after a command. -/
structure Item where
  milliseconds : Double
  act : Act

/-- What comes back for one command. -/
abbrev Delivery := List Item

end Peer

/-- A scripted browser. -/
structure Peer where
  /-- What comes back for the commands of a name, one after the other. -/
  answers : List (String × List Peer.Delivery) := []
  /-- What comes back for a call of a function with an object. -/
  objects : List (String × Peer.Item) := []
  /-- Whether commands that are not in the script are answered. -/
  lively : Bool := true

namespace Peer

/-! ## Frames -/

/-- The frame of something that happens, for the command with a number. -/
def Act.inbound (number : Nat) : Act → Option Inbound
  | .reply result => some (.text ("\x7b\"id\":" ++ toString number ++ ",\"result\":" ++ result ++ "\x7d"))
  | .replyError error =>
    some (.text ("\x7b\"id\":" ++ toString number ++ ",\"error\":" ++ error ++ "\x7d"))
  | .event method params session =>
    let name := String.ofList (Text.literal method.toList)
    let key := match session with
      | some key => ",\"sessionId\":" ++ String.ofList (Text.literal key.toList)
      | none => ""
    some (.text ("\x7b\"method\":" ++ name ++ ",\"params\":" ++ params ++ key ++ "\x7d"))
  | .raw frame => some (.text frame)
  | .closing => some .closing
  | .lost => some .lost
  | .nothing => none

/-- What happens, by time: what happens at the same time comes in together. -/
def groups (number : Nat) : List Item → List (Double × List Inbound)
  | [] => []
  | item :: rest => add item.milliseconds (item.act.inbound number).toList (groups number rest)
where
  /-- Puts frames in front of those of the same time. -/
  add (milliseconds : Double) (frames : List Inbound) :
      List (Double × List Inbound) → List (Double × List Inbound)
    | [] => [(milliseconds, frames)]
    | (m, others) :: rest =>
      if m.same milliseconds then (m, frames ++ others) :: rest
      else (m, others) :: add milliseconds frames rest

/-! ## What is not in the script -/

/-- An answer with members. -/
def result (number : Nat) (members : List (String × Value)) : Inbound :=
  .members [("id", .int number), ("result", .object members)]

/-- A notice about the load of the only page. -/
def notice (name : String) : Inbound :=
  .members [("method", .str "Page.lifecycleEvent"),
    ("params", .object [("frameId", .str "F1"), ("loaderId", .str "L1"), ("name", .str name)]),
    ("sessionId", .str "S1")]

/-- The first argument of a call of a function. -/
def firstArgument (params : Value) : Value :=
  match params with
  | .object ms =>
    match Value.find? "arguments" ms with
    | some (.list (v :: _)) => v
    | _ => .null
  | _ => .null

/-- The name of the object that a call of a function is about. -/
def objectName? (params : Value) : Option String :=
  match firstArgument params with
  | .object ms =>
    match Value.find? "objectId" ms with
    | some (.str s) => some s
    | _ => none
  | _ => none

/-- What a function gives back for its argument. -/
def echo (params : Value) : Value :=
  match firstArgument params with
  | .object [] => .object [("type", .str "undefined")]
  | .object ms =>
    match Value.find? "objectId" ms with
    | some v => .object [("type", .str "string"), ("value", v)]
    | none => .object ms
  | v => v

/-- What comes back for a command that is not in the script. -/
def ordinary (number : Nat) (method : String) (params : Value) : List (Double × List Inbound) :=
  match method with
  | "Target.createTarget" => [(0, [result number [("targetId", .str "T1")]])]
  | "Target.attachToTarget" => [(0, [result number [("sessionId", .str "S1")]])]
  | "Page.navigate" =>
    [(0, [result number [("frameId", .str "F1"), ("loaderId", .str "L1")]]),
      (11, [notice "init"]), (23, [notice "DOMContentLoaded"]), (31, [notice "load"]),
      (43, [notice "networkAlmostIdle"]), (59, [notice "networkIdle"])]
  | "Runtime.evaluate" =>
    [(0, [result number [("result", .object [("type", .str "string"),
      ("value", .str "\x7b\"x\":10,\"y\":20\x7d")])]])]
  | "Browser.close" => [(0, [result number [], .closing])]
  | "Runtime.callFunctionOn" => [(0, [result number [("result", echo params)]])]
  | _ => [(0, [result number []])]

/-! ## Answers -/

/-- Takes the next of what is written down for the commands of a name. -/
def takeAnswer (method : String) :
    List (String × List Delivery) → Option (Delivery × List (String × List Delivery))
  | [] => none
  | (name, deliveries) :: rest =>
    if name = method then
      match deliveries with
      | [] => none
      | d :: ds => some (d, (name, ds) :: rest)
    else (takeAnswer method rest).map fun (d, others) => (d, (name, deliveries) :: others)

/-- What comes back for a command, by the milliseconds after it. -/
def respond (peer : Peer) (number : Nat) (method : String) (params : Value) :
    Peer × List (Double × List Inbound) :=
  let object? := if method = "Runtime.callFunctionOn" then
      (objectName? params).bind fun name => peer.objects.lookup name
    else none
  match object? with
  | some item => (peer, groups number [item])
  | none =>
    match takeAnswer method peer.answers with
    | some (delivery, answers) => (⟨answers, peer.objects, peer.lively⟩, groups number delivery)
    | none => (peer, if peer.lively then ordinary number method params else [])

end Peer

end PageReporter
