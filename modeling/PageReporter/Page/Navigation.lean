import PageReporter.Host

/-!
# Navigation

Loading an address and waiting until the page has reached a milestone. The notices that count are
those of the load that the browser started for it, from the moment the command was sent.

* `Sought.holdsOf` — whether a notice is the one that is waited for;
* `Sought.scan` — what a list of notices makes of the wait;
* `Page.goto` — the whole navigation.
-/

namespace PageReporter

/-! ## Notices -/

namespace Sought

/-- Whether a notice tells the milestone of this load in this frame. -/
def holdsOf (sought : Sought) (notice : Value) : Except Fault Bool := do
  let name ← notice.get "name"
  if !name.same (.str sought.milestone.notice) then pure false
  else if !(← notice.get "loaderId").same sought.loader then pure false
  else if sought.frame.isNull then pure true
  else pure ((← notice.get "frameId").same sought.frame)

/-- Whether a notice says that the page is gone. -/
def isGone (notice : Value) : Except Fault Bool :=
  (notice.get "detached").map Value.truthy

/-- Goes through notices in order up to the one that ends the wait: with success at the milestone,
with a fault where the page is gone. None if the wait goes on. -/
def scan (sought : Sought) : List Value → Option (Except Fault Unit)
  | [] => none
  | notice :: rest =>
    match isGone notice with
    | .error e => some (.error e)
    | .ok true => some (.error (.navigation "Navigating frame was detached"))
    | .ok false =>
      match sought.holdsOf notice with
      | .error e => some (.error e)
      | .ok true => some (.ok ())
      | .ok false => sought.scan rest

end Sought

/-! ## Going to an address -/

/-- A limit in whole milliseconds. -/
def limitMilliseconds (limit : Value) : Except Fault String :=
  match limit.number? with
  | some (.inl i) => (Value.int (i * 1000)).text
  | some (.inr x) => do (Value.int (← (Value.double (x.scale 1000)).wholeNumber)).text
  | none => .error (.misuse (.other s!"int() argument must be a number, not '{limit.shape}'"))

namespace Page

/-- Sends the command to navigate. Whatever is wrong with the conversation is wrong with the
navigation. -/
def navigate (page : Page) (url : String) (limit : Value) : Script Host Value := do
  try
    Host.sendTo page "Page.navigate" (.object [("url", .str url)]) limit
  catch e =>
    if e.isProtocol then throw (.navigation e.message) else throw e

/-- Waits for the milestone of a load. -/
def awaitMilestone (page : Page) (watch : Nat) (sought : Sought) (limit : Value) :
    Script Host Unit := do
  try
    Host.ask (.awaitMilestone page.tab watch sought limit)
  catch e =>
    if e.isTimeLimit then
      let milliseconds ← Script.ofExcept (limitMilliseconds limit)
      throw (.navigation s!"Navigation timeout of {milliseconds} ms exceeded")
    else throw e

/-- What is done between the beginning and the end of the watch. An answer without a load is one
within the same document, with nothing to wait for. -/
def load (page : Page) (url : String) (milestone : Milestone) (limit : Value) (watch : Nat) :
    Script Host Unit := do
  let answer ← page.navigate url limit
  let errorText ← Script.ofExcept (answer.get "errorText")
  if errorText.truthy then throw (.navigation s!"{errorText.plain} at {url}")
  let loader ← Script.ofExcept (answer.get "loaderId")
  if loader.truthy then
    let frame ← Script.ofExcept (answer.get "frameId")
    page.awaitMilestone watch ⟨frame, loader, milestone⟩ limit

/-- Loads an address and waits for a milestone, within a limit for each of the two. A limit that
is null is the page's own. -/
def goto (page : Page) (url : String) (waitUntil limit : Value) : Script Host Unit := do
  match ← Script.ofExcept (Milestone.ofValue? waitUntil) with
  | none => throw (.badValue s!"Unknown wait_until value: {waitUntil.plain}")
  | some milestone =>
    let limit := if limit.isNull then page.timeout else limit
    let watch : Nat ← Host.ask (.beginWatch page.tab)
    (page.load url milestone limit watch).andFinally (Host.ask (.endWatch page.tab))

end Page

end PageReporter
