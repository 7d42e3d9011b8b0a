import PageReporter.Browser.Address
import PageReporter.Host
import PageReporter.Text.Encoding

/-!
# Attaching to a browser

A browser that is running tells the address of its socket at a known place. It knows itself by
its own name, so the host by which it was reached is put in.

* `Browser.attach` — attaches to the browser at an address.
-/

namespace PageReporter.Browser

/-- An address without the slashes at its end. -/
def withoutSlashes (address : Value) : Except Fault String :=
  match address with
  | .str s => .ok (String.ofList ((s.toList.reverse.dropWhile (· == '/')).reverse))
  | v => .error (.noAttribute v.shape "rstrip")

/-- The value that a document holds. -/
def document (bytes : ByteArray) : Except Fault Value :=
  match Text.ofDocument? bytes with
  | none => .error .badEncoding
  | some text => Json.ofText text

/-- What the browser at an address tells about itself. -/
def describe (address : String) : Script Host Value := do
  try
    let bytes : ByteArray ← Host.ask (.fetch (address ++ "/json/version"))
    Script.ofExcept (document bytes)
  catch e =>
    if e.isSystem || e.isBadValue then throw (.noBrowser address) else throw e

/-- The address of the socket that a description tells, with the host of another address. -/
def socketAddress (description : Value) (address : String) : Except Fault String := do
  let socket ← description.memberOr "webSocketDebuggerUrl" (.str "")
  if !socket.truthy then throw (.protocol "Browser did not expose webSocketDebuggerUrl")
  match socket with
  | .str socket => Address.rehost socket address
  | v => do
    let v ← v.asKey
    throw (.noAttribute v.shape "decode")

/-- Attaches to the browser at an address. The limit is that of opening the socket and of every
later command. -/
def attach (address limit : Value) : Script Host Browser := do
  let address ← Script.ofExcept (withoutSlashes address)
  let description ← describe address
  let socket ← Script.ofExcept (socketAddress description address)
  Host.ask (.openSocket socket limit)
  Host.ask (.adopt false)
  pure ⟨false, limit⟩

end PageReporter.Browser
