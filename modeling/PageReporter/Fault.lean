import PageReporter.Value.Json

/-!
# Faults

Everything that can go wrong, as causes. The wording of each cause is one function, and the
families that clean-up and reporting tell apart are predicates.

* `Fault` — the causes;
* `Fault.message` — the wording;
* `Fault.isProtocol`, `Fault.isSystem`, `Fault.isBadValue`, `Fault.isOrdinary` — the families.
-/

namespace PageReporter

/-- What a value's shape does not allow. Each names the shape that was met. -/
inductive Misuse
  /-- A search in something that holds nothing. -/
  | search (shape : String)
  /-- A walk through something that holds nothing. -/
  | walk (shape : String)
  /-- A member of something that has none. -/
  | subscript (shape : String)
  /-- A text indexed by a name. -/
  | textIndex
  /-- A list indexed by a name. -/
  | listIndex
  /-- A list or an object as the key of a table. -/
  | key (shape : String)
  /-- Something else where a JSON text has to be. -/
  | jsonText (shape : String)
  /-- Something else where a number has to be. -/
  | wholeNumber (shape : String)
  /-- A quotient of something that is no number. -/
  | quotient (shape : String)
  /-- A comparison of something that is no number with one. -/
  | order (shape : String)
  /-- A number format for something that is no number. -/
  | numberFormat (shape : String)
  /-- Anything else, told in full. -/
  | other (message : String)
deriving DecidableEq

/-- The kinds of failure that the system underneath reports. -/
inductive SystemCause
  | general
  | permission
  | missingFile
  | unreachable
  | timeLimit
  /-- There is no process to send a signal to. -/
  | noProcess
  /-- Another kind, by name. -/
  | named (name : String)
deriving DecidableEq

/-- A cause of failure. -/
inductive Fault
  /-- The browser answered with an error, or can no longer be talked to. -/
  | protocol (message : String)
  /-- A page did not load, or did not settle in time. -/
  | navigation (message : String)
  /-- A click found no target. -/
  | click (message : String)
  /-- No browser answers at this address. -/
  | noBrowser (address : String)
  /-- The command line is wrong. -/
  | usage (message : String)
  /-- A value is of the right shape but not one that is understood. -/
  | badValue (message : String)
  /-- A text is no JSON. -/
  | badJson (failure : Json.Failure) (text : String)
  /-- Bytes are no text. -/
  | badEncoding
  /-- A value is of the wrong shape for an operation. -/
  | misuse (use : Misuse)
  /-- A value of this shape has no attribute of this name. -/
  | noAttribute (shape name : String)
  /-- An object has no member of this name, which stands here as displayed. -/
  | noMember (name : String)
  /-- A number is too large for the place it should go to. -/
  | tooLarge (message : String)
  /-- The system underneath refused. -/
  | system (cause : SystemCause) (message : String)
  /-- The socket was gone when a frame was to be sent. -/
  | socketClosed
  /-- The work was called off. -/
  | cancelled
  /-- The person at the keyboard interrupted. -/
  | interrupted
  /-- A failure of a kind that nothing here tells apart, by name. -/
  | foreign (name message : String)
deriving DecidableEq

namespace Misuse

/-- The wording of a misuse. -/
def message : Misuse → String
  | .search shape => s!"argument of type '{shape}' is not iterable"
  | .walk shape => s!"'{shape}' object is not iterable"
  | .subscript shape => s!"'{shape}' object is not subscriptable"
  | .textIndex => "string indices must be integers, not 'str'"
  | .listIndex => "list indices must be integers or slices, not str"
  | .key shape => s!"unhashable type: '{shape}'"
  | .jsonText shape => s!"the JSON object must be str, bytes or bytearray, not {shape}"
  | .wholeNumber shape =>
    s!"int() argument must be a string, a bytes-like object or a real number, not '{shape}'"
  | .quotient shape => s!"unsupported operand type(s) for /: '{shape}' and 'int'"
  | .order shape => s!"'<=' not supported between instances of '{shape}' and 'int'"
  | .numberFormat shape => s!"unsupported format string passed to {shape}.__format__"
  | .other message => message

end Misuse

namespace Fault

/-- What is said about a browser that does not answer. The port is what follows the last colon,
up to the next slash. -/
def noBrowserMessage (address : String) : String :=
  let afterColon := (address.toList.reverse.takeWhile (· != ':')).reverse
  let port := String.ofList (afterColon.takeWhile (· != '/'))
  s!"Cannot connect to browser at {address}\n\n"
    ++ "Make sure Chrome/Chromium is running with remote debugging enabled:\n"
    ++ s!"  chrome --remote-debugging-port={port}\n\n"
    ++ "Or unset CDP_URL to let pagewatch launch its own headless browser."

/-- The wording of a fault. -/
def message : Fault → String
  | .protocol message => message
  | .navigation message => message
  | .click message => message
  | .noBrowser address => noBrowserMessage address
  | .usage message => message
  | .badValue message => message
  | .badJson failure text => failure.message text.toList
  | .badEncoding => "invalid encoding"
  | .misuse use => use.message
  | .noAttribute shape name => s!"'{shape}' object has no attribute '{name}'"
  | .noMember name => name
  | .tooLarge message => message
  | .system .unreachable message => s!"<urlopen error {message}>"
  | .system _ message => message
  | .socketClosed => "connection closed"
  | .cancelled => ""
  | .interrupted => ""
  | .foreign _ message => message

/-! ## Families -/

/-- Faults of the conversation with the browser. -/
def isProtocol : Fault → Bool
  | .protocol _ => true
  | .navigation _ => true
  | .click _ => true
  | _ => false

/-- Faults of the system underneath. -/
def isSystem : Fault → Bool
  | .system _ _ => true
  | _ => false

/-- The fault of a time limit. -/
def isTimeLimit : Fault → Bool
  | .system .timeLimit _ => true
  | _ => false

/-- The fault of a process that is not there. -/
def isNoProcess : Fault → Bool
  | .system .noProcess _ => true
  | _ => false

/-- Faults of values that cannot be read. -/
def isBadValue : Fault → Bool
  | .badValue _ => true
  | .badJson _ _ => true
  | .badEncoding => true
  | _ => false

/-- Faults that a failing part may be skipped over for. Being called off or interrupted is none:
it ends the whole run. -/
def isOrdinary : Fault → Bool
  | .cancelled => false
  | .interrupted => false
  | _ => true

/-! ## Results that may be faults -/

/-- Two steps came to a result: the first to some value, and the second from there. -/
theorem of_bind_ok {ε α β : Type} {first : Except ε α} {second : α → Except ε β} {b : β}
    (hBoth : (first >>= second) = .ok b) : ∃ a, first = .ok a ∧ second a = .ok b := by
  cases first with
  | error e => cases hBoth
  | ok a => exact ⟨a, rfl, hBoth⟩

/-- What is made of a result came to a value: so did the result. -/
theorem of_map_ok {ε α β : Type} {first : Except ε α} {f : α → β} {b : β}
    (hMap : first.map f = .ok b) : ∃ a, first = .ok a ∧ b = f a := by
  cases first with
  | error e => cases hMap
  | ok a => exact ⟨a, rfl, (Except.ok.inj hMap).symm⟩

end Fault

/-- The fault of a text that does not hold a JSON value. Too many digits are a bad value, not a
wrong text. -/
def Json.fault (failure : Json.Failure) (text : String) : Fault :=
  match failure.problem with
  | .digits _ => .badValue failure.problem.text
  | _ => .badJson failure text

/-- The value that a JSON text holds. -/
def Json.ofText (text : String) : Except Fault Value :=
  match Json.read text.toList with
  | .ok v => .ok v
  | .error failure => .error (Json.fault failure text)

end PageReporter
