import PageReporter.Text.Blank
import PageReporter.Text.Digit
import PageReporter.Text.Encoding
import PageReporter.Text.Lines
import PageReporter.Fault

/-!
# The port file

A browser that was started writes the port it listens on into a file of its profile, and the path
of its socket on the next line. The file is read while it is being written.

* `Port.address?` — the address of the socket, once the file tells it.
-/

namespace PageReporter.Port

/-- The address that the lines of the file tell: the first has to be digits, and there has to be a
second one. -/
def ofLines? (lines : List (List Char)) : Option (List Char) :=
  match lines with
  | port :: path :: _ =>
    let port := Text.trim port
    if !port.isEmpty && port.all Text.isDigit then
      some ("ws://127.0.0.1:".toList ++ port ++ Text.trim path)
    else none
  | _ => none

/-- The address that the file tells so far. Bytes that are no text are a fault. -/
def address? (content : Option ByteArray) : Except Fault (Option String) :=
  match content with
  | none => .ok none
  | some bytes =>
    match Text.ofUtf8? bytes with
    | none => .error .badEncoding
    | some text =>
      .ok ((ofLines? (Text.lines (Text.unifyLineEnds text.toList))).map String.ofList)

end PageReporter.Port
