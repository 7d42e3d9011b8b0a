/-!
# Encodings

Bytes read as text: UTF-8, and the wider forms of Unicode that a JSON document may come in, which
are told apart by a byte order mark or by where the first bytes are zero.

* `ofUtf8?` — a text from UTF-8;
* `ofDocument?` — a text from whichever form a document is in.
-/

namespace PageReporter.Text

/-- The text that bytes hold as UTF-8. -/
def ofUtf8? (bytes : ByteArray) : Option String :=
  String.fromUTF8? bytes

/-- The forms of a document. -/
inductive Encoding
  | utf8
  /-- UTF-8 behind a byte order mark. -/
  | utf8Marked
  /-- Two bytes to a unit, with the number of bytes in front of the text. -/
  | utf16 (bigEndian : Bool) (skip : Nat)
  /-- Four bytes to a unit, with the number of bytes in front of the text. -/
  | utf32 (bigEndian : Bool) (skip : Nat)

/-- The form that a document is in, by its first four bytes. -/
def detectEncoding (bytes : List UInt8) : Encoding :=
  match bytes with
  | 0 :: 0 :: 0xfe :: 0xff :: _ => .utf32 true 4
  | 0xff :: 0xfe :: 0 :: 0 :: _ => .utf32 false 4
  | 0xfe :: 0xff :: _ => .utf16 true 2
  | 0xff :: 0xfe :: _ => .utf16 false 2
  | 0xef :: 0xbb :: 0xbf :: _ => .utf8Marked
  | a :: b :: c :: d :: _ =>
    if a = 0 then (if b = 0 then .utf32 true 0 else .utf16 true 0)
    else if b = 0 then (if c = 0 && d = 0 then .utf32 false 0 else .utf16 false 0)
    else .utf8
  | [a, b] =>
    if a = 0 then .utf16 true 0
    else if b = 0 then .utf16 false 0
    else .utf8
  | _ => .utf8

/-- The units of two bytes each; none if a byte is left over. -/
def units16? (bigEndian : Bool) : List UInt8 → Option (List Nat)
  | [] => some []
  | [_] => none
  | a :: b :: rest =>
    let n := if bigEndian then a.toNat * 256 + b.toNat else b.toNat * 256 + a.toNat
    (units16? bigEndian rest).map (n :: ·)

/-- The units of four bytes each; none if bytes are left over. -/
def units32? (bigEndian : Bool) : List UInt8 → Option (List Nat)
  | [] => some []
  | a :: b :: c :: d :: rest =>
    let n := if bigEndian then ((a.toNat * 256 + b.toNat) * 256 + c.toNat) * 256 + d.toNat
      else ((d.toNat * 256 + c.toNat) * 256 + b.toNat) * 256 + a.toNat
    (units32? bigEndian rest).map (n :: ·)
  | _ => none

/-- Whether a unit is one half of a pair. -/
def isSurrogate (n : Nat) : Bool :=
  55296 ≤ n && n < 57344

/-- The character of a unit. A half that stands alone becomes the replacement character. -/
def ofUnit (n : Nat) : Char :=
  if isSurrogate n then '\ufffd' else Char.ofNat n

/-- The characters of UTF-16 units, pairs joined. -/
def ofUnits16 : List Nat → List Char
  | [] => []
  | [n] => [ofUnit n]
  | n :: m :: rest =>
    if 55296 ≤ n && n < 56320 && 56320 ≤ m && m < 57344 then
      Char.ofNat (65536 + (n - 55296) * 1024 + (m - 56320)) :: ofUnits16 rest
    else ofUnit n :: ofUnits16 (m :: rest)

/-- The text that a document holds, in whichever form it is. -/
def ofDocument? (bytes : ByteArray) : Option String :=
  match detectEncoding (bytes.toList.take 4) with
  | .utf8 => ofUtf8? bytes
  | .utf8Marked => ofUtf8? (bytes.extract 3 bytes.size)
  | .utf16 bigEndian skip =>
    (units16? bigEndian (bytes.toList.drop skip)).map fun ns => String.ofList (ofUnits16 ns)
  | .utf32 bigEndian skip =>
    (units32? bigEndian (bytes.toList.drop skip)).bind fun ns =>
      if ns.all fun n => n < 0x110000 then some (String.ofList (ns.map ofUnit)) else none

end PageReporter.Text
