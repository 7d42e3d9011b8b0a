import PageReporter.Fault

/-!
# Addresses

An address taken apart into its five parts and put together again, which is what it takes to reach
a browser's socket under the host name by which the browser itself was reached.

* `Address.split` — the parts; an address whose host makes no sense is refused;
* `Address.join` — the parts in one;
* `Address.rehost` — an address with the host of another one.
-/

namespace PageReporter

/-- The parts of an address. -/
structure Address where
  scheme : List Char
  host : List Char
  path : List Char
  query : List Char
  fragment : List Char
deriving DecidableEq

namespace Address

/-! ## Hosts in brackets -/

/-- The pieces of a text between colons. -/
def colonPieces : List Char → List (List Char)
  | [] => [[]]
  | c :: cs =>
    if c = ':' then [] :: colonPieces cs
    else match colonPieces cs with
      | [] => [[c]]
      | w :: ws => (c :: w) :: ws

/-- Whether a piece is a number of at most four hexadecimal digits. -/
def isHextet (w : List Char) : Bool :=
  !w.isEmpty && w.length ≤ 4 && w.all fun c => (Json.hexValue? c).isSome

/-- Whether a piece is a number from 0 to 255 without leading zeros. -/
def isOctet (w : List Char) : Bool :=
  !w.isEmpty && w.length ≤ 3 && w.all Text.isAsciiDigit && Text.ofAsciiDigits w ≤ 255
    && (w.length = 1 || w.head? ≠ some '0')

/-- Whether a text is four octets with points between them. -/
def isDottedQuad (w : List Char) : Bool :=
  let octets := colonPieces (w.map fun c => if c = '.' then ':' else if c = ':' then '.' else c)
  octets.length = 4 && octets.all isOctet

/-- The pieces of a numeric address, with four octets at the end counted as two pieces. None if
the octets make no sense. -/
def numericPieces? (w : List Char) : Option (List (List Char)) :=
  let pieces := colonPieces w
  match pieces.reverse with
  | [] => none
  | last :: others =>
    if last.contains '.' then
      if isDottedQuad last then some (others.reverse ++ [['0'], ['0']]) else none
    else some pieces

/-- Whether pieces make eight, where one empty piece inside stands for at least one zero. -/
def isNumeric (pieces : List (List Char)) : Bool :=
  let inner := (pieces.drop 1).dropLast
  let gaps := (inner.filter List.isEmpty).length
  let first := (pieces.head?.getD []).isEmpty
  let last := (pieces.getLast?.getD []).isEmpty
  let full := (pieces.filter fun w => !w.isEmpty).length
  let sound := (pieces.filter fun w => !w.isEmpty).all isHextet
  if pieces.length < 3 || 9 < pieces.length || !sound then false
  else if gaps = 0 then pieces.length = 8 && !first && !last
  else if gaps = 1 then
    let gap := inner.findIdx List.isEmpty
    (!first || gap = 0) && (!last || gap + 1 = inner.length) && full ≤ 7
  else false

/-- Whether the text between brackets is a host: a numeric address of version six, perhaps with a
zone, or one of a later version, which says so. -/
def isBracketed (w : List Char) : Bool :=
  match w with
  | 'v' :: rest =>
    let digits := rest.takeWhile fun c => (Json.hexValue? c).isSome
    match rest.drop digits.length with
    | '.' :: _ :: _ => !digits.isEmpty
    | _ => false
  | w =>
    let numeric := w.takeWhile (· ≠ '%')
    let zone := w.drop numeric.length
    let zoneFits := zone.isEmpty || (1 < zone.length && !(zone.drop 1).contains '%')
    !w.contains '/' && zoneFits
      && match numericPieces? numeric with
        | some pieces => isNumeric pieces
        | none => false

/-! ## Hosts -/

/-- The characters outside ASCII that stand for a delimiter of addresses, alone or among others,
once they are put into their compatible form. -/
def deceptive : List Nat :=
  [0x2048, 0x2049, 0x2047, 0x2100, 0x2101, 0x2105, 0x2106, 0x2A74, 0xFE13, 0xFE16, 0xFE55, 0xFE56,
    0xFE5F, 0xFE6B, 0xFF03, 0xFF0F, 0xFF1A, 0xFF1F, 0xFF20]

/-- A text up to a mark, and what follows the mark; everything and nothing if there is none. -/
def cut (mark : Char) (cs : List Char) : List Char × List Char :=
  let before := cs.takeWhile (· ≠ mark)
  (before, cs.drop (before.length + 1))

/-- What follows the last mark in a text; everything if there is none. -/
def afterLast (mark : Char) (cs : List Char) : List Char :=
  (cs.reverse.takeWhile (· ≠ mark)).reverse

/-- Whether a host with brackets in it makes sense. A user's name may stand in front, up to the
last at sign. Then come the brackets with nothing behind them but the number of a socket. Where the
brackets are all in the user's name, what is left has to be of the form found in brackets too. -/
def bracketsFit (host : List Char) : Bool :=
  match afterLast '@' host with
  | '[' :: rest =>
    let (inside, behind) := cut ']' rest
    isBracketed inside && (behind.isEmpty || behind.head? = some ':')
  | bare => !bare.contains '[' && isBracketed (cut ':' bare).1

/-- Whether a host makes sense: its brackets, if it has any, pair up around a numeric address, and
nothing in it stands for a delimiter. -/
def isHost (host : List Char) : Bool :=
  let opens := host.contains '['
  opens == host.contains ']' && (!opens || bracketsFit host)
    && host.all fun c => !deceptive.contains c.toNat

/-! ## Taking apart -/

/-- A character of a scheme. -/
def isSchemeChar (c : Char) : Bool :=
  (c.isAlpha || c.isDigit || c = '+' || c = '-' || c = '.')

/-- The scheme of an address in lower case, and what follows its colon. Without a letter in front
there is none. -/
def splitScheme (cs : List Char) : List Char × List Char :=
  let scheme := cs.takeWhile (· ≠ ':')
  let rest := cs.drop scheme.length
  match scheme, rest with
  | c :: _, ':' :: rest =>
    if c.isAlpha && scheme.all isSchemeChar then (scheme.map Char.toLower, rest) else ([], cs)
  | _, _ => ([], cs)

/-- The parts of an address. Controls and spaces in front are dropped, as are tabs and line ends
everywhere. -/
def split (text : List Char) : Except Fault Address :=
  let text := (text.dropWhile fun c => c.toNat ≤ 32).filter fun c =>
    c ≠ '\t' && c ≠ '\r' && c ≠ '\n'
  let (scheme, rest) := splitScheme text
  let (host, rest) := match rest with
    | '/' :: '/' :: rest =>
      let host := rest.takeWhile fun c => c ≠ '/' && c ≠ '?' && c ≠ '#'
      (host, rest.drop host.length)
    | rest => ([], rest)
  let (rest, fragment) := cut '#' rest
  let (path, query) := cut '?' rest
  if isHost host then .ok ⟨scheme, host, path, query, fragment⟩
  else .error (.badValue "Invalid host")

/-! ## Putting together -/

/-- The schemes whose addresses name a host, if only an empty one. -/
def hostSchemes : List String :=
  ["ftp", "http", "gopher", "nntp", "telnet", "imap", "wais", "file", "mms", "https", "shttp",
    "snews", "prospero", "rtsp", "rtspu", "rsync", "svn", "svn+ssh", "sftp", "nfs", "git",
    "git+ssh", "ws", "wss"]

/-- Whether a text starts with two slashes. -/
def startsDoubled : List Char → Bool
  | '/' :: '/' :: _ => true
  | _ => false

/-- A path with a slash in front; nothing stays nothing. -/
def rooted : List Char → List Char
  | [] => []
  | '/' :: rest => '/' :: rest
  | path => '/' :: path

/-- The parts in one address. Parts that are empty leave no trace, but the slashes before an empty
host stay where the scheme names hosts and the path does not start with two slashes of its own. -/
def join (a : Address) : List Char :=
  let namesHost := hostSchemes.contains (String.ofList a.scheme) && !startsDoubled a.path
  let place :=
    if !a.host.isEmpty || namesHost then '/' :: '/' :: a.host ++ rooted a.path else a.path
  let scheme := if a.scheme.isEmpty then [] else a.scheme ++ [':']
  let query := if a.query.isEmpty then [] else '?' :: a.query
  let fragment := if a.fragment.isEmpty then [] else '#' :: a.fragment
  scheme ++ place ++ query ++ fragment

/-- An address with the host of another one in the place of its own. -/
def rehost (text other : String) : Except Fault String := do
  let a ← split text.toList
  let b ← split other.toList
  pure (String.ofList (join ⟨a.scheme, b.host, a.path, a.query, a.fragment⟩))

end Address

end PageReporter
