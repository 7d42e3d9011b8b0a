import PageReporter.Double.Layout
import PageReporter.Text.Quoted

/-!
# Values

The data that comes from a page, from the browser and from the settings file. Nothing about its
shape is promised, so one type holds all of it, and what a shape does not allow is a fault where
it is used (`PageReporter.Value.Access`).

* `Value` — the type; an object keeps its members in the order in which they were named;
* `Value.truthy` — whether a value counts as present;
* `Value.same` — equality of values, where numbers of every kind compare by size;
* `Value.sameKey` — equality of the keys of a table;
* `Value.display` — the form of a value inside messages.
-/

namespace PageReporter

/-- A value of the page, a member of a frame, or a setting. -/
inductive Value
  | null
  | undefined
  /-- What stands for a value that could not be fetched from the page. -/
  | unresolvable
  | bool (b : Bool)
  | int (i : Int)
  /-- A whole number of a page that is marked as one of arbitrary size. -/
  | bigint (i : Int)
  | double (x : Double)
  | str (s : String)
  | list (items : List Value)
  | object (members : List (String × Value))
deriving Inhabited

namespace Value

/-! ## Members -/

/-- The value of the member with this name. -/
def find? (name : String) : List (String × Value) → Option Value
  | [] => none
  | (n, v) :: rest => if n = name then some v else find? name rest

/-- Gives a member a value: in its old place if there is one, otherwise at the end. -/
def put (name : String) (v : Value) : List (String × Value) → List (String × Value)
  | [] => [(name, v)]
  | (n, w) :: rest => if n = name then (n, v) :: rest else (n, w) :: put name v rest

/-- The members named one after the other: a name that comes again keeps its first place and
takes its last value. -/
def members (pairs : List (String × Value)) : List (String × Value) :=
  pairs.foldl (fun ms (n, v) => put n v ms) []

/-! ## Presence -/

/-- Whether a value counts as present: everything but null, undefined, false, the zeros, and
what is empty. -/
def truthy : Value → Bool
  | .null => false
  | .undefined => false
  | .unresolvable => true
  | .bool b => b
  | .int i => i != 0
  | .bigint i => i != 0
  | .double x => !x.isZero
  | .str s => !s.isEmpty
  | .list items => !items.isEmpty
  | .object members => !members.isEmpty

/-- The value itself where it is present, the other one elsewhere. -/
def orElse (v w : Value) : Value :=
  if v.truthy then v else w

def isNull : Value → Bool
  | .null => true
  | _ => false

/-! ## Equality -/

/-- The size of a value that counts as a number; true and false count as one and zero. -/
def number? : Value → Option (Int ⊕ Double)
  | .bool b => some (.inl (if b then 1 else 0))
  | .int i => some (.inl i)
  | .bigint i => some (.inl i)
  | .double x => some (.inr x)
  | _ => none

/-- Whether a whole number and a double are the same number, exactly. -/
def sameSize (i : Int) (x : Double) : Bool :=
  x.units? == some (i * Double.unitsPerOne)

/-- Whether two sizes are the same number. -/
def sameNumber : Int ⊕ Double → Int ⊕ Double → Bool
  | .inl i, .inl j => i == j
  | .inl i, .inr x => sameSize i x
  | .inr x, .inl i => sameSize i x
  | .inr x, .inr y => x.same y

/-- Whether a value is the double that is no number. -/
def isNan : Value → Bool
  | .double .nan => true
  | _ => false

mutual

/-- Equality of values. Numbers compare by size whatever their kind, lists by place, and objects
by name, so the order of members does not count. The double that is no number equals nothing, not
even itself; only as an item of a list or a member of an object does it agree with itself. -/
def same : Value → Value → Bool
  | .null, .null => true
  | .undefined, .undefined => true
  | .unresolvable, .unresolvable => true
  | .str s, .str t => s == t
  | .list xs, .list ys => sameItems xs ys
  | .object ms, .object ns => ms.length == ns.length && sameMembers ms ns
  | v, w =>
    match v.number?, w.number? with
    | some x, some y => sameNumber x y
    | _, _ => false

/-- Equality of lists, place by place. -/
def sameItems : List Value → List Value → Bool
  | [], [] => true
  | x :: xs, y :: ys => ((x.isNan && y.isNan) || same x y) && sameItems xs ys
  | _, _ => false

/-- Whether each member has its equal among the others. -/
def sameMembers : List (String × Value) → List (String × Value) → Bool
  | [], _ => true
  | (n, x) :: ms, ns =>
    (match find? n ns with
      | some y => (x.isNan && y.isNan) || same x y
      | none => false) && sameMembers ms ns

end

/-- Equality of the keys of a table. The double that is no number is a key like any other: what
was put there under it is found again. -/
def sameKey (v w : Value) : Bool :=
  (v.isNan && w.isNan) || v.same w

/-- Whether a value can be the key of a table: lists and objects cannot. -/
def isKey : Value → Bool
  | .list _ => false
  | .object _ => false
  | _ => true

/-! ## Display -/

/-- The decimal digits of a whole number, with a minus in front of a negative one. -/
def intText (i : Int) : List Char :=
  if i < 0 then '-' :: Text.asciiDigits i.natAbs else Text.asciiDigits i.natAbs

/-- Whether a whole number has few enough digits to be written. -/
def intFits (i : Int) : Bool :=
  (Text.asciiDigits i.natAbs).length ≤ digitLimit

mutual

/-- Whether every whole number in a value has few enough digits to be written. -/
def fits : Value → Bool
  | .int i => intFits i
  | .bigint i => intFits i
  | .list xs => fitsItems xs
  | .object ms => fitsMembers ms
  | _ => true

/-- Whether every item can be written. -/
def fitsItems : List Value → Bool
  | [] => true
  | x :: xs => fits x && fitsItems xs

/-- Whether every member can be written. -/
def fitsMembers : List (String × Value) → Bool
  | [] => true
  | (_, x) :: ms => fits x && fitsMembers ms

end

mutual

/-- A value as it stands inside a message: texts quoted, the names of constants capitalised. -/
def displayChars : Value → List Char
  | .null => "None".toList
  | .undefined => "undefined".toList
  | .unresolvable => "[unserializable]".toList
  | .bool true => "True".toList
  | .bool false => "False".toList
  | .int i => intText i
  | .bigint i => intText i ++ ['n']
  | .double x => Layout.display.write x
  | .str s => Text.quoted s.toList
  | .list [] => ['[', ']']
  | .list (x :: xs) => '[' :: displayChars x ++ displayItems xs ++ [']']
  | .object [] => ['{', '}']
  | .object ((n, x) :: ms) =>
    '{' :: Text.quoted n.toList ++ [':', ' '] ++ displayChars x ++ displayMembers ms ++ ['}']

/-- The items after the first one, each behind a comma. -/
def displayItems : List Value → List Char
  | [] => []
  | x :: xs => [',', ' '] ++ displayChars x ++ displayItems xs

/-- The members after the first one, each behind a comma. -/
def displayMembers : List (String × Value) → List Char
  | [] => []
  | (n, x) :: ms =>
    [',', ' '] ++ Text.quoted n.toList ++ [':', ' '] ++ displayChars x ++ displayMembers ms

end

/-- The quoted form of a value inside messages. -/
def display (v : Value) : String :=
  String.ofList v.displayChars

/-- The plain form of a value inside messages: a text as it is, everything else as displayed. -/
def plain : Value → String
  | .str s => s
  | v => v.display

/-! ## Shapes -/

/-- The name of a value's shape inside messages. -/
def shape : Value → String
  | .null => "NoneType"
  | .undefined => "Undefined"
  | .unresolvable => "Unresolvable"
  | .bool _ => "bool"
  | .int _ => "int"
  | .bigint _ => "BigInt"
  | .double _ => "float"
  | .str _ => "str"
  | .list _ => "list"
  | .object _ => "dict"

end Value

end PageReporter
