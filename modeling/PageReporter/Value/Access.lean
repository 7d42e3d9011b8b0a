import PageReporter.Fault

/-!
# Access to values

What can be done with a value whose shape nobody promised. Each operation says which shapes
allow it; for all others it tells the misuse.

* `Value.member?`, `Value.memberOr` — a member that may be absent;
* `Value.holds` — whether a name occurs in a value;
* `Value.index` — a member that has to be there;
* `Value.items` — what a walk through a value meets;
* `Value.wholeNumber` — a value as a whole number.
-/

namespace PageReporter.Value

/-! ## Members -/

/-- The member of an object, if it has it. Only objects have members that may be asked for. -/
def member? (v : Value) (name : String) : Except Fault (Option Value) :=
  match v with
  | .object ms => .ok (find? name ms)
  | v => .error (.noAttribute v.shape "get")

/-- The member of an object, or another value in its place. -/
def memberOr (v : Value) (name : String) (absent : Value) : Except Fault Value :=
  (v.member? name).map (·.getD absent)

/-- The member of an object, or null in its place. -/
def get (v : Value) (name : String) : Except Fault Value :=
  v.memberOr name .null

/-- Whether one text occurs in another. -/
def occurs (part : List Char) : List Char → Bool
  | [] => part.isEmpty
  | c :: cs => part.isPrefixOf (c :: cs) || occurs part cs

/-- Whether a name occurs in a value: as the name of a member, as an item, or as a part of a
text. -/
def holds (v : Value) (name : String) : Except Fault Bool :=
  match v with
  | .object ms => .ok (find? name ms).isSome
  | .list xs => .ok (xs.any fun x => x.same (.str name))
  | .str s => .ok (occurs name.toList s.toList)
  | v => .error (.misuse (.search v.shape))

/-- The member of an object that has to be there. -/
def index (v : Value) (name : String) : Except Fault Value :=
  match v with
  | .object ms =>
    match find? name ms with
    | some w => .ok w
    | none => .error (.noMember (Value.str name).display)
  | .list _ => .error (.misuse .listIndex)
  | .str _ => .error (.misuse .textIndex)
  | v => .error (.misuse (.subscript v.shape))

/-- What a walk through a value meets: items, names of members, or characters. -/
def items (v : Value) : Except Fault (List Value) :=
  match v with
  | .list xs => .ok xs
  | .object ms => .ok (ms.map fun (n, _) => .str n)
  | .str s => .ok (s.toList.map fun c => .str (String.singleton c))
  | v => .error (.misuse (.walk v.shape))

/-- The first thing in a value that is present: an item or a character. An object would have to
have the number zero as a name. -/
def first (v : Value) : Except Fault Value :=
  match v with
  | .list (x :: _) => .ok x
  | .list [] => .error (.foreign "IndexError" "list index out of range")
  | .str s =>
    match s.toList with
    | c :: _ => .ok (.str (String.singleton c))
    | [] => .error (.foreign "IndexError" "string index out of range")
  | .object _ => .error (.noMember "0")
  | v => .error (.misuse (.subscript v.shape))

/-- A value as the key of a table. -/
def asKey (v : Value) : Except Fault Value :=
  if v.isKey then .ok v else .error (.misuse (.key v.shape))

theorem asKey_ok_iff {v key : Value} : v.asKey = .ok key ↔ v.isKey = true ∧ key = v := by
  unfold asKey
  cases hKey : v.isKey with
  | true => exact ⟨fun h => ⟨rfl, (Except.ok.inj h).symm⟩, fun h => h.2 ▸ rfl⟩
  | false => exact ⟨nofun, fun h => Bool.noConfusion h.1⟩

theorem asKey_error_iff {v : Value} {e : Fault} :
    v.asKey = .error e ↔ v.isKey = false ∧ e = .misuse (.key v.shape) := by
  unfold asKey
  cases hKey : v.isKey with
  | true => exact ⟨nofun, fun h => Bool.noConfusion h.1⟩
  | false => exact ⟨fun h => ⟨rfl, (Except.error.inj h).symm⟩, fun h => h.2 ▸ rfl⟩

/-- A text is the same key as itself alone. -/
theorem sameKey_str {v : Value} {s : String} : v.sameKey (.str s) = true ↔ v = .str s := by
  cases v <;> simp [sameKey, same, isNan, number?]

/-- The plain form of a value inside messages. Whole numbers with too many digits have none. -/
def text (v : Value) : Except Fault String :=
  if v.fits then .ok v.plain
  else .error (.badValue
    (s!"Exceeds the limit ({digitLimit} digits) for integer string conversion; "
      ++ "use sys.set_int_max_str_digits() to increase the limit"))

/-- The first line of a text. -/
def firstLine (v : Value) : Except Fault String :=
  match v with
  | .str s => .ok (String.ofList (s.toList.takeWhile (· != '\n')))
  | v => .error (.noAttribute v.shape "split")

/-- Whether a text begins with another one. -/
def startsWith (v : Value) (start : String) : Except Fault Bool :=
  match v with
  | .str s => .ok (start.toList.isPrefixOf s.toList)
  | v => .error (.noAttribute v.shape "startswith")

/-- The JSON value that a text holds. -/
def parse (v : Value) : Except Fault Value :=
  match v with
  | .str s => Json.ofText s
  | v => .error (.misuse (.jsonText v.shape))

/-! ## Numbers -/

/-- A value as a whole number: a double is cut toward zero, a text is read. -/
def wholeNumber (v : Value) : Except Fault Int :=
  match v with
  | .bool b => .ok (if b then 1 else 0)
  | .int i => .ok i
  | .bigint i => .ok i
  | .double x =>
    match x.truncate? with
    | some i => .ok i
    | none =>
      if x.isNaN then .error (.badValue "cannot convert float NaN to integer")
      else .error (.tooLarge "cannot convert float infinity to integer")
  | .str s =>
    match readInt? s.toList with
    | some i => .ok i
    | none => .error (.badValue s!"invalid literal for int() with base 10: {(Value.str s).display}")
  | v => .error (.misuse (.wholeNumber v.shape))

/-- A value divided by a thousand. A whole number whose quotient exceeds every double is too
large. -/
def thousandth (v : Value) : Except Fault Double :=
  match v.number? with
  | some (.inl i) =>
    let x := Double.ofRatio (i < 0) i.natAbs 1000
    if x.isInfinite then .error (.tooLarge "integer division result too large for a float")
    else .ok x
  | some (.inr x) => .ok (x.divide 1000)
  | none => .error (.misuse (.quotient v.shape))

/-- A value as a double. A whole number beyond every double is too large. -/
def asDouble (v : Value) : Except Fault Double :=
  match v.number? with
  | some (.inl i) =>
    let x := Double.ofInt i
    if x.isInfinite then .error (.tooLarge "int too large to convert to float") else .ok x
  | some (.inr x) => .ok x
  | none => .error (.misuse (.numberFormat v.shape))

/-- A number with six significant digits. -/
def general (v : Value) : Except Fault String :=
  v.asDouble.map fun x => String.ofList (Layout.general.write x)

end PageReporter.Value
